import Mathlib.Data.List.TakeDrop
import RelMap.Proofs.Query.Shape
import RelMap.Proofs.Text.Spelling

/-!
# The grammar of names

`IsSpelled` is the grammar that names are held to, as one writes it down: a word, or two joined by a
dot, where a word is made of letters, digits and underscores of ASCII and does not begin with a
digit.  The check of names cuts a text at its first dot and looks at what it gets; it accepts the
texts of the grammar and no others (`isIdentifier_iff`).

Nothing in such a text can end the name early or start something else where it is written into a
statement: no blank, no comma or parenthesis, no quote and no sign of a mark.
-/

namespace RelMap

namespace Identifier

/-- A letter of ASCII. -/
def IsLetter (c : Char) : Prop := 'a' ≤ c ∧ c ≤ 'z' ∨ 'A' ≤ c ∧ c ≤ 'Z'

/-- A digit of ASCII. -/
def IsDigit (c : Char) : Prop := '0' ≤ c ∧ c ≤ '9'

/-- The characters of words. -/
def IsWordChar (c : Char) : Prop := IsLetter c ∨ IsDigit c ∨ c = '_'

/-- A word: there is a first character, which is no digit. -/
def IsWord (s : String) : Prop :=
  (∀ c ∈ s.toList, IsWordChar c) ∧ ∃ c, s.toList.head? = some c ∧ ¬ IsDigit c

/-- The texts that are names: a word, or two joined by a dot. -/
inductive IsSpelled : String → Prop
  | word {s : String} : IsWord s → IsSpelled s
  | qualified {first second : String} :
      IsWord first → IsWord second → IsSpelled (first ++ "." ++ second)

/-! ## Characters -/

variable {c : Char}

theorem isAlpha_iff : c.isAlpha = true ↔ IsLetter c := by
  have hcapital : c.isUpper = true ↔ 'A' ≤ c ∧ c ≤ 'Z' := decide_eq_true_iff
  have hsmall : c.isLower = true ↔ 'a' ≤ c ∧ c ≤ 'z' :=
    Bool.and_eq_true_iff.trans (and_congr decide_eq_true_iff decide_eq_true_iff)
  exact Bool.or_eq_true_iff.trans ((or_congr hcapital hsmall).trans or_comm)

theorem isDigit_iff : c.isDigit = true ↔ IsDigit c :=
  Bool.and_eq_true_iff.trans (and_congr decide_eq_true_iff decide_eq_true_iff)

theorem isTail_iff : isTail c = true ↔ IsWordChar c := by
  simp only [isTail, Char.isAlphanum, Bool.or_eq_true, isAlpha_iff, isDigit_iff,
    decide_eq_true_eq, IsWordChar, or_assoc]

theorem toNat_le (c d : Char) : c ≤ d ↔ c.toNat ≤ d.toNat := UInt32.le_iff_toNat_le

/-- No letter is a digit, and neither is the underscore. -/
theorem isHead_iff : isHead c = true ↔ IsWordChar c ∧ ¬ IsDigit c := by
  have hletter : IsLetter c → ¬ IsDigit c := by
    simp only [IsLetter, IsDigit, toNat_le]
    intro hletter hdigit
    have ha : 'a'.toNat = 97 := rfl
    have hA : 'A'.toNat = 65 := rfl
    have h9 : '9'.toNat = 57 := rfl
    omega
  have hscore : c = '_' → ¬ IsDigit c := by
    rintro rfl
    exact fun hdigit => absurd hdigit.2 (by decide)
  simp only [isHead, Bool.or_eq_true, isAlpha_iff, decide_eq_true_eq, IsWordChar]
  tauto

/-- The characters of names are ASCII. -/
theorem ascii_of_isNameChar (h : isNameChar c = true) : c.toNat < 128 := by
  have hbelow : ∀ d : Char, d.toNat < 128 → c ≤ d → c.toNat < 128 :=
    fun d hd hle => Nat.lt_of_le_of_lt ((toNat_le c d).mp hle) hd
  rcases Bool.or_eq_true_iff.mp h with htail | hdot
  · obtain (hsmall | hcapital) | hdigit | rfl := isTail_iff.mp htail
    · exact hbelow 'z' (by decide) hsmall.2
    · exact hbelow 'Z' (by decide) hcapital.2
    · exact hbelow '9' (by decide) hdigit.2
    · decide
  · rw [of_decide_eq_true hdot]
    decide

/-! ## Texts -/

theorem isSegment_iff {s : String} : isSegment s.toList = true ↔ IsWord s := by
  unfold IsWord
  cases s.toList with
  | nil => simp [isSegment]
  | cons c rest =>
    simp only [isSegment, Bool.and_eq_true, List.all_eq_true, isHead_iff, isTail_iff,
      List.forall_mem_cons, List.head?_cons, Option.some.injEq, exists_eq_left']
    tauto

theorem dot_not_mem {s : String} (h : IsWord s) : '.' ∉ s.toList := by
  intro hdot
  exact absurd (isTail_iff.mpr (h.1 '.' hdot)) (by decide)

/-- A word is cut off in front of a dot and at the end of the text. -/
theorem span_word {s : String} (h : IsWord s) (rest : List Char)
    (hrest : rest.span (fun c => decide (c ≠ '.')) = ([], rest)) :
    (s.toList ++ rest).span (fun c => decide (c ≠ '.')) = (s.toList, rest) := by
  have hword : ∀ c ∈ s.toList, decide (c ≠ '.') = true :=
    fun c hc => decide_eq_true fun hdot => dot_not_mem h (hdot ▸ hc)
  rw [List.span_eq_takeWhile_dropWhile] at hrest ⊢
  obtain ⟨htake, hdrop⟩ := Prod.mk.inj hrest
  rw [List.takeWhile_append_of_pos hword, List.dropWhile_append_of_pos hword, htake, hdrop,
    List.append_nil]

/-- **The check of identifiers accepts the grammar of names.** -/
theorem isIdentifier_iff {s : String} : isIdentifier s.toList = true ↔ IsSpelled s := by
  constructor
  · intro h
    rcases segments_of_isIdentifier h with h | ⟨first, second, hfirst, hsecond, hs⟩
    · exact .word (isSegment_iff.mp h)
    · rw [← String.toList_ofList (l := first)] at hfirst
      rw [← String.toList_ofList (l := second)] at hsecond
      have hjoined : s = String.ofList first ++ "." ++ String.ofList second := by
        rw [← String.toList_inj, hs]
        simp
      rw [hjoined]
      exact .qualified (isSegment_iff.mp hfirst) (isSegment_iff.mp hsecond)
  · intro h
    cases h with
    | word hword =>
      have hcut := span_word hword [] rfl
      rw [List.append_nil] at hcut
      rw [isIdentifier, hcut]
      exact isSegment_iff.mpr hword
    | @qualified first second hfirst hsecond =>
      have hcut := span_word hfirst ('.' :: second.toList) rfl
      have htext : (first ++ "." ++ second).toList = first.toList ++ '.' :: second.toList := by
        simp
      rw [isIdentifier, htext, hcut]
      exact Bool.and_eq_true_iff.mpr ⟨isSegment_iff.mpr hfirst, isSegment_iff.mpr hsecond⟩

instance (s : String) : Decidable (IsSpelled s) := decidable_of_iff _ isIdentifier_iff

/-- A character that would end a name or begin something else: a blank, what separates and encloses
in lists, a quote, or the sign of a mark in some style. -/
def IsBreak (c : Char) : Prop :=
  Text.isBlank c = true ∨ c ∈ [',', '(', ')', '\'', '"', '`', '?', '%', '$', ':', '@']

instance (c : Char) : Decidable (IsBreak c) := inferInstanceAs (Decidable (_ ∨ _))

theorem not_isBreak_of_isNameChar (h : isNameChar c = true) : ¬ IsBreak c :=
  Text.of_forall_ascii (P := fun c => isNameChar c = true → ¬ IsBreak c) (by decide)
    (ascii_of_isNameChar h) h

theorem not_isBreak {s : String} (h : IsSpelled s) : ∀ c ∈ s.toList, ¬ IsBreak c :=
  fun c hc => not_isBreak_of_isNameChar
    (isNameChar_of_isIdentifier (isIdentifier_iff.mpr h) c hc)

/-- No mark of any style stands in a name. -/
theorem marksIn_eq_nil {s : String} (h : IsSpelled s) (style : ParamStyle) :
    style.marksIn s.toList = [] :=
  ParamStyle.marksIn_signFree (.of_isIdentifier (isIdentifier_iff.mpr h))

end Identifier

/-! ## The check of names -/

open Identifier

/-- The name that a value passes for has its characters and is shown and quoted like it. -/
theorem Name.same_of_ofValue? {v : Value} {n : Name} (h : ofValue? v = some n) :
    v.textOf? = some n.text ∧ n.shown = v.display ∧ n.literal = v.literal := by
  fun_cases ofValue? v with
  | case4 v => simp [ofValue?] at h
  | _ =>
    cases h
    exact ⟨rfl, rfl, rfl⟩

theorem exists_checkName_iff {role : String} {v : Value} :
    (∃ n, checkName role v = .ok n) ↔ ∃ s, v.textOf? = some s ∧ IsSpelled s := by
  constructor
  · rintro ⟨n, hn⟩
    obtain ⟨hname, hid⟩ := checkName_eq_ok.mp hn
    exact ⟨n.text, (Name.same_of_ofValue? hname).1, isIdentifier_iff.mp hid⟩
  · rintro ⟨s, hs, hspelled⟩
    rw [← Name.ofValue?_map_text] at hs
    obtain ⟨n, hname, rfl⟩ := Option.map_eq_some_iff.mp hs
    exact ⟨n, checkName_eq_ok.mpr ⟨hname, isIdentifier_iff.mpr hspelled⟩⟩

end RelMap
