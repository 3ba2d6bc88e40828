import Mathlib.Data.List.TakeDrop
import RelMap.Dialect
import RelMap.Proofs.Result

/-!
# Marks in a text

`ParamStyle.marksIn` reads the marks of a style off a text, from the left: a mark begins with the
sign of its style and goes as far as marks of the style go.  Nothing else in a statement has the
sign of a mark, and a numbered mark ends where its digits end, so the marks of a statement are read
off piece by piece.
-/

namespace RelMap

namespace ParamStyle

variable {style : ParamStyle}

/-- Is the style one of those that the library writes? -/
def IsKnown : ParamStyle → Prop
  | other _ => False
  | _ => True

/-- The character that marks of the style begin with. -/
def sign : ParamStyle → Char
  | format => '%'
  | numbered => '$'
  | _ => '?'

/-- How far a mark goes behind its sign. -/
def markTail (style : ParamStyle) (rest : List Char) : List Char :=
  match style with
  | format => rest.take 1
  | numbered => rest.takeWhile Char.isDigit
  | _ => []

/-- The marks in a text, from the left. -/
def marksIn (style : ParamStyle) : List Char → List String
  | [] => []
  | c :: rest =>
    if c = style.sign then String.ofList (c :: style.markTail rest) :: marksIn style rest
    else marksIn style rest

def markAt (style : ParamStyle) (position : Nat) : String :=
  match style with
  | format => "%s"
  | numbered => "$" ++ toString position
  | _ => "?"

/-- The marks at some positions in a row. -/
def marks (style : ParamStyle) (first count : Nat) : List String :=
  (List.range' first count).map style.markAt

theorem mark_eq_ok (h : style.IsKnown) (k : Nat) :
    style.mark (toString k) = .ok (style.markAt k) := by
  cases style with
  | other given => exact h.elim
  | _ => rfl

theorem eq_markAt_of_mark {k : Nat} {m : String} (h : style.mark (toString k) = .ok m) :
    m = style.markAt k := by
  cases style <;> cases h <;> rfl

theorem marks_zero (first : Nat) : style.marks first 0 = [] := rfl

theorem marks_succ (first n : Nat) :
    style.marks first (n + 1) = style.markAt first :: style.marks (first + 1) n := rfl

theorem length_marks (first n : Nat) : (style.marks first n).length = n := by
  rw [marks, List.length_map, List.length_range']

theorem marks_mapM (h : style.IsKnown) (first count : Nat) :
    (List.range' first count).mapM (fun k => style.mark (toString k)) =
      .ok (style.marks first count) :=
  Result.mapM_eq_ok_map fun k _ => mark_eq_ok h k

theorem marks_append (first m n : Nat) :
    style.marks first m ++ style.marks (first + m) n = style.marks first (m + n) := by
  unfold marks
  rw [← List.map_append, List.range'_append_1]

end ParamStyle

/-! ## Segments of identifiers -/

namespace Identifier

/-- An identifier is a segment, or two that are joined by a dot. -/
theorem segments_of_isIdentifier {cs : List Char} (h : isIdentifier cs = true) :
    isSegment cs = true ∨
      ∃ first second, isSegment first = true ∧ isSegment second = true ∧
        cs = first ++ '.' :: second := by
  rw [isIdentifier, List.span_eq_takeWhile_dropWhile] at h
  have happend : cs.takeWhile (fun c => decide (c ≠ '.')) ++
      cs.dropWhile (fun c => decide (c ≠ '.')) = cs := List.takeWhile_append_dropWhile
  have hstop := List.head?_dropWhile_not (fun c => decide (c ≠ '.')) cs
  cases hrest : cs.dropWhile fun c => decide (c ≠ '.') with
  | nil =>
    rw [hrest, List.append_nil] at happend
    rw [hrest, happend] at h
    exact .inl h
  | cons dot second =>
    rw [hrest] at h happend hstop
    obtain rfl : dot = '.' := by simpa using hstop
    obtain ⟨hfirst, hsecond⟩ := Bool.and_eq_true_iff.mp h
    exact .inr ⟨_, second, hfirst, hsecond, happend.symm⟩

/-- The characters of names: those of segments, and the dot between two. -/
def isNameChar (c : Char) : Bool := isTail c || c = '.'

theorem isNameChar_of_isSegment {cs : List Char} (h : isSegment cs = true) :
    ∀ c ∈ cs, isNameChar c = true := by
  cases cs with
  | nil => nofun
  | cons c rest =>
    simp only [isSegment, Bool.and_eq_true, List.all_eq_true] at h
    have hhead : isTail c = true := by
      rcases Bool.or_eq_true_iff.mp h.1 with halpha | hscore
      · simp [isTail, Char.isAlphanum, halpha]
      · simp [isTail, hscore]
    refine List.forall_mem_cons.mpr ⟨by simp [isNameChar, hhead], ?_⟩
    intro c hc
    simp [isNameChar, h.2 c hc]

theorem isNameChar_of_isIdentifier {cs : List Char} (h : isIdentifier cs = true) :
    ∀ c ∈ cs, isNameChar c = true := by
  rcases segments_of_isIdentifier h with h | ⟨first, second, hfirst, hsecond, rfl⟩
  · exact isNameChar_of_isSegment h
  · exact List.forall_mem_append.mpr ⟨isNameChar_of_isSegment hfirst,
      List.forall_mem_cons.mpr ⟨rfl, isNameChar_of_isSegment hsecond⟩⟩

end Identifier

/-! ## Texts without signs -/

/-- No mark of any style begins in the text. -/
def SignFree (cs : List Char) : Prop := ∀ c ∈ cs, c ≠ '?' ∧ c ≠ '%' ∧ c ≠ '$'

instance (cs : List Char) : Decidable (SignFree cs) :=
  List.decidableBAll (fun c => c ≠ '?' ∧ c ≠ '%' ∧ c ≠ '$') cs

/-- The text does not go on with a digit. -/
def NoDigit (cs : List Char) : Prop := ∀ c rest, cs = c :: rest → c.isDigit = false

theorem isDigit_toString (n : Nat) : ∀ c ∈ (toString n).toList, c.isDigit = true := by
  intro c hc
  have hdigits : (toString n).toList = Nat.toDigits 10 n := Nat.toList_repr
  rw [hdigits] at hc
  exact Nat.isDigit_of_mem_toDigits (by decide) (by decide) hc

/-- A mark consists of a sign, the letter of one style, and digits. -/
theorem ParamStyle.mem_markAt (style : ParamStyle) (k : Nat) :
    ∀ c ∈ (style.markAt k).toList, c.isDigit = true ∨ c ∈ ['?', '%', 's', '$'] := by
  cases style with
  | format => simp [markAt]
  | numbered =>
    simp only [markAt, String.toList_append, List.forall_mem_append]
    exact ⟨by simp, fun c hc => .inl (isDigit_toString k c hc)⟩
  | _ => simp [markAt]

namespace SignFree

variable {cs cs' : List Char}

theorem append (h : SignFree cs) (h' : SignFree cs') : SignFree (cs ++ cs') := by
  intro c hc
  exact (List.mem_append.mp hc).elim (h c) (h' c)

theorem sign_not_mem (h : SignFree cs) (style : ParamStyle) : style.sign ∉ cs := by
  intro hs
  obtain ⟨hq, hp, hd⟩ := h _ hs
  cases style with
  | question => exact hq rfl
  | format => exact hp rfl
  | numbered => exact hd rfl
  | other given => exact hq rfl

theorem of_isDigit (h : ∀ c ∈ cs, c.isDigit = true) : SignFree cs := by
  intro c hc
  have hdigit := h c hc
  refine ⟨?_, ?_, ?_⟩ <;> rintro rfl <;> exact absurd hdigit (by decide)

theorem toString_nat (n : Nat) : SignFree (toString n).toList := of_isDigit (isDigit_toString n)

/-- An identifier has no sign of a mark. -/
theorem of_isIdentifier (h : Identifier.isIdentifier cs = true) : SignFree cs := by
  intro c hc
  have hname := Identifier.isNameChar_of_isIdentifier h c hc
  refine ⟨?_, ?_, ?_⟩ <;> rintro rfl <;> exact absurd hname (by decide)

end SignFree

namespace NoDigit

variable {cs cs' : List Char}

theorem nil : NoDigit [] := nofun

theorem cons {c : Char} (h : c.isDigit = false) : NoDigit (c :: cs) := by
  intro c' rest heq
  cases heq
  exact h

instance : (cs : List Char) → Decidable (NoDigit cs)
  | [] => .isTrue nil
  | c :: _ =>
    if h : c.isDigit = false then .isTrue (cons h) else .isFalse fun hd => h (hd c _ rfl)

theorem append (h : NoDigit cs) (h' : NoDigit cs') : NoDigit (cs ++ cs') := by
  cases cs with
  | nil => exact h'
  | cons c cs =>
    intro c' rest heq
    cases heq
    exact h c cs rfl

theorem append_of_ne_nil (h : NoDigit cs) (hne : cs ≠ []) : NoDigit (cs ++ cs') := by
  cases cs with
  | nil => exact (hne rfl).elim
  | cons c cs => exact cons (h c cs rfl)

theorem of_append_left (h : NoDigit (cs ++ cs')) : NoDigit cs := by
  intro c rest heq
  exact h c (rest ++ cs') (by rw [heq]; rfl)

end NoDigit

/-! ## Reading marks -/

namespace ParamStyle

variable {style : ParamStyle} {cs rest : List Char}

theorem marksIn_append (h : SignFree cs) :
    style.marksIn (cs ++ rest) = style.marksIn rest := by
  induction cs with
  | nil => rfl
  | cons c cs ih =>
    have hc : c ≠ style.sign := by
      rintro rfl
      exact h.sign_not_mem style List.mem_cons_self
    rw [List.cons_append, marksIn, if_neg hc]
    exact ih fun c' hc' => h c' (List.mem_cons_of_mem c hc')

theorem marksIn_signFree (h : SignFree cs) : style.marksIn cs = [] := by
  have hcs : style.marksIn (cs ++ []) = [] := marksIn_append h
  rw [List.append_nil] at hcs
  exact hcs

/-- There are marks exactly where there is the sign of the style. -/
theorem marksIn_eq_nil_iff : style.marksIn cs = [] ↔ style.sign ∉ cs := by
  induction cs with
  | nil => simp [marksIn]
  | cons c cs ih =>
    by_cases hc : c = style.sign
    · simp [marksIn, hc]
    · rw [marksIn, if_neg hc, ih, List.mem_cons, not_or]
      exact (and_iff_right (Ne.symm hc)).symm

theorem takeWhile_isDigit (h : ∀ c ∈ cs, c.isDigit = true) (hrest : NoDigit rest) :
    (cs ++ rest).takeWhile Char.isDigit = cs := by
  rw [List.takeWhile_append_of_pos h]
  cases rest with
  | nil => exact List.append_nil cs
  | cons c rest =>
    rw [List.takeWhile_cons_of_neg, List.append_nil]
    rw [hrest c rest rfl]
    nofun

theorem marksIn_sign (style : ParamStyle) (rest : List Char) :
    style.marksIn (style.sign :: rest) =
      String.ofList (style.sign :: style.markTail rest) :: style.marksIn rest := by
  rw [marksIn, if_pos rfl]

/-- A mark is its sign and what comes behind the sign. -/
theorem markAt_toList (style : ParamStyle) (k : Nat) (hrest : NoDigit rest) :
    ∃ behind, (style.markAt k).toList = style.sign :: behind ∧ SignFree behind ∧
      style.markTail (behind ++ rest) = behind := by
  cases style with
  | question => exact ⟨[], by simp [markAt, sign], nofun, rfl⟩
  | other given => exact ⟨[], by simp [markAt, sign], nofun, rfl⟩
  | format => exact ⟨['s'], by simp [markAt, sign], by decide, rfl⟩
  | numbered =>
    refine ⟨(toString k).toList, ?_, .toString_nat k, takeWhile_isDigit (isDigit_toString k) hrest⟩
    rw [markAt, String.toList_append]
    rfl

/-- A mark is read off the beginning of a text that does not go on with a digit. -/
theorem marksIn_markAt (k : Nat) (hrest : NoDigit rest) :
    style.marksIn ((style.markAt k).toList ++ rest) = style.markAt k :: style.marksIn rest := by
  obtain ⟨behind, hmark, hfree, htail⟩ := markAt_toList style k hrest
  rw [hmark, List.cons_append, marksIn_sign, marksIn_append hfree, htail, ← hmark,
    String.ofList_toList]

end ParamStyle

end RelMap
