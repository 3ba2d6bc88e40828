import Mathlib.Data.List.Find
import RelMap.Proofs.TypeHint.Written
import RelMap.TypeHint.Inference

/-!
# Hints that are searched

The column type of a hint that is still text is found by searching the text for words.  A text that
is read as an expression of names, subscripts and bars is found to be what its names are
(`FieldType.textType_eq`): of a type without a column type of its own if none of them is searched for
(`FieldType.namedType_eq_text`), and of the type that is named if only one is
(`FieldType.namedType_of_only`).
-/

namespace RelMap

/-- The names of types and of the absent value. -/
def TypeHint.typeNames : List String :=
  "None" :: (TypeHint.vocabulary ++ TypeHint.builtins).map Prod.fst

namespace TypeText

open TypeHint (typeNames)
open TypeToken (word left right comma bar)

/-! ## Expressions of names, subscripts and bars -/

/-- The expression is made of names of types, subscripts and bars. -/
inductive IsPlain : TypeText → Prop
  | name {s : String} : s ∈ typeNames → IsPlain (name s)
  | applied {head index : TypeText} : IsPlain head → IsPlain index → IsPlain (applied head index)
  | either {a b : TypeText} : IsPlain a → IsPlain b → IsPlain (either a b)
  | several {items : List TypeText} : (∀ a ∈ items, IsPlain a) → IsPlain (several items)

mutual

/-- The names in an expression. -/
def names : TypeText → List String
  | name s => [s]
  | applied head index => names head ++ names index
  | either a b => names a ++ names b
  | joined a b => names a ++ names b
  | several items => namesOf items
  | _ => []

def namesOf : List TypeText → List String
  | [] => []
  | a :: items => names a ++ namesOf items

end

variable {w : String} {t : TypeText} {items : List TypeText} {ts : List TypeToken}

theorem namesOf_eq (items : List TypeText) : namesOf items = items.flatMap names := by
  induction items with
  | nil => rfl
  | cons a items ih => rw [namesOf, ih, List.flatMap_cons]

theorem mem_namesOf_iff (h : ∀ a ∈ items, ∀ {ts}, a.Writes ts → (word w ∈ ts ↔ w ∈ a.names))
    (hts : WritesAll items ts) : word w ∈ ts ↔ w ∈ namesOf items := by
  induction items generalizing ts with
  | nil =>
    rw [WritesAll] at hts
    subst hts
    simp [namesOf]
  | cons a items ih =>
    obtain ⟨ha, hitems⟩ := List.forall_mem_cons.mp h
    rw [WritesAll] at hts
    obtain ⟨as, has, ⟨rfl, rfl⟩ | ⟨bs, hbs, rfl⟩⟩ := hts
    · simp [namesOf, ha has]
    · simp [namesOf, ha has, ih hitems hbs]

/-- The words of the signs that write an expression are its names. -/
theorem mem_names_iff (hplain : t.IsPlain) :
    ∀ {ts}, t.Writes ts → (word w ∈ ts ↔ w ∈ t.names) := by
  induction hplain with
  | name =>
    intro ts h
    rw [Writes] at h
    subst h
    simp [names]
  | applied _ _ ihhead ihindex =>
    intro ts h
    rw [Writes] at h
    obtain ⟨hs, is, -, hhs, his, rfl⟩ := h
    simp [names, ihhead hhs, ihindex his]
  | either _ _ iha ihb =>
    intro ts h
    rw [Writes] at h
    obtain ⟨as, bs, -, -, has, hbs, rfl⟩ := h
    simp [names, iha has, ihb hbs]
  | several _ ih =>
    intro ts h
    rw [Writes] at h
    exact mem_namesOf_iff ih h

theorem mem_typeNames (hplain : t.IsPlain) : ∀ w ∈ t.names, w ∈ typeNames := by
  induction hplain with
  | name hs => exact List.forall_mem_singleton.mpr hs
  | applied _ _ ihhead ihindex => exact List.forall_mem_append.mpr ⟨ihhead, ihindex⟩
  | either _ _ iha ihb => exact List.forall_mem_append.mpr ⟨iha, ihb⟩
  | several _ ih =>
    intro w hw
    rw [names, namesOf_eq] at hw
    obtain ⟨a, ha, hw⟩ := List.mem_flatMap.mp hw
    exact ih a ha w hw

end TypeText

/-! ## Small letters -/

/-- ASCII letters are made small one by one. -/
theorem Text.lowerChars_of_ascii {cs : List Char} (h : ∀ c ∈ cs, c.toNat < 0x80) :
    Text.lowerChars cs = cs.map Char.toLower := by
  have hafter : ∀ before, Text.lowerAfter before cs = cs.map Char.toLower := by
    induction cs with
    | nil => exact fun _ => rfl
    | cons c rest ih =>
      intro before
      obtain ⟨hc, hrest⟩ := List.forall_mem_cons.mp h
      have hsigma : c ≠ 'Σ' := by
        rintro rfl
        exact absurd hc (by decide)
      have hdotted : c ≠ 'İ' := by
        rintro rfl
        exact absurd hc (by decide)
      rw [Text.lowerAfter, ih hrest, Text.lowerBetween, if_neg hsigma, if_neg hdotted,
        Text.smallForm, if_pos hc]
      rfl
  exact hafter []

theorem occursIn_iff {k cs : List Char} : occursIn k cs = true ↔ k <:+: cs := by
  induction cs with
  | nil => rw [occursIn, List.isEmpty_iff, List.infix_nil]
  | cons c rest ih =>
    rw [occursIn, Bool.or_eq_true, List.isPrefixOf_iff_prefix, ih, List.infix_cons_iff]

namespace TypeToken

open TypeHint (typeNames)

/-- The characters of a sign in small letters. -/
def small (t : TypeToken) : List Char := t.spelled.map Char.toLower

/-- The signs that write names of types, subscripts and bars. -/
def typedSigns : List TypeToken := typeNames.map word ++ [left, right, comma, bar]

variable {t : TypeToken}

theorem mem_typedSigns (hplain : t.IsPlain) (hword : ∀ w, t = word w → w ∈ typeNames) :
    t ∈ typedSigns := by
  unfold typedSigns
  cases t with
  | word w => exact List.mem_append_left _ (List.mem_map_of_mem (hword w rfl))
  | left => exact List.mem_append_right _ (by decide)
  | right => exact List.mem_append_right _ (by decide)
  | comma => exact List.mem_append_right _ (by decide)
  | bar => exact List.mem_append_right _ (by decide)
  | _ => cases hplain

theorem ascii_of_typed (h : t ∈ typedSigns) : ∀ c ∈ t.spelled, c.toNat < 0x80 := by
  have hall : ∀ t ∈ typedSigns, t.spelled.all (fun c => c.toNat < 0x80) = true := by
    decide +kernel
  intro c hc
  exact of_decide_eq_true (List.all_eq_true.mp (hall t h) c hc)

end TypeToken

/-- What is known of a text that is read as an expression of names, subscripts and bars. -/
structure Spells (s : String) (t : TypeText) (ts : List TypeToken) : Prop where
  writes : t.Writes ts
  typed : ∀ u ∈ ts, u ∈ TypeToken.typedSigns
  spelled : ts.flatMap TypeToken.spelled = s.toList.filter (· ≠ ' ')
  words : ∀ k : List Char, k ≠ [] → (∀ c ∈ hintSigns, c.toLower ∉ k) →
    (k <:+: s.toList.map Char.toLower ↔ ∃ w ∈ t.names, k <:+: w.toList.map Char.toLower)

theorem exists_spells {s : String} {t : TypeText} (hs : TypeToken.IsPlainText s.toList)
    (ht : TypeText.ofText? s = some t) (hplain : t.IsPlain) : ∃ ts, Spells s t ts := by
  obtain ⟨ts, hscan, hwrites⟩ := TypeText.writes_of_ofText? hs ht
  obtain ⟨hts, hspelled⟩ := TypeToken.scan_plain hs (List.forall_mem_nil _) hscan
  refine ⟨ts, hwrites, fun u hu => TypeToken.mem_typedSigns (hts u hu) ?_, hspelled,
    fun k hk hsigns => ?_⟩
  · rintro w rfl
    exact TypeText.mem_typeNames hplain w ((TypeText.mem_names_iff hplain hwrites).mp hu)
  · have hoccurs := TypeToken.infix_iff_of_scan hk hsigns hs hscan
    rw [List.reverse_nil, List.nil_append] at hoccurs
    rw [hoccurs]
    exact exists_congr fun w => and_congr_left' (TypeText.mem_names_iff hplain hwrites)

namespace Spells

variable {s : String} {t : TypeText} {ts : List TypeToken}

theorem ascii (h : Spells s t ts) : ∀ c ∈ s.toList, c.toNat < 0x80 := by
  intro c hc
  by_cases hspace : c = ' '
  · subst hspace
    decide
  · have hmem : c ∈ s.toList.filter (· ≠ ' ') :=
      List.mem_filter.mpr ⟨hc, by simpa using hspace⟩
    rw [← h.spelled] at hmem
    obtain ⟨u, hu, hc⟩ := List.mem_flatMap.mp hmem
    exact TypeToken.ascii_of_typed (h.typed u hu) c hc

end Spells

/-! ## The type of a text -/

namespace FieldType

open TypeHint (typeNames)

/-- The column type of some names: that of the first word that one of them holds. -/
def namedType (names : List String) : SqlType :=
  match keywords.find? fun e => names.any fun w =>
      occursIn e.1.toList (w.toList.map Char.toLower) with
  | some e => e.2
  | none => .text

theorem textType_eq {s : String} {t : TypeText} {ts : List TypeToken} (h : Spells s t ts) :
    textType s = namedType t.names := by
  have hkeywords : ∀ e ∈ keywords, e.1.toList ≠ [] ∧
      hintSigns.all (fun c => c.toLower ∉ e.1.toList) = true := by
    decide +kernel
  -- No word that is searched for has a sign in it, so it stands within a name.
  have hfound : ∀ e ∈ keywords, occursIn e.1.toList (Text.lowerChars s.toList) =
      t.names.any fun w => occursIn e.1.toList (w.toList.map Char.toLower) := by
    intro e he
    obtain ⟨hne, hsigns⟩ := hkeywords e he
    rw [Bool.eq_iff_iff, occursIn_iff, Text.lowerChars_of_ascii h.ascii, List.any_eq_true,
      h.words _ hne fun c hc => of_decide_eq_true (List.all_eq_true.mp hsigns c hc)]
    exact exists_congr fun w => and_congr_right' occursIn_iff.symm
  have hfind := List.find?_congr hfound
  unfold textType namedType
  dsimp only
  cases hfirst : keywords.find? fun e => occursIn e.1.toList (Text.lowerChars s.toList) with
  | none => rw [← hfind, hfirst]
  | some e => rw [← hfind, hfirst]

/-- The names of the types that texts are searched for. -/
def searchedNames : List String :=
  ["bool", "datetime", "date", "Decimal", "bytes", "int", "float"]

variable {names : List String}

/-- A word that is searched for stands in no other names. -/
theorem mem_searchedNames_of_occursIn {e : String × SqlType} (he : e ∈ keywords) {w : String}
    (hw : w ∈ typeNames) (h : occursIn e.1.toList (w.toList.map Char.toLower) = true) :
    w ∈ searchedNames := by
  have hall : ∀ e ∈ keywords, ∀ w ∈ typeNames,
      occursIn e.1.toList (w.toList.map Char.toLower) = true → w ∈ searchedNames := by
    decide +kernel
  exact hall e he w hw h

theorem namedType_eq_text (h : ∀ w ∈ names, w ∈ typeNames) :
    namedType names = .text ↔ ∀ w ∈ names, w ∉ searchedNames := by
  have htypes : ∀ e ∈ keywords, e.2 ≠ .text := by decide
  have hfound : ∀ w ∈ searchedNames, ∃ e ∈ keywords,
      occursIn e.1.toList (w.toList.map Char.toLower) = true := by
    decide +kernel
  unfold namedType
  split
  · next e he =>
    refine iff_of_false (htypes e (List.mem_of_find?_eq_some he)) fun hnone => ?_
    have hany := List.find?_some he
    obtain ⟨w, hw, hin⟩ := List.any_eq_true.mp hany
    exact hnone w hw (mem_searchedNames_of_occursIn (List.mem_of_find?_eq_some he) (h w hw) hin)
  · next hnone =>
    refine iff_of_true rfl fun w hw hsearched => ?_
    obtain ⟨e, he, hin⟩ := hfound w hsearched
    exact List.find?_eq_none.mp hnone e he (List.any_eq_true.mpr ⟨w, hw, hin⟩)

/-- A name that is the only one searched for decides the type. -/
theorem namedType_of_only {w : String} (h : ∀ v ∈ names, v ∈ typeNames) (hw : w ∈ names)
    (honly : ∀ v ∈ names, v ∈ searchedNames → v = w) : namedType names = namedType [w] := by
  unfold namedType
  rw [List.find?_congr fun e he => ?_]
  rw [Bool.eq_iff_iff, List.any_eq_true, List.any_eq_true]
  constructor
  · rintro ⟨v, hv, hin⟩
    have hv' := honly v hv (mem_searchedNames_of_occursIn he (h v hv) hin)
    exact ⟨w, List.mem_singleton_self w, hv' ▸ hin⟩
  · rintro ⟨v, hv, hin⟩
    exact ⟨w, hw, List.mem_singleton.mp hv ▸ hin⟩

end FieldType

end RelMap
