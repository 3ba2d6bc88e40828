import RelMap.Column
import RelMap.ColumnType
import RelMap.Proofs.Result
import RelMap.Proofs.Text.Trimming
import RelMap.Proofs.TypeHint.Searched

/-!
# The texts of column types

Three readers are tried on the text of a column type, one after the other: one for the word `varchar`
with or without a length, one for the aliases and one for the standard names.  Together they read one
language (`ColumnType.Form`): in ASCII the bare form of the text must be one of the words for types,
or `varchar` and digits in parentheses.  The standard type of a column is such a text, and what is
read of it is the type and the length of the column.
-/

namespace RelMap

namespace ColumnType

open Text

variable {s r ds : List Char}

/-! ## The language -/

/-- The words for types: the aliases, and the standard names in small letters. -/
def typeWords : List (String × SqlType) := aliases ++ SqlType.all.map fun t => (folded t.name, t)

/-- The text is a word and some digits in parentheses.  Blanks may stand around the parentheses and
the digits. -/
def Sized (word text ds : List Char) : Prop :=
  ds ≠ [] ∧ Digits ds ∧ ∃ gap inner outer, Blanks gap ∧ Blanks inner ∧ Blanks outer ∧
    text = word ++ (gap ++ '(' :: (inner ++ (ds ++ (outer ++ [')']))))

/-- The bare forms of the texts that a column type is written as. -/
inductive Form (b : List Char) : ColumnType → Prop
  | word {t : SqlType} : (String.ofList b, t) ∈ typeWords → Form b { type := t }
  | sized {ds : List Char} : Sized "varchar".toList b ds →
      Form b { type := .varchar, length := some (Nat.ofDigitChars 10 ds 0) }

/-- No run of digits in the text is longer. -/
def RunsWithin (n : Nat) (s : List Char) : Prop := ∀ ds, ds <:+: s → Digits ds → ds.length ≤ n

/-! ## Lengths -/

theorem isDigit_ascii {c : Char} (hc : c.toNat < 128) : Text.isDigit c = c.isDigit :=
  of_forall_ascii (P := fun c => Text.isDigit c = c.isDigit) (by decide +kernel) hc

theorem isDigit_of_isDigit {c : Char} (h : c.isDigit = true) : Text.isDigit c = true := by
  rw [Text.isDigit, digit?_of_isDigit h]
  rfl

theorem isDigit_of_isAsciiBlank {c : Char} (h : isAsciiBlank c = true) :
    Text.isDigit c = false := by
  have hother := of_all_asciiBlanks (p := fun c => !Text.isDigit c) (by decide) h
  rwa [Bool.not_eq_true'] at hother

theorem isAlpha_of_isDigit {c : Char} (h : c.isDigit = true) : c.isAlpha = false := by
  obtain ⟨-, hhigh⟩ := isDigit_iff.mp h
  exact of_forall_ascii (P := fun c => c.isDigit = true → c.isAlpha = false) (by decide)
    (by omega) h

/-- What is read as a length stands in parentheses. -/
theorem lengthDigits?_eq_some (h : IsAscii r) (hr : lengthDigits? r = some ds) :
    ds ≠ [] ∧ Digits ds ∧ ∃ inner outer tail, Blanks inner ∧ Blanks outer ∧ Blanks tail ∧
      r = '(' :: (inner ++ (ds ++ (outer ++ ')' :: tail))) := by
  unfold lengthDigits? at hr
  split at hr
  · next r =>
    dsimp only at hr
    split at hr
    · cases hr
    · next _ _ tail hclose hne =>
      split at hr
      · next hend =>
        cases hr
        have hascii : IsAscii r := (List.forall_mem_cons.mp h).2
        have hrest := isAscii_trimStart hascii
        obtain ⟨inner, hinner, hopen⟩ := exists_trimStart hascii
        have hbehind : IsAscii ((trimStart r).dropWhile Text.isDigit) :=
          fun c hc => hrest c ((List.dropWhile_suffix _).subset hc)
        obtain ⟨outer, houter, hsplit⟩ := exists_trimStart hbehind
        have htail : IsAscii (')' :: tail) := hclose ▸ isAscii_trimStart hbehind
        -- nothing is left behind the parenthesis, so all that stands there is blank
        obtain ⟨gap, hgap, htrailing⟩ := exists_trimStart (List.forall_mem_cons.mp htail).2
        rw [List.isEmpty_iff.mp hend, List.append_nil] at htrailing
        refine ⟨hne, ?_, inner, outer, tail, hinner, houter, htrailing ▸ hgap, ?_⟩
        · intro c hc
          rw [← isDigit_ascii (hrest c ((List.takeWhile_prefix _).subset hc))]
          exact List.mem_takeWhile_imp hc
        · rw [← hclose, ← hsplit, List.takeWhile_append_dropWhile, ← hopen]
      · cases hr
    · cases hr
  · cases hr

/-- A length in parentheses is read. -/
theorem lengthDigits?_of_digits (hne : ds ≠ []) (hds : Digits ds) {inner outer tail : List Char}
    (hinner : Blanks inner) (houter : Blanks outer) (htail : Blanks tail) :
    lengthDigits? ('(' :: (inner ++ (ds ++ (outer ++ ')' :: tail)))) = some ds := by
  have hstart : trimStart (inner ++ (ds ++ (outer ++ ')' :: tail))) =
      ds ++ (outer ++ ')' :: tail) := by
    obtain ⟨d, rest, rfl⟩ := List.exists_cons_of_ne_nil hne
    rw [trimStart_blanks_append hinner]
    exact trimStart_cons_of_not_blank (isBlank_of_isDigit (hds d List.mem_cons_self))
  have hdigits : ∀ c ∈ ds, Text.isDigit c = true := fun c hc => isDigit_of_isDigit (hds c hc)
  have hstop : ∃ c rest, outer ++ ')' :: tail = c :: rest ∧ Text.isDigit c = false := by
    cases outer with
    | nil => exact ⟨')', tail, rfl, by decide⟩
    | cons c outer =>
      exact ⟨c, _, rfl, isDigit_of_isAsciiBlank (houter c List.mem_cons_self)⟩
  have hclose : trimStart (outer ++ ')' :: tail) = ')' :: tail := by
    rw [trimStart_blanks_append houter]
    exact trimStart_cons_of_not_blank (by decide)
  obtain ⟨c, rest, hrest, hc⟩ := hstop
  have htake : (ds ++ (outer ++ ')' :: tail)).takeWhile Text.isDigit = ds := by
    rw [List.takeWhile_append_of_pos hdigits, hrest, List.takeWhile_cons, hc]
    exact List.append_nil ds
  have hdrop : (ds ++ (outer ++ ')' :: tail)).dropWhile Text.isDigit = outer ++ ')' :: tail := by
    rw [List.dropWhile_append_of_pos hdigits, hrest, List.dropWhile_cons, hc]
    rfl
  simp only [lengthDigits?, hstart, htake, hdrop, hclose, trimStart_of_blanks htail,
    List.isEmpty_nil, if_true]

/-! ## The word varchar -/

theorem varchar?_of_word {word rest : List Char} (hs : trimStart s = word ++ rest)
    (hword : word.map Char.toLower = "varchar".toList) :
    varchar? s =
      if trimStart rest = [] then some [] else lengthDigits? (trimStart rest) := by
  have hlength : word.length = 7 := by simpa using congrArg List.length hword
  unfold varchar?
  dsimp only
  rw [hs, List.take_left' hlength, List.drop_left' hlength, if_pos hword]
  cases trimStart rest with
  | nil => rfl
  | cons c r => exact (if_neg (List.cons_ne_nil c r)).symm

theorem varchar?_eq_some (h : varchar? s = some ds) :
    ∃ word rest, trimStart s = word ++ rest ∧ word.map Char.toLower = "varchar".toList ∧
      (trimStart rest = [] ∧ ds = [] ∨ lengthDigits? (trimStart rest) = some ds) := by
  unfold varchar? at h
  dsimp only at h
  split at h
  · next hword =>
    refine ⟨_, _, (List.take_append_drop 7 _).symm, hword, ?_⟩
    split at h
    · next hnil =>
      cases h
      exact .inl ⟨hnil, rfl⟩
    · exact .inr h
  · cases h

/-- The word ends with no blank. -/
theorem exists_concat_of_word {word : List Char}
    (hword : word.map Char.toLower = "varchar".toList) :
    ∃ front c, word = front ++ [c] ∧ isBlank c = false := by
  have hsplit : word.map Char.toLower = "varcha".toList ++ ['r'] := hword
  obtain ⟨front, last, rfl, -, hlast⟩ := List.map_eq_append_iff.mp hsplit
  obtain ⟨c, rfl, hc⟩ := List.map_eq_singleton_iff.mp hlast
  refine ⟨front, c, rfl, ?_⟩
  rw [← apply_toLower (f := isBlank) (by decide), hc]
  decide

/-- The word is read alone if there is nothing else but blanks around it. -/
theorem varchar?_eq_nil_iff (h : IsAscii s) :
    varchar? s = some [] ↔ (trim s).map Char.toLower = "varchar".toList := by
  constructor
  · intro hread
    obtain ⟨word, rest, hs, hword, hrest⟩ := varchar?_eq_some hread
    have hascii : IsAscii (word ++ rest) := hs ▸ isAscii_trimStart h
    have hbehind : IsAscii rest := (List.forall_mem_append.mp hascii).2
    rcases hrest with ⟨hnil, -⟩ | hdigits
    · -- the word ends with no blank, so trimming takes what is behind it and stops there
      obtain ⟨gap, hgap, hblank⟩ := exists_trimStart hbehind
      rw [hnil, List.append_nil] at hblank
      obtain ⟨front, c, rfl, hc⟩ := exists_concat_of_word hword
      rw [trim, hs, hblank, List.append_assoc, List.singleton_append,
        trimEnd_append_blanks hc hgap]
      exact hword
    · exact absurd rfl (lengthDigits?_eq_some (isAscii_trimStart hbehind) hdigits).1
  · intro hword
    obtain ⟨lead, tail, -, htail, -, hs⟩ := exists_trim h
    rw [varchar?_of_word hs hword, trimStart_of_blanks htail, if_pos rfl]

/-- The word is read with a length exactly if there is a length in parentheses behind it and nothing
else but blanks. -/
theorem varchar?_eq_digits_iff (h : IsAscii s) (hne : ds ≠ []) :
    varchar? s = some ds ↔
      ∃ word, word.map Char.toLower = "varchar".toList ∧ Sized word (trim s) ds := by
  constructor
  · intro hread
    obtain ⟨word, rest, hs, hword, hrest⟩ := varchar?_eq_some hread
    have hascii : IsAscii (word ++ rest) := hs ▸ isAscii_trimStart h
    have hbehind : IsAscii rest := (List.forall_mem_append.mp hascii).2
    rcases hrest with ⟨-, hnil⟩ | hdigits
    · exact absurd hnil hne
    · obtain ⟨gap, hgap, hrest⟩ := exists_trimStart hbehind
      obtain ⟨-, hds, inner, outer, tail, hinner, houter, htail, hlength⟩ :=
        lengthDigits?_eq_some (isAscii_trimStart hbehind) hdigits
      refine ⟨word, hword, hne, hds, gap, inner, outer, hgap, hinner, houter, ?_⟩
      have hclosed : word ++ (gap ++ '(' :: (inner ++ (ds ++ (outer ++ ')' :: tail)))) =
          (word ++ (gap ++ '(' :: (inner ++ (ds ++ outer)))) ++ ')' :: tail := by simp
      rw [trim, hs, hrest, hlength, hclosed, trimEnd_append_blanks (by decide) htail]
      simp
  · rintro ⟨word, hword, -, hds, gap, inner, outer, hgap, hinner, houter, htrim⟩
    obtain ⟨lead, tail, -, htail, -, hs⟩ := exists_trim h
    have hbehind : trimStart s =
        word ++ (gap ++ '(' :: (inner ++ (ds ++ (outer ++ ')' :: tail)))) := by
      rw [hs, htrim]
      simp
    have hopen : trimStart (gap ++ '(' :: (inner ++ (ds ++ (outer ++ ')' :: tail)))) =
        '(' :: (inner ++ (ds ++ (outer ++ ')' :: tail))) := by
      rw [trimStart_blanks_append hgap]
      exact trimStart_cons_of_not_blank (by decide)
    rw [varchar?_of_word hbehind hword, hopen, if_neg (List.cons_ne_nil _ _)]
    exact lengthDigits?_of_digits hne hds hinner houter htail

/-- Only the case of the word counts for the bare form of such a text. -/
theorem sized_map_toLower_iff {front x : List Char} :
    Sized front (x.map Char.toLower) ds ↔
      ∃ word, word.map Char.toLower = front ∧ Sized word x ds := by
  have hblank : ∀ c, isAsciiBlank c = true → c.isAlpha = false := by
    intro c hc
    have hother := of_all_asciiBlanks (p := fun c => !c.isAlpha) (by decide) hc
    rwa [Bool.not_eq_true'] at hother
  have hplain : ∀ gap inner outer, Blanks gap → Blanks inner → Digits ds → Blanks outer →
      ∀ c ∈ gap ++ '(' :: (inner ++ (ds ++ (outer ++ [')']))), c.isAlpha = false := by
    intro gap inner outer hgap hinner hds houter c hc
    simp only [List.mem_append, List.mem_cons, List.not_mem_nil, or_false] at hc
    rcases hc with hc | rfl | hc | hc | hc | rfl
    · exact hblank c (hgap c hc)
    · decide
    · exact hblank c (hinner c hc)
    · exact isAlpha_of_isDigit (hds c hc)
    · exact hblank c (houter c hc)
    · decide
  constructor
  · rintro ⟨hne, hds, gap, inner, outer, hgap, hinner, houter, hx⟩
    obtain ⟨word, hword, hx⟩ :=
      (map_toLower_eq_append_iff (hplain gap inner outer hgap hinner hds houter)).mp hx
    exact ⟨word, hword, hne, hds, gap, inner, outer, hgap, hinner, houter, hx⟩
  · rintro ⟨word, hword, hne, hds, gap, inner, outer, hgap, hinner, houter, hx⟩
    exact ⟨hne, hds, gap, inner, outer, hgap, hinner, houter,
      (map_toLower_eq_append_iff (hplain gap inner outer hgap hinner hds houter)).mpr
        ⟨word, hword, hx⟩⟩

/-! ## Words for types -/

theorem eq_of_mem_typeWords {w : String} {t t' : SqlType} (h : (w, t) ∈ typeWords)
    (h' : (w, t') ∈ typeWords) : t = t' := by
  have hall : ∀ e ∈ typeWords, ∀ e' ∈ typeWords, e.1 = e'.1 → e.2 = e'.2 := by decide
  exact hall _ h _ h' rfl

/-- No word for a type has a length behind it. -/
theorem not_sized_of_mem_typeWords {b word : List Char} {t : SqlType}
    (h : (String.ofList b, t) ∈ typeWords) : ¬ Sized word b ds := by
  have hall : ∀ e ∈ typeWords, '(' ∉ e.1.toList := by decide
  rintro ⟨-, -, gap, inner, outer, -, -, -, hb⟩
  refine absurd ?_ (hall _ h)
  rw [String.toList_ofList, hb]
  simp

theorem ofName?_eq_some_iff {x : String} {t : SqlType} :
    SqlType.ofName? x = some t ↔ t.name = x := by
  constructor
  · intro h
    simpa using List.find?_some h
  · rintro rfl
    exact SqlType.ofName?_name t

/-- A standard name is the capital form of what its bare form is. -/
theorem folded_name_iff {x : List Char} (h : IsAscii x) (t : SqlType) :
    folded t.name = String.ofList (x.map Char.toLower) ↔
      t.name = String.ofList (x.map Char.toUpper) := by
  have hcapital : t.name.toList.map Char.toUpper = t.name.toList := by cases t <;> decide
  have hname : IsAscii t.name.toList := by cases t <;> decide
  rw [folded, String.ofList_inj]
  constructor
  · intro hsame
    have hupper := congrArg (List.map Char.toUpper) hsame
    rw [map_toUpper_of_toLower hname, map_toUpper_of_toLower h, hcapital] at hupper
    rw [← hupper, String.ofList_toList]
  · intro hsame
    rw [hsame, String.toList_ofList, map_toLower_of_toUpper h]

theorem named?_eq_some_iff (h : IsAscii s) {t : SqlType} :
    named? s = some t ↔ (String.ofList (bareForm s), t) ∈ typeWords := by
  have hascii := isAscii_trim h
  rw [named?, lowerChars_of_ascii hascii, capitals_ascii hascii, ← bareForm_eq h]
  cases hfind : aliases.find? fun e => e.1 == String.ofList (bareForm s) with
  | some e =>
    have hmem : e ∈ typeWords := List.mem_append_left _ (List.mem_of_find?_eq_some hfind)
    have hname : e.1 = String.ofList (bareForm s) := by simpa using List.find?_some hfind
    rw [← hname]
    constructor
    · rintro ⟨⟩
      exact hmem
    · intro ht
      exact congrArg some (eq_of_mem_typeWords hmem ht)
  | none =>
    rw [ofName?_eq_some_iff, ← folded_name_iff hascii, ← bareForm_eq h, typeWords, List.mem_append,
      List.mem_map]
    constructor
    · intro hname
      exact .inr ⟨t, SqlType.mem_all t, Prod.ext hname rfl⟩
    · rintro (halias | ⟨t', -, heq⟩)
      · have hother := List.find?_eq_none.mp hfind _ halias
        simp at hother
      · obtain ⟨hname, rfl⟩ := Prod.mk.inj heq
        exact hname

/-! ## Reading -/

theorem ofText_of_varchar? (given : Value) (hne : ds ≠ []) (hread : varchar? s = some ds)
    (hlength : ds.length ≤ longestNumber) :
    ofText given s = .ok { type := .varchar, length := some (natOfDigits ds) } := by
  obtain ⟨d, ds, rfl⟩ := List.exists_cons_of_ne_nil hne
  unfold ofText
  rw [hread]
  exact if_neg (Nat.not_lt.mpr hlength)

section Reading

variable (h : IsAscii s)
include h

theorem sized_bareForm_iff (hne : ds ≠ []) :
    Sized "varchar".toList (bareForm s) ds ↔ varchar? s = some ds := by
  rw [bareForm_eq h, sized_map_toLower_iff, varchar?_eq_digits_iff h hne]

/-- The digits of a length are a run of digits in the text. -/
theorem length_le_of_varchar? {n : Nat} (hruns : RunsWithin n s) (hread : varchar? s = some ds) :
    ds.length ≤ n := by
  by_cases hne : ds = []
  · subst hne
    exact Nat.zero_le n
  · obtain ⟨word, -, -, hds, gap, inner, outer, -, -, -, htrim⟩ :=
      (varchar?_eq_digits_iff h hne).mp hread
    obtain ⟨lead, tail, -, -, hs, -⟩ := exists_trim h
    refine hruns ds ⟨lead ++ (word ++ (gap ++ '(' :: inner)), outer ++ ')' :: tail, ?_⟩ hds
    rw [hs, htrim]
    simp

/-- The word alone is one of the words for types. -/
theorem mem_typeWords_of_varchar? (hread : varchar? s = some []) :
    (String.ofList (bareForm s), .varchar) ∈ typeWords := by
  rw [bareForm_eq h, (varchar?_eq_nil_iff h).mp hread]
  decide

/-- A text that is no form of a column type is refused. -/
theorem ofText_eq_error (given : Value) (hnone : ∀ t, ¬ Form (bareForm s) t) :
    ofText given s = .error (.unknownColumnType given) := by
  cases hread : varchar? s with
  | some ds =>
    by_cases hne : ds = []
    · subst hne
      have hword := Form.word (mem_typeWords_of_varchar? h hread)
      exact absurd hword (hnone _)
    · have hsized := (sized_bareForm_iff h hne).mpr hread
      exact absurd (Form.sized hsized) (hnone _)
  | none =>
    unfold ofText
    cases hname : named? s with
    | some t =>
      have hword := Form.word ((named?_eq_some_iff h).mp hname)
      exact absurd hword (hnone _)
    | none => rw [hread]

variable (hruns : RunsWithin longestNumber s)
include hruns

theorem form_of_ofText {given : Value} {t : ColumnType} (hread : ofText given s = .ok t) :
    Form (bareForm s) t := by
  unfold ofText at hread
  split at hread
  · next hword =>
    cases hread
    exact .word (mem_typeWords_of_varchar? h hword)
  · next ds hne hlength =>
    have hsized := (sized_bareForm_iff h hne).mpr hlength
    rw [if_neg (Nat.not_lt.mpr (length_le_of_varchar? h hruns hlength)),
      natOfDigits_eq hsized.2.1] at hread
    cases hread
    exact .sized hsized
  · split at hread
    · next t hname =>
      cases hread
      exact .word ((named?_eq_some_iff h).mp hname)
    · cases hread

theorem ofText_of_form (given : Value) {t : ColumnType} (hform : Form (bareForm s) t) :
    ofText given s = .ok t := by
  cases hform with
  | word hmem =>
    unfold ofText
    cases hread : varchar? s with
    | none => rw [(named?_eq_some_iff h).mpr hmem]
    | some ds =>
      cases ds with
      | nil => rw [eq_of_mem_typeWords hmem (mem_typeWords_of_varchar? h hread)]
      | cons d ds =>
        have hsized := (sized_bareForm_iff h (List.cons_ne_nil d ds)).mpr hread
        exact absurd hsized (not_sized_of_mem_typeWords hmem)
  | @sized ds hsized =>
    have hread := (sized_bareForm_iff h hsized.1).mp hsized
    rw [← natOfDigits_eq hsized.2.1]
    exact ofText_of_varchar? given hsized.1 hread (length_le_of_varchar? h hruns hread)

end Reading

/-! ## The types of columns -/

/-- A standard name is read as its type. -/
theorem ofText_name (given : Value) (t : SqlType) :
    ofText given t.name.toList = .ok { type := t } := by
  cases t <;> rfl

theorem ofValue_eq_ofText {v : Value} {x : String} (hv : v.textOf? = some x) :
    ofValue v = ofText v x.toList := by
  cases v with
  | sqlType t =>
    cases hv
    exact (ofText_name _ t).symm
  | text _ | textConstant _ _ =>
    cases hv
    rfl
  | _ => cases hv

/-- What the length of a type is as the length of a column. -/
def lengthValue (t : ColumnType) : Value :=
  match t.length with
  | some n => .int n
  | none => .null

theorem ofText_varchar (given : Value) {n : Nat} (hn : (digitsOf n).length ≤ longestNumber) :
    ofText given ("VARCHAR(" ++ (Value.int n).display ++ ")").toList =
      .ok { type := .varchar, length := some n } := by
  have hdigits : (Value.int n).display.toList = digitsOf n := Nat.toList_repr
  have htext : ("VARCHAR(" ++ (Value.int n).display ++ ")").toList =
      "VARCHAR".toList ++ '(' :: ([] ++ (digitsOf n ++ ([] ++ [')']))) := by
    rw [String.toList_append, String.toList_append, hdigits]
    rfl
  have hstart : trimStart ("VARCHAR".toList ++ '(' :: ([] ++ (digitsOf n ++ ([] ++ [')'])))) =
      "VARCHAR".toList ++ '(' :: ([] ++ (digitsOf n ++ ([] ++ [')']))) :=
    trimStart_cons_of_not_blank (by decide)
  have hread := varchar?_of_word hstart (by decide)
  rw [trimStart_cons_of_not_blank (by decide), if_neg (List.cons_ne_nil _ _),
    lengthDigits?_of_digits (digitsOf_ne_nil n) (digits_digitsOf n) .nil .nil .nil] at hread
  rw [htext, ofText_of_varchar? given (digitsOf_ne_nil n) hread hn, natOfDigits_digitsOf]

/-- The standard type of a column is read as the type and the length of the column. -/
theorem ofText_standardType (given : Value) {c : Column}
    (hlength : c.type ≠ .varchar ∧ c.length = .null ∨ c.type = .varchar ∧
      ∃ n : Nat, c.length = .int n ∧ (digitsOf n).length ≤ longestNumber) :
    ∃ t, ofText given c.standardType.toList = .ok t ∧ t.type = c.type ∧
      t.lengthValue = c.length := by
  rcases hlength with ⟨htype, hnull⟩ | ⟨htype, n, hn, hdigits⟩
  · rw [Column.standardType, if_neg htype, hnull]
    exact ⟨_, ofText_name given c.type, rfl, rfl⟩
  · rw [Column.standardType, if_pos htype, hn, htype]
    exact ⟨_, ofText_varchar given hdigits, rfl, rfl⟩

/-- A `VARCHAR` column that is made has a length. -/
theorem type_ne_varchar_of_make {name : Value} {type : SqlType}
    {nullable unique isKey field length : Value} {c : Column}
    (h : Column.make name type nullable unique isKey field length = .ok c)
    (hnull : c.length = .null) : c.type ≠ .varchar := by
  obtain ⟨n, -, h⟩ := Result.bind_eq_ok.mp h
  cases h
  dsimp only at hnull ⊢
  split at hnull
  · cases hnull
  · next hgiven =>
    rintro rfl
    rw [hnull] at hgiven
    exact hgiven rfl

/-- **The texts of column types are one language.**  A text of ASCII, in which no run of digits is too
long for a number, is read as a column type exactly if its bare form is a word for the type, or
`varchar` and the digits of the length in parentheses; any other text is refused as a wrong value.  So
neither the case of letters nor blanks around the text make a difference.  And the standard type of a
column that was made without a length, or as a `VARCHAR` with a natural number for its length, is
read as the type and the length of the column. -/
theorem ofValue_exact :
    (∀ v x, v.textOf? = some x → IsAscii x.toList → RunsWithin longestNumber x.toList →
      (∀ t, ofValue v = .ok t ↔ Form (bareForm x.toList) t) ∧
      ((∀ t, ¬ Form (bareForm x.toList) t) → ∃ e, ofValue v = .error e ∧ e.kind = .valueFault)) ∧
    (∀ v v' x x', v.textOf? = some x → v'.textOf? = some x' → IsAscii x.toList →
      IsAscii x'.toList → RunsWithin longestNumber x.toList → RunsWithin longestNumber x'.toList →
      bareForm x.toList = bareForm x'.toList → ∀ t, ofValue v = .ok t ↔ ofValue v' = .ok t) ∧
    (∀ name type nullable unique isKey field length c,
      Column.make name type nullable unique isKey field length = .ok c →
      (c.length = .null ∨ c.type = .varchar ∧
        ∃ n : Nat, c.length = .int n ∧ (digitsOf n).length ≤ longestNumber) →
      ∃ t, ofValue (.text c.standardType) = .ok t ∧ t.type = c.type ∧
        t.lengthValue = c.length) := by
  have hread : ∀ v x, v.textOf? = some x → IsAscii x.toList →
      RunsWithin longestNumber x.toList → ∀ t, ofValue v = .ok t ↔ Form (bareForm x.toList) t := by
    intro v x hv hascii hruns t
    rw [ofValue_eq_ofText hv]
    exact ⟨form_of_ofText hascii hruns, ofText_of_form hascii hruns v⟩
  refine ⟨?_, ?_, ?_⟩
  · intro v x hv hascii hruns
    refine ⟨hread v x hv hascii hruns, fun hnone => ?_⟩
    rw [ofValue_eq_ofText hv]
    exact ⟨_, ofText_eq_error hascii v hnone, rfl⟩
  · intro v v' x x' hv hv' hascii hascii' hruns hruns' hsame t
    rw [hread v x hv hascii hruns, hread v' x' hv' hascii' hruns', hsame]
  · intro name type nullable unique isKey field length c hmake hlength
    rw [ofValue_eq_ofText (v := .text c.standardType) rfl]
    apply ofText_standardType
    exact hlength.imp_left fun hnull => ⟨type_ne_varchar_of_make hmake hnull, hnull⟩

theorem ofValue_exact_varchar :
    ofValue (.text " VarChar ( 12 )\n") = .ok { type := .varchar, length := some 12 } ∧
    (∃ e, ofValue (.text "money") = .error e ∧ e.kind = .valueFault) ∧
    ∃ c t, Column.make (.text "code") .varchar (.bool true) (.bool false) (.bool false) .null .null =
        .ok c ∧
      ofValue (.text c.standardType) = .ok t ∧ t.lengthValue = .int 255 := by
  obtain ⟨hread, -, hround⟩ := ofValue_exact
  have hshort : ∀ x : String, x.toList.length ≤ longestNumber →
      RunsWithin longestNumber x.toList :=
    fun x hx ds hds _ => hds.length_le.trans hx
  have hsized : Sized "varchar".toList (bareForm " VarChar ( 12 )\n".toList) ['1', '2'] :=
    ⟨nofun, digits_digitsOf 12, [' '], [' '], [' '], by decide, by decide, by decide, by decide⟩
  have hmoney : ∀ t, ¬ Form (bareForm "money".toList) t := by
    intro t hform
    cases hform with
    | word hmem =>
      have hall : ∀ e ∈ typeWords, e.1 ≠ String.ofList (bareForm "money".toList) := by decide
      exact hall _ hmem rfl
    | sized hsized =>
      obtain ⟨-, -, gap, inner, outer, -, -, -, htext⟩ := hsized
      cases htext
  refine ⟨?_, ?_, ?_⟩
  · exact ((hread _ _ rfl (by decide) (hshort _ (by decide))).1 _).mpr (.sized hsized)
  · exact (hread (.text "money") _ rfl (by decide) (hshort _ (by decide))).2 hmoney
  · have hmade : Column.make (.text "code") .varchar (.bool true) (.bool false) (.bool false) .null
        .null = .ok ⟨.plain "code", .varchar, .bool true, .bool false, .bool false, .text "code",
          .int 255⟩ := rfl
    obtain ⟨t, ht, -, hlength⟩ := hround _ _ _ _ _ _ _ _ hmade
      (.inr ⟨rfl, 255, rfl, by decide⟩)
    exact ⟨_, t, hmade, ht, hlength⟩

end ColumnType

end RelMap
