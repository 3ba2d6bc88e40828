import RelMap.Condition

/-!
# Spellings in ASCII

`normalizeOperator` compares operators in every script.  For a text of ASCII it comes to what a
reader expects: small letters become capital, blanks at the ends are dropped and each run of blanks
between words becomes one space.  `Text.collapse` says so without reading words off the text, by
cutting it at every single blank, and `normalizeOperator_ascii` is the agreement of the two.
-/

namespace RelMap

namespace Text

/-- All characters of the text are ASCII. -/
def IsAscii (s : List Char) : Prop := ∀ c ∈ s, c.toNat < 128

instance (s : List Char) : Decidable (IsAscii s) :=
  List.decidableBAll (fun c : Char => c.toNat < 128) s

/-- The blanks among ASCII: the controls from tab to carriage return and from file separator to
unit separator, and the space. -/
def asciiBlanks : List Char :=
  ['\t', '\n', '\x0b', '\x0c', '\r', '\x1c', '\x1d', '\x1e', '\x1f', ' ']

def isAsciiBlank (c : Char) : Bool := asciiBlanks.contains c

/-- What stands between the blanks of a text, joined by single spaces. -/
def collapse (s : List Char) : List Char :=
  [' '].intercalate ((s.splitOnP isAsciiBlank).filter (· ≠ []))

/-- A text without regard to the case of letters in ASCII. -/
def folded (s : String) : String := String.ofList (s.toList.map Char.toLower)

/-- A text in capital letters, with one space for each run of blanks between words. -/
def asciiForm (s : String) : String := String.ofList (collapse (s.toList.map Char.toUpper))

/-! ## Words -/

/-- The words of a text are what stands between its blanks, as far as anything does. -/
theorem words_eq_filter (s : List Char) :
    words s = (s.splitOnP isBlank).filter (· ≠ []) := by
  induction s with
  | nil => rfl
  | cons c rest ih =>
    rw [words.eq_def, List.splitOnP_cons_eq_if_modifyHead]
    dsimp only
    cases hc : isBlank c with
    | true => exact ih
    | false =>
      cases rest with
      | nil => rfl
      | cons d rest =>
        rw [List.splitOnP_cons_eq_if_modifyHead] at ih ⊢
        cases hd : isBlank d with
        | true =>
          simp only [hd, if_true, Bool.false_eq_true, if_false] at ih ⊢
          exact congrArg ([c] :: ·) ih
        | false =>
          -- the first piece goes on with `d`, so it is the first word
          obtain ⟨first, more, hsplit⟩ := List.exists_cons_of_ne_nil
            (List.splitOnP_ne_nil isBlank rest)
          simp only [hd, hsplit, List.modifyHead_cons, Bool.false_eq_true, if_false] at ih ⊢
          rw [ih, List.filter_cons_of_pos (by simp), List.filter_cons_of_pos (by simp)]
          rfl

/-! ## ASCII -/

/-- What holds of the first 128 characters holds of every character of ASCII. -/
theorem of_forall_ascii {P : Char → Prop} (h : ∀ n : Fin 128, P (Char.ofNat n)) {c : Char}
    (hc : c.toNat < 128) : P c := by
  have hn := h ⟨c.toNat, hc⟩
  rwa [Char.ofNat_toNat] at hn

theorem isBlank_ascii {c : Char} (hc : c.toNat < 128) : isBlank c = isAsciiBlank c :=
  of_forall_ascii (P := fun c => isBlank c = isAsciiBlank c) (by decide) hc

theorem toNat_toUpper_lt {c : Char} (hc : c.toNat < 128) : c.toUpper.toNat < 128 :=
  of_forall_ascii (P := fun c => c.toUpper.toNat < 128) (by decide) hc

theorem IsAscii.map_toUpper {s : List Char} (h : IsAscii s) : IsAscii (s.map Char.toUpper) :=
  List.forall_mem_map.mpr fun c hc => toNat_toUpper_lt (h c hc)

theorem capitals_ascii {s : List Char} (h : IsAscii s) : capitals s = s.map Char.toUpper := by
  induction s with
  | nil => rfl
  | cons c s ih =>
    obtain ⟨hc, hs⟩ := List.forall_mem_cons.mp h
    have hform : capitalForm c = [c.toUpper] := if_pos hc
    change capitalForm c ++ capitals s = c.toUpper :: s.map Char.toUpper
    rw [hform, ih hs]
    rfl

/-- In ASCII it makes no difference which characters beyond ASCII are blanks. -/
theorem splitOnP_ascii {s : List Char} (h : IsAscii s) :
    s.splitOnP isBlank = s.splitOnP isAsciiBlank := by
  induction s with
  | nil => rfl
  | cons c s ih =>
    obtain ⟨hc, hs⟩ := List.forall_mem_cons.mp h
    rw [List.splitOnP_cons_eq_if_modifyHead, List.splitOnP_cons_eq_if_modifyHead,
      isBlank_ascii hc, ih hs]

/-- Only capital letters of ASCII have a small form of their own. -/
theorem toLower_eq_or (c : Char) : c.toLower = c ∨ c.toNat < 128 := by
  unfold Char.toLower
  split
  · next h =>
    refine .inr (Nat.lt_of_le_of_lt (UInt32.le_iff_toNat_le.mp h.2) ?_)
    decide
  · exact .inl rfl

/-- What small letters keep in ASCII they keep everywhere. -/
theorem apply_toLower {α : Type} {f : Char → α}
    (h : ∀ n : Fin 128, f (Char.ofNat n).toLower = f (Char.ofNat n)) (c : Char) :
    f c.toLower = f c := by
  rcases toLower_eq_or c with hc | hc
  · rw [hc]
  · exact of_forall_ascii (P := fun c => f c.toLower = f c) h hc

end Text

/-- **The normal form of an operator in ASCII**: its letters are capital and its blanks
collapsed. -/
theorem normalizeOperator_ascii {s : String} (h : Text.IsAscii s.toList) :
    normalizeOperator s = Text.asciiForm s := by
  unfold normalizeOperator
  rw [Text.capitals_ascii h, Text.words_eq_filter, Text.splitOnP_ascii h.map_toUpper]
  rfl

example : Text.collapse " NOT \t IN\n".toList = "NOT IN".toList := by decide

end RelMap
