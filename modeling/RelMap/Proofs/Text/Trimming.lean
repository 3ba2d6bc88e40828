import Mathlib.Data.List.DropRight
import RelMap.Proofs.Text.Numeral
import RelMap.Proofs.Text.Spelling

/-!
# Texts without their blanks

A text is what `trim` leaves of it with blanks at both ends (`Text.exists_trim`), and `trim` leaves
what neither begins nor ends with one.  In ASCII, with small letters, this is the bare form of the
text: what is left where neither blanks around it nor the case of its letters count.
-/

namespace RelMap.Text

/-- There is nothing but blanks of ASCII in the text. -/
def Blanks (s : List Char) : Prop := ∀ c ∈ s, isAsciiBlank c = true

instance (s : List Char) : Decidable (Blanks s) :=
  List.decidableBAll (fun c : Char => isAsciiBlank c = true) s

/-- The text in small letters, without the blanks around it. -/
def bareForm (s : List Char) : List Char :=
  ((s.dropWhile isAsciiBlank).rdropWhile isAsciiBlank).map Char.toLower

theorem Blanks.nil : Blanks [] := nofun

theorem Blanks.reverse {s : List Char} (h : Blanks s) : Blanks s.reverse :=
  fun c hc => h c (List.mem_reverse.mp hc)

/-- What holds of the blanks that are listed holds of every blank of ASCII. -/
theorem of_all_asciiBlanks {p : Char → Bool} (hall : asciiBlanks.all p = true) {c : Char}
    (h : isAsciiBlank c = true) : p c = true :=
  List.all_eq_true.mp hall c (List.contains_iff_mem.mp h)

theorem isBlank_of_isAsciiBlank {c : Char} (h : isAsciiBlank c = true) : isBlank c = true :=
  of_all_asciiBlanks (by decide) h

theorem isBlank_of_isDigit {c : Char} (h : c.isDigit = true) : isBlank c = false := by
  obtain ⟨hlow, hhigh⟩ := isDigit_iff.mp h
  simp only [isBlank, Bool.or_eq_false_iff, Bool.and_eq_false_iff, decide_eq_false_iff_not,
    beq_eq_false_iff_ne]
  omega

/-! ## Trimming -/

theorem trimStart_blanks_append {gap : List Char} (h : Blanks gap) (s : List Char) :
    trimStart (gap ++ s) = trimStart s :=
  List.dropWhile_append_of_pos fun c hc => isBlank_of_isAsciiBlank (h c hc)

theorem trimStart_of_blanks {gap : List Char} (h : Blanks gap) : trimStart gap = [] := by
  have happend := trimStart_blanks_append h []
  rw [List.append_nil] at happend
  exact happend

theorem isAscii_trimStart {s : List Char} (h : IsAscii s) : IsAscii (trimStart s) :=
  fun c hc => h c ((List.dropWhile_suffix _).subset hc)

theorem exists_trimStart {s : List Char} (h : IsAscii s) :
    ∃ gap, Blanks gap ∧ s = gap ++ trimStart s := by
  refine ⟨s.takeWhile isBlank, ?_, List.takeWhile_append_dropWhile.symm⟩
  intro c hc
  rw [← isBlank_ascii (h c ((List.takeWhile_prefix _).subset hc))]
  exact List.mem_takeWhile_imp hc

theorem exists_trimEnd {s : List Char} (h : IsAscii s) :
    ∃ gap, Blanks gap ∧ s = trimEnd s ++ gap := by
  refine ⟨s.rtakeWhile isBlank, ?_, (List.rdropWhile_append_rtakeWhile).symm⟩
  intro c hc
  rw [← isBlank_ascii (h c ((List.rtakeWhile_suffix _ s).subset hc))]
  exact List.mem_rtakeWhile_imp hc

theorem trimEnd_append_blanks {s gap : List Char} {c : Char} (hc : isBlank c = false)
    (h : Blanks gap) : trimEnd (s ++ c :: gap) = s ++ [c] := by
  have hreverse : (s ++ c :: gap).reverse = gap.reverse ++ c :: s.reverse := by simp
  have hstart : (gap.reverse ++ c :: s.reverse).dropWhile isBlank = c :: s.reverse := by
    change trimStart _ = _
    rw [trimStart_blanks_append h.reverse, trimStart_cons_of_not_blank hc]
  rw [trimEnd, hreverse, hstart, List.reverse_cons, List.reverse_reverse]

/-- **A text is what trimming leaves with blanks at both ends.** -/
theorem exists_trim {s : List Char} (h : IsAscii s) :
    ∃ lead tail, Blanks lead ∧ Blanks tail ∧ s = lead ++ (trim s ++ tail) ∧
      trimStart s = trim s ++ tail := by
  obtain ⟨lead, hlead, hs⟩ := exists_trimStart h
  obtain ⟨tail, htail, hr⟩ := exists_trimEnd (isAscii_trimStart h)
  refine ⟨lead, tail, hlead, htail, ?_, hr⟩
  rw [trim, ← hr]
  exact hs

theorem dropWhile_ascii {s : List Char} (h : IsAscii s) :
    s.dropWhile isBlank = s.dropWhile isAsciiBlank := by
  induction s with
  | nil => rfl
  | cons c s ih =>
    obtain ⟨hc, hs⟩ := List.forall_mem_cons.mp h
    rw [List.dropWhile_cons, List.dropWhile_cons, isBlank_ascii hc, ih hs]

/-- In ASCII the bare form of a text is what trimming leaves of it, in small letters. -/
theorem bareForm_eq {s : List Char} (h : IsAscii s) : bareForm s = (trim s).map Char.toLower := by
  have hstart : IsAscii (s.dropWhile isAsciiBlank) := fun c hc =>
    h c ((List.dropWhile_suffix _).subset hc)
  rw [bareForm, trim, trimStart, dropWhile_ascii h, trimEnd, dropWhile_ascii, List.rdropWhile]
  exact fun c hc => hstart c (List.mem_reverse.mp hc)

theorem isAscii_trim {s : List Char} (h : IsAscii s) : IsAscii (trim s) := by
  obtain ⟨lead, tail, -, -, hs, -⟩ := exists_trim h
  intro c hc
  refine h c ?_
  rw [hs]
  exact List.mem_append_right _ (List.mem_append_left _ hc)

/-! ## Letter case -/

/-- A small form is the character itself or a letter. -/
theorem toLower_eq_or_isAlpha (c : Char) : c.toLower = c ∨ c.toLower.isAlpha = true := by
  rcases toLower_eq_or c with hc | hc
  · exact .inl hc
  · exact of_forall_ascii (P := fun c => c.toLower = c ∨ c.toLower.isAlpha = true) (by decide) hc

theorem toLower_of_not_isAlpha {c : Char} (h : c.isAlpha = false) : c.toLower = c := by
  rcases toLower_eq_or c with hc | hc
  · exact hc
  · exact of_forall_ascii (P := fun c => c.isAlpha = false → c.toLower = c) (by decide) hc h

/-- Case is a matter of letters alone: the other characters of a text in small letters are those of
the text. -/
theorem map_toLower_eq_append_iff {s front rest : List Char} (h : ∀ c ∈ rest, c.isAlpha = false) :
    s.map Char.toLower = front ++ rest ↔
      ∃ word, word.map Char.toLower = front ∧ s = word ++ rest := by
  constructor
  · intro hs
    obtain ⟨word, others, rfl, hword, rfl⟩ := List.map_eq_append_iff.mp hs
    refine ⟨word, hword, congrArg (word ++ ·) ?_⟩
    refine (List.map_id others).symm.trans (List.map_congr_left fun c hc => ?_)
    have hsmall := h c.toLower (List.mem_map_of_mem hc)
    rcases toLower_eq_or_isAlpha c with heq | halpha
    · exact heq.symm
    · cases hsmall.symm.trans halpha
  · rintro ⟨word, rfl, rfl⟩
    rw [List.map_append]
    refine congrArg (List.map _ word ++ ·) ?_
    exact (List.map_congr_left fun c hc => toLower_of_not_isAlpha (h c hc)).trans (List.map_id _)

theorem map_toLower_of_toUpper {s : List Char} (h : IsAscii s) :
    (s.map Char.toUpper).map Char.toLower = s.map Char.toLower := by
  rw [List.map_map]
  exact List.map_congr_left fun c hc =>
    of_forall_ascii (P := fun c => c.toUpper.toLower = c.toLower) (by decide) (h c hc)

theorem map_toUpper_of_toLower {s : List Char} (h : IsAscii s) :
    (s.map Char.toLower).map Char.toUpper = s.map Char.toUpper := by
  rw [List.map_map]
  exact List.map_congr_left fun c hc =>
    of_forall_ascii (P := fun c => c.toLower.toUpper = c.toUpper) (by decide) (h c hc)

end RelMap.Text
