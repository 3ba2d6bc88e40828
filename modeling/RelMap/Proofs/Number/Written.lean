import RelMap.Number.Decimal
import RelMap.Proofs.Text.Numeral

/-!
# Reading decimal numbers that were written

Every number that is within reach reads back as it was written, with its trailing zeros, and so do
the infinities (`Decimal.ofText?_text`).  A number is written in one of several forms; all of them
are digits with a point and an exponent, and reading takes the places behind the point off the
exponent.
-/

namespace RelMap

open Text

namespace Decimal

/-! ## Plain texts -/

/-- Is a character passed on as it is when a number is read? -/
def IsPlain (c : Char) : Prop :=
  0 < c.toNat ∧ c.toNat ≤ 0x7F ∧ c ≠ '_' ∧ isBlank c = false

instance (c : Char) : Decidable (IsPlain c) :=
  inferInstanceAs (Decidable (0 < c.toNat ∧ c.toNat ≤ 0x7F ∧ c ≠ '_' ∧ isBlank c = false))

theorem isPlain_of_isDigit {c : Char} (h : c.isDigit = true) : IsPlain c := by
  obtain ⟨hlow, hhigh⟩ := isDigit_iff.mp h
  refine ⟨by omega, by omega, ne_of_isDigit h rfl, ?_⟩
  simp only [isBlank, Bool.or_eq_false_iff, Bool.and_eq_false_iff, decide_eq_false_iff_not,
    beq_eq_false_iff_ne]
  omega

theorem trimStart_of_plain {s : List Char} (h : ∀ c ∈ s, IsPlain c) : trimStart s = s := by
  cases s with
  | nil => rfl
  | cons c s => exact trimStart_cons_of_not_blank (h c List.mem_cons_self).2.2.2

theorem trim_of_plain {s : List Char} (h : ∀ c ∈ s, IsPlain c) : trim s = s := by
  have hreverse : s.reverse.dropWhile isBlank = s.reverse :=
    trimStart_of_plain fun c hc => h c (List.mem_reverse.mp hc)
  rw [trim, trimStart_of_plain h, trimEnd, hreverse, List.reverse_reverse]

theorem mapM_eq_some_self {α : Type} {f : α → Option α} {xs : List α}
    (h : ∀ x ∈ xs, f x = some x) : xs.mapM f = some xs := by
  induction xs with
  | nil => rfl
  | cons x xs ih =>
    rw [List.mapM_cons, h x List.mem_cons_self, ih fun y hy => h y (List.mem_cons_of_mem x hy)]
    rfl

/-- A plain text is read as it stands. -/
theorem plainText?_of_plain {s : List Char} (h : ∀ c ∈ s, IsPlain c) : plainText? s = some s := by
  have hkept : s.filter (· ≠ '_') = s :=
    List.filter_eq_self.mpr fun c hc => decide_eq_true (h c hc).2.2.1
  rw [plainText?, trim_of_plain h, hkept]
  refine mapM_eq_some_self fun c hc => ?_
  obtain ⟨hlow, hhigh, -, -⟩ := h c hc
  simp [hlow, hhigh]

/-! ## Signs and exponents -/

theorem splitSign_of_isDigit {c : Char} (hc : c.isDigit = true) (r : List Char) :
    splitSign (c :: r) = (false, c :: r) := by
  have hminus : c ≠ '-' := ne_of_isDigit hc rfl
  have hplus : c ≠ '+' := ne_of_isDigit hc rfl
  simp [splitSign, hminus, hplus]

/-- The exponent that is written is the one that is read. -/
theorem exponent?_exponentText (e : Int) : exponent? (exponentText e) = some e := by
  have hread : ((digitsOf e.natAbs).isEmpty || !(digitsOf e.natAbs).all Char.isDigit) = false := by
    rw [Bool.or_eq_false_iff, Bool.not_eq_false', List.all_eq_true, List.isEmpty_eq_false_iff]
    exact ⟨digitsOf_ne_nil _, digits_digitsOf _⟩
  unfold exponentText
  split
  · next hzero => rw [hzero]; rfl
  · split
    · next hneg =>
      change (if _ then none else some (-(natOfDigits (digitsOf e.natAbs) : Int))) = some e
      rw [if_neg (ne_true_of_eq_false hread), natOfDigits_digitsOf]
      congr 1
      omega
    · next hpos =>
      change (if _ then none else some ((natOfDigits (digitsOf e.natAbs) : Int))) = some e
      rw [if_neg (ne_true_of_eq_false hread), natOfDigits_digitsOf]
      congr 1
      omega

/-- What is written of an exponent begins with its mark. -/
theorem exponentText_cases (e : Int) : exponentText e = [] ∨ ∃ r, exponentText e = 'E' :: r := by
  unfold exponentText
  split
  · exact .inl rfl
  · exact .inr ⟨_, rfl⟩

/-- The digits end where the exponent begins. -/
theorem takeWhile_exponentText {ds : List Char} (hds : Digits ds) (e : Int) :
    (ds ++ exponentText e).takeWhile Char.isDigit = ds := by
  rw [List.takeWhile_append_of_pos hds]
  rcases exponentText_cases e with h | ⟨r, h⟩ <;> rw [h] <;> exact List.append_nil ds

theorem dropWhile_exponentText {ds : List Char} (hds : Digits ds) (e : Int) :
    (ds ++ exponentText e).dropWhile Char.isDigit = exponentText e := by
  rw [List.dropWhile_append_of_pos hds]
  rcases exponentText_cases e with h | ⟨r, h⟩ <;> rw [h] <;> rfl

/-! ## Numbers with a point -/

/-- The number of some digits that is scaled by a power of ten, if it is within reach. -/
def scaled? (negative : Bool) (ds : List Char) (exponent : Int) : Option Decimal :=
  if inReach (natOfDigits ds) exponent then some (.finite negative (natOfDigits ds) exponent)
  else none

/-- Digits without a point. -/
theorem finite?_whole {whole : List Char} (negative : Bool) (hwhole : Digits whole)
    (hsome : whole ≠ []) (e : Int) :
    finite? negative (whole ++ exponentText e) = scaled? negative whole e := by
  have hread := exponent?_exponentText e
  have hrest := dropWhile_exponentText hwhole e
  have hsome' : whole.isEmpty = false := List.isEmpty_eq_false_iff.mpr hsome
  unfold finite? scaled?
  simp only [takeWhile_exponentText hwhole, hrest, hsome', Bool.false_and, Bool.false_eq_true,
    if_false]
  rcases exponentText_cases e with h | ⟨r, h⟩ <;> rw [h] at hread ⊢ <;> simp [hread]

/-- Digits on both sides of a point: those behind it lower the exponent. -/
theorem finite?_point {whole fraction : List Char} (negative : Bool) (hwhole : Digits whole)
    (hfraction : Digits fraction) (hsome : whole ≠ []) (e : Int) :
    finite? negative (whole ++ '.' :: (fraction ++ exponentText e)) =
      scaled? negative (whole ++ fraction) (e - fraction.length) := by
  have htake : (whole ++ '.' :: (fraction ++ exponentText e)).takeWhile Char.isDigit = whole := by
    rw [List.takeWhile_append_of_pos hwhole]
    exact List.append_nil whole
  have hdrop : (whole ++ '.' :: (fraction ++ exponentText e)).dropWhile Char.isDigit =
      '.' :: (fraction ++ exponentText e) := by
    rw [List.dropWhile_append_of_pos hwhole]
    rfl
  have hsome' : whole.isEmpty = false := List.isEmpty_eq_false_iff.mpr hsome
  unfold finite? scaled?
  simp only [htake, hdrop, takeWhile_exponentText hfraction, dropWhile_exponentText hfraction,
    exponent?_exponentText, hsome', Bool.false_and, Bool.false_eq_true, if_false,
    Option.bind_eq_bind, Option.bind_some]

/-- A point behind so many digits lowers the exponent by the number of the others. -/
theorem finite?_pointed {ds : List Char} (negative : Bool) (hds : Digits ds) (hsome : ds ≠ [])
    {place : Int} (hplace : place ≤ ds.length) (e : Int) :
    finite? negative (pointed ds place ++ exponentText e) =
      scaled? negative ds (e + place - ds.length) := by
  unfold pointed
  split
  · next hbefore =>
    -- The point stands before all digits, with zeros between.
    have hzeros : Digits ['0'] := digits_zeros 1
    have hread := finite?_point negative hzeros ((digits_zeros place.natAbs).append hds)
      (List.cons_ne_nil _ _) e
    have hvalue : natOfDigits (['0'] ++ (List.replicate place.natAbs '0' ++ ds)) =
        natOfDigits ds :=
      (natOfDigits_zeros_append 1 ((digits_zeros _).append hds)).trans
        (natOfDigits_zeros_append _ hds)
    have hplaces : e - (List.replicate place.natAbs '0' ++ ds).length = e + place - ds.length := by
      rw [List.length_append, List.length_replicate]
      omega
    rw [scaled?, hvalue, hplaces] at hread
    exact hread
  · split
    · next hafter =>
      have hlength : place = ds.length := by omega
      rw [hlength, Int.toNat_natCast, Nat.sub_self, List.replicate_zero, List.append_nil,
        finite?_whole negative hds hsome, Int.add_sub_cancel]
    · next hinside =>
      have hwhole : Digits (ds.take place.toNat) := fun c hc => hds c (List.mem_of_mem_take hc)
      have hfraction : Digits (ds.drop place.toNat) := fun c hc => hds c (List.mem_of_mem_drop hc)
      have hsome' : ds.take place.toNat ≠ [] := by
        rw [← List.length_pos_iff, List.length_take]
        have := List.length_pos_iff.mpr hsome
        omega
      have hplaces : e - (ds.drop place.toNat).length = e + place - ds.length := by
        rw [List.length_drop]
        omega
      rw [List.append_assoc, List.cons_append, finite?_point negative hwhole hfraction hsome',
        List.take_append_drop, hplaces]

/-! ## All numbers -/

theorem isPlain_digits {ds : List Char} (hds : Digits ds) : ∀ c ∈ ds, IsPlain c :=
  fun c hc => isPlain_of_isDigit (hds c hc)

theorem isPlain_pointed {ds : List Char} (hds : Digits ds) (place : Int) :
    ∀ c ∈ pointed ds place, IsPlain c := by
  have hpoint : IsPlain '.' := by decide
  unfold pointed
  split
  · exact List.forall_mem_cons.mpr ⟨by decide, List.forall_mem_cons.mpr
      ⟨hpoint, isPlain_digits ((digits_zeros _).append hds)⟩⟩
  · split
    · exact isPlain_digits (hds.append (digits_zeros _))
    · exact List.forall_mem_append.mpr ⟨fun c hc => isPlain_digits hds c (List.mem_of_mem_take hc),
        List.forall_mem_cons.mpr
          ⟨hpoint, fun c hc => isPlain_digits hds c (List.mem_of_mem_drop hc)⟩⟩

theorem isPlain_exponentText (e : Int) : ∀ c ∈ exponentText e, IsPlain c := by
  unfold exponentText
  split
  · exact nofun
  · refine List.forall_mem_cons.mpr ⟨by decide, List.forall_mem_cons.mpr
      ⟨?_, isPlain_digits (digits_digitsOf _)⟩⟩
    split <;> decide

theorem isPlain_signText (negative : Bool) : ∀ c ∈ signText negative, IsPlain c := by
  cases negative with
  | false => exact nofun
  | true => exact List.forall_mem_singleton.mpr (by decide)

/-- The digits of a number with a point begin with a digit. -/
theorem exists_pointed {ds : List Char} (hds : Digits ds) (hsome : ds ≠ []) (place : Int) :
    ∃ c r, pointed ds place = c :: r ∧ c.isDigit = true := by
  obtain ⟨c, r, rfl⟩ := List.exists_cons_of_ne_nil hsome
  have hc : c.isDigit = true := hds c List.mem_cons_self
  unfold pointed
  split
  · exact ⟨'0', _, rfl, rfl⟩
  · split
    · exact ⟨c, _, rfl, hc⟩
    · obtain ⟨n, hn⟩ : ∃ n, place.toNat = n + 1 := ⟨place.toNat - 1, by omega⟩
      rw [hn]
      exact ⟨c, _, rfl, hc⟩

/-- Does a number read back?  A not-a-number is not equal to itself, and a finite number must be
within reach. -/
def isLegible : Decimal → Bool
  | .finite _ coefficient exponent => inReach coefficient exponent
  | .infinite _ => true
  | .nan _ _ _ => false

/-- A sign, digits with a point and an exponent are read as one number. -/
theorem ofText?_pointed (negative : Bool) {ds : List Char} (hds : Digits ds) (hsome : ds ≠ [])
    {place : Int} (hplace : place ≤ ds.length) {e : Int}
    (hreach : inReach (natOfDigits ds) (e + place - ds.length) = true) :
    ofText? (String.ofList (signText negative ++ pointed ds place ++ exponentText e)) =
      some (.finite negative (natOfDigits ds) (e + place - ds.length)) := by
  have hplain : ∀ c ∈ signText negative ++ pointed ds place ++ exponentText e, IsPlain c :=
    List.forall_mem_append.mpr ⟨List.forall_mem_append.mpr ⟨isPlain_signText negative,
      isPlain_pointed hds place⟩, isPlain_exponentText e⟩
  have hread := finite?_pointed negative hds hsome hplace e
  rw [scaled?, if_pos hreach] at hread
  obtain ⟨c, r, hcr, hc⟩ := exists_pointed hds hsome place
  rw [hcr, List.cons_append] at hread
  have hsplit : splitSign (signText negative ++ c :: (r ++ exponentText e)) =
      (negative, c :: (r ++ exponentText e)) := by
    cases negative with
    | true => rfl
    | false => exact splitSign_of_isDigit hc _
  rw [ofText?, String.toList_ofList, plainText?_of_plain hplain, hcr, List.append_assoc,
    List.cons_append]
  simp only [Option.bind_eq_bind, Option.bind_some, hsplit, hread]

/-- **A decimal number that is written reads back.** -/
theorem ofText?_text {d : Decimal} (h : d.isLegible = true) : ofText? d.text = some d := by
  cases d with
  | finite negative coefficient exponent =>
    have hlength : 0 < (digitsOf coefficient).length :=
      List.length_pos_iff.mpr (digitsOf_ne_nil coefficient)
    -- Whatever stands for the place of the point, the exponent takes up the rest.
    have hall : ∀ place : Int, place ≤ (digitsOf coefficient).length →
        ofText? (String.ofList (signText negative ++ pointed (digitsOf coefficient) place ++
          exponentText (exponent + (digitsOf coefficient).length - place))) =
        some (.finite negative coefficient exponent) := by
      intro place hplace
      have hexponent : exponent + (digitsOf coefficient).length - place + place -
          (digitsOf coefficient).length = exponent := by omega
      have hread := ofText?_pointed negative (digits_digitsOf coefficient)
        (digitsOf_ne_nil coefficient) hplace
        (e := exponent + (digitsOf coefficient).length - place)
      rw [natOfDigits_digitsOf, hexponent] at hread
      exact hread h
    unfold text
    dsimp only
    split
    · next hsmall =>
      rw [Bool.and_eq_true, decide_eq_true_eq, decide_eq_true_eq] at hsmall
      exact hall _ (by omega)
    · exact hall 1 (by omega)
  | infinite negative => cases negative <;> rfl
  | nan _ _ _ => cases h

end Decimal

end RelMap
