import RelMap.Calendar.Reading
import RelMap.Proofs.Text.Numeral

/-!
# Reading moments that were written

A day that is written in the extended ISO format reads back as itself (`Date.ofText?_iso`), and so
does a day with a time (`Moment.instantOfText?_iso`), but for its zone: an offset of less than a
second reads back as universal time.

The reading works on bytes and by position.  What is written is ASCII, so its bytes are its
characters, and the numbers are padded, so each part of a moment stands at its place.
-/

namespace RelMap

open Text

namespace Reading

/-! ## Bytes of ASCII -/

def IsAscii (s : List Char) : Prop := ∀ c ∈ s, c.toNat < 128

theorem IsAscii.append {s t : List Char} (hs : IsAscii s) (ht : IsAscii t) : IsAscii (s ++ t) :=
  List.forall_mem_append.mpr ⟨hs, ht⟩

theorem IsAscii.cons {c : Char} {s : List Char} (hc : c.toNat < 128) (hs : IsAscii s) :
    IsAscii (c :: s) :=
  List.forall_mem_cons.mpr ⟨hc, hs⟩

theorem IsAscii.nil : IsAscii [] := nofun

theorem isAscii_of_digits {s : List Char} (h : Digits s) : IsAscii s := by
  intro c hc
  have := isDigit_iff.mp (h c hc)
  omega

theorem isAscii_padded (width n : Nat) : IsAscii (padded width n) :=
  isAscii_of_digits (digits_padded width n)

/-- The loop that lists the bytes of an array puts what is left behind what it has. -/
theorem toList_loop (b : ByteArray) (i : Nat) (r : List UInt8) :
    ByteArray.toList.loop b i r = r.reverse ++ b.data.toList.drop i := by
  fun_induction ByteArray.toList.loop b i r with
  | case1 i r hi ih =>
    have hlength : i < b.data.toList.length := hi
    have hget : b.get! i = b.data.toList[i] := getElem!_pos b.data i hi
    rw [ih, List.drop_eq_getElem_cons hlength, hget, List.reverse_cons, List.append_assoc]
    rfl
  | case2 i r hi =>
    have hlength : b.data.toList.length ≤ i := Nat.le_of_not_lt hi
    rw [List.drop_eq_nil_of_le hlength, List.append_nil]

theorem utf8EncodeChar_of_ascii {c : Char} (h : c.toNat < 128) :
    String.utf8EncodeChar c = [UInt8.ofNat c.toNat] := by
  have hc : c.val.toNat ≤ 127 := Nat.le_of_lt_succ h
  rw [String.utf8EncodeChar.eq_def]
  exact if_pos hc

theorem toByteArray_of_ascii {s : List Char} (h : IsAscii s) :
    (String.ofList s).toByteArray = (s.map fun c => UInt8.ofNat c.toNat).toByteArray := by
  rw [String.toByteArray_ofList, List.utf8Encode, List.map_eq_flatMap]
  exact congrArg _ (List.flatMap_congr fun c hc => utf8EncodeChar_of_ascii (h c hc))

theorem utf8ByteSize_of_ascii {s : List Char} (h : IsAscii s) :
    (String.ofList s).utf8ByteSize = s.length := by
  change (String.ofList s).toByteArray.size = s.length
  rw [toByteArray_of_ascii h, List.size_toByteArray, List.length_map]

/-- The bytes of an ASCII text are its characters. -/
theorem bytesOf_of_ascii {s : List Char} (h : IsAscii s) : bytesOf (String.ofList s) = s := by
  have hback : ∀ c ∈ s, Char.ofNat (UInt8.ofNat c.toNat).toNat = c := by
    intro c hc
    have hlt := h c hc
    rw [UInt8.toNat_ofNat', Nat.mod_eq_of_lt (by omega), Char.ofNat_toNat]
  rw [bytesOf, String.toUTF8_eq_toByteArray, toByteArray_of_ascii h, ByteArray.toList, toList_loop,
    List.toList_data_toByteArray, List.reverse_nil, List.nil_append, List.drop_zero, List.map_map]
  exact (List.map_congr_left hback).trans (List.map_id' s)

/-! ## Numbers -/

/-- A number of so many digits is read, and what follows it is left. -/
theorem number?_append {count : Nat} {ds : List Char} (hlength : ds.length = count)
    (hds : Digits ds) (rest : List Char) :
    number? count (ds ++ rest) = some (natOfDigits ds, rest) := by
  have hall : ds.all Char.isDigit = true := List.all_eq_true.mpr hds
  unfold number?
  rw [← hlength, List.take_left, List.drop_left]
  simp [hall]

theorem number?_padded {width n : Nat} (hwidth : 0 < width) (hn : n < 10 ^ width)
    (rest : List Char) : number? width (padded width n ++ rest) = some (n, rest) := by
  rw [number?_append (length_padded hwidth hn) (digits_padded width n), natOfDigits_padded]

theorem number?_two {n : Nat} (hn : n < 100) (rest : List Char) :
    number? 2 (padded 2 n ++ rest) = some (n, rest) :=
  number?_padded (by decide) hn rest

/-- A number of two digits begins with a digit. -/
theorem exists_padded_two {n : Nat} (hn : n < 100) :
    ∃ a b, padded 2 n = [a, b] ∧ a.isDigit = true := by
  obtain ⟨a, b, hab⟩ := List.length_eq_two.mp (length_padded (Nat.succ_pos 1) hn)
  refine ⟨a, b, hab, digits_padded 2 n a ?_⟩
  rw [hab]
  exact List.mem_cons_self

end Reading

/-! ## Days -/

namespace Date

/-- What a valid day says of its numbers. -/
theorem bounds (d : Date) : d.year < 10000 ∧ d.month < 100 ∧ d.day < 100 := by
  have hvalid := d.valid
  simp only [isDay, Bool.and_eq_true, decide_eq_true_eq] at hvalid
  obtain ⟨⟨⟨⟨⟨-, hyear⟩, -⟩, hmonth⟩, -⟩, hday⟩ := hvalid
  have hlast : daysInMonth d.year d.month ≤ 31 := by
    unfold daysInMonth
    split
    · split <;> decide
    · split <;> decide
  omega

theorem length_iso (d : Date) : d.iso.length = 10 := by
  obtain ⟨hyear, hmonth, hday⟩ := d.bounds
  rw [iso, List.length_append, List.length_cons, List.length_append, List.length_cons,
    length_padded (by decide) hyear, length_padded (by decide) hmonth,
    length_padded (by decide) hday]

theorem isAscii_iso (d : Date) : Reading.IsAscii d.iso :=
  (Reading.isAscii_padded 4 d.year).append (.cons (by decide)
    ((Reading.isAscii_padded 2 d.month).append (.cons (by decide)
      (Reading.isAscii_padded 2 d.day))))

/-- The year takes four characters, and the month begins with a digit. -/
theorem iso_append (d : Date) (rest : List Char) :
    ∃ a b, padded 2 d.month = [a, b] ∧ a ≠ 'W' ∧ d.iso ++ rest =
      padded 4 d.year ++ '-' :: a :: b :: '-' :: (padded 2 d.day ++ rest) := by
  obtain ⟨a, b, hab, ha⟩ := Reading.exists_padded_two d.bounds.2.1
  refine ⟨a, b, hab, ne_of_isDigit ha rfl, ?_⟩
  rw [iso, hab]
  simp only [List.append_assoc, List.cons_append, List.nil_append]

end Date

namespace Reading

/-- A day in the extended format is read, whatever follows it. -/
theorem date?_iso (length : Nat) (d : Date) (rest : List Char) :
    date? length (d.iso ++ rest) = some d := by
  obtain ⟨hyear, hmonth, hday⟩ := d.bounds
  obtain ⟨a, b, hab, hweek, htext⟩ := d.iso_append rest
  have hread : number? 2 (a :: b :: '-' :: (padded 2 d.day ++ rest)) =
      some (d.month, '-' :: (padded 2 d.day ++ rest)) := by
    have := number?_two hmonth ('-' :: (padded 2 d.day ++ rest))
    rwa [hab] at this
  rw [htext, date?, number?_padded (by decide) hyear]
  simp [hweek, hread, dash?, number?_two hday, Date.of?_eq_some]

/-- The day at the start of a longer text takes ten bytes: its first dash is the fifth. -/
theorem dayLength_iso {size : Nat} (hsize : size ≠ 7) (d : Date) (rest : List Char) :
    dayLength size (d.iso ++ rest) = 10 := by
  obtain ⟨a, b, -, hweek, htext⟩ := d.iso_append rest
  have hyear : (padded 4 d.year).length = 4 := length_padded (by decide) d.bounds.1
  have hat : ∀ n, (d.iso ++ rest)[4 + n]? =
      ('-' :: a :: b :: '-' :: (padded 2 d.day ++ rest))[n]? := by
    intro n
    rw [htext, List.getElem?_append_right (by omega), hyear, Nat.add_sub_cancel_left]
  have hdash : (d.iso ++ rest)[4]? = some '-' := hat 0
  have hmonth : (d.iso ++ rest)[5]? = some a := hat 1
  unfold dayLength
  simp [hsize, hdash, hmonth, hweek]

end Reading

/-- **A day that is written reads back.** -/
theorem Date.ofText?_iso (d : Date) : Date.ofText? (String.ofList d.iso) = some d := by
  have hsize : (String.ofList d.iso).utf8ByteSize = 10 := by
    rw [Reading.utf8ByteSize_of_ascii d.isAscii_iso, d.length_iso]
  have hread := Reading.date?_iso 10 d []
  rw [List.append_nil] at hread
  rw [Date.ofText?, hsize, Reading.bytesOf_of_ascii d.isAscii_iso]
  exact hread

/-! ## Times -/

namespace Reading

/-- The fraction of a second that is written: nothing, or a point and six digits. -/
def fractionIso (micro : Nat) : List Char := if micro = 0 then [] else '.' :: padded 6 micro

theorem fraction?_padded (p : Parts) {micro : Nat} (hmicro : micro < 1000000) :
    fraction? p (padded 6 micro) = some (⟨p.hour, p.minute, p.second, micro⟩, true) := by
  have hlength : (padded 6 micro).length = 6 := length_padded (by decide) hmicro
  have hread : number? 6 (padded 6 micro ++ []) = some (micro, []) :=
    number?_padded (by decide) hmicro []
  rw [List.append_nil] at hread
  unfold fraction?
  simp [hlength, hread, ends]

/-- After a point the fraction of a second follows. -/
theorem gap?_fraction {micro : Nat} (hmicro : micro < 1000000) :
    gap? true ('.' :: padded 6 micro) = some (.fraction (padded 6 micro)) := by
  have hlength : (padded 6 micro).length = 6 := length_padded (by decide) hmicro
  cases hdigits : padded 6 micro with
  | nil =>
    rw [hdigits] at hlength
    cases hlength
  | cons c r => rfl

/-- After a colon the next part follows. -/
theorem gap?_padded {n : Nat} (hn : n < 100) (rest : List Char) :
    gap? true (':' :: (padded 2 n ++ rest)) = some (.next (padded 2 n ++ rest)) := by
  obtain ⟨a, b, hab, -⟩ := exists_padded_two hn
  rw [hab]
  rfl

theorem gap?_nil (colons : Bool) : gap? colons [] = some (.finished true) := rfl

/-- Parts of a time up to the minute. -/
theorem parts?_minute {h m : Nat} (hh : h < 100) (hm : m < 100) :
    parts? (padded 2 h ++ ':' :: padded 2 m) = some (⟨h, m, 0, 0⟩, true) := by
  have hgap := gap?_padded hm []
  have hread := number?_two hm []
  rw [List.append_nil] at hgap hread
  unfold parts?
  simp only [number?_two hh, hread, hgap, gap?_nil, Option.bind_eq_bind, Option.bind_some,
    List.head?_cons, beq_self_eq_true]

/-- Parts of a time up to the second or its fraction. -/
theorem parts?_second {h m s micro : Nat} (hh : h < 100) (hm : m < 100) (hs : s < 100)
    (hmicro : micro < 1000000) :
    parts? (padded 2 h ++ ':' :: (padded 2 m ++ ':' :: (padded 2 s ++ fractionIso micro))) =
      some (⟨h, m, s, micro⟩, true) := by
  unfold parts? fractionIso
  split
  · next hzero =>
    simp only [number?_two hh, number?_two hm, number?_two hs, gap?_padded hm, gap?_padded hs,
      gap?_nil, Option.bind_eq_bind, Option.bind_some, List.head?_cons, beq_self_eq_true, hzero]
  · simp only [number?_two hh, number?_two hm, number?_two hs, gap?_padded hm, gap?_padded hs,
      gap?_fraction hmicro, fraction?_padded _ hmicro, Option.bind_eq_bind, Option.bind_some,
      List.head?_cons, beq_self_eq_true]

end Reading

namespace Clock

/-- What a valid time says of its numbers. -/
theorem bounds (t : Clock) :
    t.hour < 100 ∧ t.minute < 100 ∧ t.second < 100 ∧ t.micro < 1000000 := by
  have hvalid := t.valid
  simp only [isTimeOfDay, Bool.and_eq_true, decide_eq_true_eq] at hvalid
  omega

theorem iso_eq (t : Clock) : t.iso = padded 2 t.hour ++ ':' :: (padded 2 t.minute ++
    ':' :: (padded 2 t.second ++ Reading.fractionIso t.micro)) := rfl

theorem of?_eq_some (t : Clock) : of? t.hour t.minute t.second t.micro = some t := by
  rw [of?, dif_pos t.valid]

end Clock

namespace Offset

/-- The offset that is read where one is written: one of less than a second is universal time. -/
def asRead (o : Offset) : Offset := if o.micros.natAbs < 1000000 then .utc else o

theorem of?_eq_some (o : Offset) : of? o.micros = some o := by
  rw [of?, dif_pos o.valid]

/-- An offset begins with its sign. -/
theorem iso_eq_cons (o : Offset) :
    ∃ sign, o.iso = sign :: o.iso.tail ∧ (sign = '+' ∨ sign = '-') ∧
      decide (sign = '-') = decide (o.micros < 0) := by
  refine ⟨if o.micros < 0 then '-' else '+', rfl, ?_, ?_⟩
  · split
    · exact .inr rfl
    · exact .inl rfl
  · split
    · next hwest => rw [decide_eq_true hwest]; rfl
    · next hwest => rw [decide_eq_false hwest]; rfl

end Offset

namespace Reading

theorem parts?_clock (t : Clock) :
    parts? t.iso = some (⟨t.hour, t.minute, t.second, t.micro⟩, true) := by
  obtain ⟨hh, hm, hs, hmicro⟩ := t.bounds
  rw [t.iso_eq]
  exact parts?_second hh hm hs hmicro

/-- The parts of an offset, as they are read. -/
def offsetParts (o : Offset) : Parts :=
  let n := o.micros.natAbs
  ⟨n / 1000000 / 3600, n / 1000000 / 60 % 60, n / 1000000 % 60, n % 1000000⟩

theorem parts?_offset (o : Offset) : parts? o.iso.tail = some (offsetParts o, true) := by
  have hhour : o.micros.natAbs / 1000000 / 3600 < 100 := by
    have := o.valid
    unfold dayMicros at this
    omega
  have hminute : o.micros.natAbs / 1000000 / 60 % 60 < 100 := by omega
  have hsecond : o.micros.natAbs / 1000000 % 60 < 100 := by omega
  have hmicro : o.micros.natAbs % 1000000 < 1000000 := by omega
  unfold Offset.iso
  dsimp only [List.tail_cons]
  split
  · next hshort =>
    rw [Bool.and_eq_true, decide_eq_true_eq, decide_eq_true_eq] at hshort
    rw [List.append_nil, parts?_minute hhour hminute, offsetParts, hshort.1, hshort.2]
  · exact parts?_second hhour hminute hsecond hmicro

/-- The parts of an offset make up the offset again, unless they are less than a second. -/
theorem offset?_parts (o : Offset) :
    offset? (decide (o.micros < 0)) (offsetParts o) = some o.asRead := by
  have hseconds : o.micros.natAbs / 1000000 / 3600 * 3600 +
      o.micros.natAbs / 1000000 / 60 % 60 * 60 + o.micros.natAbs / 1000000 % 60 =
      o.micros.natAbs / 1000000 := by omega
  unfold offset? Offset.asRead
  dsimp only [offsetParts]
  rw [hseconds]
  by_cases hless : o.micros.natAbs < 1000000
  · rw [if_pos (Nat.div_eq_of_lt hless), if_pos hless]
  · have hvalue : (if decide (o.micros < 0) = true then
        -((o.micros.natAbs / 1000000 : Nat) * 1000000 + (o.micros.natAbs % 1000000 : Nat) : Int)
        else (o.micros.natAbs / 1000000 : Nat) * 1000000 + (o.micros.natAbs % 1000000 : Nat)) =
        o.micros := by
      split
      · next hwest =>
        rw [decide_eq_true_eq] at hwest
        omega
      · next hwest =>
        rw [decide_eq_true_eq] at hwest
        omega
    rw [if_neg (by omega), if_neg hless, hvalue, o.of?_eq_some]

/-- The characters that times are written with. -/
def IsOfTime (c : Char) : Prop := c.isDigit = true ∨ c = ':' ∨ c = '.'

theorem isOfTime_padded (width n : Nat) : ∀ c ∈ padded width n, IsOfTime c :=
  fun c hc => .inl (digits_padded width n c hc)

theorem isOfTime_fractionIso (micro : Nat) : ∀ c ∈ fractionIso micro, IsOfTime c := by
  unfold fractionIso
  split
  · exact nofun
  · exact List.forall_mem_cons.mpr ⟨.inr (.inr rfl), isOfTime_padded 6 micro⟩

theorem isOfTime_clock (t : Clock) : ∀ c ∈ t.iso, IsOfTime c := by
  rw [t.iso_eq]
  refine List.forall_mem_append.mpr ⟨isOfTime_padded 2 _, ?_⟩
  refine List.forall_mem_cons.mpr ⟨.inr (.inl rfl), ?_⟩
  refine List.forall_mem_append.mpr ⟨isOfTime_padded 2 _, ?_⟩
  refine List.forall_mem_cons.mpr ⟨.inr (.inl rfl), ?_⟩
  exact List.forall_mem_append.mpr ⟨isOfTime_padded 2 _, isOfTime_fractionIso _⟩

theorem isOfTime_offset (o : Offset) : ∀ c ∈ o.iso.tail, IsOfTime c := by
  unfold Offset.iso
  dsimp only [List.tail_cons]
  refine List.forall_mem_append.mpr ⟨isOfTime_padded 2 _, ?_⟩
  refine List.forall_mem_cons.mpr ⟨.inr (.inl rfl), ?_⟩
  refine List.forall_mem_append.mpr ⟨isOfTime_padded 2 _, ?_⟩
  split
  · exact nofun
  · refine List.forall_mem_cons.mpr ⟨.inr (.inl rfl), ?_⟩
    exact List.forall_mem_append.mpr ⟨isOfTime_padded 2 _, isOfTime_fractionIso _⟩

/-- A character of a time is ASCII and begins no zone. -/
theorem IsOfTime.plain {c : Char} (h : IsOfTime c) :
    c.toNat < 128 ∧ c ≠ '+' ∧ c ≠ '-' ∧ c ≠ 'Z' := by
  rcases h with hdigit | rfl | rfl
  · have hrange := isDigit_iff.mp hdigit
    exact ⟨by omega, ne_of_isDigit hdigit rfl, ne_of_isDigit hdigit rfl, ne_of_isDigit hdigit rfl⟩
  · decide
  · decide

theorem isAscii_of_time {s : List Char} (h : ∀ c ∈ s, IsOfTime c) : IsAscii s :=
  fun c hc => (h c hc).plain.1

theorem isAscii_zoneIso (zone : Option Offset) : IsAscii (zoneIso zone) := by
  cases zone with
  | none => exact .nil
  | some o =>
    obtain ⟨sign, hiso, hsign, -⟩ := o.iso_eq_cons
    rw [zoneIso, hiso]
    refine .cons ?_ (isAscii_of_time (isOfTime_offset o))
    rcases hsign with rfl | rfl <;> decide

/-- A time of day with its zone is read. -/
theorem time?_iso (t : Clock) (zone : Option Offset) :
    time? (t.iso ++ zoneIso zone) = some (t, zone.map Offset.asRead) := by
  have hclock : ∀ c ∈ t.iso,
      (!(decide (c = '+') || decide (c = '-') || decide (c = 'Z'))) = true := by
    intro c hc
    obtain ⟨-, hplus, hminus, hz⟩ := (isOfTime_clock t c hc).plain
    simp only [hplus, hminus, hz, decide_false, Bool.or_self, Bool.not_false]
  unfold time?
  dsimp only
  rw [List.takeWhile_append_of_pos hclock, List.dropWhile_append_of_pos hclock]
  cases zone with
  | none => simp [zoneIso, parts?_clock, Clock.of?_eq_some]
  | some o =>
    obtain ⟨sign, hiso, hsign, hwest⟩ := o.iso_eq_cons
    have hoffset := offset?_parts o
    rw [← hwest] at hoffset
    rw [zoneIso, hiso]
    rcases hsign with rfl | rfl
    · have heast : offset? false (offsetParts o) = some o.asRead := hoffset
      simp [parts?_clock, parts?_offset, Clock.of?_eq_some, heast]
    · have hwest : offset? true (offsetParts o) = some o.asRead := hoffset
      simp [parts?_clock, parts?_offset, Clock.of?_eq_some, hwest]

end Reading

/-- **A day with a time that is written reads back**, but for an offset of less than a second. -/
theorem Moment.instantOfText?_iso (d : Date) (t : Clock) (zone : Option Offset) :
    Moment.instantOfText? (Moment.instant d t zone).iso =
      some (.instant d t (zone.map Offset.asRead)) := by
  generalize htime : t.iso ++ zoneIso zone = time
  have hascii : Reading.IsAscii (d.iso ++ 'T' :: time) := by
    rw [← htime]
    exact d.isAscii_iso.append (.cons (by decide)
      ((Reading.isAscii_of_time (Reading.isOfTime_clock t)).append (Reading.isAscii_zoneIso zone)))
  have hsize : 10 < (d.iso ++ 'T' :: time).length := by
    rw [List.length_append, d.length_iso, List.length_cons]
    omega
  have hlength : Reading.dayLength (d.iso ++ 'T' :: time).length (d.iso ++ 'T' :: time) = 10 :=
    Reading.dayLength_iso (by omega) d _
  have hrest : (d.iso ++ 'T' :: time).drop 10 = 'T' :: time := List.drop_left' d.length_iso
  have hwidth : Reading.widthOf ('T' :: time) = 1 := rfl
  have hread : Reading.time? time = some (t, zone.map Offset.asRead) := by
    rw [← htime]
    exact Reading.time?_iso t zone
  unfold Moment.instantOfText? Moment.iso
  dsimp only
  rw [htime, Reading.utf8ByteSize_of_ascii hascii, Reading.bytesOf_of_ascii hascii,
    if_neg (by omega), hlength, Reading.date?_iso]
  simp only [Option.bind_eq_bind, Option.bind_some, if_pos hsize, hrest, hwidth,
    List.drop_succ_cons, List.drop_zero, hread]

end RelMap
