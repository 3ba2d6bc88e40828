import RelMap.Proofs.Result
import RelMap.TypeHint.Inference

/-!
# Flat unions

Unions of hints have at least two members, no two of them the same and none of them a union.
`TypeHint.unionOf` makes such unions of such hints, so every hint that an expression evaluates to is
flat (`TypeText.isFlat_evaluate`), and putting its members together again changes nothing.
-/

namespace RelMap

namespace TypeHint

variable {a b index : TypeHint} {earlier ms xs : List TypeHint} {isOpen : Bool}

/-! ## Members that are not the same -/

theorem distinct_sublist (earlier xs : List TypeHint) : (distinct earlier xs).Sublist xs := by
  induction xs generalizing earlier with
  | nil => exact .slnil
  | cons a rest ih =>
    unfold distinct
    split
    · exact (ih earlier).cons a
    · exact (ih _).cons_cons a

/-- Once repetitions are gone there are none. -/
theorem distinct_distinct (earlier xs : List TypeHint) :
    distinct earlier (distinct earlier xs) = distinct earlier xs := by
  induction xs generalizing earlier with
  | nil => rfl
  | cons a rest ih =>
    by_cases h : earlier.any (same a) = true
    · rw [distinct, if_pos h, ih]
    · rw [distinct, if_neg h, distinct, if_neg h, ih]

theorem distinct_concat (earlier xs : List TypeHint) (a : TypeHint) :
    distinct earlier (xs ++ [a]) = distinct earlier xs ++
      if (earlier ++ distinct earlier xs).any (same a) then [] else [a] := by
  induction xs generalizing earlier with
  | nil => rw [List.nil_append, distinct, distinct, List.append_nil, List.nil_append]; rfl
  | cons b rest ih =>
    by_cases h : earlier.any (same b) = true
    · rw [List.cons_append, distinct, if_pos h, distinct, if_pos h, ih]
    · rw [List.cons_append, distinct, if_neg h, distinct, if_neg h, ih, List.append_assoc,
        List.singleton_append, List.cons_append]

theorem same_nullType (a : TypeHint) : same nullType a = a.isNullType := by
  cases a <;> rfl

theorem isNullType_iff : a.isNullType = true ↔ a = nullType := by
  cases a <;> simp [isNullType]

/-! ## Flat hints -/

def IsUnion : TypeHint → Prop
  | union _ _ => True
  | _ => False

theorem members_of_not_isUnion (h : ¬ a.IsUnion) : a.members = [a] := by
  cases a with
  | union => exact absurd trivial h
  | _ => rfl

/-- Unions have several members, all different and none a union. -/
inductive IsFlat : TypeHint → Prop
  | union {isOpen : Bool} {ms : List TypeHint} : 2 ≤ ms.length → distinct [] ms = ms →
      (∀ x ∈ ms, ¬ x.IsUnion) → (∀ x ∈ ms, IsFlat x) → IsFlat (union isOpen ms)
  | tuple {items : List TypeHint} : (∀ x ∈ items, IsFlat x) → IsFlat (tuple items)
  | other {a : TypeHint} : ¬ a.IsUnion → (∀ items, a ≠ TypeHint.tuple items) → IsFlat a

namespace IsFlat

theorem nothing : IsFlat nothing := .other id nofun

theorem nullType : IsFlat nullType := .other id nofun

theorem native (n : Native) : IsFlat (native n) := .other id nofun

theorem generic (n : Native) (as : List TypeHint) : IsFlat (generic n as) := .other id nofun

theorem value (v : Value) : IsFlat (value v) := .other id nofun

theorem pending (s : String) : IsFlat (pending s) := .other id nofun

theorem members (h : a.IsFlat) : ∀ x ∈ a.members, ¬ x.IsUnion ∧ x.IsFlat := by
  cases h with
  | union _ _ hunion hflat => exact fun x hx => ⟨hunion x hx, hflat x hx⟩
  | tuple hflat =>
    intro x hx
    cases List.mem_singleton.mp hx
    exact ⟨id, .tuple hflat⟩
  | other hunion htuple =>
    intro x hx
    rw [members_of_not_isUnion hunion] at hx
    cases List.mem_singleton.mp hx
    exact ⟨hunion, .other hunion htuple⟩

theorem unionOf (h : unionOf isOpen xs = .ok a) (hxs : ∀ x ∈ xs, IsFlat x) : a.IsFlat := by
  have hmembers : ∀ x ∈ distinct [] (xs.flatMap TypeHint.members), ¬ x.IsUnion ∧ x.IsFlat := by
    intro x hx
    obtain ⟨y, hy, hx⟩ := List.mem_flatMap.mp ((distinct_sublist _ _).subset hx)
    exact (hxs y hy).members x hx
  have hdistinct := distinct_distinct [] (xs.flatMap TypeHint.members)
  -- The members stay flat and different; what is left is to count them.
  unfold TypeHint.unionOf at h
  generalize distinct [] (xs.flatMap TypeHint.members) = ms at h hmembers hdistinct
  split at h
  · cases h
  · cases h
    exact (hmembers a List.mem_cons_self).2
  · next hnil hone =>
    cases h
    refine .union ?_ hdistinct (fun x hx => (hmembers x hx).1) fun x hx => (hmembers x hx).2
    match ms, hnil, hone with
    | [], hnil, _ => exact absurd rfl hnil
    | [x], _, hone => exact absurd rfl (hone x)
    | _ :: _ :: _, _, _ => exact Nat.le_add_left 2 _

theorem ofText {s : String} (h : ofText s = .ok a) : a.IsFlat := by
  unfold TypeHint.ofText at h
  split at h
  · cases h
    exact pending s
  · cases h

theorem asMember (h : a.IsFlat) (hb : a.asMember = .ok b) : b.IsFlat := by
  unfold TypeHint.asMember at hb
  split at hb
  · cases hb
    exact nullType
  · cases hb
  · cases hb
  · cases hb
  · cases hb
  · split at hb
    · exact ofText hb
    · cases hb
      exact value _
  · cases hb
    exact h

theorem indexItems (h : index.IsFlat) : ∀ x ∈ index.indexItems, x.IsFlat := by
  intro x hx
  cases h with
  | tuple hitems => exact hitems x hx
  | union hlength hdistinct hunion hflat =>
    cases List.mem_singleton.mp hx
    exact .union hlength hdistinct hunion hflat
  | other hunion htuple =>
    cases index with
    | tuple items => exact absurd rfl (htuple items)
    | _ =>
      cases List.mem_singleton.mp hx
      exact .other hunion htuple

theorem mapM_asMember (hxs : ∀ x ∈ xs, IsFlat x) (h : xs.mapM TypeHint.asMember = .ok ms) :
    ∀ x ∈ ms, x.IsFlat := by
  intro y hy
  obtain ⟨x, hx, hasMember⟩ := Result.exists_mem_of_mapM_eq_ok h hy
  exact (hxs x hx).asMember hasMember

theorem apply (h : index.IsFlat) (hb : a.apply index = .ok b) : b.IsFlat := by
  unfold TypeHint.apply at hb
  split at hb
  · obtain ⟨x, hx, hb⟩ := Result.bind_eq_ok.mp hb
    exact unionOf hb (List.forall_mem_cons.mpr
      ⟨h.asMember hx, List.forall_mem_singleton.mpr nullType⟩)
  · obtain ⟨ms, hms, hb⟩ := Result.bind_eq_ok.mp hb
    exact unionOf hb (mapM_asMember h.indexItems hms)
  · obtain ⟨ms, -, hb⟩ := Result.bind_eq_ok.mp hb
    split at hb
    · cases hb
      exact generic _ _
    · cases hb
  · obtain ⟨ms, -, hb⟩ := Result.bind_eq_ok.mp hb
    split at hb
    · cases hb
      exact generic _ _
    · cases hb
  · split at hb
    · cases hb
      exact generic _ _
    · cases hb
  · cases hb
  · cases hb

theorem either (ha : a.IsFlat) (hb : b.IsFlat) {c : TypeHint} (h : a.either b = .ok c) :
    c.IsFlat := by
  have hjoin : ∀ isOpen : Bool, (do TypeHint.unionOf isOpen [← a.asMember, ← b.asMember]) =
      (.ok c : Hinted TypeHint) → c.IsFlat := by
    intro isOpen h
    obtain ⟨x, hx, h⟩ := Result.bind_eq_ok.mp h
    obtain ⟨y, hy, h⟩ := Result.bind_eq_ok.mp h
    exact unionOf h (List.forall_mem_cons.mpr
      ⟨ha.asMember hx, List.forall_mem_singleton.mpr (hb.asMember hy)⟩)
  unfold TypeHint.either at h
  split at h
  · exact hjoin true h
  · split at h
    · cases h
    · split at h
      · cases h
        exact value _
      · cases h
    · split at h
      · exact hjoin false h
      · cases h

theorem combine {c : TypeHint} (h : a.combine b = .ok c) : c.IsFlat := by
  unfold TypeHint.combine at h
  split at h
  · split at h
    · cases h
      exact value _
    · cases h
  · cases h

theorem ofValue (v : Value) : (ofValue v).IsFlat := by
  unfold TypeHint.ofValue
  split
  · exact nothing
  · refine .tuple fun x hx => ?_
    obtain ⟨v, -, rfl⟩ := List.mem_map.mp hx
    split
    · exact nothing
    · exact value v
  · exact value _

theorem lookUp {attributes : List (String × Value)} {s : String}
    (h : lookUp attributes s = .ok a) : a.IsFlat := by
  unfold TypeHint.lookUp at h
  split at h
  · cases h
    exact nothing
  · split at h
    · cases h
      exact value _
    · split at h
      · cases h
        exact value _
      · split at h
        · cases h
          exact native _
        · cases h
          exact ofValue _
        · cases h
          exact native _
        · cases h

end IsFlat

end TypeHint

namespace TypeText

open TypeHint (IsFlat)

variable {attributes : List (String × Value)}

mutual

/-- **What an expression evaluates to is flat.** -/
theorem isFlat_evaluate : ∀ (t : TypeText) {a : TypeHint}, t.evaluate attributes = .ok a → a.IsFlat
  | name s, a, h => IsFlat.lookUp h
  | number n, a, h => by
    cases h
    exact .value _
  | quoted s, a, h => by
    cases h
    exact .value _
  | applied head index, a, h => by
    rw [evaluate] at h
    obtain ⟨b, -, h⟩ := Result.bind_eq_ok.mp h
    obtain ⟨i, hi, h⟩ := Result.bind_eq_ok.mp h
    exact (isFlat_evaluate index hi).apply h
  | either x y, a, h => by
    rw [evaluate] at h
    obtain ⟨b, hb, h⟩ := Result.bind_eq_ok.mp h
    obtain ⟨c, hc, h⟩ := Result.bind_eq_ok.mp h
    exact (isFlat_evaluate x hb).either (isFlat_evaluate y hc) h
  | joined x y, a, h => by
    rw [evaluate] at h
    obtain ⟨b, -, h⟩ := Result.bind_eq_ok.mp h
    obtain ⟨c, -, h⟩ := Result.bind_eq_ok.mp h
    exact IsFlat.combine h
  | several items, a, h => by
    rw [evaluate] at h
    obtain ⟨xs, hxs, h⟩ := Result.bind_eq_ok.mp h
    cases h
    exact .tuple (isFlat_evaluateAll items hxs)

theorem isFlat_evaluateAll : ∀ (items : List TypeText) {xs : List TypeHint},
    evaluateAll attributes items = .ok xs → ∀ x ∈ xs, IsFlat x
  | [], xs, h => by
    cases h
    exact nofun
  | t :: items, xs, h => by
    rw [evaluateAll] at h
    obtain ⟨x, hx, h⟩ := Result.bind_eq_ok.mp h
    obtain ⟨ys, hys, h⟩ := Result.bind_eq_ok.mp h
    cases h
    exact List.forall_mem_cons.mpr ⟨isFlat_evaluate t hx, isFlat_evaluateAll items hys⟩

end

end TypeText

end RelMap
