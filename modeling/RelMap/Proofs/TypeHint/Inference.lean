import Mathlib.Logic.Basic
import RelMap.Proofs.TypeHint.Flat

/-!
# What inference sees through

The column type of a hint is that of a native type, which may stand in a union with the absent value.
But inference also looks at the only argument of a generic type: a list of numbers becomes a number
(`TypeHint.IsSeenThrough`), and a generic type of the absent value becomes optional
(`TypeHint.HasNullArgument`).  These are the only hints that are read otherwise than as what they say
(`TypeText.inference_exact`).
-/

namespace RelMap

namespace TypeHint

/-! ## What a hint says -/

/-- The column type of a hint that is taken as it stands. -/
def typeItself : TypeHint → SqlType
  | native n => nativeType n
  | _ => .text

/-- A union without the type of the absent value; what has a single member left is that member. -/
def withoutNull : TypeHint → TypeHint
  | union isOpen ms =>
    match ms.filter fun x => !x.isNullType with
    | [b] => b
    | _ => union isOpen ms
  | a => a

/-- The column type of a hint: that of the native type which it is or makes optional, or else
`TEXT`. -/
def saidType (a : TypeHint) : SqlType := a.withoutNull.typeItself

/-- Is the hint a union with the type of the absent value? -/
def HasNullMember : TypeHint → Prop
  | union _ ms => nullType ∈ ms
  | _ => False

/-- The native types that have a column type of their own. -/
def typedNatives : List Native :=
  [.bool, .instant, .day, .decimal, .bytes, .byteArray, .byteView, .int, .float]

/-- A generic type is taken for its only argument. -/
def IsSeenThrough : TypeHint → Prop
  | generic _ as => ∃ n ∈ typedNatives, (as.filter fun x => !x.isNullType) = [native n]
  | _ => False

/-- A generic type is taken for a union with the type of the absent value. -/
def HasNullArgument : TypeHint → Prop
  | generic _ as => nullType ∈ as
  | _ => False

/-- Types and the absent value, but neither form of unions where it stands alone. -/
def IsType : TypeHint → Prop
  | nothing | nullType | generic _ _ | union _ _ => True
  | native n => n ≠ .optional ∧ n ≠ .union
  | _ => False

variable {a b : TypeHint}

/-! ## What inference makes of it -/

theorem sqlType_eq (a : TypeHint) : a.sqlType = a.principal.typeItself := by
  unfold sqlType
  cases a.principal <;> rfl

theorem nativeType_ne_text (n : Native) : nativeType n ≠ .text ↔ n ∈ typedNatives := by
  cases n <;> decide

theorem typeItself_ne_text (a : TypeHint) :
    a.typeItself ≠ .text ↔ ∃ n ∈ typedNatives, a = native n := by
  cases a with
  | native n =>
    change nativeType n ≠ .text ↔ _
    rw [nativeType_ne_text]
    constructor
    · exact fun hn => ⟨n, hn, rfl⟩
    · rintro ⟨m, hm, hnative⟩
      cases hnative
      exact hm
  | _ =>
    refine iff_of_false (fun h => h rfl) ?_
    rintro ⟨n, -, hnative⟩
    cases hnative

/-- Only generic types are taken for something else. -/
theorem sqlType_eq_saidType (a : TypeHint) : a.sqlType = a.saidType ↔ ¬ a.IsSeenThrough := by
  rw [sqlType_eq]
  cases a with
  | generic n as =>
    change _ = SqlType.text ↔ ¬ ∃ m ∈ typedNatives, _ = _
    rw [principal, arguments, iff_not_comm]
    split
    · next b hb =>
      rw [← ne_eq, typeItself_ne_text, hb]
      simp only [List.cons.injEq, and_true]
    · next hb =>
      refine iff_of_false ?_ (not_not_intro rfl)
      rintro ⟨m, -, hm⟩
      exact hb _ hm
  | _ => exact iff_of_true rfl id

theorem any_isNullType {ms : List TypeHint} : ms.any isNullType = true ↔ nullType ∈ ms := by
  rw [List.any_eq_true]
  constructor
  · rintro ⟨x, hx, hnull⟩
    rwa [← isNullType_iff.mp hnull]
  · exact fun h => ⟨nullType, h, rfl⟩

theorem isOptional_iff (a : TypeHint) :
    (a.isOptional = true ↔ a.HasNullMember) ↔ ¬ a.HasNullArgument := by
  unfold isOptional
  cases a with
  | generic n as =>
    rw [arguments, any_isNullType]
    exact ⟨fun h hmem => h.mp hmem, fun h => iff_of_false h id⟩
  | union isOpen ms => exact iff_of_true any_isNullType id
  | _ => exact iff_of_true (iff_of_false nofun id) id

/-! ## Optional hints -/

theorem unionOf_of_two {xs : List TypeHint} (isOpen : Bool)
    (h : 2 ≤ (distinct [] (xs.flatMap members)).length) :
    unionOf isOpen xs = .ok (union isOpen (distinct [] (xs.flatMap members))) := by
  unfold unionOf
  split
  · next hms =>
    rw [hms] at h
    cases h
  · next hms =>
    rw [hms] at h
    cases h with
    | step h => cases h
  · rfl

/-- A hint that is no union is joined by the type of the absent value. -/
theorem unionOf_nullType (hunion : ¬ a.IsUnion) (hnull : a ≠ nullType) :
    unionOf true [a, nullType] = .ok (union true [a, nullType]) := by
  have hsame : same nullType a = false := by
    rw [same_nullType, ← Bool.not_eq_true, isNullType_iff]
    exact hnull
  have hdistinct : distinct [] ([a, nullType].flatMap members) = [a, nullType] := by
    rw [List.flatMap_cons, members_of_not_isUnion hunion]
    simp [distinct, members, hsame]
  rw [unionOf_of_two true (by rw [hdistinct]; exact Nat.le_refl 2), hdistinct]

/-- A flat union is joined by the type of the absent value unless it is a member. -/
theorem unionOf_union {isOpen : Bool} {ms : List TypeHint} (h : (union isOpen ms).IsFlat) :
    unionOf true [union isOpen ms, nullType] =
      .ok (union true (ms ++ if ms.any isNullType then [] else [nullType])) := by
  cases h with
  | union hlength hdistinct _ _ =>
    have hsame : same nullType = isNullType := funext same_nullType
    have hmembers : distinct [] ([union isOpen ms, nullType].flatMap members) =
        ms ++ if ms.any isNullType then [] else [nullType] := by
      change distinct [] (ms ++ [nullType]) = _
      rw [distinct_concat, hdistinct, List.nil_append, hsame]
    rw [unionOf_of_two true, hmembers]
    rw [hmembers, List.length_append]
    exact Nat.le_add_right_of_le hlength
  | other hunion => exact absurd trivial hunion

theorem principal_union_nullType (isOpen : Bool) (hnull : a ≠ nullType) :
    (union isOpen [a, nullType]).principal = a := by
  have hnull : a.isNullType = false := by
    rw [← Bool.not_eq_true, isNullType_iff]
    exact hnull
  have hnull' : nullType.isNullType = true := rfl
  simp [principal, arguments, hnull, hnull']

/-- A hint is a member as it is, but for the absent value and for texts. -/
theorem asMember_cases (h : a.asMember = .ok b) :
    a = nothing ∧ b = nullType ∨ b = a ∨ ∃ v s, a = value v ∧ b = pending s := by
  unfold asMember at h
  split at h
  case h_1 =>
    cases h
    exact Or.inl ⟨rfl, rfl⟩
  case h_6 v _ =>
    split at h
    · next s _ =>
      unfold ofText at h
      split at h
      · cases h
        exact Or.inr (Or.inr ⟨v, s, rfl, rfl⟩)
      · cases h
    · cases h
      exact Or.inr (Or.inl rfl)
  case h_7 =>
    cases h
    exact Or.inr (Or.inl rfl)
  all_goals cases h

theorem asMember_of_isType (h : a.IsType) (hnothing : a ≠ nothing) : a.asMember = .ok a := by
  cases a with
  | nothing => exact absurd rfl hnothing
  | native n =>
    cases n with
    | optional => exact absurd rfl h.1
    | union => exact absurd rfl h.2
    | _ => rfl
  | tuple => cases h
  | value => cases h
  | _ => rfl

theorem saidType_of_not_isUnion (h : ¬ a.IsUnion) : a.saidType = a.typeItself := by
  cases a with
  | union => exact absurd trivial h
  | _ => rfl

/-- A union has the same type with the absent value and without it. -/
theorem sqlType_union_nullType {isOpen isOpen' : Bool} {ms : List TypeHint} (isNull : Bool) :
    (union isOpen (ms ++ if isNull then [] else [nullType])).sqlType =
      (union isOpen' ms).saidType := by
  have hfilter : (ms ++ if isNull then [] else [nullType]).filter (fun x => !x.isNullType) =
      ms.filter fun x => !x.isNullType := by
    cases isNull <;> simp [List.filter_append, isNullType]
  rw [sqlType_eq, saidType, principal, withoutNull, arguments, hfilter]
  generalize ms.filter (fun x => !x.isNullType) = left
  rcases left with _ | ⟨y, _ | ⟨z, rest⟩⟩
  all_goals rfl

theorem sqlType_unionOf_nullType (hflat : a.IsFlat) (h : unionOf true [a, nullType] = .ok b) :
    b.sqlType = a.saidType := by
  by_cases hnull : a = nullType
  · subst hnull
    cases h
    rfl
  · by_cases hunion : a.IsUnion
    · cases a with
      | union isOpen ms =>
        rw [unionOf_union hflat] at h
        cases h
        exact sqlType_union_nullType _
      | _ => cases hunion
    · rw [unionOf_nullType hunion hnull] at h
      cases h
      rw [sqlType_eq, principal_union_nullType true hnull, saidType_of_not_isUnion hunion]

/-- A hint that is made optional has the type that it says. -/
theorem sqlType_optional (hflat : a.IsFlat) (h : (native .optional).apply a = .ok b) :
    b.sqlType = a.saidType := by
  obtain ⟨x, hx, h⟩ := Result.bind_eq_ok.mp h
  rw [sqlType_unionOf_nullType (hflat.asMember hx) h]
  rcases asMember_cases hx with ⟨rfl, rfl⟩ | rfl | ⟨v, s, rfl, rfl⟩
  all_goals rfl

/-- Every type can be made optional. -/
theorem exists_optional (hflat : a.IsFlat) (h : a.IsType) :
    ∃ b, (native .optional).apply a = .ok b := by
  by_cases hnothing : a = nothing
  · subst hnothing
    exact ⟨nullType, rfl⟩
  · have happly : (native .optional).apply a = unionOf true [a, nullType] := by
      rw [apply, asMember_of_isType h hnothing]
      rfl
    rw [happly]
    by_cases hnull : a = nullType
    · subst hnull
      exact ⟨nullType, rfl⟩
    · by_cases hunion : a.IsUnion
      · cases a with
        | union isOpen ms => exact ⟨_, unionOf_union hflat⟩
        | _ => cases hunion
      · exact ⟨_, unionOf_nullType hunion hnull⟩

end TypeHint

namespace TypeText

open TypeHint (generic native)

/-- The expression that makes another optional. -/
def optional (t : TypeText) : TypeText := .applied (.name "Optional") t

theorem evaluate_optional {t : TypeText} {attributes : List (String × Value)} {a : TypeHint}
    (h : t.evaluate attributes = .ok a) :
    t.optional.evaluate attributes = (native .optional).apply a := by
  rw [optional, evaluate, evaluate, h]
  rfl

/-- **What inference sees through.**  For every expression that can be evaluated: if it is a type, it
can be made optional.  Then it has the same column type as before, unless it is a generic type that is
taken for its only argument; unless it is one, its column type is that of the native type which it is,
or is beside the absent value in a union, and else `TEXT`.  And it counts as optional exactly if it is
a union with the absent value, unless it is a generic type with that among its arguments. -/
theorem inference_exact {t : TypeText} {attributes : List (String × Value)} {a : TypeHint}
    (h : t.evaluate attributes = .ok a) :
    (a.IsType → ∃ b, t.optional.evaluate attributes = .ok b) ∧
      (∀ b, t.optional.evaluate attributes = .ok b →
        (b.sqlType = a.sqlType ↔ ¬ a.IsSeenThrough)) ∧
      (a.sqlType = a.saidType ↔ ¬ a.IsSeenThrough) ∧
      (a.saidType ≠ .text ↔ ∃ n ∈ TypeHint.typedNatives, a.withoutNull = native n) ∧
      ((a.isOptional = true ↔ a.HasNullMember) ↔ ¬ a.HasNullArgument) := by
  have hflat := isFlat_evaluate t h
  rw [evaluate_optional h]
  refine ⟨TypeHint.exists_optional hflat, fun b hb => ?_, a.sqlType_eq_saidType,
    a.withoutNull.typeItself_ne_text, a.isOptional_iff⟩
  rw [TypeHint.sqlType_optional hflat hb, eq_comm]
  exact a.sqlType_eq_saidType

/-- The number that may be missing is a type, and is read as what it says. -/
theorem inference_exact_int_or_none :
    ∃ a b, (either (.name "int") (.name "None")).evaluate [] = .ok a ∧
      (either (.name "int") (.name "None")).optional.evaluate [] = .ok b ∧
      b.sqlType = a.sqlType ∧ a.sqlType = .integer ∧ a.isOptional = true := by
  have ha : (either (.name "int") (.name "None")).evaluate [] =
      .ok (.union false [native .int, .nullType]) := rfl
  obtain ⟨htype, hsame, hsaid, -, hoptional⟩ := inference_exact ha
  obtain ⟨b, hb⟩ := htype trivial
  refine ⟨_, b, ha, hb, (hsame b hb).mpr id, hsaid.mpr id, (hoptional.mpr id).mpr ?_⟩
  exact List.mem_cons_of_mem _ List.mem_cons_self

/-- A list of numbers is taken for a number, and not if it is optional. -/
theorem inference_not_plain :
    ¬ ∀ a b, TypeHint.ofExpression? "List[int]" = some a →
      TypeHint.ofExpression? "Optional[List[int]]" = some b →
      b.sqlType = a.sqlType ∨ a.sqlType = a.saidType := by
  intro hall
  have hlist : (TypeHint.ofExpression? "List[int]").map (fun a => (a.sqlType, a.saidType)) =
      some (.integer, .text) := by
    decide +kernel
  have hoptional : (TypeHint.ofExpression? "Optional[List[int]]").map TypeHint.sqlType =
      some .text := by
    decide +kernel
  obtain ⟨a, ha, hatypes⟩ := Option.map_eq_some_iff.mp hlist
  obtain ⟨b, hb, hbtype⟩ := Option.map_eq_some_iff.mp hoptional
  obtain ⟨hatype, hasaid⟩ := Prod.mk.inj hatypes
  rcases hall a b ha hb with h | h
  · rw [hatype, hbtype] at h
    cases h
  · rw [hatype, hasaid] at h
    cases h

end TypeText

end RelMap
