import RelMap.Proofs.TypeHint.Inference
import RelMap.Proofs.TypeHint.Optional

/-!
# Hints that are read as text or as types

The hints of a class are types unless one of them cannot be evaluated; then all of them stay text, and
their column types and whether they are optional are found by searching.  The native types that stand
in a hint are those that its text names (`TypeText.mem_natives_iff`), which says for which hints both
readings agree (`FieldType.text_agrees_iff`).
-/

namespace RelMap

namespace TypeHint

/-! ## The native types in a hint -/

mutual

/-- The native types that stand in a hint by themselves. -/
def natives : TypeHint → List Native
  | native n => [n]
  | generic _ as => nativesOf as
  | union _ ms => nativesOf ms
  | tuple items => nativesOf items
  | _ => []

def nativesOf : List TypeHint → List Native
  | [] => []
  | a :: rest => natives a ++ nativesOf rest

end

variable {a b c index : TypeHint} {earlier xs ys : List TypeHint} {n : Native}

theorem nativesOf_eq (xs : List TypeHint) : nativesOf xs = xs.flatMap natives := by
  induction xs with
  | nil => rfl
  | cons a rest ih => rw [nativesOf, ih, List.flatMap_cons]

theorem natives_subset (h : a ∈ xs) : a.natives ⊆ nativesOf xs := by
  rw [nativesOf_eq]
  exact fun n hn => List.mem_flatMap.mpr ⟨a, h, hn⟩

mutual

/-- Hints that are the same have the same native types. -/
theorem natives_subset_of_same : ∀ {a b : TypeHint}, same a b = true → a.natives ⊆ b.natives
  | native m, b, h => by
    cases b with
    | native n =>
      rw [same, decide_eq_true_eq] at h
      rw [h]
      exact List.Subset.refl _
    | _ => cases h
  | generic m xs, b, h => by
    cases b with
    | generic n ys =>
      rw [same, Bool.and_eq_true] at h
      exact nativesOf_subset_of_sameAll h.2
    | _ => cases h
  | union _ xs, b, h => by
    cases b with
    | union _ ys =>
      rw [same, Bool.and_eq_true] at h
      exact nativesOf_subset_of_allAmong h.2
    | _ => cases h
  | tuple xs, b, h => by
    cases b with
    | tuple ys => exact nativesOf_subset_of_sameAll h
    | _ => cases h
  | nothing, _, _ => List.nil_subset _
  | nullType, _, _ => List.nil_subset _
  | value _, _, _ => List.nil_subset _
  | pending _, _, _ => List.nil_subset _

theorem nativesOf_subset_of_sameAll : ∀ {xs ys : List TypeHint}, sameAll xs ys = true →
    nativesOf xs ⊆ nativesOf ys
  | [], _, _ => List.nil_subset _
  | x :: xs, [], h => by cases h
  | x :: xs, y :: ys, h => by
    rw [sameAll, Bool.and_eq_true] at h
    rw [nativesOf, nativesOf]
    exact List.append_subset.mpr
      ⟨List.subset_append_of_subset_left _ (natives_subset_of_same h.1),
        List.subset_append_of_subset_right _ (nativesOf_subset_of_sameAll h.2)⟩

theorem nativesOf_subset_of_allAmong : ∀ {xs ys : List TypeHint}, allAmong xs ys = true →
    nativesOf xs ⊆ nativesOf ys
  | [], _, _ => List.nil_subset _
  | x :: xs, ys, h => by
    rw [allAmong, Bool.and_eq_true, List.any_eq_true] at h
    obtain ⟨⟨y, hy, hsame⟩, hrest⟩ := h
    rw [nativesOf]
    exact List.append_subset.mpr
      ⟨List.Subset.trans (natives_subset_of_same hsame) (natives_subset hy),
        nativesOf_subset_of_allAmong hrest⟩

end

/-! ## Unions, generic types and names -/

theorem mem_nativesOf_distinct (earlier xs : List TypeHint) :
    n ∈ nativesOf (distinct earlier xs) ∨ n ∈ nativesOf earlier ↔
      n ∈ nativesOf xs ∨ n ∈ nativesOf earlier := by
  induction xs generalizing earlier with
  | nil => rfl
  | cons a rest ih =>
    by_cases h : earlier.any (same a) = true
    · -- What is left out is the same as an earlier hint, which has its native types.
      obtain ⟨b, hb, hsame⟩ := List.any_eq_true.mp h
      have hsubset := List.Subset.trans (natives_subset_of_same hsame) (natives_subset hb)
      rw [distinct, if_pos h, ih, nativesOf, List.mem_append]
      refine ⟨Or.imp_left Or.inr, ?_⟩
      rintro ((hn | hn) | hn)
      · exact Or.inr (hsubset hn)
      · exact Or.inl hn
      · exact Or.inr hn
    · have hrest := ih (earlier ++ [a])
      rw [nativesOf_eq (earlier ++ [a]), List.flatMap_append, List.flatMap_singleton,
        ← nativesOf_eq, List.mem_append] at hrest
      rw [distinct, if_neg h, nativesOf, nativesOf, List.mem_append, List.mem_append]
      tauto

theorem nativesOf_members (a : TypeHint) : nativesOf a.members = a.natives := by
  cases a with
  | union => rfl
  | _ => exact List.append_nil _

theorem mem_natives_unionOf {isOpen : Bool} (h : unionOf isOpen xs = .ok a) :
    n ∈ a.natives ↔ n ∈ nativesOf xs := by
  have hmembers : nativesOf (xs.flatMap members) = nativesOf xs := by
    rw [nativesOf_eq, nativesOf_eq, List.flatMap_assoc]
    exact congrArg (fun f => xs.flatMap f)
      (funext fun a => (nativesOf_eq _).symm.trans (nativesOf_members a))
  have hdistinct := mem_nativesOf_distinct (n := n) [] (xs.flatMap members)
  rw [hmembers, nativesOf, or_iff_left List.not_mem_nil, or_iff_left List.not_mem_nil] at hdistinct
  rw [← hdistinct]
  unfold unionOf at h
  split at h
  · cases h
  · next heq =>
    cases h
    rw [heq, nativesOf, nativesOf, List.append_nil]
  · cases h
    rfl

theorem natives_asMember (h : a.asMember = .ok b) : b.natives = a.natives := by
  rcases asMember_cases h with ⟨rfl, rfl⟩ | rfl | ⟨v, s, rfl, rfl⟩
  all_goals rfl

theorem nativesOf_mapM_asMember (h : xs.mapM asMember = .ok ys) : nativesOf ys = nativesOf xs := by
  induction xs generalizing ys with
  | nil =>
    cases h
    rfl
  | cons x xs ih =>
    obtain ⟨y, zs, hy, hzs, rfl⟩ := Result.mapM_cons_eq_ok.mp h
    rw [nativesOf, nativesOf, natives_asMember hy, ih hzs]

theorem natives_asArgument (a : TypeHint) : a.asArgument.natives = a.natives := by
  unfold asArgument
  split
  · split <;> rfl
  · rfl

theorem nativesOf_indexItems (index : TypeHint) : nativesOf index.indexItems = index.natives := by
  cases index with
  | tuple => rfl
  | _ => exact List.append_nil _

/-- Applying a type to arguments leaves the native types of these. -/
theorem mem_natives_apply (hn : n ∈ typedNatives) (h : a.apply index = .ok b) :
    n ∈ b.natives ↔ n ∈ a.natives ∨ n ∈ index.natives := by
  -- What can be applied has no column type of its own, so only the arguments count.
  have hhead : ∀ {m}, m ∉ typedNatives → n ∉ (native m).natives := by
    intro m hm hmem
    rw [natives, List.mem_singleton] at hmem
    exact hm (hmem ▸ hn)
  have hmembers : ∀ {ms}, index.indexItems.mapM asMember = .ok ms →
      nativesOf ms = index.natives := fun hms =>
    (nativesOf_mapM_asMember hms).trans (nativesOf_indexItems index)
  unfold apply at h
  split at h
  · obtain ⟨x, hx, h⟩ := Result.bind_eq_ok.mp h
    rw [or_iff_right (hhead (by decide)), mem_natives_unionOf h, ← natives_asMember hx]
    simp [nativesOf, natives]
  · obtain ⟨ms, hms, h⟩ := Result.bind_eq_ok.mp h
    rw [or_iff_right (hhead (by decide)), mem_natives_unionOf h, hmembers hms]
  · obtain ⟨ms, hms, h⟩ := Result.bind_eq_ok.mp h
    split at h
    · cases h
      rw [or_iff_right (hhead (by decide)), natives, hmembers hms]
    · cases h
  · obtain ⟨ms, hms, h⟩ := Result.bind_eq_ok.mp h
    split at h
    · cases h
      rw [or_iff_right (hhead (by decide)), natives, hmembers hms]
    · cases h
  · next m _ _ _ _ =>
    split at h
    · next htakes =>
      cases h
      have harguments : nativesOf (index.indexItems.map asArgument) = index.natives := by
        rw [nativesOf_eq, List.flatMap_map, funext natives_asArgument, ← nativesOf_eq,
          nativesOf_indexItems]
      have hm : m ∉ typedNatives := by
        intro hm
        cases m <;> revert hm htakes <;> decide
      rw [or_iff_right (hhead hm), natives, harguments]
    · cases h
  · cases h
  · cases h

theorem mem_natives_either (h : a.either b = .ok c) :
    n ∈ c.natives ↔ n ∈ a.natives ∨ n ∈ b.natives := by
  have hjoin : ∀ isOpen : Bool, (do unionOf isOpen [← a.asMember, ← b.asMember]) =
      (.ok c : Hinted TypeHint) → (n ∈ c.natives ↔ n ∈ a.natives ∨ n ∈ b.natives) := by
    intro isOpen h
    obtain ⟨x, hx, h⟩ := Result.bind_eq_ok.mp h
    obtain ⟨y, hy, h⟩ := Result.bind_eq_ok.mp h
    rw [mem_natives_unionOf h, ← natives_asMember hx, ← natives_asMember hy, nativesOf, nativesOf,
      nativesOf, List.append_nil, List.mem_append]
  unfold TypeHint.either at h
  split at h
  · exact hjoin true h
  · split at h
    · cases h
    · split at h
      · cases h
        simp [natives]
      · cases h
    · split at h
      · exact hjoin false h
      · cases h

/-- A name means the native type that it names. -/
theorem mem_natives_lookUp {s w : String} (hs : s ∈ typeNames) (hw : (w, n) ∈ vocabulary ++ builtins)
    (h : lookUp [] s = .ok a) : n ∈ a.natives ↔ w = s := by
  have hall : ∀ s ∈ typeNames, ∀ e ∈ vocabulary ++ builtins,
      (lookUp [] s).toOption.map (fun a => decide (e.2 ∈ a.natives)) = some (decide (e.1 = s)) := by
    decide +kernel
  have heq := hall s hs (w, n) hw
  rw [h, Except.toOption, Option.map_some, Option.some.injEq, decide_eq_decide] at heq
  exact heq

/-- A native type that is the principal part of a hint is the only one in it. -/
theorem natives_of_principal (h : a.principal = native n) : a.natives = [n] := by
  have hfilter : ∀ xs, nativesOf (xs.filter fun x => !x.isNullType) = nativesOf xs := by
    intro xs
    induction xs with
    | nil => rfl
    | cons x rest ih =>
      cases x with
      | nullType => exact ih
      | _ => exact congrArg (_ ++ ·) ih
  unfold principal at h
  split at h
  · next b heq =>
    subst h
    have hnatives := hfilter a.arguments
    rw [heq] at hnatives
    cases a with
    | generic => exact hnatives.symm
    | union => exact hnatives.symm
    | _ => cases heq
  · rw [h, natives]

/-- Does a search for some names come to the type that inference sees?  There are two native types
that are not searched for; and if inference sees none, then none must be searched for. -/
def IsFoundBy (names : List String) (a : TypeHint) : Prop :=
  match a.principal with
  | native n => n ≠ .byteArray ∧ n ≠ .byteView
  | _ => ∀ w ∈ names, w ∉ FieldType.searchedNames

end TypeHint

namespace TypeText

open TypeHint (typedNatives natives nativesOf vocabulary builtins)

variable {w : String} {n : Native} {t : TypeText} {items : List TypeText}

theorem mem_nativesOf_iff
    (h : ∀ t ∈ items, ∀ {a}, t.evaluate [] = .ok a → (n ∈ a.natives ↔ w ∈ t.names))
    {xs : List TypeHint} (hxs : evaluateAll [] items = .ok xs) :
    n ∈ nativesOf xs ↔ w ∈ namesOf items := by
  induction items generalizing xs with
  | nil =>
    cases hxs
    exact iff_of_false List.not_mem_nil List.not_mem_nil
  | cons t items ih =>
    obtain ⟨ht, hitems⟩ := List.forall_mem_cons.mp h
    rw [evaluateAll] at hxs
    obtain ⟨x, hx, hxs⟩ := Result.bind_eq_ok.mp hxs
    obtain ⟨ys, hys, hxs⟩ := Result.bind_eq_ok.mp hxs
    cases hxs
    rw [nativesOf, namesOf, List.mem_append, List.mem_append, ht hx, ih hitems hys]

/-- **What a text names stands in its hint.**  A native type with a column type of its own stands in
what an expression evaluates to if the expression names it. -/
theorem mem_natives_iff (hn : n ∈ typedNatives) (hw : (w, n) ∈ vocabulary ++ builtins)
    (hplain : t.IsPlain) :
    ∀ {a}, t.evaluate [] = .ok a → (n ∈ a.natives ↔ w ∈ t.names) := by
  induction hplain with
  | name hs =>
    intro a h
    rw [names, List.mem_singleton, TypeHint.mem_natives_lookUp hs hw h]
  | applied _ _ ihhead ihindex =>
    intro a h
    rw [evaluate] at h
    obtain ⟨b, hb, h⟩ := Result.bind_eq_ok.mp h
    obtain ⟨i, hi, h⟩ := Result.bind_eq_ok.mp h
    rw [TypeHint.mem_natives_apply hn h, ihhead hb, ihindex hi, names, List.mem_append]
  | either _ _ ihx ihy =>
    intro a h
    rw [evaluate] at h
    obtain ⟨b, hb, h⟩ := Result.bind_eq_ok.mp h
    obtain ⟨c, hc, h⟩ := Result.bind_eq_ok.mp h
    rw [TypeHint.mem_natives_either h, ihx hb, ihy hc, names, List.mem_append]
  | several _ ih =>
    intro a h
    rw [evaluate] at h
    obtain ⟨xs, hxs, h⟩ := Result.bind_eq_ok.mp h
    cases h
    exact mem_nativesOf_iff ih hxs

end TypeText

namespace FieldType

open TypeHint (typedNatives nativeType typeNames vocabulary builtins)

variable {s : String} {t : TypeText} {a : TypeHint} {names : List String}

/-! ## Names and the native types that they name -/

theorem exists_name (n : Native) : ∃ w, (w, n) ∈ vocabulary ++ builtins := by
  have hmem : n ∈ (vocabulary ++ builtins).map Prod.snd := by
    cases n <;> decide +kernel
  obtain ⟨⟨w, m⟩, he, rfl⟩ := List.mem_map.mp hmem
  exact ⟨w, he⟩

theorem name_unique {v w : String} {n : Native} (hv : (v, n) ∈ vocabulary ++ builtins)
    (hw : (w, n) ∈ vocabulary ++ builtins) : v = w := by
  have hall : ∀ e ∈ vocabulary ++ builtins, ∀ e' ∈ vocabulary ++ builtins,
      e.2 = e'.2 → e.1 = e'.1 := by
    decide +kernel
  exact hall (v, n) hv (w, n) hw rfl

/-- Texts are searched for the names of the native types with a column type of their own, but for
two. -/
theorem mem_searchedNames_iff {w : String} {n : Native} (hw : (w, n) ∈ vocabulary ++ builtins) :
    w ∈ searchedNames ↔ n ∈ typedNatives ∧ n ≠ .byteArray ∧ n ≠ .byteView := by
  have hall : ∀ e ∈ vocabulary ++ builtins,
      e.1 ∈ searchedNames ↔ e.2 ∈ typedNatives ∧ e.2 ≠ .byteArray ∧ e.2 ≠ .byteView := by
    decide +kernel
  exact hall (w, n) hw

theorem namedType_singleton {w : String} {n : Native} (hw : (w, n) ∈ vocabulary ++ builtins)
    (hsearched : w ∈ searchedNames) : namedType [w] = nativeType n := by
  have hall : ∀ e ∈ vocabulary ++ builtins, e.1 ∈ searchedNames →
      namedType [e.1] = nativeType e.2 := by
    decide +kernel
  exact hall (w, n) hw hsearched

/-! ## Where both readings agree -/

/-- Names that name the native types in a hint have its column type if they are searched for it. -/
theorem namedType_eq_sqlType (hnames : ∀ w ∈ names, w ∈ typeNames)
    (hnatives : ∀ {w n}, n ∈ typedNatives → (w, n) ∈ vocabulary ++ builtins →
      (n ∈ a.natives ↔ w ∈ names)) :
    namedType names = a.sqlType ↔ a.IsFoundBy names := by
  rw [TypeHint.sqlType_eq, TypeHint.IsFoundBy]
  cases hprincipal : a.principal with
  | native n =>
    -- The hint has one native type, so the names can be those of this one alone.
    have hself := TypeHint.natives_of_principal hprincipal
    obtain ⟨w, hw⟩ := exists_name n
    have honly : ∀ v ∈ names, v ∈ searchedNames → v = w := by
      intro v hv hsearched
      obtain ⟨⟨v, m⟩, he, rfl⟩ : ∃ e ∈ vocabulary ++ builtins, e.1 = v := by
        rcases List.mem_cons.mp (hnames v hv) with rfl | hmem
        · exact absurd hsearched (by decide)
        · exact List.mem_map.mp hmem
      have hm := (hnatives ((mem_searchedNames_iff he).mp hsearched).1 he).mpr hv
      rw [hself, List.mem_singleton] at hm
      subst hm
      exact name_unique he hw
    change _ = nativeType n ↔ _
    by_cases hsearched : w ∈ searchedNames
    · obtain ⟨htyped, hother⟩ := (mem_searchedNames_iff hw).mp hsearched
      have hmem : w ∈ names := by
        rw [← hnatives htyped hw, hself]
        exact List.mem_singleton_self n
      rw [namedType_of_only hnames hmem honly]
      exact iff_of_true (namedType_singleton hw hsearched) hother
    · have htext : namedType names = .text :=
        (namedType_eq_text hnames).mpr fun v hv hv' => hsearched (honly v hv hv' ▸ hv')
      have htyped := TypeHint.nativeType_ne_text n
      rw [mem_searchedNames_iff hw, ← htyped, not_and] at hsearched
      rw [htext, eq_comm]
      constructor
      · intro hnative
        refine ⟨?_, ?_⟩
        all_goals
          rintro rfl
          exact absurd hnative (by decide)
      · intro hother
        by_contra hne
        exact hsearched hne hother
  | _ => exact namedType_eq_text hnames

/-- **Where texts say what they mean.**  A text that is read as an expression of names, subscripts and
bars has the column type that the expression evaluates to, if that is found by the names in it; and it
is as optional, if an optional type is written with `Optional` in front or with a bar next to the
absent value, and no other type is. -/
theorem text_agrees_iff (hs : TypeToken.IsPlainText s.toList) (ht : TypeText.ofText? s = some t)
    (hplain : t.IsPlain) (ha : t.evaluate [] = .ok a) :
    ((text s).sqlType = (type a).sqlType ↔ a.IsFoundBy t.names) ∧
      ((text s).isOptional = (type a).isOptional ↔
        (a.isOptional = true ↔ t.OpensOptional ∨ t.MeetsNone)) := by
  obtain ⟨ts, hspells⟩ := exists_spells hs ht hplain
  have hnames := TypeText.mem_typeNames hplain
  constructor
  · rw [sqlType, sqlType, textType_eq hspells]
    exact namedType_eq_sqlType hnames fun hn hw => TypeText.mem_natives_iff hn hw hplain ha
  · rw [isOptional, isOptional, Bool.eq_iff_iff, isOptionalText_iff hspells hplain]
    exact iff_comm

/-- The moment that may be missing is read the same as text and as a type. -/
theorem text_agrees_iff_datetime_or_none :
    ∃ t a, TypeText.ofText? "datetime | None" = some t ∧ t.evaluate [] = .ok a ∧
      (text "datetime | None").sqlType = (type a).sqlType ∧ a.sqlType = .timestamp ∧
      (text "datetime | None").isOptional = (type a).isOptional ∧ a.isOptional = true := by
  have hmoment : TypeText.ofWord? "datetime" = some (.name "datetime") :=
    TypeText.ofWord?_of_free (by decide +kernel)
  have hnone : TypeText.ofWord? "None" = some (.name "None") :=
    TypeText.ofWord?_of_free (by decide +kernel)
  have hs : TypeToken.IsPlainText "datetime | None".toList := by decide +kernel
  have hscan : TypeToken.scan none 0 [] "datetime | None".toList =
      some [.word "datetime", .bar, .word "None"] := by
    decide +kernel
  have ht : TypeText.ofText? "datetime | None" =
      some (.either (.name "datetime") (.name "None")) := by
    refine TypeText.ofText?_of_scan hs (by decide +kernel) hscan ?_
    simp [TypeText.parseList, TypeText.parse, TypeText.parseTerm, TypeText.parseOperand,
      TypeText.parseIndices, TypeText.parseMore, hmoment, hnone]
  have hplain : (TypeText.either (.name "datetime") (.name "None")).IsPlain :=
    .either (.name (by decide)) (.name (by decide))
  have ha : (TypeText.either (.name "datetime") (.name "None")).evaluate [] =
      .ok (.union false [.native .instant, .nullType]) := rfl
  obtain ⟨htype, hoptional⟩ := text_agrees_iff hs ht hplain ha
  refine ⟨_, _, ht, ha, htype.mpr ?_, rfl, hoptional.mpr ?_, rfl⟩
  · change Native.instant ≠ .byteArray ∧ Native.instant ≠ .byteView
    decide
  · refine iff_of_true rfl (Or.inr ?_)
    rw [TypeText.MeetsNone]
    exact Or.inr (Or.inl rfl)

/-- A map to numbers is a number as text and no type with a column type of its own otherwise. -/
theorem text_not_evaluated :
    ¬ ∀ s t a, TypeToken.IsPlainText s.toList → TypeText.ofText? s = some t → t.IsPlain →
      t.evaluate [] = .ok a →
      (text s).sqlType = (type a).sqlType ∧ (text s).isOptional = (type a).isOptional := by
  intro hall
  have hdict : TypeText.ofWord? "dict" = some (.name "dict") :=
    TypeText.ofWord?_of_free (by decide +kernel)
  have hstr : TypeText.ofWord? "str" = some (.name "str") :=
    TypeText.ofWord?_of_free (by decide +kernel)
  have hint : TypeText.ofWord? "int" = some (.name "int") :=
    TypeText.ofWord?_of_free (by decide +kernel)
  have hs : TypeToken.IsPlainText "dict[str, int]".toList := by decide +kernel
  have hscan : TypeToken.scan none 0 [] "dict[str, int]".toList =
      some [.word "dict", .left, .word "str", .comma, .word "int", .right] := by
    decide +kernel
  have ht : TypeText.ofText? "dict[str, int]" =
      some (.applied (.name "dict") (.several [.name "str", .name "int"])) := by
    refine TypeText.ofText?_of_scan hs (by decide +kernel) hscan ?_
    simp [TypeText.parseList, TypeText.parse, TypeText.parseTerm, TypeText.parseOperand,
      TypeText.parseIndices, TypeText.parseMore, TypeText.parseItems, hdict, hstr, hint]
  have hplain : (TypeText.applied (.name "dict")
      (.several [.name "str", .name "int"])).IsPlain :=
    .applied (.name (by decide)) (.several (List.forall_mem_cons.mpr
      ⟨.name (by decide), List.forall_mem_singleton.mpr (.name (by decide))⟩))
  have ha : (TypeText.applied (.name "dict") (.several [.name "str", .name "int"])).evaluate [] =
      .ok (.generic .dict [.native .str, .native .int]) := rfl
  have htext : (text "dict[str, int]").sqlType = .integer := by decide +kernel
  obtain ⟨heq, -⟩ := hall _ _ _ hs ht hplain ha
  rw [htext] at heq
  cases heq

end FieldType

end RelMap
