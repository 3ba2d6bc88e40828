import RelMap.Proofs.Model.Refusal
import RelMap.Proofs.Query.Identifier
import RelMap.Proofs.Query.Target
import RelMap.Proofs.Query.Written
import RelMap.Proofs.TypeHint.Searched

/-!
# Names of tables

The table of a model gets its name where the name is set or the model is mapped, and there it must be
an identifier.  Until then, and after the registry is cleared, it has the name of the model in small
letters, which nobody checks.  So the name of a table is an identifier exactly if it was given, or if
the small letters of the model's name happen to make one (`Catalog.table_checked_iff`); they do if
the name of the model is an identifier itself, but not for most names beyond ASCII.
-/

namespace RelMap

open Relation (ReflTransGen)

/-! ## Small letters -/

namespace Identifier

theorem isSegment_map_toLower (cs : List Char) :
    isSegment (cs.map Char.toLower) = isSegment cs := by
  cases cs with
  | nil => rfl
  | cons c rest =>
    have htail : isTail ∘ Char.toLower = isTail :=
      funext fun c => Text.apply_toLower (by decide) c
    rw [List.map_cons, isSegment, isSegment, Text.apply_toLower (f := isHead) (by decide),
      List.all_map, htail]

theorem isIdentifier_map_toLower (cs : List Char) :
    isIdentifier (cs.map Char.toLower) = isIdentifier cs := by
  have hdot : (fun c : Char => decide (c ≠ '.')) ∘ Char.toLower = fun c => decide (c ≠ '.') :=
    funext fun c => Text.apply_toLower (f := fun c => decide (c ≠ '.')) (by decide) c
  rw [isIdentifier, isIdentifier, List.span_eq_takeWhile_dropWhile,
    List.span_eq_takeWhile_dropWhile, List.takeWhile_map, List.dropWhile_map, hdot]
  cases cs.dropWhile fun c => decide (c ≠ '.') with
  | nil => exact isSegment_map_toLower _
  | cons dot second =>
    simp only [List.map_cons, isSegment_map_toLower]

/-- An identifier in small letters is one. -/
theorem isIdentifier_lower {s : String} (h : isIdentifier s.toList = true) :
    isIdentifier (Text.lower s).toList = true := by
  have hascii : ∀ c ∈ s.toList, c.toNat < 128 :=
    fun c hc => ascii_of_isNameChar (isNameChar_of_isIdentifier h c hc)
  rw [Text.lower, String.toList_ofList, Text.lowerChars_of_ascii hascii, isIdentifier_map_toLower]
  exact h

end Identifier

/-! ## One declaration -/

namespace Registry

variable {r r' : Registry} {m n : ModelId} {d : Declaration}

/-- The name that a declaration gives a table is an identifier. -/
theorem isIdentifier_of_tableOf? {name : Name} (h : d.tableOf? m = some name) :
    name.isIdentifier = true := by
  cases d with
  | setTable n table =>
    simp only [Declaration.tableOf?] at h
    split at h
    · cases hcheck : checkName "table name" table with
      | ok checked =>
        rw [hcheck] at h
        cases h
        exact isIdentifier_of_checkName hcheck
      | error e =>
        rw [hcheck] at h
        cases h
    · cases h
  | _ => cases h

theorem table_after (r : Registry) (h : d.isClear = false) (m : ModelId) :
    ((r.after d).slot m).table = (d.tableOf? m).getD (r.slot m).table := by
  rw [slot_after, Slot.table_after _ h]

/-- Columns that join a model leave all tables their names. -/
theorem table_of_adds (h : ReflTransGen (Adds n) r r') (m : ModelId) :
    (r'.slot m).table = (r.slot m).table := by
  induction h with
  | refl => rfl
  | @tail r₁ r₂ _ hadd ih =>
    obtain ⟨c, hadd⟩ := hadd
    rw [← after_of_declare (d := .addColumn n c) hadd, table_after r₁ rfl]
    exact ih

/-- Registering a model under a checked name gives its table that name, and no other. -/
theorem table_of_collectEntity {table : Value} {byInstance : Bool} {events : List Event}
    (h : r.collectEntity n table byInstance = .ok (r', events)) (m : ModelId) :
    n = m ∧ (r'.slot m).table.isIdentifier = true ∨
      n ≠ m ∧ (r'.slot m).table = (r.slot m).table := by
  unfold collectEntity at h
  split at h
  · cases h
  · obtain ⟨r₁, hset, h⟩ := Result.bind_eq_ok.mp h
    have hregister : r₁.after (.register n) = r' := congrArg Prod.fst (Except.ok.inj h)
    have hnamed : r.after (.setTable n (tableName n table)) = r₁ := after_of_declare hset
    have htable : (r'.slot m).table =
        ((Declaration.setTable n (tableName n table)).tableOf? m).getD (r.slot m).table := by
      rw [← hregister, table_after r₁ rfl, ← hnamed, table_after r rfl]
      rfl
    rw [htable]
    by_cases hn : n = m
    · refine .inl ⟨hn, ?_⟩
      obtain ⟨name, hname, -⟩ := Result.bind_eq_ok.mp hset
      have hof : (Declaration.setTable n (tableName n table)).tableOf? m = some name := by
        rw [Declaration.tableOf?, if_pos hn, hname]
        rfl
      rw [hof]
      exact isIdentifier_of_tableOf? hof
    · refine .inr ⟨hn, ?_⟩
      rw [Declaration.tableOf?, if_neg hn]
      rfl

end Registry

/-! ## One call -/

namespace Catalog

variable {c : Catalog} {scope : Scope} {m : ModelId} {calls : List Call} {call : Call}

/-- The name of the table of a model in a registry, whether or not the model is registered. -/
def tableIn (c : Catalog) (scope : Scope) (m : ModelId) : Name := ((c.registry scope).slot m).table

/-- Does a call name the table of a model in a registry?  Calls that are refused do not. -/
def Names (c : Catalog) (scope : Scope) (m : ModelId) : Call → Prop
  | .declare _ _ _ _ _ => False
  | .map s n table => s = scope ∧ n = m ∧ (c.mapModel s n table).2.2 = none
  | .change s d => s = scope ∧ (d.tableOf? m).isSome

theorem tableIn_congr {c' : Catalog} (h : c'.registry scope = c.registry scope) (m : ModelId) :
    c'.tableIn scope m = c.tableIn scope m := by
  rw [tableIn, tableIn, h]

theorem registry_after_declare (c : Catalog) (id : ModelId) (base : Option ModelId)
    (persistent : Bool) (body : List FieldSpec) (record : Bool) (s : Scope) :
    (c.after (.declare id base persistent body record)).registry s = c.registry s := by
  rcases after_declare c id base persistent body record with h | ⟨-, h | h⟩
  · rw [h]
  · rw [h, registry_declare]
  · rw [h, registry_compose, registry_declare]

/-- Mapping a model without failure names its table; nothing else that mapping does names one. -/
theorem Ends.tableIn {s : Scope} {n : ModelId} {d c' : Catalog} {e : Option Error}
    (h : Ends s n d c' e) (scope : Scope) (m : ModelId) :
    (s = scope ∧ n = m ∧ e = none) ∧ (c'.tableIn scope m).isIdentifier = true ∨
      ¬ (s = scope ∧ n = m ∧ e = none) ∧ c'.tableIn scope m = d.tableIn scope m := by
  cases h with
  | early e =>
    refine .inr ⟨?_, rfl⟩
    rintro ⟨-, -, hended⟩
    cases hended
  | @partway hint e =>
    refine .inr ⟨?_, ?_⟩
    · rintro ⟨-, -, hended⟩
      cases hended
    · have hadds := Registry.adds_collectFields (d.registry s) n hint ((d.fields? n).getD [])
      exact registry_withRegistry_induction
        (R := fun r r' => (r'.slot m).table = (r.slot m).table) (fun _ => rfl)
        (Registry.table_of_adds hadds m) scope
  | @mapped hint r r' v events hcollect hentity =>
    have hadds := Registry.adds_collectFields (d.registry s) n hint ((d.fields? n).getD [])
    rw [hcollect] at hadds
    rw [Catalog.tableIn, Catalog.tableIn, registry_withHome]
    by_cases hs : scope = s
    · subst hs
      rw [registry_withRegistry, ← Registry.table_of_adds hadds m]
      refine (Registry.table_of_collectEntity hentity m).imp ?_ ?_
      · rintro ⟨hn, hname⟩
        exact ⟨⟨rfl, hn, rfl⟩, hname⟩
      · rintro ⟨hn, hsame⟩
        exact ⟨fun h => hn h.2.1, hsame⟩
    · rw [registry_withRegistry_of_ne hs]
      exact .inr ⟨fun h => hs h.1.symm, rfl⟩

/-- **One call names a table or leaves it its name.**  Only clearing the registry does neither. -/
theorem tableIn_after (c : Catalog) (hcall : call ≠ .change scope .clear) (m : ModelId) :
    c.Names scope m call ∧ ((c.after call).tableIn scope m).isIdentifier = true ∨
      ¬ c.Names scope m call ∧ (c.after call).tableIn scope m = c.tableIn scope m := by
  cases call with
  | declare id base persistent body record =>
    exact .inr ⟨not_false,
      tableIn_congr (registry_after_declare c id base persistent body record scope) m⟩
  | map s n table =>
    obtain ⟨d, hd, hends⟩ := ends_mapModel c s n table
    have hregistry : d.registry scope = c.registry scope := by
      rcases hd with ⟨rfl, -⟩ | ⟨rfl, -⟩
      · rfl
      · exact registry_compose c n scope
    have hended := hends.tableIn scope m
    rw [tableIn_congr hregistry m] at hended
    exact hended
  | change s d =>
    simp only [Names, after, tableIn]
    by_cases hs : scope = s
    · subst hs
      have hclear : d.isClear = false := by
        cases d with
        | clear => exact absurd rfl hcall
        | _ => rfl
      rw [registry_withRegistry, Registry.table_after _ hclear]
      cases htable : d.tableOf? m with
      | none => exact .inr ⟨by simp, rfl⟩
      | some name => exact .inl ⟨by simp, Registry.isIdentifier_of_tableOf? htable⟩
    · rw [registry_withRegistry_of_ne hs]
      exact .inr ⟨fun h => hs h.1.symm, rfl⟩

theorem tableIn_clear (c : Catalog) (scope : Scope) (m : ModelId) :
    (c.after (.change scope .clear)).tableIn scope m = .plain (Text.lower m.name) := by
  rw [tableIn, after, registry_withRegistry]
  rfl

/-! ## A whole history -/

/-- A call of the history named the table, and the registry was not cleared since. -/
def WasNamed (calls : List Call) (scope : Scope) (m : ModelId) : Prop :=
  ∃ before call behind, calls = before ++ call :: behind ∧ (replay before).Names scope m call ∧
    ∀ call ∈ behind, call ≠ .change scope .clear

theorem wasNamed_concat : WasNamed (calls ++ [call]) scope m ↔
    (replay calls).Names scope m call ∨ WasNamed calls scope m ∧ call ≠ .change scope .clear := by
  constructor
  · rintro ⟨before, named, behind, hsplit, hnames, hkept⟩
    rcases List.eq_nil_or_concat' behind with rfl | ⟨behind, last, rfl⟩
    · obtain ⟨rfl, hlast⟩ := List.append_inj' hsplit rfl
      cases hlast
      exact .inl hnames
    · rw [← List.cons_append, ← List.append_assoc] at hsplit
      obtain ⟨rfl, hlast⟩ := List.append_inj' hsplit rfl
      cases hlast
      obtain ⟨hbehind, hcall⟩ := List.forall_mem_append.mp hkept
      exact .inr ⟨⟨before, named, behind, rfl, hnames, hbehind⟩, hcall _ List.mem_cons_self⟩
  · rintro (hnames | ⟨⟨before, named, behind, rfl, hnames, hkept⟩, hcall⟩)
    · exact ⟨calls, call, [], rfl, hnames, nofun⟩
    · refine ⟨before, named, behind ++ [call], by simp, hnames, ?_⟩
      exact List.forall_mem_append.mpr ⟨hkept, by simpa using hcall⟩

/-- The name of a table is the one that it was given, or the model's own in small letters. -/
theorem tableIn_replay (calls : List Call) (scope : Scope) (m : ModelId) :
    WasNamed calls scope m ∧ ((replay calls).tableIn scope m).isIdentifier = true ∨
      ¬ WasNamed calls scope m ∧ (replay calls).tableIn scope m = .plain (Text.lower m.name) := by
  induction calls using List.reverseRecOn with
  | nil =>
    refine .inr ⟨?_, by cases scope <;> rfl⟩
    rintro ⟨before, call, behind, hsplit, -⟩
    simp at hsplit
  | append_singleton calls call ih =>
    have hlast : replay (calls ++ [call]) = (replay calls).after call := by simp [replay]
    rw [hlast, wasNamed_concat]
    -- clearing brings the default back, and any other call keeps what the calls before it say
    by_cases hcall : call = .change scope .clear
    · subst hcall
      refine .inr ⟨?_, tableIn_clear _ scope m⟩
      rintro (⟨-, hsome⟩ | ⟨-, hne⟩)
      · cases hsome
      · exact hne rfl
    · rcases tableIn_after (replay calls) hcall m with ⟨hnames, hchecked⟩ | ⟨hnames, hsame⟩
      · exact .inl ⟨.inl hnames, hchecked⟩
      · rw [hsame]
        refine ih.imp ?_ ?_
        · rintro ⟨hwas, hchecked⟩
          exact ⟨.inr ⟨hwas, hcall⟩, hchecked⟩
        · rintro ⟨hwas, hdefault⟩
          exact ⟨fun h => h.elim hnames fun h => hwas h.1, hdefault⟩

theorem checkName_toValue_iff {role : String} {n : Name} :
    checkName role n.toValue = .ok n ↔ n.isIdentifier = true :=
  ⟨isIdentifier_of_checkName, fun h => checkName_toValue h role⟩

/-- **Which names of tables are checked.**  Whatever calls were made, accepted or refused, the name
of a registered model's table passes the check of identifiers exactly if a call gave the table its
name since the registry was last cleared, or if the model's own name in small letters passes; that
is the name of the table otherwise.  So it passes for every model whose own name is an identifier.

The statements that create and drop the table have this name behind their first words, and so has
every query whose table was given by the model, in the place of the table. -/
theorem table_checked_iff {e : Entity} (he : ((replay calls).registry scope).entity m = .ok e) :
    (checkName "table name" e.table.toValue = .ok e.table ↔
      WasNamed calls scope m ∨ Identifier.isIdentifier (Text.lower m.name).toList = true) ∧
    (¬ WasNamed calls scope m → e.table = .plain (Text.lower m.name)) ∧
    (Identifier.isIdentifier m.name.toList = true →
      checkName "table name" e.table.toValue = .ok e.table) ∧
    (∀ d ifAbsent, ∃ definitions, e.createTable d ifAbsent =
      (if ifAbsent then "CREATE TABLE IF NOT EXISTS " else "CREATE TABLE ") ++ e.table.shown ++
        " (\n  " ++ definitions) ∧
    (∀ ifPresent, e.dropTable ifPresent =
      (if ifPresent then "DROP TABLE IF EXISTS " else "DROP TABLE ") ++ e.table.shown) ∧
    ((replay calls).scopeOf m = scope → ∀ (call : BuilderCall) (target : ModelTerm) (q q' : Query),
      call.target? = some target → target.evaluate (replay calls) = .ok (.model m) →
      call.run (replay calls) q = .ok q' →
      q'.table = e.table.toValue ∧ q'.table.display = e.table.shown ∧
        ∀ k d, ∃ front back, q'.pieces k d = front ++ .name e.table.toValue :: back) := by
  have htable : e.table = (replay calls).tableIn scope m := by
    rw [Registry.entity_eq] at he
    split at he
    · cases he
      rfl
    · cases he
  have hreplay := tableIn_replay calls scope m
  rw [← htable] at hreplay
  have hchecked : e.table.isIdentifier = true ↔
      WasNamed calls scope m ∨ Identifier.isIdentifier (Text.lower m.name).toList = true := by
    rcases hreplay with ⟨hwas, hname⟩ | ⟨hwas, hdefault⟩
    · exact iff_of_true hname (.inl hwas)
    · rw [or_iff_right hwas, hdefault]
      exact Iff.rfl
  refine ⟨?_, ?_, ?_, ?_, fun _ => rfl, ?_⟩
  · rw [checkName_toValue_iff, hchecked]
  · intro hwas
    exact (hreplay.resolve_left fun h => hwas h.1).2
  · intro hname
    rw [checkName_toValue_iff, hchecked]
    exact .inr (Identifier.isIdentifier_lower hname)
  · intro d ifAbsent
    exact ⟨_, String.append_assoc⟩
  · intro hscope call target q q' hcall htarget hrun
    have hof := BuilderCall.target_of_names hcall hrun
    have hentity : (replay calls).entity m = .ok e := by
      rw [entity, hscope, he]
    have hnamed : BuilderCall.targetOf (replay calls) target = .ok (e.table.toValue, some m) := by
      rw [BuilderCall.targetOf, htarget]
      exact Query.target_model hentity
    rw [hnamed] at hof
    obtain ⟨hsame, -⟩ := Prod.mk.inj (Except.ok.inj hof)
    refine ⟨hsame.symm, ?_, ?_⟩
    · rw [← hsame, Name.display_toValue]
    · intro k d
      obtain ⟨front, back, hpieces, -⟩ := q'.pieces_split k d
      rw [Query.tablePiece, ← hsame] at hpieces
      exact ⟨front, back, hpieces⟩

/-! ### A model whose name is beyond ASCII -/

def cafeModel : ModelId := ⟨"Café", 1⟩

/-- The model is registered. -/
def cafeCalls : List Call := [.change .own (.register cafeModel)]

theorem table_checked_iff_cafe : ∃ e,
    ((replay (cafeCalls ++ [.change .own (.setTable cafeModel (.text "cafes"))])).registry
      .own).entity cafeModel = .ok e ∧
    checkName "table name" e.table.toValue = .ok e.table := by
  refine ⟨⟨cafeModel, .plain "cafes", []⟩, rfl, ?_⟩
  have hnamed : WasNamed (cafeCalls ++ [.change .own (.setTable cafeModel (.text "cafes"))]) .own
      cafeModel :=
    ⟨cafeCalls, _, [], rfl, ⟨rfl, rfl⟩, nofun⟩
  exact (table_checked_iff (e := ⟨cafeModel, .plain "cafes", []⟩) rfl).1.mpr (.inl hnamed)

/-- Not every table has a name that was checked: a model that is registered before anything names its
table gives the table its own name. -/
theorem table_not_always_checked :
    ¬ ∀ (calls : List Call) (scope : Scope) (m : ModelId) (e : Entity),
      ((replay calls).registry scope).entity m = .ok e →
      checkName "table name" e.table.toValue = .ok e.table := by
  intro hall
  have hchecked := hall cafeCalls .own cafeModel ⟨cafeModel, .plain (Text.lower "Café"), []⟩ rfl
  have hname : (Name.plain (Text.lower "Café")).isIdentifier = true :=
    isIdentifier_of_checkName hchecked
  exact absurd hname (by decide +kernel)

end Catalog

end RelMap
