import RelMap.Proofs.Model.Ancestry
import RelMap.Proofs.Registry.Collecting
import RelMap.Query.Statement

/-!
# Mappings that fail

Mapping a model declares one column after the other, and it can fail at any of them or at the name of
the table; the columns that were declared by then stay in the registry.  Nobody sees them
(`Catalog.refused_unseen`).  If the model is not registered, what is declared of it is not shown.  If
it was mapped into the registry before, the names of all its columns are taken, so mapping it again
ends at the first of them.

For the second reason the fields of a model must still be those that were mapped, whatever was
declared in between (`Catalog.IsSpent.after`).  They are: a class is made a record class where it is
declared or where it is mapped, but mapped only once it has no fields to take from a base class.
-/

namespace RelMap

namespace Catalog

variable {c c' d : Catalog} {m n id : ModelId} {scope s : Scope} {table : Value}

/-! ## Mapping -/

/-- The catalog in which a class has moved into a registry. -/
def withHome (c : Catalog) (m : ModelId) (scope : Scope) : Catalog :=
  match c.class? m with
  | some k => c.putClass { k with home := some scope }
  | none => c

theorem registry_withHome (c : Catalog) (m : ModelId) (scope s : Scope) :
    (c.withHome m scope).registry s = c.registry s := by
  unfold withHome
  split
  · exact registry_putClass c _ s
  · rfl

/-- What one registry becomes is related to it if it is where that registry is put, and all others
stay. -/
theorem registry_withRegistry_induction {R : Registry → Registry → Prop} (hrefl : ∀ r, R r r)
    {r : Registry} (h : R (c.registry scope) r) (s : Scope) :
    R (c.registry s) ((c.withRegistry scope r).registry s) := by
  by_cases hs : s = scope
  · subst hs
    rw [registry_withRegistry]
    exact h
  · rw [registry_withRegistry_of_ne hs]
    exact hrefl _

/-- A class that moves stays as it is otherwise. -/
theorem map_class?_withHome {α : Type} {g : ModelClass → α}
    (hg : ∀ k : ModelClass, g { k with home := some scope } = g k) (c : Catalog) (m n : ModelId) :
    ((c.withHome m scope).class? n).map g = (c.class? n).map g := by
  unfold withHome
  split
  · next k hk =>
    obtain rfl := id_of_class? hk
    rw [class?_putClass]
    split
    · next hn => rw [hn, hk, Option.map_some, Option.map_some, hg]
    · rfl
  · rfl

/-- How mapping a model ends in a catalog that is prepared for it: nothing is declared, the model is
not registered, or it is registered and the class has moved into the registry. -/
inductive Ends (scope : Scope) (m : ModelId) (d : Catalog) : Catalog → Option Error → Prop
  | early (e : Error) : Ends scope m d d (some e)
  | partway {hint : Field → FieldType} (e : Error) :
      Ends scope m d (d.withRegistry scope
        ((d.registry scope).collectFields m hint ((d.fields? m).getD [])).1) (some e)
  | mapped {hint : Field → FieldType} {r r' : Registry} {table : Value} {events : List Event} :
      (d.registry scope).collectFields m hint ((d.fields? m).getD []) = (r, none) →
      r.collectEntity m table = .ok (r', events) →
      Ends scope m d ((d.withRegistry scope r').withHome m scope) none

/-- A class is composed before it is mapped unless it has fields, be they those of a base class. -/
theorem ends_mapModel (c : Catalog) (scope : Scope) (m : ModelId) (table : Value) :
    ∃ d, (d = c ∧ (∃ fs, c.fields? m = some fs) ∨ d = (c.compose m).1 ∧ c.fields? m = none ∧
        ((c.mapModel scope m table).2.2 = none → (c.compose m).2 = none)) ∧
      Ends scope m d (c.mapModel scope m table).1 (c.mapModel scope m table).2.2 := by
  have hprepared : ∀ p, (if (c.fields? m).isSome then (c, none) else c.compose m) = p →
      (p.1 = c ∧ (∃ fs, c.fields? m = some fs) ∨
        p.1 = (c.compose m).1 ∧ c.fields? m = none ∧ (p.2 = none → (c.compose m).2 = none)) := by
    rintro p rfl
    split
    · next h => exact Or.inl ⟨rfl, Option.isSome_iff_exists.mp h⟩
    · next h => exact Or.inr ⟨rfl, Option.not_isSome_iff_eq_none.mp h, id⟩
  unfold mapModel
  revert hprepared
  generalize (if (c.fields? m).isSome then (c, none) else c.compose m) = p
  intro hprepared
  obtain ⟨d, failure⟩ := p
  have hd := hprepared _ rfl
  dsimp only at hd ⊢
  split
  · exact ⟨d, hd.imp_right fun ⟨hsame, hnone, _⟩ => ⟨hsame, hnone, nofun⟩, .early _⟩
  · exact ⟨d, hd.imp_right fun ⟨hsame, hnone, _⟩ => ⟨hsame, hnone, nofun⟩, .early _⟩
  · next hint _ =>
    refine ⟨d, hd.imp_right fun ⟨hsame, hnone, hok⟩ => ⟨hsame, hnone, fun _ => hok rfl⟩, ?_⟩
    rcases hcollect : (d.registry scope).collectFields m hint ((d.fields? m).getD []) with ⟨r, f⟩
    have hr : r = ((d.registry scope).collectFields m hint ((d.fields? m).getD [])).1 := by
      rw [hcollect]
    dsimp only
    split
    · rw [hr]
      exact .partway _
    · split
      · rw [hr]
        exact .partway _
      · next r' events hentity =>
        dsimp only
        rw [withRegistry_withRegistry]
        exact .mapped hcollect hentity

/-- What the end of mapping keeps of every class. -/
theorem Ends.map_class? {α : Type} {g : ModelClass → α} {e : Option Error}
    (h : Ends scope m d c' e) (hg : ∀ k : ModelClass, g { k with home := some scope } = g k)
    (n : ModelId) : (c'.class? n).map g = (d.class? n).map g := by
  cases h with
  | early => rfl
  | partway => rw [class?_withRegistry]
  | mapped => rw [map_class?_withHome hg, class?_withRegistry]

theorem Ends.keeps {e : Option Error} (h : Ends scope m d c' e) (s : Scope) :
    (d.registry s).Keeps (c'.registry s) := by
  cases h with
  | early => exact .refl _
  | @partway hint =>
    have hadds := Registry.adds_collectFields (d.registry scope) m hint ((d.fields? m).getD [])
    exact registry_withRegistry_induction .refl (Registry.keeps_of_adds hadds) s
  | @mapped hint _ _ _ _ hcollect hentity =>
    have hadds := Registry.adds_collectFields (d.registry scope) m hint ((d.fields? m).getD [])
    rw [hcollect] at hadds
    rw [registry_withHome]
    exact registry_withRegistry_induction .refl
      ((Registry.keeps_of_adds hadds).trans (Registry.keeps_collectEntity hentity)) s

theorem fields?_congr (hancestors : ∀ n, (c'.class? n).map ModelClass.ancestors =
    (c.class? n).map ModelClass.ancestors)
    (hfields : ∀ n, (c'.class? n).map ModelClass.fields = (c.class? n).map ModelClass.fields)
    (m : ModelId) : c'.fields? m = c.fields? m := by
  have hfound : ∀ a, (c'.class? a).bind ModelClass.fields = (c.class? a).bind ModelClass.fields := by
    intro a
    have hbind := congrArg (Option.bind · id) (hfields a)
    rwa [Option.bind_map, Option.bind_map] at hbind
  rw [fields?, fields?, findSome?_lineage, findSome?_lineage, hancestors]
  simp only [hfound]

namespace Rooted

theorem mapModel (hc : c.Rooted) (scope : Scope) (m : ModelId) (table : Value) :
    (c.mapModel scope m table).1.Rooted := by
  obtain ⟨d, hd, hends⟩ := ends_mapModel c scope m table
  refine congr (c := d) ?_ (hends.map_class? fun _ => rfl)
  rcases hd with ⟨rfl, -⟩ | ⟨rfl, -⟩
  · exact hc
  · exact hc.congr (ancestors_compose c m)

/-- Mapping a class leaves every class that has fields with them. -/
theorem fields?_mapModel (hc : c.Rooted) (scope : Scope) (n : ModelId) (table : Value)
    {fs : List Field} (hfields : c.fields? m = some fs) :
    (c.mapModel scope n table).1.fields? m = some fs := by
  obtain ⟨d, hd, hends⟩ := ends_mapModel c scope n table
  rw [fields?_congr (hends.map_class? fun _ => rfl) (hends.map_class? fun _ => rfl)]
  rcases hd with ⟨rfl, -⟩ | ⟨rfl, hnone, -⟩
  · exact hfields
  · exact hc.fields?_compose hnone hfields

end Rooted

/-! ## The history of a catalog -/

/-- A call that changes a catalog: a class is declared, and made a record class if that is asked for,
a model is mapped, or a declaration is made in a registry. -/
inductive Call where
  | declare (id : ModelId) (base : Option ModelId) (persistent : Bool) (body : List FieldSpec)
    (record : Bool)
  | map (scope : Scope) (m : ModelId) (table : Value)
  | change (scope : Scope) (d : Declaration)

/-- The catalog after a call.  No class is declared twice, and none that makes no record class when
it is asked to. -/
def after (c : Catalog) : Call → Catalog
  | .declare id base persistent body record =>
    if (c.class? id).isSome then c
    else
      let declared := c.declare id base persistent body
      match if record then declared.compose id else (declared, none) with
      | (d, none) => d
      | (_, some _) => c
  | .map scope m table => (c.mapModel scope m table).1
  | .change scope d => c.withRegistry scope ((c.registry scope).after d)

def replay (calls : List Call) : Catalog := calls.foldl after .empty

/-- A declaration leaves the catalog or adds a class, which is composed or not. -/
theorem after_declare (c : Catalog) (id : ModelId) (base : Option ModelId) (persistent : Bool)
    (body : List FieldSpec) (record : Bool) :
    c.after (.declare id base persistent body record) = c ∨ c.class? id = none ∧
      (c.after (.declare id base persistent body record) = c.declare id base persistent body ∨
        c.after (.declare id base persistent body record) =
          ((c.declare id base persistent body).compose id).1) := by
  show ite _ _ _ = c ∨ _ ∧ (ite _ _ _ = _ ∨ ite _ _ _ = _)
  split
  · exact Or.inl rfl
  · next hnew =>
    split
    · next d hd =>
      refine Or.inr ⟨Option.not_isSome_iff_eq_none.mp hnew, ?_⟩
      split at hd
      · exact Or.inr (by rw [hd])
      · exact Or.inl (congrArg Prod.fst hd).symm
    · exact Or.inl rfl

theorem registry_declare (c : Catalog) (id : ModelId) (base : Option ModelId) (persistent : Bool)
    (body : List FieldSpec) (s : Scope) :
    (c.declare id base persistent body).registry s = c.registry s :=
  registry_putClass c (c.newClass id base persistent body) s

theorem Rooted.after (hc : c.Rooted) (call : Call) : (c.after call).Rooted := by
  cases call with
  | declare id base persistent body record =>
    rcases after_declare c id base persistent body record with h | ⟨hnew, h | h⟩
    · rw [h]
      exact hc
    · rw [h]
      exact hc.declare hnew base persistent body
    · rw [h]
      exact (hc.declare hnew base persistent body).congr (ancestors_compose _ id)
  | map scope m table => exact hc.mapModel scope m table
  | change scope d => exact hc.congr fun n => by rw [Catalog.after, class?_withRegistry]

theorem rooted_replay (calls : List Call) : (replay calls).Rooted := by
  induction calls using List.reverseRecOn with
  | nil => exact fun _ _ hk => nomatch hk
  | append_singleton calls call ih =>
    rw [replay, List.foldl_append]
    exact ih.after call

/-! ## Models that were mapped -/

/-- The model has fields, and in the registry the names of their columns are taken. -/
def IsSpent (c : Catalog) (scope : Scope) (m : ModelId) : Prop :=
  ∃ fs, c.fields? m = some fs ∧ ∀ f ∈ fs, f.IsTaken ((c.registry scope).slot m).columns

theorem IsSpent.of_keeps (h : c.IsSpent scope m)
    (hfields : ∀ fs, c.fields? m = some fs → c'.fields? m = some fs)
    (hkeeps : (c.registry scope).Keeps (c'.registry scope)) : c'.IsSpent scope m := by
  obtain ⟨fs, hfs, htaken⟩ := h
  exact ⟨fs, hfields fs hfs, fun f hf => (htaken f hf).mono (hkeeps m)⟩

/-- Mapping a class spends it. -/
theorem isSpent_mapModel (hm : c.class? m ≠ none) (h : (c.mapModel scope m table).2.2 = none) :
    (c.mapModel scope m table).1.IsSpent scope m := by
  obtain ⟨d, hd, hends⟩ := ends_mapModel c scope m table
  obtain ⟨fs, hfs⟩ : ∃ fs, d.fields? m = some fs := by
    rcases hd with ⟨rfl, hsome⟩ | ⟨rfl, -, hcomposed⟩
    · exact hsome
    · exact exists_fields_compose hm (hcomposed h)
  rw [h] at hends
  generalize (c.mapModel scope m table).1 = c' at hends
  have hfs' : c'.fields? m = some fs := by
    rw [fields?_congr (hends.map_class? fun _ => rfl) (hends.map_class? fun _ => rfl), hfs]
  cases hends with
  | mapped hcollect hentity =>
    refine ⟨fs, hfs', fun f hf => ?_⟩
    rw [hfs] at hcollect
    have htaken := Registry.isTaken_of_collectFields hcollect f hf
    rw [registry_withHome, registry_withRegistry, (Registry.slot_of_collectEntity hentity).2]
    exact htaken

theorem IsSpent.after (hc : c.Rooted) (h : c.IsSpent scope m) {call : Call}
    (hcall : call ≠ .change scope .clear) : (c.after call).IsSpent scope m := by
  cases call with
  | declare id base persistent body record =>
    rcases after_declare c id base persistent body record with hsame | ⟨hnew, hdeclared⟩
    · rw [hsame]
      exact h
    · have hothers : ∀ a, a ≠ id → (c.declare id base persistent body).class? a = c.class? a :=
        fun a ha => class?_putClass_of_ne (k := c.newClass id base persistent body) ha
      refine h.of_keeps (fun fs => hc.fields?_declare hnew fun a ha => ?_) ?_
      · rcases hdeclared with heq | heq
        · rw [heq, hothers a ha]
        · rw [heq, class?_compose_of_ne ha, hothers a ha]
      · rcases hdeclared with heq | heq
        · rw [heq, registry_declare]
          exact .refl _
        · rw [heq, registry_compose, registry_declare]
          exact .refl _
  | map s n table =>
    refine h.of_keeps (fun fs => hc.fields?_mapModel s n table) ?_
    obtain ⟨d, hd, hends⟩ := ends_mapModel c s n table
    have hkeeps := hends.keeps scope
    rcases hd with ⟨rfl, -⟩ | ⟨rfl, -⟩
    · exact hkeeps
    · rwa [registry_compose] at hkeeps
  | change s d =>
    refine h.of_keeps (fun fs hfs => ?_) ?_
    · rw [Catalog.after, fields?_congr, hfs]
      all_goals exact fun n => by rw [class?_withRegistry]
    · by_cases hs : scope = s
      · subst hs
        rw [Catalog.after, registry_withRegistry]
        refine Registry.keeps_after ?_
        cases d with
        | clear => exact absurd rfl hcall
        | _ => rfl
      · rw [Catalog.after, registry_withRegistry_of_ne hs]
        exact .refl _

/-- A call of the history mapped the class into the registry, and the registry was not cleared since.
-/
def WasMapped (calls : List Call) (scope : Scope) (m : ModelId) : Prop :=
  ∃ before table behind, calls = before ++ .map scope m table :: behind ∧
    (replay before).class? m ≠ none ∧ ((replay before).mapModel scope m table).2.2 = none ∧
    ∀ call ∈ behind, call ≠ .change scope .clear

theorem isSpent_replay {calls : List Call} (h : WasMapped calls scope m) :
    (replay calls).IsSpent scope m := by
  obtain ⟨before, table, behind, rfl, hm, hmapped, hkept⟩ := h
  have hstart : (replay (before ++ [.map scope m table])).IsSpent scope m := by
    rw [replay, List.foldl_append]
    exact isSpent_mapModel hm hmapped
  rw [List.append_cons]
  generalize before ++ [.map scope m table] = start at hstart
  induction behind using List.reverseRecOn with
  | nil => rwa [List.append_nil]
  | append_singleton behind call ih =>
    have hbehind := ih fun call hcall => hkept call (List.mem_append_left _ hcall)
    rw [← List.append_assoc, replay, List.foldl_append]
    exact hbehind.after (rooted_replay _) (hkept call (by simp))

/-! ## Mapping that fails -/

/-- Mapping that fails is not seen in a registry in which the model is not registered, or in which
the names of all its columns are taken. -/
theorem seenAs_of_ends {e : Error} (h : Ends scope m d c' (some e))
    (hm : (d.registry scope).isRegistered m = false ∨ d.IsSpent scope m) (s : Scope) :
    (d.registry s).SeenAs (c'.registry s) := by
  cases h with
  | early => exact .refl _
  | @partway hint =>
    refine registry_withRegistry_induction .refl ?_ s
    rcases hm with hm | ⟨fs, hfs, htaken⟩
    · rw [Registry.isRegistered_eq] at hm
      exact (Registry.seenAs_of_adds hm (Registry.adds_collectFields _ m hint _)).2
    · rw [hfs, Option.getD_some, Registry.collectFields_of_isTaken htaken]
      exact .refl _

theorem class?_of_ends {e : Error} (h : Ends scope m d c' (some e)) : c'.class? = d.class? := by
  cases h with
  | early => rfl
  | partway => exact funext (class?_withRegistry scope _)

/-- What is known of a model depends on the classes and on what is seen of the registries. -/
theorem entity_of_seenAs (hclass : c'.class? = c.class?)
    (hseen : ∀ s, (c.registry s).SeenAs (c'.registry s)) (n : ModelId) :
    c'.entity n = c.entity n := by
  have hscope : c'.scopeOf n = c.scopeOf n := by
    unfold scopeOf lineage
    rw [hclass]
  rw [entity, entity, hscope, (hseen _).entity]

theorem target_congr (h : ∀ n, c'.entity n = c.entity n) (a : ModelArgument) :
    Query.target c' a = Query.target c a := by
  cases a with
  | model n => rw [Query.target, Query.target, h]
  | value v => rfl

/-- Building a query asks the catalog for the model of the query alone. -/
theorem build_congr (h : ∀ n, c'.entity n = c.entity n) (q : Query) (dialect : Dialect) :
    q.build c' dialect = q.build c dialect := by
  unfold Query.build Query.validate
  simp only [h]

/-- **A mapping that fails is not seen.**  If a model is not registered in a registry, or its class
was mapped into it by a call since whose time the registry was not cleared, and mapping it there
fails, be it at a field, at the name of the table or at the class, then all registries answer as
before: which models are registered, in which order, and what is known of each.  So a query takes
the same models for its table as before, and it is built or refused as before. -/
theorem refused_unseen {events : List Event} {e : Error}
    (hm : (c.registry scope).isRegistered m = false ∨
      ∃ calls, c = replay calls ∧ WasMapped calls scope m)
    (h : c.mapModel scope m table = (c', events, some e)) :
    (∀ s, (c.registry s).SeenAs (c'.registry s)) ∧ (∀ n, c'.entity n = c.entity n) ∧
      (∀ a, Query.target c' a = Query.target c a) ∧
      ∀ (q : Query) (dialect : Dialect), q.build c' dialect = q.build c dialect := by
  obtain ⟨d, hd, hends⟩ := ends_mapModel c scope m table
  rw [h] at hends
  have hspent : (c.registry scope).isRegistered m = false ∨ c.IsSpent scope m := by
    refine hm.imp_right ?_
    rintro ⟨calls, rfl, hmapped⟩
    exact isSpent_replay hmapped
  obtain ⟨hregistry, hentity, hprepared⟩ : (∀ s, d.registry s = c.registry s) ∧
      (∀ n, d.entity n = c.entity n) ∧
        ((d.registry scope).isRegistered m = false ∨ d.IsSpent scope m) := by
    rcases hd with ⟨rfl, -⟩ | ⟨rfl, hnone, -⟩
    · exact ⟨fun _ => rfl, fun _ => rfl, hspent⟩
    · -- a class that is composed has no fields, so it was not mapped
      refine ⟨registry_compose c m, entity_compose c m, Or.inl ?_⟩
      rw [registry_compose]
      refine hspent.resolve_right ?_
      rintro ⟨fs, hfs, -⟩
      cases hnone.symm.trans hfs
  have hseen : ∀ s, (c.registry s).SeenAs (c'.registry s) := by
    intro s
    rw [← hregistry]
    exact seenAs_of_ends hends hprepared s
  have hsame : ∀ n, c'.entity n = c.entity n := by
    intro n
    rw [← hentity]
    refine entity_of_seenAs (class?_of_ends hends) (fun s => ?_) n
    rw [hregistry]
    exact hseen s
  exact ⟨hseen, hsame, target_congr hsame, build_congr hsame⟩

/-- Items are declared and mapped. -/
def itemCalls : List Call :=
  [.declare itemModel none true itemBody false, .map .own itemModel (.text "items")]

/-- The fields of notes: a name, and a field that is mapped by nothing. -/
def noteBody : List FieldSpec :=
  [⟨"title", .type (.native .str), .bare⟩, ⟨"mark", .type (.native .str), .object .none .invalid⟩]

/-- Notes are declared. -/
def notes : Catalog := Catalog.empty.declare bookModel none true noteBody

/-- Mapping notes fails at their second field, and mapping items again fails at their first. -/
theorem refused_unseen_again :
    (∃ c' e, notes.mapModel .own bookModel (.text "notes") = (c', [], some e) ∧
      ((c'.registry .own).slot bookModel).columns.length = 1 ∧
      (notes.registry .own).SeenAs (c'.registry .own)) ∧
    ∃ c' e, (replay itemCalls).mapModel .own itemModel (.text "items") = (c', [], some e) ∧
      ((replay itemCalls).registry .own).SeenAs (c'.registry .own) := by
  have hnotes : notes.mapModel .own bookModel (.text "notes") =
      ((notes.mapModel .own bookModel (.text "notes")).1, [],
        some (.columnOptionsExpected "Book" "mark")) := rfl
  have hitems : (replay itemCalls).mapModel .own itemModel (.text "items") =
      (((replay itemCalls).mapModel .own itemModel (.text "items")).1, [],
        some (.columnDeclared "Item" (.text "id"))) := rfl
  have hnew : (notes.registry .own).isRegistered bookModel = false := rfl
  have hmapped : WasMapped itemCalls .own itemModel :=
    ⟨[.declare itemModel none true itemBody false], .text "items", [], rfl, nofun, rfl, nofun⟩
  exact ⟨⟨_, _, hnotes, rfl, (refused_unseen (.inl hnew) hnotes).1 .own⟩,
    ⟨_, _, hitems, (refused_unseen (.inr ⟨itemCalls, rfl, hmapped⟩) hitems).1 .own⟩⟩

end Catalog

end RelMap