import RelMap.Persistence.Operations
import RelMap.Proofs.Query.Target

/-!
# Known columns

Of all that can go wrong, a query that mentions a column which its model does not have is the
caller's mistake alone.  `Result.Yields` says that a check never fails for that reason, together
with what holds of its result, so the rules for both go through a sequence of checks at once.

A query that was made for a model and mentions only columns of it is the model's own
(`Query.IsOwn`).  The queries that the library puts together are, and so they are never refused for
an unknown column.
-/

namespace RelMap

variable {α β γ : Type} {P P' : α → Prop} {Q : β → Prop}

namespace Result

/-- The check never fails for an unknown column, and its result has the property. -/
def Yields (P : α → Prop) : Result α → Prop
  | .ok a => P a
  | .error (.unknownColumn _ _ _) => False
  | .error _ => True

/-- The check never fails for an unknown column. -/
abbrev Knows (x : Result α) : Prop := x.Yields fun _ => True

namespace Yields

theorem ne {x : Result α} (h : x.Yields P) (column : Value) (model : String) (table : Name) :
    x ≠ .error (.unknownColumn column model table) := by
  rintro rfl
  exact h

theorem error {e : Error} (h : Yields P (.error e)) : Yields Q (.error e) := by
  cases e with
  | unknownColumn => exact h.elim
  | _ => trivial

theorem bind {x : Result α} {f : α → Result β} (hx : x.Yields P)
    (hf : ∀ a, P a → (f a).Yields Q) : Yields Q (x >>= f) := by
  cases x with
  | ok a => exact hf a hx
  | error e => exact hx.error

theorem map {x : Result α} {f : α → β} (hx : x.Yields P) (hf : ∀ a, P a → Q (f a)) :
    Yields Q (x.map f) := by
  cases x with
  | ok a => exact hf a hx
  | error e => exact hx.error

theorem mono {x : Result α} (hx : x.Yields P) (h : ∀ a, P a → P' a) : x.Yields P' := by
  cases x with
  | ok a => exact h a hx
  | error e => exact hx.error

theorem knows {x : Result α} (hx : x.Yields P) : x.Knows := hx.mono fun _ _ => trivial

theorem ite {c : Prop} [Decidable c] {x y : Result α} (hx : x.Yields P) (hy : y.Yields P) :
    Yields P (if c then x else y) := by
  split
  · exact hx
  · exact hy

/-- What is known of each of several results is known of all of them. -/
theorem mapM {f : α → Result β} {p : β → γ} {r : α → γ} {xs : List α}
    (h : ∀ x ∈ xs, (f x).Yields fun y => p y = r x) :
    Yields (fun ys => ys.map p = xs.map r) (xs.mapM f) := by
  induction xs with
  | nil => rfl
  | cons x xs ih =>
    rw [List.mapM_cons]
    refine (h x List.mem_cons_self).bind fun y hy => ?_
    refine (ih fun z hz => h z (List.mem_cons_of_mem x hz)).bind fun ys hys => ?_
    change p y :: ys.map p = r x :: xs.map r
    rw [hy, hys]

end Yields

theorem knows_mapM {f : α → Result β} {xs : List α} (h : ∀ x ∈ xs, (f x).Knows) :
    Knows (xs.mapM f) :=
  (Yields.mapM (p := fun _ => ()) (r := fun _ => ()) fun x hx => (h x hx).mono fun _ _ => rfl).knows

/-- What cannot be read is a fault. -/
theorem knows_getD (x : Option α) (f : α → β) (g : Fault) :
    Knows ((x.map fun a => .ok (f a)).getD (.error (.fault g))) := by
  cases x <;> trivial

theorem knows_forM {f : α → Result Unit} {xs : List α} (h : ∀ x ∈ xs, (f x).Knows) :
    Knows (xs.forM f) := by
  induction xs with
  | nil => trivial
  | cons x xs ih =>
    exact (h x List.mem_cons_self).bind fun _ _ => ih fun z hz => h z (List.mem_cons_of_mem x hz)

end Result

open Result

/-! ## Arguments -/

theorem checkName_knows (role : String) (v : Value) : (checkName role v).Knows := by
  unfold checkName
  split
  · split <;> trivial
  · trivial

theorem Value.toParameter_knows (v : Value) : v.toParameter.Knows := by
  fun_induction Value.toParameter v with
  | case1 _ held ih => exact ih
  | _ => trivial

theorem toParameters_knows (vs : List Value) : (toParameters vs).Knows :=
  knows_mapM fun v _ => v.toParameter_knows

theorem Condition.ofOperator_yields (column : Value) (operator : String) (v : Value) :
    (ofOperator column operator v).Yields fun c => c.column = column := by
  unfold ofOperator
  split
  · split <;> trivial
  · split
    · split
      · trivial
      · exact (toParameters_knows _).bind fun _ _ => rfl
    · split
      · trivial
      · exact v.toParameter_knows.bind fun _ _ => rfl

theorem Condition.make_yields (column operator v : Value) :
    (make column operator v).Yields fun c => c.column = column := by
  unfold make
  refine (checkName_knows _ column).bind fun _ _ => ?_
  split
  · trivial
  · dsimp only
    split
    · exact ofOperator_yields column _ v
    · trivial

namespace Query

theorem columnName_yields (v : Value) : (columnName v).Yields fun n => n = v :=
  (checkName_knows _ v).map fun _ _ => rfl

theorem columnNames_yields (vs : List Value) :
    Yields (fun ns => ns = vs) (vs.mapM columnName) := by
  have hnames : Yields (fun ns => ns.map id = vs.map id) (vs.mapM columnName) :=
    .mapM fun v _ => columnName_yields v
  simpa only [List.map_id] using hnames

theorem count_knows (clause : String) (v : Value) : (count clause v).Knows := by
  unfold count
  split
  · trivial
  · split <;> trivial
  · trivial

theorem cell_yields (entry : Value × Value) : (cell entry).Yields fun c => c.1 = entry.1 :=
  (columnName_yields entry.1).bind fun _ hn => entry.2.toParameter_knows.bind fun _ _ => hn

theorem cells_yields (pairs : List (Name × Value)) :
    (cells (rowOfPairs pairs)).Yields fun row =>
      row.map Prod.fst = pairs.map fun p => p.1.toValue := by
  have hrow : (cells (rowOfPairs pairs)).Yields fun row =>
      row.map Prod.fst = (pairs.map fun p => (p.1.toValue, p.2)).map Prod.fst :=
    .mapM fun entry _ => cell_yields entry
  exact hrow.mono fun _ h => h.trans List.map_map

end Query

/-! ## Models -/

namespace Catalog

variable (catalog : Catalog)

theorem entity_yields (m : ModelId) :
    (catalog.entity m).Yields fun e => catalog.entity m = .ok e := by
  unfold entity Registry.entity
  split
  · split
    · rfl
    · trivial
  · trivial

theorem offers_knows (m : ModelId) (o : Operation) : (catalog.offers m o).Knows := by
  unfold offers
  split
  · trivial
  · split <;> trivial

theorem offersOn_knows (i : Instance) (o : Operation) : (catalog.offersOn i o).Knows := by
  unfold offersOn
  split
  · trivial
  · exact catalog.offers_knows i.model o

end Catalog

theorem Entity.requireKey_yields (e : Entity) : e.requireKey.Yields fun key => key ∈ e.columns := by
  unfold requireKey
  split
  · next key hkey => exact List.mem_of_find?_eq_some hkey
  · trivial

namespace Query

variable {q : Query} {catalog : Catalog} {m : ModelId} {e : Entity} {d : Dialect}

/-! ## Queries of a model -/

/-- All columns that a query has parts for are columns of the entity. -/
structure NamesOnly (q : Query) (e : Entity) : Prop where
  columns : ∀ v ∈ q.columns, v.textOf? = some "*" ∨ names e v = true
  values : ∀ v ∈ q.values.map Prod.fst, names e v = true
  assignments : ∀ v ∈ q.assignments.map Prod.fst, names e v = true
  conditions : ∀ v ∈ q.conditions.map Condition.column, names e v = true
  ordering : ∀ v ∈ q.ordering.map Ordering.column, names e v = true
  returning : ∀ v ∈ q.returning, names e v = true

/-- The query was made for a model and keeps to its columns. -/
structure IsOwn (q : Query) (catalog : Catalog) (m : ModelId) : Prop where
  model : q.model = some m
  names : ∃ e, catalog.entity m = .ok e ∧ q.NamesOnly e

theorem NamesOnly.mentioned (h : q.NamesOnly e) : ∀ v ∈ q.mentioned, names e v = true := by
  intro v hv
  rcases q.mem_mentioned.mp hv with ⟨hc, hall⟩ | hv | hv | hv | hv | hv
  · exact (h.columns v hc).resolve_left hall
  · exact h.values v hv
  · exact h.assignments v hv
  · exact h.conditions v hv
  · exact h.ordering v hv
  · exact h.returning v hv

theorem IsOwn.namesOnly (h : q.IsOwn catalog m) (he : catalog.entity m = .ok e) :
    q.NamesOnly e := by
  obtain ⟨e', he', hnames⟩ := h.names
  cases he.symm.trans he'
  exact hnames

theorem names_toValue {n : Name} (h : n.text ∈ e.columnNames) : names e n.toValue = true := by
  unfold names
  rw [Name.textOf?_toValue]
  exact List.contains_iff_mem.mpr h

theorem names_of_mem {c : Column} (hc : c ∈ e.columns) : names e c.name.toValue = true :=
  names_toValue (List.mem_map.mpr ⟨c, hc, rfl⟩)

theorem namesOnly_start (e : Entity) : Query.NamesOnly {} e :=
  ⟨nofun, nofun, nofun, nofun, nofun, nofun⟩

/-! ### Making them -/

theorem target_yields (catalog : Catalog) (m : ModelId) :
    (target catalog (.model m)).Yields fun p => p.2 = some m ∧ ∃ e, catalog.entity m = .ok e :=
  (catalog.entity_yields m).bind fun e he => ⟨rfl, e, he⟩

theorem fromTable_yields (hq : ∀ e, catalog.entity m = .ok e → q.NamesOnly e) :
    (q.fromTable catalog (.model m)).Yields fun q => q.IsOwn catalog m := by
  refine (target_yields catalog m).bind ?_
  rintro ⟨table, model⟩ ⟨rfl, e, he⟩
  exact ⟨rfl, e, he, { hq e he with }⟩

theorem ofModel_yields (catalog : Catalog) (m : ModelId) :
    (Query.ofModel catalog m).Yields fun q => q.IsOwn catalog m := by
  refine (catalog.offers_knows m .query).bind fun _ _ => ?_
  refine Yields.bind (P := fun q => ∀ e, q.NamesOnly e) (fun e => ?_)
    fun q hq => fromTable_yields fun e _ => hq e
  refine { namesOnly_start e with columns := fun v hv => ?_ }
  rw [List.mem_singleton.mp hv]
  exact .inl rfl

section Entity

variable (he : catalog.entity m = .ok e)

include he

theorem selectOne_yields {v : Value} (hv : names e v = true) :
    (Query.select {} (.list [v]) >>= fun q => q.fromTable catalog (.model m)).Yields fun q =>
      q.IsOwn catalog m := by
  refine Yields.bind (P := fun q => q.NamesOnly e) ?_ fun q hq => fromTable_yields ?_
  · refine (columnNames_yields [v]).bind ?_
    rintro _ rfl
    refine { namesOnly_start e with columns := fun w hw => ?_ }
    rw [List.mem_singleton.mp hw]
    exact .inr hv
  · intro e' he'
    cases he.symm.trans he'
    exact hq

theorem whereKey_yields (hq : q.IsOwn catalog m) {key : Column} (hkey : key ∈ e.columns)
    (v : Value) : (q.whereKey key v).Yields fun q => q.IsOwn catalog m := by
  refine (Condition.make_yields key.name.toValue (.text "=") v).bind fun c hc => ?_
  have hnames := hq.namesOnly he
  refine ⟨hq.model, e, he, { hnames with conditions := ?_ }⟩
  rw [List.map_append, List.forall_mem_append]
  refine ⟨hnames.conditions, fun w hw => ?_⟩
  rw [List.mem_singleton.mp hw, hc]
  exact names_of_mem hkey

theorem returningKey_yields (hq : q.IsOwn catalog m) {key : Column} (hkey : key ∈ e.columns) :
    (q.returningColumns [key.name.toValue]).Yields fun q => q.IsOwn catalog m := by
  refine (columnNames_yields [key.name.toValue]).bind ?_
  rintro _ rfl
  refine ⟨hq.model, e, he, { hq.namesOnly he with returning := fun v hv => ?_ }⟩
  rw [List.mem_singleton.mp hv]
  exact names_of_mem hkey

end Entity

theorem limitOne_yields (hq : q.IsOwn catalog m) :
    q.limitOne.Yields fun q => q.IsOwn catalog m := by
  obtain ⟨hmodel, e, he, hnames⟩ := hq
  exact (count_knows "limit" (.int 1)).bind fun _ _ => ⟨hmodel, e, he, { hnames with }⟩

theorem insertDefaults_yields (catalog : Catalog) (m : ModelId) :
    (Query.insertDefaults {} catalog (.model m)).Yields fun q => q.IsOwn catalog m := by
  refine (target_yields catalog m).bind ?_
  rintro ⟨table, model⟩ ⟨rfl, e, he⟩
  exact ⟨rfl, e, he, { namesOnly_start e with }⟩

theorem delete_yields (catalog : Catalog) (m : ModelId) :
    (Query.delete {} catalog (.model m)).Yields fun q => q.IsOwn catalog m := by
  refine (target_yields catalog m).bind ?_
  rintro ⟨table, model⟩ ⟨rfl, e, he⟩
  exact ⟨rfl, e, he, { namesOnly_start e with }⟩

section Rows

variable (he : catalog.entity m = .ok e) {pairs : List (Name × Value)}
  (hpairs : ∀ p ∈ pairs, p.1.text ∈ e.columnNames)

include hpairs

theorem names_of_pairs : ∀ v ∈ pairs.map fun p => p.1.toValue, names e v = true := by
  intro v hv
  obtain ⟨p, hp, rfl⟩ := List.mem_map.mp hv
  exact names_toValue (hpairs p hp)

include he

theorem insert_yields : (Query.insert {} catalog (.model m) (rowOfPairs pairs)).Yields fun q =>
    q.IsOwn catalog m := by
  refine (cells_yields pairs).bind fun row hrow => (target_yields catalog m).bind ?_
  rintro ⟨table, model⟩ ⟨rfl, -⟩
  refine ⟨rfl, e, he, { namesOnly_start e with values := ?_ }⟩
  rw [hrow]
  exact names_of_pairs hpairs

theorem update_yields : (Query.update {} catalog (.model m) (rowOfPairs pairs)).Yields fun q =>
    q.IsOwn catalog m := by
  refine (cells_yields pairs).bind fun row hrow => (target_yields catalog m).bind ?_
  rintro ⟨table, model⟩ ⟨rfl, -⟩
  refine ⟨rfl, e, he, { namesOnly_start e with assignments := ?_ }⟩
  rw [hrow]
  exact names_of_pairs hpairs

end Rows

/-! ## Building -/

theorem forbid_knows (parts : List Part) : (q.forbid parts).Knows := by
  unfold forbid
  split <;> trivial

theorem forbidPaging_knows : q.forbidPaging.Knows := by
  unfold forbidPaging
  split <;> trivial

theorem validateParts_knows (k : Kind) : (q.validateParts k).Knows := by
  unfold validateParts
  cases k with
  | select =>
    dsimp only
    split
    · trivial
    · refine (forbid_knows _).bind fun _ _ => ?_
      split <;> trivial
  | insert =>
    dsimp only
    split
    · trivial
    · exact (forbid_knows _).bind fun _ _ => forbidPaging_knows
  | update =>
    dsimp only
    split
    · trivial
    · exact (forbid_knows _).bind fun _ _ => forbidPaging_knows
  | delete => exact (forbid_knows _).bind fun _ _ => forbidPaging_knows

theorem checkMention_knows {v : Value} (hv : names e v = true) : (checkMention e v).Knows := by
  unfold checkMention
  rw [if_pos hv]
  trivial

theorem validate_knows (hq : q.IsOwn catalog m) : (q.validate catalog d).Knows := by
  obtain ⟨hmodel, e, he, hnames⟩ := hq
  unfold validate
  dsimp only
  split
  · trivial
  · split
    · trivial
    · split
      · trivial
      · next k _ =>
        refine (validateParts_knows k).bind fun _ _ => ?_
        split
        · trivial
        · rw [hmodel]
          dsimp only
          rw [he]
          exact (knows_forM fun v hv => checkMention_knows (hnames.mentioned v hv)).bind
            fun _ _ => trivial

end Query

theorem ParamStyle.mark_knows (style : ParamStyle) (position : String) :
    (style.mark position).Knows := by
  unfold mark
  split <;> trivial

theorem Piece.write_knows (style : ParamStyle) (first : Nat) (ps : List Piece) :
    (write style first ps).Knows := by
  fun_induction write style first ps with
  | case1 => trivial
  | case2 k s rest ih => exact ih.map fun _ _ => trivial
  | case3 k v rest ih => exact ih.map fun _ _ => trivial
  | case4 k v rest ih => exact ih.map fun _ _ => trivial
  | case5 k v rest ih => exact ih.map fun _ _ => trivial
  | case6 k v rest s _ ih => exact ih.map fun _ _ => trivial
  | case7 => trivial
  | case8 k v rest ih =>
    exact (ParamStyle.mark_knows style _).bind fun _ _ => ih.map fun _ _ => trivial

/-- A query that keeps to its model is never refused for an unknown column. -/
theorem Query.build_knows {q : Query} {catalog : Catalog} {m : ModelId} (hq : q.IsOwn catalog m)
    (d : Dialect) : (q.build catalog d).Knows :=
  (validate_knows hq).bind fun _ _ => (Piece.write_knows _ _ _).bind fun _ _ => trivial

end RelMap
