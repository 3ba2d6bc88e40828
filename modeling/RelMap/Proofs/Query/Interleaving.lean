import RelMap.Query.Statement
import RelMap.Proofs.Query.Edit

/-!
# Interleaved calls

A statement is described by the calls of one family (those that select, insert, insert defaults,
update or delete) and by calls that belong to no family: tests, orderings, limits, offsets and
returned columns.  Each method of the builder has parts of the query to itself, so calls of
different methods may change places, while those of one method may not: the last limit counts, and
tests are joined in their order.

Two sequences of calls interleave the same calls if they have the same calls of each method in the
same order.  Whatever can be moved past everything of another method can be moved to the front
(`foldl_move`), so such sequences come to the same (`foldl_eq_of_interleaves`).
`Query.runCalls_interleaved` says it of the builder.
-/

namespace RelMap

/-! ## Sequences that interleave the same things -/

section Interleaving

variable {α κ σ : Type} [DecidableEq κ] {key : α → κ} {f : σ → α → σ}

/-- Two sequences have the same things of each key in the same order. -/
def Interleaves (key : α → κ) (xs ys : List α) : Prop :=
  ∀ k, xs.filter (fun x => key x = k) = ys.filter (fun y => key y = k)

theorem Interleaves.mem_iff {xs ys : List α} (h : Interleaves key xs ys) (x : α) :
    x ∈ xs ↔ x ∈ ys := by
  have hfilter : ∀ zs : List α, x ∈ zs ↔ x ∈ zs.filter fun z => key z = key x := by simp
  rw [hfilter xs, hfilter ys, h (key x)]

/-- What changes places with everything before it may come first. -/
theorem foldl_move {x : α} {before : List α}
    (h : ∀ b ∈ before, ∀ s, f (f s b) x = f (f s x) b) (after : List α) (s : σ) :
    (before ++ x :: after).foldl f s = (x :: (before ++ after)).foldl f s := by
  induction before generalizing s with
  | nil => rfl
  | cons b before ih =>
    have hbefore := ih (fun c hc => h c (List.mem_cons_of_mem b hc)) (f s b)
    have hb := h b List.mem_cons_self s
    calc
      (before ++ x :: after).foldl f (f s b)
        = (before ++ after).foldl f (f (f s b) x) := hbefore
      _ = (before ++ after).foldl f (f (f s x) b) := by rw [hb]

/-- Without the first of their key, two sequences still interleave the same things. -/
theorem Interleaves.tail {x : α} {xs before after : List α}
    (h : Interleaves key (x :: xs) (before ++ x :: after))
    (hbefore : ∀ b ∈ before, key b ≠ key x) : Interleaves key xs (before ++ after) := by
  intro k
  have hk := h k
  rw [List.filter_append] at hk ⊢
  by_cases hx : key x = k
  · have hnone : before.filter (fun b => key b = k) = [] := by
      rw [List.filter_eq_nil_iff]
      intro b hb
      rw [decide_eq_true_eq, ← hx]
      exact hbefore b hb
    rw [hnone, List.filter_cons_of_pos (by simpa using hx),
      List.filter_cons_of_pos (by simpa using hx)] at hk
    rw [hnone]
    exact List.tail_eq_of_cons_eq hk
  · rw [List.filter_cons_of_neg (by simpa using hx),
      List.filter_cons_of_neg (by simpa using hx)] at hk
    exact hk

/-- **Sequences that interleave the same things come to the same**, where things of different keys
may change places. -/
theorem foldl_eq_of_interleaves {xs ys : List α} (h : Interleaves key xs ys)
    (hcomm : ∀ x ∈ xs, ∀ y ∈ xs, key y ≠ key x → ∀ s, f (f s y) x = f (f s x) y) (s : σ) :
    xs.foldl f s = ys.foldl f s := by
  induction xs generalizing ys s with
  | nil =>
    have hnil : ys = [] := by
      rw [List.eq_nil_iff_forall_not_mem]
      intro y hy
      exact List.not_mem_nil ((h.mem_iff y).mpr hy)
    rw [hnil]
  | cons x xs ih =>
    -- the first of the other sequence with the key of `x` is `x`
    have hfirst : ys.filter (fun y => key y = key x) =
        x :: xs.filter (fun y => key y = key x) := by
      rw [← h (key x), List.filter_cons_of_pos (by simp)]
    obtain ⟨before, after, hys, hbefore, -, -⟩ := List.filter_eq_cons_iff.mp hfirst
    have hapart : ∀ b ∈ before, key b ≠ key x := by
      intro b hb
      simpa using hbefore b hb
    have hmoved : ∀ b ∈ before, ∀ s, f (f s b) x = f (f s x) b := by
      intro b hb
      have hmem : b ∈ x :: xs := by
        rw [h.mem_iff b, hys]
        exact List.mem_append_left _ hb
      exact hcomm x List.mem_cons_self b hmem (hapart b hb)
    rw [hys] at h
    rw [hys, foldl_move hmoved]
    exact ih (h.tail hapart)
      (fun y hy z hz => hcomm y (List.mem_cons_of_mem x hy) z (List.mem_cons_of_mem x hz)) (f s x)

end Interleaving

/-! ## Methods of the builder -/

namespace BuilderCall

/-- The methods of the builder. -/
inductive Method where
  | select
  | fromTable
  | insert
  | insertDefaults
  | update
  | delete
  | test
  | orderBy
  | limit
  | offset
  | returning
deriving DecidableEq, Repr

/-- The methods that belong to no family. -/
def Method.shared : List Method := [.test, .orderBy, .limit, .offset, .returning]

/-- The choices of a kind of statement. -/
inductive Family where
  | selection
  | insertion
  | defaults
  | change
  | deletion
deriving DecidableEq, Repr

def Family.methods : Family → List Method
  | selection => [.select, .fromTable]
  | insertion => [.insert]
  | defaults => [.insertDefaults]
  | change => [.update]
  | deletion => [.delete]

/-- The method that is called; a call that begins a query is none of a method. -/
def method? : BuilderCall → Option Method
  | start _ => none
  | ofModel _ => none
  | select _ _ => some .select
  | fromTable _ => some .fromTable
  | insert _ _ => some .insert
  | insertDefaults _ => some .insertDefaults
  | update _ _ => some .update
  | delete _ => some .delete
  | whereColumn _ _ _ => some .test
  | whereParts _ _ => some .test
  | whereComparison _ _ _ _ => some .test
  | orderBy _ _ => some .orderBy
  | limit _ => some .limit
  | offset _ => some .offset
  | returning _ => some .returning

/-- The call belongs to a family or to none. -/
def Suits (family : Family) (c : BuilderCall) : Prop :=
  ∃ m ∈ family.methods ++ Method.shared, c.method? = some m

end BuilderCall

open BuilderCall (Method Family)

namespace Query.Edit

/-- The method whose calls stand for such edits. -/
def method? : Edit → Option Method
  | become _ => none
  | select _ _ => some .select
  | target _ _ => some .fromTable
  | insert _ _ _ => some .insert
  | insertDefaults _ _ => some .insertDefaults
  | update _ _ _ => some .update
  | delete _ _ => some .delete
  | addCondition _ => some .test
  | addOrdering _ => some .orderBy
  | limit _ => some .limit
  | offset _ => some .offset
  | returning _ => some .returning

variable {e e' : Edit} {m m' : Method}

/-- What belongs to no family has parts of the query to itself. -/
theorem apply_comm_of_shared (he : e.method? = some m) (hm : m ∈ Method.shared)
    (he' : e'.method? = some m') (hne : m ≠ m') (q : Query) :
    e'.apply (e.apply q) = e.apply (e'.apply q) := by
  have hmethod : e.method? ≠ e'.method? := by
    rw [he, he']
    exact fun h => hne (Option.some.inj h)
  cases e with
  | addCondition c =>
    cases e' with
    | addCondition c' => exact (hmethod rfl).elim
    | become r => cases he'
    | _ => rfl
  | addOrdering o =>
    cases e' with
    | addOrdering o' => exact (hmethod rfl).elim
    | become r => cases he'
    | _ => rfl
  | limit n =>
    cases e' with
    | limit n' => exact (hmethod rfl).elim
    | become r => cases he'
    | _ => rfl
  | offset n =>
    cases e' with
    | offset n' => exact (hmethod rfl).elim
    | become r => cases he'
    | _ => rfl
  | returning columns =>
    cases e' with
    | returning columns' => exact (hmethod rfl).elim
    | become r => cases he'
    | _ => rfl
  | _ =>
    cases he <;> exact absurd hm (by decide)

/-- The projection and the table of a selection are set apart from each other. -/
theorem apply_comm_of_family {family : Family} (he : e.method? = some m)
    (hm : m ∈ family.methods) (he' : e'.method? = some m') (hm' : m' ∈ family.methods)
    (hne : m ≠ m') (q : Query) : e'.apply (e.apply q) = e.apply (e'.apply q) := by
  cases family with
  | selection =>
    simp only [Family.methods, List.mem_cons, List.not_mem_nil, or_false] at hm hm'
    rcases hm with rfl | rfl <;> rcases hm' with rfl | rfl
    · exact (hne rfl).elim
    · cases e <;> cases he
      cases e' <;> cases he'
      rfl
    · cases e <;> cases he
      cases e' <;> cases he'
      rfl
    · exact (hne rfl).elim
  | _ =>
    rw [List.mem_singleton.mp hm, List.mem_singleton.mp hm'] at hne
    exact (hne rfl).elim

/-- Edits of different methods may change places. -/
theorem apply_comm {family : Family} (he : e.method? = some m)
    (hm : m ∈ family.methods ++ Method.shared) (he' : e'.method? = some m')
    (hm' : m' ∈ family.methods ++ Method.shared) (hne : m ≠ m') (q : Query) :
    e'.apply (e.apply q) = e.apply (e'.apply q) := by
  rcases List.mem_append.mp hm with hfamily | hshared
  · rcases List.mem_append.mp hm' with hfamily' | hshared'
    · exact apply_comm_of_family he hfamily he' hfamily' hne q
    · exact (apply_comm_of_shared he' hshared' he hne.symm q).symm
  · exact apply_comm_of_shared he hshared he' hne q

end Query.Edit

open Query (Edit)

variable {catalog : Catalog}

/-- An accepted call stands for an edit of its method. -/
theorem BuilderCall.method?_of_edit {c : BuilderCall} {e : Edit} (h : c.edit catalog = .ok e) :
    e.method? = c.method? := by
  cases c with
  | insert table row =>
    obtain ⟨cs, t, -, -, rfl⟩ := rowEdit_eq_ok h
    rfl
  | update table row =>
    obtain ⟨cs, t, -, -, rfl⟩ := rowEdit_eq_ok h
    rfl
  | whereColumn column operator value =>
    simp only [BuilderCall.edit] at h
    split at h
    · cases h
    · obtain ⟨x, -, rfl⟩ := Result.map_eq_ok.mp h
      rfl
  | whereParts parts operator =>
    obtain ⟨x, -, h⟩ := Result.bind_eq_ok.mp h
    rw [conditionEdit_eq_ok h]
    rfl
  | whereComparison k column value operator =>
    obtain ⟨x, -, h⟩ := Result.bind_eq_ok.mp h
    rw [conditionEdit_eq_ok h]
    rfl
  | returning columns =>
    simp only [BuilderCall.edit] at h
    split at h
    · cases h
    · split at h
      · cases h
      · obtain ⟨names, -, rfl⟩ := Result.map_eq_ok.mp h
        rfl
  | _ =>
    obtain ⟨x, -, rfl⟩ := Result.map_eq_ok.mp h
    rfl

namespace Query

variable {calls calls' : List BuilderCall} {q q' : Query}

/-- Calls that are all accepted make all their edits. -/
theorem runCalls_of_edits {edit : BuilderCall → Edit}
    (h : ∀ c ∈ calls, c.edit catalog = .ok (edit c)) (q : Query) :
    runCalls catalog q calls = .ok (calls.foldl (fun q c => (edit c).apply q) q) := by
  rw [runCalls_eq, Result.mapM_eq_ok_map h]
  exact congrArg Except.ok List.foldl_map

/-- A sequence with a call that is rejected is rejected, wherever the call stands. -/
theorem runCalls_eq_error {c : BuilderCall} (hc : c ∈ calls) {r : Query} {err : Error}
    (h : c.run catalog r = .error err) (q : Query) :
    ∃ err', runCalls catalog q calls = .error err' := by
  rw [BuilderCall.run_eq] at h
  obtain ⟨err', herr⟩ := Result.mapM_eq_error_of_mem hc (Result.map_eq_error.mp h)
  refine ⟨err', ?_⟩
  rw [runCalls_eq, herr]
  rfl

/-- Accepted calls of one family, interleaved in two ways, make the same query. -/
theorem runCalls_eq_of_interleaves (family : Family) (hcalls : ∀ c ∈ calls, c.Suits family)
    (h : Interleaves BuilderCall.method? calls calls')
    (hq : runCalls catalog q calls = .ok q') : runCalls catalog q calls' = .ok q' := by
  have haccepted : ∀ c ∈ calls, ∃ e, c.edit catalog = .ok e ∧ e.method? = c.method? := by
    intro c hc
    rw [runCalls_eq] at hq
    obtain ⟨edits, hedits, -⟩ := Result.map_eq_ok.mp hq
    obtain ⟨e, he⟩ := Result.exists_of_mapM_eq_ok hedits hc
    exact ⟨e, he, BuilderCall.method?_of_edit he⟩
  have : Inhabited Edit := ⟨.limit .null⟩
  obtain ⟨edit, hedit⟩ := Result.exists_function haccepted
  have hcomm : ∀ c ∈ calls, ∀ c' ∈ calls, c'.method? ≠ c.method? → ∀ q,
      (edit c).apply ((edit c').apply q) = (edit c').apply ((edit c).apply q) := by
    intro c hc c' hc' hne q
    obtain ⟨m, hm, hcm⟩ := hcalls c hc
    obtain ⟨m', hm', hcm'⟩ := hcalls c' hc'
    have hme : (edit c).method? = some m := (hedit c hc).2.trans hcm
    have hme' : (edit c').method? = some m' := (hedit c' hc').2.trans hcm'
    refine Edit.apply_comm hme' hm' hme hm ?_ q
    rw [hcm, hcm'] at hne
    exact fun heq => hne (congrArg some heq)
  have hcalls' : ∀ c ∈ calls', c.edit catalog = .ok (edit c) := by
    intro c hc
    exact (hedit c ((h.mem_iff c).mpr hc)).1
  rw [runCalls_of_edits fun c hc => (hedit c hc).1] at hq
  rw [runCalls_of_edits hcalls', ← foldl_eq_of_interleaves h hcomm q]
  exact hq

/-- **Independent calls commute.**  Of two sequences that interleave the same calls of each method,
where the calls belong to one family or to none, both make the same query of any query, which is
built to the same statement or refused for the same reason in every dialect; and if a call is
rejected anywhere, both sequences are. -/
theorem runCalls_interleaved (family : Family) (hcalls : ∀ c ∈ calls, c.Suits family)
    (h : Interleaves BuilderCall.method? calls calls') (q : Query) :
    (∀ q', runCalls catalog q calls = .ok q' → runCalls catalog q calls' = .ok q' ∧
      ∀ d, (runCalls catalog q calls' >>= fun r => r.build catalog d) = q'.build catalog d) ∧
    ∀ c ∈ calls, ∀ r err, c.run catalog r = .error err →
      (∃ err', runCalls catalog q calls = .error err') ∧
        ∃ err', runCalls catalog q calls' = .error err' := by
  constructor
  · intro q' hq
    have hq' := runCalls_eq_of_interleaves family hcalls h hq
    refine ⟨hq', fun d => ?_⟩
    rw [hq']
    rfl
  · intro c hc r err herr
    exact ⟨runCalls_eq_error hc herr q, runCalls_eq_error ((h.mem_iff c).mp hc) herr q⟩

/-- A page of users, its limit set twice. -/
def listingCalls : List BuilderCall :=
  [.select (.list [.text "id", .text "name"]) (.bool false),
    .fromTable (.argument (.value (.text "users"))),
    .whereColumn (.text "age") (.text ">") (.int 1),
    .limit (.int 5),
    .whereColumn (.text "name") (.text "like") (.text "A%"),
    .limit (.int 10),
    .orderBy (.text "id") (.bool true)]

/-- The same calls, the table last and the limits first. -/
def listingCallsAgain : List BuilderCall :=
  [.limit (.int 5),
    .whereColumn (.text "age") (.text ">") (.int 1),
    .orderBy (.text "id") (.bool true),
    .limit (.int 10),
    .whereColumn (.text "name") (.text "like") (.text "A%"),
    .select (.list [.text "id", .text "name"]) (.bool false),
    .fromTable (.argument (.value (.text "users")))]

theorem runCalls_interleaved_page :
    ∃ q, runCalls .empty {} listingCalls = .ok q ∧
      runCalls .empty {} listingCallsAgain = .ok q := by
  have hsame : Interleaves BuilderCall.method? listingCalls listingCallsAgain := by
    intro m
    rcases m with _ | m
    · rfl
    · cases m <;> rfl
  have hsuits : ∀ c ∈ listingCalls, c.Suits .selection := by
    intro c hc
    simp only [listingCalls, List.mem_cons, List.not_mem_nil, or_false] at hc
    rcases hc with rfl | rfl | rfl | rfl | rfl | rfl | rfl <;> exact ⟨_, by decide, rfl⟩
  have haccepted : (runCalls .empty {} listingCalls).isOk = true := by decide +kernel
  obtain ⟨q, hq⟩ := Result.exists_eq_ok haccepted
  exact ⟨q, hq, ((runCalls_interleaved .selection hsuits hsame {}).1 q hq).1⟩

end Query

end RelMap
