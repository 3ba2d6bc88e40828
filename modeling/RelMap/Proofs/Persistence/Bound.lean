import RelMap.Proofs.Persistence.Saving

/-!
# Bound values

An instance is checked by the values of its attributes, but what a statement binds are the
parameters that stand for these.  The two agree on all values but three kinds: a plain constant is
bound as what it holds, and a moment or a decimal number is bound as a text.  Such a value passes
the check of its column as long as it is present, whatever is bound for it.
-/

namespace RelMap

/-! ## Values behind their labels -/

namespace Value

/-- What a value is behind the labels of plain constants. -/
def unlabelled : Value → Value
  | constant _ held => held.unlabelled
  | v => v

/-- The text that is bound for a value, if a text is. -/
def boundText? (v : Value) : Option String :=
  match v.unlabelled with
  | moment m => some m.iso
  | decimal d => some d.text
  | w => w.textOf?

theorem isNull_of_toParameter {v p : Value} (h : v.toParameter = .ok p) :
    p.isNull = v.unlabelled.isNull := by
  fun_induction toParameter v with
  | case1 label held ih => exact ih h
  | case13 v => cases h
  | _ => cases h; rfl

theorem textOf?_of_toParameter {v p : Value} (h : v.toParameter = .ok p) :
    p.textOf? = v.boundText? := by
  fun_induction toParameter v with
  | case1 label held ih => exact ih h
  | case13 v => cases h
  | _ => cases h; rfl

/-- A value that passes for a text is bound as that text. -/
theorem boundText?_of_textOf? {v : Value} {s : String} (h : v.textOf? = some s) :
    v.boundText? = some s := by
  cases v <;> simp_all [textOf?, boundText?, unlabelled]

end Value

namespace Dialect

@[simp] theorem isNull_adapt (d : Dialect) (v : Value) : (d.adapt v).isNull = v.isNull := by
  unfold adapt
  split
  · split <;> rfl
  · rfl

@[simp] theorem textOf?_adapt (d : Dialect) (v : Value) : (d.adapt v).textOf? = v.textOf? := by
  unfold adapt
  split
  · split <;> rfl
  · rfl

end Dialect

/-! ## Constraints of columns -/

namespace Column

/-- A parameter keeps the constraints of the column that it is bound for: it is present where the
column must have a value, and a text is no longer than the column. -/
structure Admits (c : Column) (p : Value) : Prop where
  present : c.nullable.truthy = false → c.isKey.truthy = false → p.isNull = false
  short : c.type = .varchar → ∀ n, c.length.intOf? = some n → ∀ s, p.textOf? = some s →
    (s.length : Int) ≤ n

/-- A value is overlooked by the check of a column: it is present and stands for an absent one, or
it is no text itself and is bound as one that is too long. -/
def Overlooks (c : Column) (v : Value) : Prop :=
  (c.nullable.truthy = false ∧ c.isKey.truthy = false ∧ v.isNull = false ∧
    v.unlabelled.isNull = true) ∨
  (c.type = .varchar ∧ v.textOf? = none ∧
    ∃ n s, c.length.intOf? = some n ∧ v.boundText? = some s ∧ n < s.length)

/-- A text that passes the check of a `VARCHAR` column is not too long for it. -/
theorem length_le_of_validate {c : Column} {v : Value} {s : String} {n : Int}
    (h : c.validate v = .ok ()) (hv : v.textOf? = some s) (htype : c.type = .varchar)
    (hn : c.length.intOf? = some n) : (s.length : Int) ≤ n := by
  have hpresent : v.isNull = false := by cases v <;> simp_all [Value.isNull, Value.textOf?]
  have hlength : c.length.isNull = false := by
    cases hl : c.length <;> simp_all [Value.isNull, Value.intOf?]
  have hbelow : c.length.isBelow s.length = .ok (decide (n < s.length)) := by
    cases hl : c.length <;> simp_all [Value.isBelow, Value.intOf?]
  simp only [validate, hpresent, isTooLong, hv, htype, hlength, hbelow] at h
  refine Int.not_lt.mp fun hlong => ?_
  have hdecide : decide (n < s.length) = true := decide_eq_true hlong
  rw [hdecide] at h
  cases h

/-- What is bound for a value that passed the check of its column keeps the constraints exactly if
the value was not overlooked. -/
theorem admits_iff {c : Column} {v p : Value} (h : c.validate v = .ok ())
    (hp : v.toParameter = .ok p) (d : Dialect) : c.Admits (d.adapt p) ↔ ¬ c.Overlooks v := by
  have hnull := Value.isNull_of_toParameter hp
  have htext := Value.textOf?_of_toParameter hp
  constructor
  · rintro ⟨hpresent, hshort⟩ (⟨hnullable, hkey, -, hheld⟩ | ⟨htype, -, n, s, hn, hs, hlong⟩)
    · have := hpresent hnullable hkey
      rw [Dialect.isNull_adapt, hnull, hheld] at this
      cases this
    · have := hshort htype n hn s (by rw [Dialect.textOf?_adapt, htext, hs])
      omega
  · intro hseen
    constructor
    · intro hnullable hkey
      rw [Dialect.isNull_adapt, hnull]
      have hgiven : v.isNull = false := by
        cases hv : v.isNull with
        | false => rfl
        | true => simp [validate, hv, hnullable, hkey] at h
      cases hheld : v.unlabelled.isNull with
      | false => rfl
      | true => exact (hseen (.inl ⟨hnullable, hkey, hgiven, hheld⟩)).elim
    · intro htype n hn s hs
      rw [Dialect.textOf?_adapt, htext] at hs
      cases hv : v.textOf? with
      | some t =>
        cases hs.symm.trans (Value.boundText?_of_textOf? hv)
        exact length_le_of_validate h hv htype hn
      | none =>
        refine Int.not_lt.mp fun hlong => ?_
        exact hseen (.inr ⟨htype, hv, n, s, hn, hs, hlong⟩)

end Column

/-! ## Programs that bind nothing -/

/-- All statements that a program sends in a dialect are without parameters. -/
def Run.Unbound {α : Type} (d : Dialect) (r : Run α) : Prop :=
  ∀ s : Session, s.adapter.dialect = d → (r s).2.adapter.dialect = d ∧
    ∃ new, (r s).2.sent = s.sent ++ new ∧ ∀ st ∈ new, st.2 = [[]]

namespace Run.Unbound

variable {α β : Type} {d : Dialect}

/-- A program that leaves the session alone. -/
theorem idle {r : Run α} (h : ∀ s, (r s).2 = s) : Unbound d r := by
  intro s hs
  rw [h s]
  exact ⟨hs, [], (List.append_nil _).symm, nofun⟩

theorem bind {r : Run α} {f : α → Run β} (hr : Unbound d r) (hf : ∀ x, Unbound d (f x)) :
    Unbound d (r >>= f) := by
  intro s hs
  obtain ⟨hkept, new, hnew, hunbound⟩ := hr s hs
  rw [Run.bind_apply]
  rcases hrun : r s with ⟨e | x, t⟩ <;> rw [hrun] at hnew hkept
  · exact ⟨hkept, new, hnew, hunbound⟩
  · obtain ⟨hkept', more, hmore, hunbound'⟩ := hf x t hkept
    refine ⟨hkept', new ++ more, by rw [hmore, hnew, List.append_assoc], fun st hst => ?_⟩
    exact (List.mem_append.mp hst).elim (hunbound st) (hunbound' st)

variable (hstyle : ¬ d.style.IsKnown)

include hstyle

theorem execute (q : Query) (catalog : Catalog) : Unbound d (q.execute catalog) := by
  rintro s rfl
  cases hbuilt : q.build catalog s.adapter.dialect with
  | error e =>
    have hfailed : q.execute catalog s = (.error e, s) := Run.ofResult_bind_error hbuilt _
    rw [hfailed]
    exact ⟨rfl, [], (List.append_nil _).symm, nofun⟩
  | ok st =>
    obtain ⟨k, -, hwritten⟩ := Result.bind_eq_ok.mp hbuilt
    obtain ⟨sql, hsql, hst⟩ := Result.bind_eq_ok.mp hwritten
    cases hst
    rw [Piece.holes_eq_nil hstyle hsql] at hbuilt
    have hrun : q.execute catalog s = Run.execute sql (.list []) s := Catalog.execute_built hbuilt
    rw [hrun]
    refine ⟨Run.execute_dialect sql (.list []) s, _, (Run.execute_sent sql (by simp) s).1, ?_⟩
    intro st hst
    split at hst
    · rw [List.mem_singleton.mp hst]
      rfl
    · cases hst

/-- An instance is written without a parameter where marks cannot be written. -/
theorem write (catalog : Catalog) (i : Instance) (e : Entity) (key : Column)
    (value : Column → Value) : Unbound d (catalog.write i e key value) := by
  have hdone : ∀ {γ : Type} (x : γ), Unbound d (Pure.pure x : Run γ) := fun x => idle fun _ => rfl
  have hread : ∀ {γ : Type} (x : Result γ), Unbound d (Run.ofResult x) :=
    fun x => idle fun _ => rfl
  unfold Catalog.write
  dsimp only
  split
  · unfold Catalog.insertNew
    refine (hread _).bind fun _ => (idle fun _ => rfl).bind fun _ => (hread _).bind fun q =>
      (execute hstyle q catalog).bind fun r => (hread _).bind fun v => ?_
    split
    · exact hdone i
    · exact (hread _).bind fun _ => hdone _
  · refine bind ?_ fun found => ?_
    · unfold Catalog.overwrite
      split
      · exact (hread _).bind fun q => (execute hstyle q catalog).bind fun _ => hdone _
      · exact (hread _).bind fun q => (execute hstyle q catalog).bind fun _ => hdone _
    · split
      · exact hdone i
      · exact (hread _).bind fun q => (execute hstyle q catalog).bind fun _ => hdone i

end Run.Unbound

/-! ## What saving binds -/

namespace Catalog

variable {catalog : Catalog} {i : Instance} {e : Entity} {s : Session} {d : Dialect}

/-- An instance passes its own check only if each of its values passes that of its column. -/
theorem Reads.validate {value : Column → Value} (h : catalog.Reads i e value)
    (he : catalog.entity i.model = .ok e) : ∀ c ∈ e.columns, c.validate (value c) = .ok () := by
  obtain ⟨u, -, hchecked⟩ := Result.bind_eq_ok.mp h.checked
  rw [he] at hchecked
  intro c hc
  obtain ⟨v, hv, hvalid⟩ := Result.bind_eq_ok.mp (Result.of_forM_eq_ok hchecked c hc)
  rw [h.values c hc] at hv
  cases hv
  exact hvalid

/-- An instance of a model without a key is not saved. -/
theorem save_of_keyless (he : catalog.entity i.model = .ok e) (hkey : e.key? = none) :
    ∃ err, catalog.save i s = (.error err, s) := by
  have hrequired : ∃ err, e.requireKey = .error err := by
    rw [Entity.requireKey, hkey]
    exact ⟨_, rfl⟩
  obtain ⟨err, hfailed⟩ : ∃ err, (do
      catalog.offersOn i .save
      let key ← (← catalog.entity i.model).requireKey
      catalog.selfCheck i
      .ok (key, ← catalog.dictionary i) : Result (Column × List (Name × Value))) =
        .error err := by
    rw [he]
    refine Result.exists_bind_eq_error fun _ => ?_
    obtain ⟨err, herr⟩ := hrequired
    exact ⟨err, Result.bind_eq_error.mpr (.inr ⟨e, rfl, Result.bind_eq_error.mpr (.inl herr)⟩)⟩
  exact ⟨err, Run.ofResult_bind_error hfailed _⟩

/-- The statements that are sent for an instance, each of which binds the columns it names. -/
def rowStatements (e : Entity) (d : Dialect) (key : Column) (param : Column → Value) :
    List (String × List (List Value)) :=
  [(e.newRow d key param).sentIn d, (e.changedRow d key param).sentIn d,
    (e.soughtRow d key param).sentIn d, (e.keyedRow d key param).sentIn d]

/-- Where marks can be written, an instance is written by statements that bind its row. -/
theorem write_sends_rows {key : Column} {value param : Column → Value} (hcatalog : catalog.Declared)
    (he : catalog.entity i.model = .ok e) (hkey : e.key? = some key)
    (hreads : catalog.Reads i e value)
    (hparam : ∀ c ∈ e.columns, (value c).toParameter = .ok (param c))
    (hstyle : s.adapter.dialect.style.IsKnown) :
    ∃ new, (catalog.write i e key value s).2.sent = s.sent ++ new ∧
      ∀ st ∈ new, st ∈ rowStatements e s.adapter.dialect key param := by
  have hplanned : ∀ {t : Session} {plan : List (String × List (List Value))}, s.Sends t plan →
      (∀ st ∈ plan, st ∈ rowStatements e s.adapter.dialect key param) →
      ∃ new, t.sent = s.sent ++ new ∧
        ∀ st ∈ new, st ∈ rowStatements e s.adapter.dialect key param := by
    rintro t plan ⟨new, hnew, hfirst, -⟩ hplan
    exact ⟨new, hnew, fun st hst => hplan st (hfirst.subset hst)⟩
  by_cases hvalue : value key = .null
  · rw [write_eq_insertNew hvalue]
    cases hoffered : catalog.offersOn i .insert with
    | error err =>
      rw [insertNew_hidden hoffered]
      exact ⟨[], (List.append_nil _).symm, nofun⟩
    | ok u =>
      obtain ⟨field, hfield, -⟩ :=
        Result.bind_eq_ok.mp (hreads.values key (Entity.mem_of_key hkey).1)
      rw [insertNew_eq hcatalog he hkey hparam hstyle hoffered hfield]
      refine hplanned (Statement.run_sends (isParameter_of_others hparam) fun r t _ =>
        ⟨[], ?_, List.nil_prefix (l := [])⟩) (by simp [rowStatements])
      rw [List.append_nil]
      cases reportedKey s.adapter.dialect key r <;> rfl
  · by_cases hnone : e.others = []
    · rw [write_search hcatalog he hkey hparam hstyle hvalue hnone]
      exact hplanned (sends_keyedRow hkey hparam (isParameter_of_soughtRow hkey hparam _))
        (by simp [rowStatements])
    · rw [write_update hcatalog he hkey hparam hstyle hvalue hnone]
      exact hplanned (sends_keyedRow hkey hparam (isParameter_of_changedRow hkey hparam _))
        (by simp [rowStatements])

/-- **What is bound keeps the constraints of its column** unless the check overlooked it.

Saving sends nothing unless the instance passes its check and has a parameter for each column.  Then
every statement that is sent is one of those that bind these parameters for their columns, or binds
nothing; and a parameter is present and short enough for its column exactly if the value that it
stands for is not one that the check overlooks. -/
theorem save_binds (hcatalog : catalog.Declared) (he : catalog.entity i.model = .ok e)
    (hd : s.adapter.dialect = d) :
    ∃ new, (catalog.save i s).2.sent = s.sent ++ new ∧
      (new ≠ [] → ∃ key value param, e.key? = some key ∧ catalog.Reads i e value ∧
        (∀ c ∈ e.columns, (value c).toParameter = .ok (param c)) ∧
        (∀ st ∈ new, st.2 = [[]] ∨ st ∈ rowStatements e d key param) ∧
        ∀ c ∈ e.columns, (c.Admits (d.adapt (param c)) ↔ ¬ c.Overlooks (value c))) := by
  subst hd
  have hrefused : ∀ {r : Run Instance}, (∃ err, r s = (.error err, s)) →
      (r s).2.sent = s.sent ++ [] := by
    rintro r ⟨err, herr⟩
    rw [herr, List.append_nil]
  cases hkey : e.key? with
  | none => exact ⟨[], hrefused (save_of_keyless he hkey), fun hne => (hne rfl).elim⟩
  | some key =>
    rcases reads_or_refused (s := s) he with ⟨value, hreads⟩ | hdone
    · rw [save_eq_write hcatalog he hkey hreads]
      by_cases hbound : ∀ c ∈ e.columns, ∃ p, (value c).toParameter = .ok p
      · obtain ⟨param, hparam⟩ :=
          Result.exists_function (P := fun _ _ => True) fun c hc =>
            (hbound c hc).imp fun p hp => ⟨hp, trivial⟩
        have hparam' : ∀ c ∈ e.columns, (value c).toParameter = .ok (param c) :=
          fun c hc => (hparam c hc).1
        obtain ⟨new, hnew, hrows⟩ : ∃ new,
            (catalog.write i e key value s).2.sent = s.sent ++ new ∧
              ∀ st ∈ new, st.2 = [[]] ∨ st ∈ rowStatements e s.adapter.dialect key param := by
          by_cases hstyle : s.adapter.dialect.style.IsKnown
          · obtain ⟨new, hnew, hrows⟩ :=
              write_sends_rows hcatalog he hkey hreads hparam' hstyle
            exact ⟨new, hnew, fun st hst => .inr (hrows st hst)⟩
          · obtain ⟨-, new, hnew, hunbound⟩ :=
              Run.Unbound.write hstyle catalog i e key value s rfl
            exact ⟨new, hnew, fun st hst => .inl (hunbound st hst)⟩
        refine ⟨new, hnew, fun _ => ⟨key, value, param, rfl, hreads, hparam', hrows, ?_⟩⟩
        intro c hc
        exact Column.admits_iff (hreads.validate he c hc) (hparam' c hc) s.adapter.dialect
      · obtain ⟨c, hc⟩ := Classical.not_forall.mp hbound
        obtain ⟨hc, hvalue⟩ := Classical.not_imp.mp hc
        cases hp : (value c).toParameter with
        | ok p => exact (hvalue ⟨p, hp⟩).elim
        | error err =>
          exact ⟨[], hrefused (write_refused hcatalog he hkey hp hc), fun hne => (hne rfl).elim⟩
    · exact ⟨[], hrefused hdone, fun hne => (hne rfl).elim⟩

/-- Ann has a name, which is bound as it is. -/
theorem save_binds_ann : (users.save ann untouched).2.sent ≠ untouched.sent ∧
    ∃ value param : Column → Value, users.Reads ann ⟨userModel, .plain "users", userColumns⟩ value ∧
      (∀ c ∈ userColumns, (value c).toParameter = .ok (param c)) ∧
      ∀ c ∈ userColumns, (c.Admits (Dialect.sqlite.adapt (param c)) ↔ ¬ c.Overlooks (value c)) := by
  have hentity : users.entity ann.model = .ok ⟨userModel, .plain "users", userColumns⟩ := by rfl
  have hsent : (users.save ann untouched).2.sent.length = 2 := by rfl
  have hne : (users.save ann untouched).2.sent ≠ untouched.sent := by
    intro heq
    rw [heq] at hsent
    cases hsent
  obtain ⟨new, hnew, hbound⟩ := save_binds (s := untouched) users_declared hentity rfl
  have hsome : new ≠ [] := by
    rintro rfl
    exact hne (hnew.trans (List.append_nil _))
  obtain ⟨key, value, param, -, hreads, hparam, -, hadmits⟩ := hbound hsome
  exact ⟨hne, value, param, hreads, hparam, hadmits⟩

/-- A user whose name is a constant that holds nothing. -/
def nobody : Instance := ⟨userModel, [("id", .null), ("name", .constant ⟨"Title", "NONE"⟩ .null)]⟩

def nobodyValue (c : Column) : Value :=
  if c.name.text = "id" then .null else .constant ⟨"Title", "NONE"⟩ .null

/-- Not every value that passes the check of its column is bound as one that keeps the constraints:
the name of a user must not be absent, and an absent one is sent. -/
theorem save_not_always_admits :
    ¬ ∀ (catalog : Catalog) (i : Instance) (e : Entity) (s : Session)
        (value param : Column → Value),
      catalog.Declared → catalog.entity i.model = .ok e → catalog.Reads i e value →
      (∀ c ∈ e.columns, (value c).toParameter = .ok (param c)) →
      (catalog.save i s).2.sent ≠ s.sent →
      ∀ c ∈ e.columns, c.Admits (s.adapter.dialect.adapt (param c)) := by
  intro hall
  have hreads : users.Reads nobody ⟨userModel, .plain "users", userColumns⟩ nobodyValue := by
    refine ⟨⟨rfl, rfl⟩, rfl, fun c hc => ?_⟩
    simp only [userColumns, List.mem_cons, List.not_mem_nil, or_false] at hc
    rcases hc with rfl | rfl <;> rfl
  have hparam : ∀ c ∈ userColumns, (nobodyValue c).toParameter = .ok .null := by
    intro c hc
    simp only [userColumns, List.mem_cons, List.not_mem_nil, or_false] at hc
    rcases hc with rfl | rfl <;> rfl
  have hsent : (users.save nobody untouched).2.sent.map Prod.fst =
      ["INSERT INTO users (name) VALUES (?) RETURNING id"] := by rfl
  have hne : (users.save nobody untouched).2.sent ≠ untouched.sent := by
    intro heq
    rw [heq] at hsent
    cases hsent
  have hadmits := hall users nobody _ untouched nobodyValue (fun _ => .null) users_declared rfl
    hreads hparam hne _ (List.mem_cons_of_mem _ List.mem_cons_self)
  exact absurd (hadmits.present rfl rfl) (by decide)

end Catalog

end RelMap
