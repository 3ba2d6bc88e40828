import RelMap.Proofs.Session.Course

/-!
# The lifecycle of cursors and connections

Numbers of cursors and connections are positions of calls, so those of different calls differ.
Along a history every cursor is closed once and every connection at most once; a connection that was
given up is never spoken of again, and there are never two of them at a time (`Lifecycle`).

Two facts carry this from call to call: a connection that was handed out is the present one or was
given up (`Reaches.found_or_taken`), and a connection that was given up is never found again
(`Reaches.not_found_of_taken`).
-/

namespace RelMap

namespace Reaches

variable {s t : Session} {h earlier later : List Occurrence} {o : Occurrence} {c n : Nat} {k : Call}

/-! ## Parts of a history -/

/-- A history leads to each of its calls, and on from there. -/
theorem split (hr : Reaches s h t) (heq : h = earlier ++ o :: later) :
    Reaches s earlier o.before ∧ Reaches o.after later t := by
  induction hr generalizing later with
  | start => cases List.nil_eq_append_iff.mp heq |>.2
  | driver script closing _ ih =>
    obtain ⟨hearlier, hlater⟩ := ih heq
    exact ⟨hearlier, .driver script closing hlater⟩
  | @call h t c hr ih =>
    rcases List.eq_nil_or_concat later with rfl | ⟨later', p, rfl⟩
    · obtain ⟨rfl, hlast⟩ := List.append_inj' heq rfl
      cases hlast
      exact ⟨hr, .start⟩
    · rw [List.concat_eq_append, ← List.cons_append, ← List.append_assoc] at heq
      obtain ⟨hh, hlast⟩ := List.append_inj' heq rfl
      cases hlast
      obtain ⟨hearlier, hlater⟩ := ih hh
      rw [List.concat_eq_append]
      exact ⟨hearlier, .call c hlater⟩

theorem calls_eq (hr : Reaches s h t) : t.calls = s.calls ++ h.flatMap Occurrence.asked := by
  induction hr with
  | start => exact (List.append_nil _).symm
  | driver script closing _ ih => exact ih
  | @call h t c _ ih =>
    rw [(Occurrence.change ⟨c, t⟩).2, ih, List.flatMap_append, List.flatMap_singleton,
      List.append_assoc]

/-- The numbers that are spoken of along a history are positions of its calls. -/
theorem number_bounds (hr : Reaches s h t) (hk : k ∈ h.flatMap Occurrence.asked)
    (hn : k.number? = some n) : s.calls.length ≤ n ∧ n < t.calls.length := by
  obtain ⟨o, ho, hk⟩ := List.mem_flatMap.mp hk
  obtain ⟨earlier, later, heq⟩ := List.append_of_mem ho
  obtain ⟨hearlier, hlater⟩ := hr.split heq
  have hstart := congrArg List.length hearlier.calls_eq
  have hcall := congrArg List.length o.change.2
  have hend := congrArg List.length hlater.calls_eq
  have hpos := List.length_pos_of_mem hk
  rw [Occurrence.number_eq hk hn]
  rw [List.length_append] at hstart hcall hend
  omega

/-- A cursor that is closed along a history is one of its positions. -/
theorem cursorClosings_bounds (hr : Reaches s h t)
    (hn : n ∈ cursorClosings (h.flatMap Occurrence.asked)) :
    s.calls.length ≤ n ∧ n < t.calls.length :=
  hr.number_bounds (mem_cursorClosings.mp hn) rfl

/-! ## Connections that come and go -/

/-- A connection that was handed out is the present one, or it was given up. -/
theorem found_or_taken (hr : Reaches s h t)
    (hc : c ∈ openings (h.flatMap Occurrence.asked)) :
    t.adapter.connection = some c ∨ ∃ o ∈ h, o.Takes c := by
  induction hr with
  | start => cases hc
  | driver script closing _ ih => exact ih hc
  | @call h t a _ ih =>
    rw [List.flatMap_append, List.flatMap_singleton, openings, List.filterMap_append] at hc
    have hlast : (⟨a, t⟩ : Occurrence) ∈ h ++ [⟨a, t⟩] :=
      List.mem_append_right _ List.mem_cons_self
    rcases List.mem_append.mp hc with hc | hc
    · rcases ih hc with hfound | ⟨o, ho, htakes⟩
      · -- the call keeps the connection that it finds, or gives it up
        have hbefore : Occurrence.connection ⟨a, t⟩ = some c := hfound
        rcases Occurrence.course ⟨a, t⟩ with ⟨-, hafter, -⟩ | ⟨-, -, -, -, hnone, -, -⟩ |
          ⟨d, -, -, hd, -, -, hafter⟩ | ⟨d, htakes, -, -⟩
        · exact Or.inl (hafter.trans hbefore)
        · cases hnone.symm.trans hbefore
        · exact Or.inl (hafter.trans (hd.symm.trans hbefore))
        · obtain rfl : d = c := Option.some.inj (htakes.2.symm.trans hbefore)
          exact Or.inr ⟨_, hlast, htakes⟩
      · exact Or.inr ⟨o, List.mem_append_left _ ho, htakes⟩
    · obtain ⟨k, hk, hopened⟩ := mem_openings.mp hc
      exact Or.inl (Occurrence.connection_of_opened hk hopened).2

section Fresh

variable (hr : Reaches s h t) (hc : s.adapter.connection = none)
  (ht : s.adapter.inTransaction = false)

include hr hc ht

/-- A connection that was given up is never found again. -/
theorem not_found_of_taken (ho : o ∈ h) (htakes : o.Takes c) :
    t.adapter.connection ≠ some c := by
  induction hr with
  | start => cases ho
  | driver script closing _ ih => exact ih ho
  | @call h t a hr ih =>
    rcases List.mem_append.mp ho with ho | ho
    · have hbefore : Occurrence.connection ⟨a, t⟩ ≠ some c := ih ho
      have hold := (hr.invariant hc ht).earlier o ho c htakes.2
      rcases Occurrence.course ⟨a, t⟩ with ⟨-, hafter, -⟩ | ⟨granted, -, -, hnumber, -, -, hafter⟩ |
        ⟨d, -, -, hd, -, -, hafter⟩ | ⟨d, -, -, hafter⟩
      · rw [hafter]
        exact hbefore
      · -- a connection that is new has the number of a later position
        rw [hafter]
        intro hgranted
        exact Nat.ne_of_lt hold (hnumber c hgranted)
      · rw [hafter, ← hd]
        exact hbefore
      · rw [hafter]
        nofun
    · cases List.mem_singleton.mp ho
      rw [(Occurrence.asked_of_takes htakes).2]
      nofun

theorem not_found_later (heq : h = earlier ++ o :: later) (htakes : o.Takes c) {p : Occurrence}
    (hp : p ∈ later) : p.connection ≠ some c := by
  obtain ⟨between, rest, rfl⟩ := List.append_of_mem hp
  have hsplit : h = (earlier ++ o :: between) ++ p :: rest := by
    rw [heq, List.append_assoc, List.cons_append]
  exact (hr.split hsplit).1.not_found_of_taken hc ht
    (List.mem_append_right _ List.mem_cons_self) htakes

/-- A connection that was given up is never spoken of again. -/
theorem unused_later (heq : h = earlier ++ o :: later) (htakes : o.Takes c) {p : Occurrence}
    (hp : p ∈ later) (hk : k ∈ p.asked) : ¬ k.Uses (h.flatMap Occurrence.asked) c := by
  obtain ⟨hearlier, hlater⟩ := hr.split heq
  have hfound := hr.not_found_later hc ht heq htakes hp
  have hgrows : o.before.calls.length ≤ o.after.calls.length := by
    rw [o.change.2, List.length_append]
    exact Nat.le_add_right _ _
  have hk' : k ∈ later.flatMap Occurrence.asked := List.mem_flatMap.mpr ⟨p, hp, hk⟩
  rintro (hconnection | ⟨n, hcursor, hgranted⟩)
  · rcases Occurrence.opened_or_found hk hconnection with hopened | hsame
    · have hnew := (hlater.number_bounds hk' (Call.of_opened? hopened).1).1
      have hold := (hearlier.invariant hc ht).numbered c htakes.2
      omega
    · exact hfound hsame
  · -- the cursor was granted to a call that found the connection, which is none of the later calls
    have hnew := (hlater.number_bounds hk' (Call.of_cursor? hcursor).1).1
    obtain ⟨q, hq, hgranted⟩ := List.mem_flatMap.mp hgranted
    rw [heq] at hq
    rcases List.mem_append.mp hq with hq | hq
    · have hold := (hearlier.number_bounds (List.mem_flatMap.mpr ⟨q, hq, hgranted⟩)
        (n := n) rfl).2
      omega
    rcases List.mem_cons.mp hq with rfl | hq
    · have hsame := Occurrence.number_eq hgranted (n := n) rfl
      have hpos := List.length_pos_of_mem hgranted
      have hcalls := congrArg List.length q.change.2
      rw [List.length_append] at hcalls
      omega
    · exact hr.not_found_later hc ht heq htakes hq (Occurrence.connection_of_openCursor hgranted)

/-- No connection is closed twice. -/
theorem nodup_closings : (closings (h.flatMap Occurrence.asked)).Nodup := by
  induction hr with
  | start => exact List.nodup_nil
  | driver script closing _ ih => exact ih
  | @call h t a hr ih =>
    rw [List.flatMap_append, List.flatMap_singleton, closings, List.filterMap_append]
    refine List.nodup_append.mpr ⟨ih, Occurrence.nodup_closings_asked ⟨a, t⟩, ?_⟩
    rintro c hc' d hd rfl
    obtain ⟨o, ho, hclosed⟩ := List.mem_flatMap.mp (mem_closings.mp hc')
    have htakes := (Occurrence.closeConnection_mem_iff.mp hclosed).1
    have hagain := (Occurrence.closeConnection_mem_iff.mp (mem_closings.mp hd)).1
    exact hr.not_found_of_taken hc ht ho htakes hagain.2

end Fresh

/-- A cursor is closed along a history as often as during the call that it was granted to. -/
theorem count_cursorClosings (hr : Reaches s h t) (ho : o ∈ h)
    (hgranted : .openCursor c (some n) ∈ o.asked) :
    (cursorClosings (h.flatMap Occurrence.asked)).count n =
      (cursorClosings o.asked).count n := by
  obtain ⟨earlier, later, rfl⟩ := List.append_of_mem ho
  obtain ⟨hearlier, hlater⟩ := hr.split rfl
  have hn : n = o.before.calls.length := Occurrence.number_eq hgranted rfl
  have hgrows : o.before.calls.length < o.after.calls.length := by
    rw [o.change.2, List.length_append]
    exact Nat.lt_add_of_pos_right (List.length_pos_of_mem hgranted)
  have hbefore : (cursorClosings (earlier.flatMap Occurrence.asked)).count n = 0 := by
    refine List.count_eq_zero.mpr fun hmem => ?_
    have hbound := (hearlier.cursorClosings_bounds hmem).2
    omega
  have hafter : (cursorClosings (later.flatMap Occurrence.asked)).count n = 0 := by
    refine List.count_eq_zero.mpr fun hmem => ?_
    have hbound := (hlater.cursorClosings_bounds hmem).1
    omega
  rw [List.flatMap_append, List.flatMap_cons, cursorClosings, List.filterMap_append,
    List.filterMap_append, List.count_append, List.count_append]
  rw [cursorClosings] at hbefore hafter
  rw [hbefore, hafter, Nat.zero_add, Nat.add_zero]
  rfl

end Reaches

/-! ## What stands open -/

/-- During the call that follows on a history, once some of it was asked: the connection was handed
out, and it was neither closed nor given up, as one that cannot be closed. -/
def StandsOpen (earlier : List Occurrence) (done : List Call) (c : Nat) : Prop :=
  c ∈ openings (earlier.flatMap Occurrence.asked ++ done) ∧
    c ∉ closings (earlier.flatMap Occurrence.asked ++ done) ∧
    ∀ o ∈ earlier, o.Takes c → o.before.closing.closes = true

/-- A connection that stands open is the one that the call found, or the one that it was handed. -/
theorem StandsOpen.found_or_opened {s : Session} {earlier : List Occurrence} {o : Occurrence}
    {done rest : List Call} {c : Nat} (h : StandsOpen earlier done c)
    (hr : Reaches s earlier o.before) (hasked : o.asked = done ++ rest) :
    o.connection = some c ∨ o.connection = none ∧ c = o.before.calls.length := by
  obtain ⟨hopened, hunclosed, hclosable⟩ := h
  rw [openings, List.filterMap_append] at hopened
  rcases List.mem_append.mp hopened with hopened | hopened
  · left
    refine (hr.found_or_taken hopened).resolve_right ?_
    rintro ⟨p, hp, htakes⟩
    refine hunclosed (mem_closings.mpr (List.mem_append_left _ (List.mem_flatMap.mpr ⟨p, hp, ?_⟩)))
    exact Occurrence.closeConnection_mem_iff.mpr ⟨htakes, hclosable p hp htakes⟩
  · right
    obtain ⟨k, hk, hopened⟩ := mem_openings.mp hopened
    have hk' : k ∈ o.asked := by
      rw [hasked]
      exact List.mem_append_left _ hk
    exact ⟨(Occurrence.connection_of_opened hk' hopened).1,
      Occurrence.number_eq hk' (Call.of_opened? hopened).1⟩

theorem StandsOpen.unique {s : Session} {earlier : List Occurrence} {o : Occurrence}
    {done rest : List Call} {c d : Nat} (hc : StandsOpen earlier done c)
    (hd : StandsOpen earlier done d) (hr : Reaches s earlier o.before)
    (hasked : o.asked = done ++ rest) : c = d := by
  rcases hc.found_or_opened hr hasked with hc | ⟨hnone, hc⟩
  · rcases hd.found_or_opened hr hasked with hd | ⟨hnone, hd⟩
    · exact Option.some.inj (hc.symm.trans hd)
    · cases hnone.symm.trans hc
  · rcases hd.found_or_opened hr hasked with hd | ⟨-, hd⟩
    · cases hnone.symm.trans hd
    · rw [hc, hd]

/-! ## Histories of a new adapter -/

/-- What holds of the cursors and connections of a history and of the calls that it makes. -/
structure Lifecycle (h : List Occurrence) (calls : List Call) : Prop where
  /-- A cursor that is granted is closed during the call that it was granted to, once, and by no
  other call; only a cursor that cannot be closed is not. -/
  cursors : ∀ o ∈ h, ∀ c n, .openCursor c (some n) ∈ o.asked →
    (cursorClosings o.asked).count n = (if o.before.reply.closes then 1 else 0) ∧
      (cursorClosings calls).count n = (if o.before.reply.closes then 1 else 0)
  /-- No connection is closed twice. -/
  once : (closings calls).Nodup
  /-- A connection is closed by the disconnection that takes it, if it can be closed. -/
  closed : ∀ o ∈ h, ∀ c,
    .closeConnection c ∈ o.asked ↔ o.Takes c ∧ o.before.closing.closes = true
  /-- After the disconnection that takes it a connection is not used. -/
  unused : ∀ earlier o later, h = earlier ++ o :: later → ∀ c, o.Takes c →
    ∀ p ∈ later, ∀ k ∈ p.asked, ¬ k.Uses calls c
  /-- There is never more than one connection that stands open. -/
  single : ∀ earlier o later, h = earlier ++ o :: later → ∀ done rest, o.asked = done ++ rest →
    ∀ c d, StandsOpen earlier done c → StandsOpen earlier done d → c = d
  /-- A disconnection tries to roll back if a transaction is open, then closes the connection, and
  in any case leaves the adapter without connection and transaction. -/
  disconnects : ∀ o ∈ h, ∀ c, o.Takes c →
    o.asked = (if o.active then
        o.before.reply.controlCalls c o.before.calls.length "ROLLBACK" else []) ++
      (if o.before.closing.closes then [.closeConnection c] else []) ∧
    o.after.adapter.connection = none ∧ o.after.adapter.inTransaction = false
  /-- Disconnecting without a connection and connecting with one ask nothing. -/
  idle : ∀ o ∈ h, o.call = .disconnect ∧ o.connection = none ∨
    o.call = .connect ∧ o.connection ≠ none → o.asked = []
  /-- Connecting that fails leaves the adapter as it was. -/
  unopened : ∀ o ∈ h, o.call = .connect → ∀ e, o.outcome = .error e →
    o.connection = none ∧ o.after.adapter = o.before.adapter

namespace Occurrence

variable {o : Occurrence} {c : Nat}

theorem after_of_takes (h : o.Takes c) : o.after.adapter.connection = none ∧
    o.after.adapter.inTransaction = false := by
  obtain ⟨call, s⟩ := o
  obtain ⟨rfl, hc⟩ := h
  have hafter : after ⟨.disconnect, s⟩ = (Run.disconnect s).2 := by
    rw [after, AdapterCall.run, Run.map_apply]
  obtain ⟨hconnection, hactive, -⟩ := Run.disconnect_of_connected (s := s) hc
  rw [hafter]
  exact ⟨hconnection, hactive⟩

theorem asked_of_idle (h : o.call = .disconnect ∧ o.connection = none ∨
    o.call = .connect ∧ o.connection ≠ none) : o.asked = [] := by
  obtain ⟨call, s⟩ := o
  apply asked_of_unchanged
  rcases h with ⟨rfl, hc⟩ | ⟨rfl, hc⟩
  · rw [after, AdapterCall.run, Run.map_apply, Run.disconnect_of_disconnected hc]
  · obtain ⟨c, hc⟩ := Option.ne_none_iff_exists'.mp hc
    rw [after, AdapterCall.run, Run.map_apply, Run.connect_of_connected hc]

theorem unchanged_of_connect (hcall : o.call = .connect) {e : Error} (he : o.outcome = .error e) :
    o.connection = none ∧ o.after.adapter = o.before.adapter := by
  obtain ⟨call, s⟩ := o
  obtain rfl : call = .connect := hcall
  rw [outcome, AdapterCall.run, Run.map_apply] at he
  rw [after, AdapterCall.run, Run.map_apply]
  cases hc : s.adapter.connection with
  | some c =>
    rw [Run.connect_of_connected hc] at he
    cases he
  | none =>
    rcases Run.connect_of_disconnected hc with ⟨e', t, hrun, -, hadapter, -⟩ | ⟨t, p, n, hrun, -⟩
    · rw [hrun]
      exact ⟨hc, hadapter⟩
    · rw [hrun] at he
      cases he

end Occurrence

/-- **The lifecycle of cursors and connections.**  Whatever a client does with a new adapter is a
history, and along every history each cursor is closed once by the call that it was granted to, each
connection is closed once at most, by the disconnection that takes it and after an open transaction
was rolled back, and is not used afterwards; and one connection at most stands open at a time. -/
theorem Client.keeps_lifecycle (d : Dialect) (b : Backend) (script : Script) (closing : Closing)
    (k : Client) :
    Reaches (.fresh d b script closing) (k.history (.fresh d b script closing))
        (k.run (.fresh d b script closing)).2 ∧
      ∀ h t, Reaches (.fresh d b script closing) h t → Lifecycle h t.calls := by
  refine ⟨k.reaches_history _, fun h t hr => ?_⟩
  have hcalls : t.calls = h.flatMap Occurrence.asked := hr.calls_eq
  rw [hcalls]
  refine ⟨?_, hr.nodup_closings rfl rfl, fun o _ c => Occurrence.closeConnection_mem_iff, ?_, ?_,
    ?_, fun o _ => Occurrence.asked_of_idle,
    fun o _ hcall e => Occurrence.unchanged_of_connect hcall⟩
  · intro o ho c n hgranted
    have hcount : (cursorClosings o.asked).count n = if o.before.reply.closes then 1 else 0 := by
      rw [Occurrence.cursorClosings_asked hgranted]
      cases o.before.reply.closes <;> simp
    exact ⟨hcount, (hr.count_cursorClosings ho hgranted).trans hcount⟩
  · intro earlier o later heq c htakes p hp k hk
    exact hr.unused_later rfl rfl heq htakes hp hk
  · intro earlier o later heq done rest hasked c d hc hd
    exact hc.unique hd (hr.split heq).1 hasked
  · intro o _ c htakes
    exact ⟨(Occurrence.asked_of_takes htakes).1, Occurrence.after_of_takes htakes⟩

/-- A client that begins a transaction and disconnects, where the driver fails to roll back and to
close the cursor, and connects again. -/
def Client.careless : Client :=
  .call {} .connect fun _ => .call {} .beginTransaction fun _ =>
    .call { replies := [{ runError := some (.driver "gone"), closeError := some (.abort "stop") }] }
      .disconnect fun _ => .call {} .connect fun outcome => .done (outcome.map fun _ => ())

theorem Client.careless_disconnects :
    ∃ o ∈ careless.history (.fresh .sqlite .generic {} {}), o.Takes 0 ∧
      o.asked = [.openCursor 0 (some 4), .execute 4 "ROLLBACK" [], .closeCursor 4,
        .closeConnection 0] ∧
      o.after.adapter.connection = none ∧ o.after.adapter.inTransaction = false := by
  obtain ⟨hr, hall⟩ := Client.keeps_lifecycle .sqlite .generic {} {} careless
  have hlifecycle := hall _ _ hr
  let o := (careless.history (.fresh .sqlite .generic {} {})).get ⟨2, by decide +kernel⟩
  have ho : o ∈ careless.history (.fresh .sqlite .generic {} {}) := List.get_mem _ _
  have htakes : o.Takes 0 := ⟨rfl, rfl⟩
  obtain ⟨hasked, hleft⟩ := hlifecycle.disconnects o ho 0 htakes
  refine ⟨o, ho, htakes, ?_, hleft⟩
  rw [hasked]
  rfl

end RelMap
