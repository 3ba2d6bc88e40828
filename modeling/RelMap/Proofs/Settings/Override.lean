import Mathlib.Data.List.Forall2
import Mathlib.Data.Option.Basic
import RelMap.Proofs.Settings.Checked
import RelMap.Value.Key

/-!
# Replacing settings

A program may replace some values of checked settings in two ways: it makes an adapter for the
settings and hands the new values over with them, which checks nothing, or it makes new settings of
the old values and the new ones, which checks them all.  The two ways agree exactly if the check
accepts the new values and leaves what the driver is handed as it was given; a password must not be
replaced by another on the first way, since it would not be kept secret.
-/

namespace RelMap

/-! ## Equal values -/

namespace Value

/-- Two values that count as equal: the same value, or the same key. -/
def Alike (v w : Value) : Prop := v = w ∨ v.sameKey w = true

namespace Alike

variable {u v w : Value}

theorem refl (v : Value) : v.Alike v := .inl rfl

theorem symm (h : v.Alike w) : w.Alike v := by
  rcases h with rfl | h
  · exact refl v
  · exact .inr (sameKey_comm v w ▸ h)

theorem trans (h : u.Alike v) (h' : v.Alike w) : u.Alike w := by
  rcases h with rfl | h
  · exact h'
  · rcases h' with rfl | h'
    · exact .inr h
    · exact .inr (sameKey_trans h h')

end Alike

/-- Values that pass for the same integer are equal. -/
theorem alike_of_intOf? {v w : Value} {n : Int} (hv : v.intOf? = some n) (hw : w.intOf? = some n) :
    v.Alike w := by
  have hkey : ∀ u : Value, u.intOf? = some n → u.key? = some [.number (.ofInt n)] := by
    intro u hu
    cases u <;> simp_all [intOf?, textOf?, key?, mark?]
  exact .inr (by simp [sameKey, hkey v hv, hkey w hw])

theorem key?_eq_null {v : Value} : v.key? = some [.null] ↔ v = .null := by
  constructor
  · intro h
    cases v with
    | real x => cases x <;> simp [key?, mark?, Real.mark?] at h
    | decimal d => cases d <;> simp [key?, mark?, Decimal.mark?] at h
    | bytes form content => cases form <;> simp [key?, mark?] at h
    | moment m =>
      cases m with
      | day d => simp [key?, mark?, Moment.mark] at h
      | time t z => cases z <;> simp [key?, mark?, Moment.mark] at h
      | instant d t z => cases z <;> simp [key?, mark?, Moment.mark] at h
    | _ => simp_all [key?, mark?, textOf?, intOf?]
  · rintro rfl
    rfl

theorem Alike.isNull_eq {v w : Value} (h : v.Alike w) : v.isNull = w.isNull := by
  have hnull : ∀ u : Value, u.isNull = true ↔ u.key? = some [.null] := by
    intro u
    rw [key?_eq_null]
    cases u <;> simp [isNull]
  rcases h with rfl | h
  · rfl
  · simp only [sameKey, Bool.and_eq_true, beq_iff_eq] at h
    rw [Bool.eq_iff_iff, hnull, hnull, h.2]

end Value

/-! ## What a driver is handed -/

/-- The same named arguments: equal values under the same names, in the same order. -/
def SameArguments (as bs : Arguments) : Prop :=
  List.Forall₂ (fun a b => a.1 = b.1 ∧ a.2.Alike b.2) as bs

/-- The same arguments for opening a connection. -/
def SameOpening (x y : List Value × Arguments) : Prop :=
  List.Forall₂ Value.Alike x.1 y.1 ∧ SameArguments x.2 y.2

/-- Two ways of making an adapter come out the same: the same error, or two adapters of one kind
that open their connections with the same arguments. -/
def SameOutcome : Result Adapter → Result Adapter → Prop
  | .ok a, .ok b => a.dialect = b.dialect ∧
      ∃ x y, a.backend.opening = .ok x ∧ b.backend.opening = .ok y ∧ SameOpening x y
  | .error e, .error e' => e = e'
  | _, _ => False

namespace SameArguments

variable {as bs : Arguments}

theorem get? (h : SameArguments as bs) (name : String) :
    Option.Rel Value.Alike (as.get? name) (bs.get? name) := by
  induction h with
  | nil => exact .none
  | @cons a b as bs hab _ ih =>
    rw [Arguments.get?_cons, Arguments.get?_cons, hab.1]
    split
    · exact .some hab.2
    · exact ih

theorem append {as' bs' : Arguments} (h : SameArguments as bs) (h' : SameArguments as' bs') :
    SameArguments (as ++ as') (bs ++ bs') := List.rel_append h h'

theorem refl (as : Arguments) : SameArguments as as := by
  induction as with
  | nil => exact .nil
  | cons a as ih => exact .cons ⟨rfl, .refl _⟩ ih

theorem single {name : String} {v w : Value} (h : v.Alike w) :
    SameArguments [(name, v)] [(name, w)] := .cons ⟨rfl, h⟩ .nil

theorem given (name : String) {v w : Value} (h : v.Alike w) :
    SameArguments (Server.given name v) (Server.given name w) := by
  unfold Server.given
  rw [h.isNull_eq]
  split
  · exact .nil
  · exact single h

end SameArguments

namespace Server

theorem get?_given (name : String) (v : Value) (other : String) :
    (given name v).get? other = if name = other ∧ v.isNull = false then some v else none := by
  unfold given
  cases v.isNull <;> simp [Arguments.get?_cons]

/-- Values that are left out where they are absent determine each other. -/
theorem alike_of_given {v w : Value} (h : Option.Rel Value.Alike
    (if v.isNull = false then some v else none) (if w.isNull = false then some w else none)) :
    v.Alike w := by
  have hnull : ∀ u : Value, u.isNull = true → u = .null := by
    intro u hu
    cases u <;> simp_all [Value.isNull]
  cases hv : v.isNull <;> cases hw : w.isNull <;> simp only [hv, hw] at h
  · cases h
    assumption
  · cases h
  · cases h
  · rw [hnull v hv, hnull w hw]
    exact .refl _

theorem parameters_eq {s : Server} (h : s.options = []) : s.parameters =
    [("host", s.host), ("port", s.port)] ++ given "user" s.user ++ given "password" s.password ++
      given "dbname" s.database ++ (if s.tls.truthy then [("sslmode", .text "require")] else []) ++
      given "connect_timeout" s.connectTimeout := by
  rw [parameters, h]
  rfl

theorem get?_sslmode (t : Bool) (name : String) :
    Arguments.get? (if t then [("sslmode", .text "require")] else []) name =
      if "sslmode" = name ∧ t = true then some (.text "require") else none := by
  cases t <;> simp [Arguments.get?_cons]

theorem opening_eq {s : Server} (h : s.options = []) :
    (Backend.server s).opening = .ok ([], s.arguments) := by
  have hnone : s.parameters.get? "autocommit" = none := by
    simp [parameters_eq h, Arguments.get?_append, Arguments.get?_cons, get?_given, get?_sslmode]
  rw [Backend.opening, Arguments.has_eq, hnone]
  rfl

/-- Two servers are handed the same arguments exactly if their values are equal; of encryption only
its truth counts. -/
theorem sameArguments_iff {s t : Server} (hs : s.options = []) (ht : t.options = []) :
    SameArguments s.arguments t.arguments ↔
      s.host.Alike t.host ∧ s.port.Alike t.port ∧ s.user.Alike t.user ∧
      s.password.Alike t.password ∧ s.database.Alike t.database ∧
      s.tls.truthy = t.tls.truthy ∧ s.connectTimeout.Alike t.connectTimeout := by
  unfold arguments
  rw [parameters_eq hs, parameters_eq ht]
  constructor
  · intro h
    have hget := h.get?
    simp only [Arguments.get?_append, Arguments.get?_cons, Arguments.get?_nil, get?_given,
      get?_sslmode] at hget
    refine ⟨by simpa using hget "host", by simpa using hget "port",
      alike_of_given (by simpa using hget "user"), alike_of_given (by simpa using hget "password"),
      alike_of_given (by simpa using hget "dbname"), ?_,
      alike_of_given (by simpa using hget "connect_timeout")⟩
    have htls := hget "sslmode"
    cases hs : s.tls.truthy <;> cases ht : t.tls.truthy <;> simp_all
  · rintro ⟨hhost, hport, huser, hpassword, hdatabase, htls, htimeout⟩
    have hsslmode : SameArguments
        (if s.tls.truthy then [("sslmode", .text "require")] else [])
        (if t.tls.truthy then [("sslmode", .text "require")] else []) := by
      rw [htls]
      exact .refl _
    have hplace : SameArguments [("host", s.host), ("port", s.port)]
        [("host", t.host), ("port", t.port)] := (SameArguments.single hhost).append (.single hport)
    have hgiven := (hplace.append (.given "user" huser)).append (.given "password" hpassword)
    have hall := ((hgiven.append (.given "dbname" hdatabase)).append hsslmode).append
      (.given "connect_timeout" htimeout)
    exact .append (.single (.refl _)) hall

end Server

namespace SameOutcome

theorem embedded_iff {p q : Value} :
    SameOutcome (.ok (.ofBackend (.embedded { path := p })))
      (.ok (.ofBackend (.embedded { path := q }))) ↔ p.Alike q := by
  constructor
  · rintro ⟨-, x, y, hx, hy, h, -⟩
    cases hx
    cases hy
    cases h with
    | cons h _ => exact h
  · intro h
    exact ⟨rfl, _, _, rfl, rfl, .cons h .nil, .refl _⟩

theorem server_iff {s t : Server} (hs : s.options = []) (ht : t.options = []) :
    SameOutcome (.ok (.ofBackend (.server s))) (.ok (.ofBackend (.server t))) ↔
      s.host.Alike t.host ∧ s.port.Alike t.port ∧ s.user.Alike t.user ∧
      s.password.Alike t.password ∧ s.database.Alike t.database ∧
      s.tls.truthy = t.tls.truthy ∧ s.connectTimeout.Alike t.connectTimeout := by
  rw [← Server.sameArguments_iff hs ht]
  constructor
  · rintro ⟨-, x, y, hx, hy, -, h⟩
    cases (Server.opening_eq hs).symm.trans hx
    cases (Server.opening_eq ht).symm.trans hy
    exact h
  · intro h
    exact ⟨rfl, _, _, Server.opening_eq hs, Server.opening_eq ht, .nil, h⟩

end SameOutcome

/-! ## Values that the check leaves as they are -/

theorem Engine.check_eq_ok {v : Value} {e : Engine} :
    Engine.check v = .ok e ↔ v.textOf? = some e.name := by
  unfold Engine.check
  cases e <;> split <;> simp_all [Engine.name]

namespace Value

/-- An optional text is kept by a check that keeps texts. -/
theorem checkOptional_ofOption {check : Value → Checked String}
    (h : ∀ s, check (.text s) = .ok s) (s : Option String) :
    (Value.ofOption .text s).checkOptional check = .ok s := by
  cases s with
  | none => rfl
  | some s =>
    change (check (.text s)).map some = .ok (some s)
    rw [h]
    rfl

variable {c : Conversion} (hc : c.Lawful)

include hc

theorem checkSecret_text (s : String) : checkSecret c.text (.text s) = .ok s := by
  rw [checkSecret, hc.text]

theorem alike_of_text {s t : String} (h : c.text (.text s) = .ok t) :
    (text s).Alike (text t) := by
  rw [hc.text] at h
  exact Except.ok.inj h ▸ .refl _

theorem alike_of_checkOptional {s t : Option String}
    (h : (Value.ofOption .text s).checkOptional c.text = .ok t) :
    (Value.ofOption .text s).Alike (.ofOption .text t) := by
  rw [checkOptional_ofOption hc.text] at h
  exact Except.ok.inj h ▸ .refl _

/-- An integer that is checked again is an equal one. -/
theorem alike_of_checkBetween {low : Int} {high : Option Int} {v w : Value} {n : Int}
    (hv : v.intOf? = some n) (h : v.checkBetween c.integer low high = .ok w) : v.Alike w := by
  obtain ⟨hw, -⟩ := (checkBetween_eq_ok hc).mp h
  obtain ⟨w', hw', hn⟩ := hc.integer hv
  cases hw.symm.trans hw'
  exact alike_of_intOf? hv hn

theorem alike_of_checkNullable {low : Int} {high : Option Int} {v w : Value}
    (hv : v = .null ∨ ∃ n, v.intOf? = some n)
    (h : v.checkNullable (checkBetween c.integer low high) = .ok w) : v.Alike w := by
  rcases hv with rfl | ⟨n, hn⟩
  · cases h
    exact .refl _
  · have hnull : v.isNull = false := by cases v <;> simp_all [isNull, intOf?]
    simp only [checkNullable, hnull] at h
    exact alike_of_checkBetween hc hn h

end Value

namespace Arguments

variable {os : Arguments}

/-- A value that may have been replaced is equal to what its check makes of it if the new value is
and the old one was. -/
theorem alike_getD_iff {α : Type} {check : Value → Checked α} {x : α} {name : String} {v w : Value}
    (h : check (os.getD name v) = .ok x) (hkept : check v = .ok x → v.Alike w) :
    (os.getD name v).Alike w ↔ ∀ u, os.get? name = some u → u.Alike w := by
  unfold getD at h ⊢
  cases hget : os.get? name with
  | none =>
    rw [hget] at h
    simpa using hkept h
  | some u => simp

theorem forall_mem_iff (h : os.names.Nodup) {names : List String} {P : String → Value → Prop} :
    (∀ o ∈ os, o.1 ∈ names → P o.1 o.2) ↔
      ∀ name ∈ names, ∀ v, os.get? name = some v → P name v := by
  constructor
  · intro hall name hname v hv
    exact hall (name, v) ((get?_eq_some_iff h).mp hv) hname
  · intro hall o ho hname
    exact hall o.1 hname o.2 ((get?_eq_some_iff h).mpr ho)

end Arguments

/-! ## The two ways of replacing settings -/

/-- The settings whose values the driver of a backend is handed. -/
def Engine.handed : Engine → List String
  | sqlite => ["path"]
  | postgres => ["host", "port", "user", "password", "database", "tls", "connect_timeout"]

/-- A driver that is handed `v` for a setting is handed what these settings have: an equal value, of
encryption the same truth, and no password either way. -/
def Settings.Keeps (s : Settings) (name : String) (v : Value) : Prop :=
  if name = "password" then v.truthy = false ∧ s.password.getD "" = ""
  else if name = "tls" then v.truthy = s.tls
  else ∃ w, s.arguments.get? name = some w ∧ v.Alike w

/-- The adapter for new settings, which have the values of old ones with some replaced and are
checked with the given conversions. -/
def createRenewed (c : Conversion) (env : Environment) (s : Settings) (overrides : Arguments)
    (driverInstalled : Bool) : Result Adapter := do
  let renewed ← Settings.readWith c env (s.arguments.update overrides)
  createAdapter env (some renewed) [] driverInstalled

namespace Target

theorem override_nil (t : Target) : t.override [] = t := rfl

/-- A password that was checked can always be handed over. -/
theorem reveal_ofSettings (s : Settings) : ∃ w, (ofSettings s).password.reveal = .ok w ∧
    (w = .null ↔ s.password.getD "" = "") := by
  unfold ofSettings
  cases s.password with
  | none => exact ⟨.null, rfl, by simp⟩
  | some p => exact ⟨_, rfl, by by_cases h : p = "" <;> simp [h]⟩

end Target

section

variable {c : Conversion} {s s' : Settings} {os : Arguments}

/-- A password that may have been replaced is handed over as the check has it exactly if it was not
replaced, or by none. -/
theorem password_agrees_iff (hc : c.Lawful)
    (h : (os.getD "password" (.ofOption .text s.password)).checkOptional
      (Value.checkSecret c.text) = .ok s'.password) {w : Value}
    (hw : (Target.ofSettings s').password.reveal = .ok w) :
    (∃ v, ((Target.ofSettings s).override os).password.reveal = .ok v ∧ v.Alike w) ↔
      ∀ v, os.get? "password" = some v → v.truthy = false ∧ s'.password.getD "" = "" := by
  obtain ⟨w', hw', hnull⟩ := Target.reveal_ofSettings s'
  cases hw.symm.trans hw'
  cases hget : os.get? "password" with
  | none =>
    rw [Arguments.getD, hget, Option.getD_none,
      Value.checkOptional_ofOption (Value.checkSecret_text hc)] at h
    have hsame :
        ((Target.ofSettings s).override os).password = (Target.ofSettings s').password := by
      simp only [Target.override, Target.ofSettings, hget, Except.ok.inj h]
    rw [hsame, hw]
    constructor
    · intro _ v hv
      cases hv
    · exact fun _ => ⟨w, rfl, .refl w⟩
  | some v =>
    have hunchecked : ((Target.ofSettings s).override os).password = .unchecked v := by
      simp only [Target.override, hget]
    rw [hunchecked, ← hnull]
    cases ht : v.truthy with
    | true => simp [Password.reveal, ht]
    | false =>
      constructor
      · rintro ⟨_, hv, halike⟩ _ ⟨⟩
        simp only [Password.reveal, ht] at hv
        cases hv
        have hisNull := halike.isNull_eq
        exact ⟨ht, by cases w <;> simp_all [Value.isNull]⟩
      · intro hall
        rw [(hall v rfl).2]
        exact ⟨.null, by simp [Password.reveal, ht], .refl _⟩

/-- Of encryption only its truth is handed over. -/
theorem tls_agrees_iff (hc : c.Lawful) (h : c.truth (os.getD "tls" (.bool s.tls)) = .ok s'.tls) :
    (os.getD "tls" (.bool s.tls)).truthy = s'.tls ↔
      ∀ v, os.get? "tls" = some v → v.truthy = s'.tls := by
  unfold Arguments.getD at h ⊢
  cases hget : os.get? "tls" with
  | none =>
    rw [hget, Option.getD_none, hc.truth] at h
    simpa [Value.truthy] using Except.ok.inj h
  | some v => simp

/-- The server that a target describes, with its password revealed. -/
def Target.serverWith (t : Target) (password : Value) : Server where
  host := t.host
  port := t.port
  user := t.user
  password := password
  database := t.database
  tls := t.tls
  connectTimeout := t.connectTimeout

theorem createAdapter_of_postgres {env : Environment}
    (h : ((Target.ofSettings s).override os).backend.textOf? = some Engine.postgres.name)
    (installed : Bool) : createAdapter env (some s) os installed =
      (((Target.ofSettings s).override os).password.reveal >>= fun v =>
        if installed then
          .ok (.ofBackend (.server (((Target.ofSettings s).override os).serverWith v)))
        else .error .driverMissing) := by
  change (((Target.ofSettings s).override os).connectsTo installed).map _ = _
  rw [Target.connectsTo, if_pos h, Target.server]
  cases ((Target.ofSettings s).override os).password.reveal <;> cases installed <;> rfl

theorem createAdapter_of_sqlite {env : Environment}
    (h : ((Target.ofSettings s).override os).backend.textOf? = some Engine.sqlite.name)
    (installed : Bool) : createAdapter env (some s) os installed =
      .ok (.ofBackend (.embedded { path := os.getD "path" (.text s.path) })) := by
  change (((Target.ofSettings s).override os).connectsTo installed).map _ = _
  rw [Target.connectsTo, h, if_neg (by decide)]
  rfl

variable {env : Environment} (hc : c.Lawful) (hnames : ∀ name ∈ os.names, name ∈ Settings.names)
  (hdistinct : os.names.Nodup) (hread : Settings.readWith c env (s.arguments.update os) = .ok s')

include hc hnames hdistinct hread

/-- Where the new settings choose an embedded database, the ways agree exactly if its path is
kept. -/
theorem sqlite_agrees_iff (he : s'.backend = .sqlite) (installed : Bool) :
    SameOutcome (createAdapter env (some s) os installed)
        (createAdapter env (some s') [] installed) ↔
      ∀ name ∈ Engine.sqlite.handed, ∀ v, os.get? name = some v → s'.Keeps name v := by
  obtain ⟨hbackend, -, -, -, -, -, hpath, -, -, -⟩ :=
    (Settings.readWith_update_eq_ok hnames hdistinct).mp hread
  rw [Engine.check_eq_ok, he] at hbackend
  rw [createAdapter_of_sqlite hbackend, createAdapter_of_sqlite (s := s') (by rw [← he]; rfl),
    SameOutcome.embedded_iff]
  change (os.getD "path" (.text s.path)).Alike (.text s'.path) ↔ _
  rw [Arguments.alike_getD_iff hpath (Value.alike_of_text hc)]
  simp [Engine.handed, Settings.Keeps, Settings.arguments, Arguments.get?_cons]

/-- The parameters of a server are kept one by one. -/
theorem postgres_keeps_iff (hs : s.Valid) {w : Value}
    (hw : (Target.ofSettings s').password.reveal = .ok w) :
    (∀ name ∈ Engine.postgres.handed, ∀ v, os.get? name = some v → s'.Keeps name v) ↔
      (os.getD "host" (.text s.host)).Alike (.text s'.host) ∧
      (os.getD "port" s.port).Alike s'.port ∧
      (os.getD "user" (.ofOption .text s.user)).Alike (.ofOption .text s'.user) ∧
      (∃ v, ((Target.ofSettings s).override os).password.reveal = .ok v ∧ v.Alike w) ∧
      (os.getD "database" (.ofOption .text s.database)).Alike (.ofOption .text s'.database) ∧
      (os.getD "tls" (.bool s.tls)).truthy = s'.tls ∧
      (os.getD "connect_timeout" s.connectTimeout).Alike s'.connectTimeout := by
  obtain ⟨-, htimeout, hdatabase, hhost, -, hpassword, -, hport, htls, huser⟩ :=
    (Settings.readWith_update_eq_ok hnames hdistinct).mp hread
  obtain ⟨n, hn, -, -⟩ := hs.port
  have hwaits : s.connectTimeout = .null ∨ ∃ n, s.connectTimeout.intOf? = some n :=
    hs.connectTimeout.imp_right fun ⟨n, hn, _⟩ => ⟨n, hn⟩
  rw [Arguments.alike_getD_iff hhost (Value.alike_of_text hc),
    Arguments.alike_getD_iff hport (Value.alike_of_checkBetween hc hn),
    Arguments.alike_getD_iff huser (Value.alike_of_checkOptional hc),
    password_agrees_iff hc hpassword hw,
    Arguments.alike_getD_iff hdatabase (Value.alike_of_checkOptional hc), tls_agrees_iff hc htls,
    Arguments.alike_getD_iff htimeout (Value.alike_of_checkNullable hc hwaits)]
  simp [Engine.handed, Settings.Keeps, Settings.arguments, Arguments.get?_cons]

/-- Where the new settings choose a server, the ways agree exactly if all its parameters are
kept. -/
theorem postgres_agrees_iff (hs : s.Valid) (he : s'.backend = .postgres) :
    (∀ installed, SameOutcome (createAdapter env (some s) os installed)
        (createAdapter env (some s') [] installed)) ↔
      ∀ name ∈ Engine.postgres.handed, ∀ v, os.get? name = some v → s'.Keeps name v := by
  have hbackend := ((Settings.readWith_update_eq_ok hnames hdistinct).mp hread).1
  rw [Engine.check_eq_ok, he] at hbackend
  obtain ⟨w, hw, -⟩ := Target.reveal_ofSettings s'
  have hnew : ∀ installed, createAdapter env (some s') [] installed =
      if installed then .ok (.ofBackend (.server ((Target.ofSettings s').serverWith w)))
      else .error .driverMissing := by
    intro installed
    rw [createAdapter_of_postgres (by rw [← he]; rfl), Target.override_nil, hw]
    rfl
  rw [postgres_keeps_iff hc hnames hdistinct hread hs hw]
  simp only [createAdapter_of_postgres hbackend, hnew]
  constructor
  · intro hall
    have hsame := hall true
    cases hv : ((Target.ofSettings s).override os).password.reveal with
    | error e =>
      rw [hv] at hsame
      exact hsame.elim
    | ok v =>
      rw [hv] at hsame
      obtain ⟨h₁, h₂, h₃, h₄, h₅, h₆, h₇⟩ := (SameOutcome.server_iff rfl rfl).mp hsame
      exact ⟨h₁, h₂, h₃, ⟨v, rfl, h₄⟩, h₅, h₆, h₇⟩
  · rintro ⟨h₁, h₂, h₃, ⟨v, hv, h₄⟩, h₅, h₆, h₇⟩ installed
    rw [hv]
    cases installed with
    | true => exact (SameOutcome.server_iff rfl rfl).mpr ⟨h₁, h₂, h₃, h₄, h₅, h₆, h₇⟩
    | false => rfl

end

/-- Values that replace settings without a check are never found wrong. -/
theorem createAdapter_ne_invalid (env : Environment) (s : Settings) (os : Arguments)
    (installed : Bool) (faults : Settings.Faults) :
    createAdapter env (some s) os installed ≠ .error (.invalidSettings faults) := by
  change (((Target.ofSettings s).override os).connectsTo installed).map _ ≠ _
  intro h
  rw [Result.map_eq_error, Target.connectsTo] at h
  split at h
  · rcases Result.bind_eq_error.mp h with h | ⟨x, -, h⟩
    · rcases Result.bind_eq_error.mp h with h | ⟨w, -, h⟩
      · unfold Password.reveal at h
        split at h
        · cases h
        · cases h
        · split at h <;> cases h
      · cases h
    · split at h <;> cases h
  · cases h

/-- The two ways of replacing values of checked settings agree, whatever driver is installed,
exactly if the check accepts the new values and the driver of the chosen backend is handed each as
it was given.  The way without a check never finds a value wrong; settings that the other accepts
have a port that is one, besides a known backend.  How the check converts values does not matter,
as long as it takes texts, integers and truth values for what they are. -/
theorem override_agrees_iff {c : Conversion} (hc : c.Lawful) {env₀ env : Environment}
    {init os : Arguments} {s : Settings} (hs : Settings.checkWith c env₀ init = .ok s)
    (hnames : ∀ name ∈ os.names, name ∈ Settings.names) (hdistinct : os.names.Nodup) :
    ((∀ installed, SameOutcome (createAdapter env (some s) os installed)
        (createRenewed c env s os installed)) ↔
      ∃ s', Settings.readWith c env (s.arguments.update os) = .ok s' ∧
        ∀ o ∈ os, o.1 ∈ s'.backend.handed → s'.Keeps o.1 o.2) ∧
    (∀ installed faults,
      createAdapter env (some s) os installed ≠ .error (.invalidSettings faults)) ∧
    ∀ s', Settings.readWith c env (s.arguments.update os) = .ok s' → s'.Valid := by
  refine ⟨?_, createAdapter_ne_invalid env s os,
    fun s' hread => Settings.valid_of_checkWith hc (Settings.readWith_eq_ok.mp hread)⟩
  cases hread : Settings.readWith c env (s.arguments.update os) with
  | error e =>
    -- What the check refuses stays unnoticed without it.
    obtain ⟨faults, rfl⟩ := Settings.readWith_eq_error hread
    have hrenewed : createRenewed c env s os true = .error (.invalidSettings faults) := by
      rw [createRenewed, hread]
      rfl
    refine ⟨fun hall => ?_, fun ⟨_, h, _⟩ => nomatch h⟩
    have hsame := hall true
    rw [hrenewed] at hsame
    cases hdirect : createAdapter env (some s) os true with
    | ok a =>
      rw [hdirect] at hsame
      exact hsame.elim
    | error e =>
      rw [hdirect] at hsame
      cases hsame
      exact absurd hdirect (createAdapter_ne_invalid env s os true faults)
  | ok s' =>
    have hrenewed : ∀ installed,
        createRenewed c env s os installed = createAdapter env (some s') [] installed := by
      intro installed
      rw [createRenewed, hread]
      rfl
    have hvalid : s.Valid := Settings.valid_of_checkWith hc hs
    simp only [hrenewed, Except.ok.injEq, exists_eq_left', Arguments.forall_mem_iff hdistinct]
    cases he : s'.backend with
    | sqlite => simp only [sqlite_agrees_iff hc hnames hdistinct hread he, forall_const]
    | postgres => exact postgres_agrees_iff hc hnames hdistinct hread hvalid he

/-- Settings of an embedded database are replaced by those of a server. -/
theorem override_agrees_iff_server : ∃ s, Settings.check [] [("path", .text "app.db")] = .ok s ∧
    ∀ installed,
      SameOutcome (createAdapter [] (some s) [("backend", .text "postgres"), ("port", .int 6543)]
          installed)
        (createRenewed .standard [] s [("backend", .text "postgres"), ("port", .int 6543)]
          installed) := by
  have hchecked : Settings.check [] [("path", .text "app.db")] =
      .ok ⟨.sqlite, .null, none, "localhost", "INFO", none, "app.db", .int 5432, false, none⟩ := rfl
  have hlawful : Conversion.standard.Lawful := Conversion.lawful_standard
  refine ⟨_, hchecked,
    (override_agrees_iff hlawful hchecked (by decide) (by decide)).1.mpr ⟨_, rfl, ?_⟩⟩
  intro o ho hhanded
  have ho' : o = ("backend", .text "postgres") ∨ o = ("port", .int 6543) := by simpa using ho
  rcases ho' with rfl | rfl
  · exact absurd hhanded (by decide)
  · exact ⟨.int 6543, rfl, .refl _⟩

/-- The two ways do not always agree: a backend that does not exist is refused by the check only. -/
theorem override_not_always_checked :
    ¬ ∀ (env₀ env : Environment) (init os : Arguments) (s : Settings) (installed : Bool),
      Settings.check env₀ init = .ok s → (∀ name ∈ os.names, name ∈ Settings.names) →
      os.names.Nodup →
      SameOutcome (createAdapter env (some s) os installed)
        (createRenewed .standard env s os installed) := by
  intro hall
  obtain ⟨s, hs⟩ : ∃ s, Settings.check [] [] = .ok s := ⟨_, rfl⟩
  cases hs
  exact hall [] [] [] [("backend", .text "oracle")] _ true rfl (by decide) (by decide)

end RelMap
