import Mathlib.Data.List.Find
import Mathlib.Data.List.Nodup
import RelMap.Proofs.Result
import RelMap.Settings.Target

/-!
# Checked settings

Settings that passed their check have a port that is one and a waiting time that is not negative.
The check reads what it is given under the name of each setting; a program that gives a value for
every setting leaves nothing to the environment.

Of the conversions that the check leaves to a library only this is used: texts, integers and truth
values pass for what they are, and what passes for an integer is one.
-/

namespace RelMap

/-! ## Looking up named arguments -/

namespace Arguments

variable {as os : Arguments} {name : String} {v : Value}

/-- The names of some arguments. -/
def names (as : Arguments) : List String := as.map Prod.fst

@[simp] theorem get?_nil (name : String) : get? [] name = none := rfl

theorem get?_cons (a : String × Value) (as : Arguments) (name : String) :
    get? (a :: as) name = if a.1 = name then some a.2 else as.get? name := by
  by_cases h : a.1 = name <;> simp [get?, h]

theorem get?_append (as os : Arguments) (name : String) :
    get? (as ++ os) name = (as.get? name).or (os.get? name) := by
  cases h : List.find? (fun a => a.1 == name) as <;> simp [get?, List.find?_append, h]

theorem get?_eq_none : as.get? name = none ↔ name ∉ as.names := by
  rw [get?, Option.map_eq_none_iff, List.find?_eq_none, names, List.mem_map]
  constructor
  · rintro h ⟨a, ha, rfl⟩
    exact h a ha (beq_self_eq_true a.1)
  · intro h a ha hname
    exact h ⟨a, ha, eq_of_beq hname⟩

theorem mem_of_get? (h : as.get? name = some v) : (name, v) ∈ as := by
  obtain ⟨a, ha, rfl⟩ := Option.map_eq_some_iff.mp h
  have hname := List.find?_some ha
  rw [beq_iff_eq] at hname
  subst hname
  exact List.mem_of_find?_eq_some ha

/-- Under distinct names every argument is the one that is found. -/
theorem get?_eq_some_iff (h : as.names.Nodup) : as.get? name = some v ↔ (name, v) ∈ as := by
  refine ⟨mem_of_get?, fun hmem => ?_⟩
  induction as with
  | nil => cases hmem
  | cons a as ih =>
    obtain ⟨ha, has⟩ := List.nodup_cons.mp h
    rw [get?_cons]
    rcases List.mem_cons.mp hmem with rfl | hmem
    · rw [if_pos rfl]
    · have hne : a.1 ≠ name := fun heq => ha (heq ▸ List.mem_map_of_mem hmem)
      rw [if_neg hne, ih has hmem]

/-- Replacing the value of an argument changes what is found under its name, if anything is. -/
theorem get?_replaced (as : Arguments) (name : String) (v : Value) (other : String) :
    get? (as.map fun a => if a.1 == name then (name, v) else a) other =
      if name = other then (as.get? name).map fun _ => v else as.get? other := by
  induction as with
  | nil => simp
  | cons a as ih =>
    rw [List.map_cons, get?_cons, ih, get?_cons, get?_cons]
    by_cases ha : a.1 = name
    · by_cases ho : name = other <;> simp [ha, ho]
    · by_cases ho : name = other
      · subst ho
        simp [ha]
      · simp [ha, ho]

theorem has_eq (as : Arguments) (name : String) : as.has name = (as.get? name).isSome := by
  rw [Bool.eq_iff_iff, has, get?, Option.isSome_map, List.any_eq_true, List.find?_isSome]

theorem get?_set (as : Arguments) (name : String) (v : Value) (other : String) :
    (as.set name v).get? other = if name = other then some v else as.get? other := by
  unfold set
  rw [has_eq]
  cases h : as.get? name with
  | some w =>
    rw [Option.isSome_some, if_pos rfl, get?_replaced, h, Option.map_some]
  | none =>
    rw [Option.isSome_none, if_neg (by decide), get?_append, get?_cons, get?_nil]
    by_cases ho : name = other
    · subst ho
      simp [h]
    · simp [ho]

theorem names_set (as : Arguments) (v : Value) (h : name ∈ as.names) :
    (as.set name v).names = as.names := by
  have hhas : as.has name = true := by simpa [has, names] using h
  unfold set names
  rw [if_pos hhas, List.map_map]
  refine List.map_congr_left fun a _ => ?_
  by_cases ha : a.1 = name <;> simp [ha]

/-- New arguments under distinct names win over old ones. -/
theorem get?_update (as : Arguments) (h : os.names.Nodup) (name : String) :
    (as.update os).get? name = (get? os name).or (as.get? name) := by
  induction os generalizing as with
  | nil => rw [get?_nil, Option.none_or]; rfl
  | cons o os ih =>
    obtain ⟨ho, hos⟩ := List.nodup_cons.mp h
    change ((as.set o.1 o.2).update os).get? name = _
    rw [ih _ hos, get?_set, get?_cons]
    by_cases hname : o.1 = name
    · have hnone : get? os name = none := get?_eq_none.mpr (hname ▸ ho)
      simp [hname, hnone]
    · simp [hname]

theorem names_update (as : Arguments) (h : ∀ name ∈ os.names, name ∈ as.names) :
    (as.update os).names = as.names := by
  induction os generalizing as with
  | nil => rfl
  | cons o os ih =>
    have ho : o.1 ∈ as.names := h _ List.mem_cons_self
    change ((as.set o.1 o.2).update os).names = _
    rw [ih, names_set _ _ ho]
    intro name hname
    rw [names_set _ _ ho]
    exact h name (List.mem_cons_of_mem _ hname)

/-- Under distinct names the order of arguments does not count. -/
theorem get?_reverse (h : as.names.Nodup) (name : String) :
    get? as.reverse name = as.get? name := by
  have hreverse : names as.reverse = as.names.reverse := List.map_reverse
  refine Option.ext fun v => ?_
  rw [get?_eq_some_iff h, get?_eq_some_iff (hreverse ▸ List.nodup_reverse.mpr h),
    List.mem_reverse]

end Arguments

namespace Settings

/-! ## What a check reads -/

/-- The values of settings, under their names. -/
def arguments (s : Settings) : Arguments :=
  [("backend", .text s.backend.name), ("connect_timeout", s.connectTimeout),
   ("database", .ofOption .text s.database), ("host", .text s.host),
   ("log_level", .text s.logLevel), ("password", .ofOption .text s.password),
   ("path", .text s.path), ("port", s.port), ("tls", .bool s.tls),
   ("user", .ofOption .text s.user)]

/-- The names of the settings. -/
def names : List String :=
  ["backend", "connect_timeout", "database", "host", "log_level", "password", "path", "port", "tls",
   "user"]

theorem names_arguments (s : Settings) : s.arguments.names = names := rfl

theorem lower_of_mem_names : ∀ name ∈ names, Text.lower name = name := by decide +kernel

/-- Values under distinct names of settings are found as they are given. -/
theorem fromProgram?_eq {init : Arguments} (hnames : ∀ name ∈ init.names, name ∈ names)
    (hdistinct : init.names.Nodup) (name : String) : fromProgram? init name = init.get? name := by
  have hlower : ∀ e ∈ init.reverse, (Text.lower e.1 == name) = (e.1 == name) := by
    intro e he
    rw [lower_of_mem_names _ (hnames _ (List.mem_map_of_mem (List.mem_reverse.mp he)))]
  rw [← Arguments.get?_reverse hdistinct]
  unfold fromProgram? Arguments.get?
  rw [List.find?_congr hlower]

/-! ## What checked settings are -/

variable {α β : Type} {c : Conversion} {env : Environment} {init : Arguments} {s : Settings}

theorem collect_eq_ok {f : Except Faults (α → β)} {x : Except Faults α} {y : β} :
    collect f x = .ok y ↔ ∃ g a, f = .ok g ∧ x = .ok a ∧ g a = y := by
  rcases f with _ | g <;> rcases x with _ | a <;> simp [collect]

/-- Settings pass their check exactly if each of them does. -/
theorem checkWith_eq_ok : checkWith c env init = .ok s ↔
    setting env init "backend" Engine.check .sqlite = .ok s.backend ∧
    setting env init "connect_timeout" (Value.checkNullable (Value.checkBetween c.integer 0 none))
      .null = .ok s.connectTimeout ∧
    setting env init "database" (Value.checkOptional c.text) none = .ok s.database ∧
    setting env init "host" c.text "localhost" = .ok s.host ∧
    setting env init "log_level" c.text "INFO" = .ok s.logLevel ∧
    setting env init "password" (Value.checkOptional (Value.checkSecret c.text)) none =
      .ok s.password ∧
    setting env init "path" c.text ":memory:" = .ok s.path ∧
    setting env init "port" (Value.checkBetween c.integer 1 (some 65535)) (.int 5432) =
      .ok s.port ∧
    setting env init "tls" c.truth false = .ok s.tls ∧
    setting env init "user" (Value.checkOptional c.text) none = .ok s.user := by
  unfold checkWith
  simp only [collect_eq_ok]
  constructor
  · rintro ⟨_, _, ⟨_, _, ⟨_, _, ⟨_, _, ⟨_, _, ⟨_, _, ⟨_, _, ⟨_, _, ⟨_, _, ⟨_, _, h₀, h₁, rfl⟩, h₂,
      rfl⟩, h₃, rfl⟩, h₄, rfl⟩, h₅, rfl⟩, h₆, rfl⟩, h₇, rfl⟩, h₈, rfl⟩, h₉, rfl⟩, h₁₀, h⟩
    cases h₀
    subst h
    exact ⟨h₁, h₂, h₃, h₄, h₅, h₆, h₇, h₈, h₉, h₁₀⟩
  · rintro ⟨h₁, h₂, h₃, h₄, h₅, h₆, h₇, h₈, h₉, h₁₀⟩
    exact ⟨_, _, ⟨_, _, ⟨_, _, ⟨_, _, ⟨_, _, ⟨_, _, ⟨_, _, ⟨_, _, ⟨_, _, ⟨_, _, rfl, h₁, rfl⟩, h₂,
      rfl⟩, h₃, rfl⟩, h₄, rfl⟩, h₅, rfl⟩, h₆, rfl⟩, h₇, rfl⟩, h₈, rfl⟩, h₉, rfl⟩, h₁₀, rfl⟩

theorem setting_eq_ok_iff {name : String} {check : Value → Checked α} {default x : α} {v : Value}
    (h : given? env init name = some v) :
    setting env init name check default = .ok x ↔ check v = .ok x := by
  cases hv : check v <;> simp [setting, h, hv]

theorem setting_eq_ok {name : String} {check : Value → Checked α} {default x : α}
    (h : setting env init name check default = .ok x) : x = default ∨ ∃ v, check v = .ok x := by
  cases hgiven : given? env init name with
  | none =>
    simp only [setting, hgiven, Except.ok.injEq] at h
    exact .inl h.symm
  | some v => exact .inr ⟨v, (setting_eq_ok_iff hgiven).mp h⟩

/-- What every check of settings guarantees. -/
structure Valid (s : Settings) : Prop where
  port : ∃ n, s.port.intOf? = some n ∧ 1 ≤ n ∧ n ≤ 65535
  connectTimeout : s.connectTimeout = .null ∨ ∃ n, s.connectTimeout.intOf? = some n ∧ 0 ≤ n

end Settings

/-! ## Conversions -/

namespace Value

theorem checkInteger_of_intOf? {v : Value} {n : Int} (h : v.intOf? = some n) :
    v.checkInteger = .ok (.int n) := by
  unfold checkInteger
  rw [h]

/-- What passes for an integer after its check is one. -/
theorem exists_intOf?_of_checkInteger {v w : Value} (h : v.checkInteger = .ok w) :
    ∃ n, w.intOf? = some n := by
  have hint : ∀ {r : Checked Int}, r.map Value.int = .ok w → ∃ n, w.intOf? = some n := by
    intro r hr
    obtain ⟨n, -, rfl⟩ := Result.map_eq_ok.mp hr
    exact ⟨n, rfl⟩
  unfold checkInteger at h
  split at h
  · cases h
    exact ⟨_, rfl⟩
  · exact hint h
  · cases h
  · split at h
    · exact hint h
    · exact hint h
    · split at h
      · cases h
        exact Option.isSome_iff_exists.mp ‹_›
      · cases h
    · cases h

theorem checkTruth_bool (b : Bool) : (Value.bool b).checkTruth = .ok b := by
  cases b <;> rfl

end Value

/-- Conversions that take texts, integers and truth values for what they are, and only integers
out of the others. -/
structure Conversion.Lawful (c : Conversion) : Prop where
  text (s : String) : c.text (.text s) = .ok s
  truth (b : Bool) : c.truth (.bool b) = .ok b
  integer {v : Value} {n : Int} : v.intOf? = some n → ∃ w, c.integer v = .ok w ∧ w.intOf? = some n
  isInteger {v w : Value} : c.integer v = .ok w → ∃ n, w.intOf? = some n

theorem Conversion.lawful_standard : standard.Lawful where
  text _ := rfl
  truth := Value.checkTruth_bool
  integer h := ⟨_, Value.checkInteger_of_intOf? h, rfl⟩
  isInteger := Value.exists_intOf?_of_checkInteger

namespace Value

variable {c : Conversion}

theorem checkBetween_eq_ok (hc : c.Lawful) {low : Int} {high : Option Int} {v w : Value} :
    checkBetween c.integer low high v = .ok w ↔
      c.integer v = .ok w ∧ ∃ n, w.intOf? = some n ∧ low ≤ n ∧ ∀ h, high = some h → n ≤ h := by
  unfold checkBetween
  rw [Result.bind_eq_ok]
  constructor
  · rintro ⟨x, hx, h⟩
    obtain ⟨n, hn⟩ := hc.isInteger hx
    simp only [hn, Option.getD_some] at h
    split at h
    · cases h
    · cases high with
      | none =>
        cases h
        exact ⟨hx, n, hn, by omega, nofun⟩
      | some b =>
        dsimp only at h
        split at h
        · cases h
        · cases h
          refine ⟨hx, n, hn, by omega, ?_⟩
          rintro _ ⟨⟩
          omega
  · rintro ⟨hx, n, hn, hlow, hhigh⟩
    refine ⟨w, hx, ?_⟩
    simp only [hn, Option.getD_some]
    rw [if_neg (by omega)]
    cases high with
    | none => rfl
    | some b =>
      have hb := hhigh b rfl
      dsimp only
      rw [if_neg (by omega)]

end Value

namespace Settings

variable {c : Conversion} {env : Environment} {init os : Arguments} {s s' : Settings}

theorem valid_of_checkWith (hc : c.Lawful) (h : checkWith c env init = .ok s) : s.Valid := by
  obtain ⟨-, htimeout, -, -, -, -, -, hport, -, -⟩ := checkWith_eq_ok.mp h
  constructor
  · rcases setting_eq_ok hport with hport | ⟨v, hv⟩
    · exact ⟨5432, by rw [hport]; rfl, by decide, by decide⟩
    · obtain ⟨-, n, hn, hlow, hhigh⟩ := (Value.checkBetween_eq_ok hc).mp hv
      exact ⟨n, hn, hlow, hhigh _ rfl⟩
  · rcases setting_eq_ok htimeout with htimeout | ⟨v, hv⟩
    · exact .inl htimeout
    · unfold Value.checkNullable at hv
      split at hv
      · exact .inl (Except.ok.inj hv).symm
      · obtain ⟨-, n, hn, hlow, -⟩ := (Value.checkBetween_eq_ok hc).mp hv
        exact .inr ⟨n, hn, hlow⟩

theorem readWith_eq_ok : readWith c env init = .ok s ↔ checkWith c env init = .ok s := by
  unfold readWith
  cases checkWith c env init <;> simp

theorem readWith_eq_error {e : Error} (h : readWith c env init = .error e) :
    ∃ faults, e = .invalidSettings faults := by
  unfold readWith at h
  cases hcheck : checkWith c env init with
  | ok s =>
    rw [hcheck] at h
    cases h
  | error faults =>
    rw [hcheck] at h
    exact ⟨faults, (Except.error.inj h).symm⟩

/-! ## Checking settings again -/

/-- Old settings with new values are what is given, whatever the environment holds. -/
theorem given?_update (hnames : ∀ name ∈ os.names, name ∈ names) (hdistinct : os.names.Nodup)
    {name : String} {v : Value} (hv : s.arguments.get? name = some v) :
    given? env (s.arguments.update os) name = some (os.getD name v) := by
  have hsame : (s.arguments.update os).names = names := by
    rw [Arguments.names_update _ hnames, names_arguments]
  have hgiven : ∀ name' ∈ (s.arguments.update os).names, name' ∈ names := fun _ h => hsame ▸ h
  have hdistinct' : (s.arguments.update os).names.Nodup := by
    rw [hsame]
    decide
  rw [given?, fromProgram?_eq hgiven hdistinct', Arguments.get?_update _ hdistinct, hv,
    Arguments.getD]
  cases os.get? name <;> rfl

/-- Old settings with new values are checked value by value. -/
theorem readWith_update_eq_ok (hnames : ∀ name ∈ os.names, name ∈ names)
    (hdistinct : os.names.Nodup) : readWith c env (s.arguments.update os) = .ok s' ↔
      Engine.check (os.getD "backend" (.text s.backend.name)) = .ok s'.backend ∧
      (os.getD "connect_timeout" s.connectTimeout).checkNullable
        (Value.checkBetween c.integer 0 none) = .ok s'.connectTimeout ∧
      (os.getD "database" (.ofOption .text s.database)).checkOptional c.text = .ok s'.database ∧
      c.text (os.getD "host" (.text s.host)) = .ok s'.host ∧
      c.text (os.getD "log_level" (.text s.logLevel)) = .ok s'.logLevel ∧
      (os.getD "password" (.ofOption .text s.password)).checkOptional (Value.checkSecret c.text) =
        .ok s'.password ∧
      c.text (os.getD "path" (.text s.path)) = .ok s'.path ∧
      (os.getD "port" s.port).checkBetween c.integer 1 (some 65535) = .ok s'.port ∧
      c.truth (os.getD "tls" (.bool s.tls)) = .ok s'.tls ∧
      (os.getD "user" (.ofOption .text s.user)).checkOptional c.text = .ok s'.user := by
  have hgiven : ∀ {name : String} {v : Value}, s.arguments.get? name = some v →
      given? env (s.arguments.update os) name = some (os.getD name v) :=
    given?_update hnames hdistinct
  rw [readWith_eq_ok, checkWith_eq_ok, setting_eq_ok_iff (hgiven rfl),
    setting_eq_ok_iff (hgiven rfl), setting_eq_ok_iff (hgiven rfl), setting_eq_ok_iff (hgiven rfl),
    setting_eq_ok_iff (hgiven rfl), setting_eq_ok_iff (hgiven rfl), setting_eq_ok_iff (hgiven rfl),
    setting_eq_ok_iff (hgiven rfl), setting_eq_ok_iff (hgiven rfl), setting_eq_ok_iff (hgiven rfl)]

end Settings

end RelMap
