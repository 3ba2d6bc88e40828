import RelMap.Proofs.Calendar.Written
import RelMap.Proofs.Model.Composition
import RelMap.Proofs.Number.Written
import RelMap.Proofs.Persistence.Writing

/-!
# Loading what was stored

The values of an instance are bound by their own form: labels are dropped, moments and decimal
numbers become text, and a dialect may bind truth values as numbers.  They are loaded by the type of
their column.  Where each value is of the kind of its column (`Value.Suits`), the two fit together:
a row that holds what was bound, or the values themselves, makes an instance that equals the first.
-/

namespace RelMap

namespace Value

/-- Is a value of the kind of a column type, or absent?  Texts and integers may carry labels, and
truth values pass for integers.  A number must be equal to itself, and a decimal number or a moment
must be one whose text reads back. -/
inductive Suits : SqlType → Value → Prop
  | null (t : SqlType) : Suits t .null
  | integer {v : Value} {n : Int} : v.intOf? = some n → Suits .integer v
  | real {x : Real} : x ≠ .nan → Suits .real (.real x)
  | numeric {d : Decimal} : d.isLegible = true → Suits .numeric (.decimal d)
  | text {v : Value} {s : String} : v.textOf? = some s → Suits .text v
  | varchar {v : Value} {s : String} : v.textOf? = some s → Suits .varchar v
  | boolean (b : Bool) : Suits .boolean (.bool b)
  | timestamp (d : Date) (t : Clock) {zone : Option Offset} : zone.map Offset.asRead = zone →
      Suits .timestamp (.moment (.instant d t zone))
  | date (d : Date) : Suits .date (.moment (.day d))
  | blob (content : List UInt8) : Suits .blob (.bytes .bytes content)

/-- Are two values equal?  They are the same value, or the same where they are keys. -/
def Equals (v w : Value) : Prop := v = w ∨ v.sameKey w = true

theorem Equals.refl (v : Value) : v.Equals v := .inl rfl

/-- A value that passes for a text is bound as the text. -/
theorem toParameter_of_textOf? {v : Value} {s : String} (h : v.textOf? = some s) :
    v.toParameter = .ok (.text s) := by
  cases v <;> simp_all [textOf?, toParameter]

theorem equals_text {v : Value} {s : String} (h : v.textOf? = some s) : v.Equals (.text s) := by
  refine .inr ?_
  rw [sameKey, key?_of_textOf? h]
  exact beq_self_eq_true _

/-- A value that passes for an integer is bound as a value that passes for the same, and is equal
to all of them. -/
theorem toParameter_of_intOf? {v : Value} {n : Int} (h : v.intOf? = some n) :
    ∃ p, v.toParameter = .ok p ∧ p.intOf? = some n := by
  cases v <;> simp_all [intOf?, toParameter]

theorem key?_of_intOf? {v : Value} {n : Int} (h : v.intOf? = some n) :
    v.key? = some [.number (.ofInt n)] := by
  cases v <;> simp_all [intOf?, textOf?, key?, mark?]

theorem equals_of_intOf? {v w : Value} {n : Int} (hv : v.intOf? = some n) (hw : w.intOf? = some n) :
    v.Equals w := by
  refine .inr ?_
  rw [sameKey, key?_of_intOf? hv, key?_of_intOf? hw]
  exact beq_self_eq_true _

end Value

theorem Dialect.intOf?_adapt (d : Dialect) {p : Value} {n : Int} (h : p.intOf? = some n) :
    (d.adapt p).intOf? = some n := by
  unfold adapt
  split
  · split
    · exact h
    · exact h
  · exact h

/-! ## One column -/

namespace Column

variable {c : Column} {v : Value}

/-- The types whose values are loaded in a form of their own. -/
def converted : List SqlType := [.boolean, .timestamp, .date, .numeric]

theorem load_plain (h : c.type ∉ converted) (v : Value) : c.load v = .ok v := by
  unfold load
  generalize c.type = t at h
  cases t with
  | boolean | timestamp | date | numeric => exact absurd (by decide) h
  | _ => rfl

theorem load_boolean (h : c.type = .boolean) {n : Int} (hv : v.intOf? = some n) :
    c.load v = .ok (.bool (n ≠ 0)) := by
  unfold load
  rw [h]
  dsimp only
  rw [hv]
  rfl

theorem load_timestamp (h : c.type = .timestamp) {s : String} (hv : v.textOf? = some s)
    {m : Moment} (hm : Moment.instantOfText? s = some m) : c.load v = .ok (.moment m) := by
  unfold load
  rw [h]
  dsimp only
  rw [hv]
  dsimp only
  rw [hm]
  rfl

theorem load_date (h : c.type = .date) {s : String} (hv : v.textOf? = some s) {day : Date}
    (hday : Date.ofText? s = some day) : c.load v = .ok (.moment (.day day)) := by
  unfold load
  rw [h]
  dsimp only
  rw [hv]
  dsimp only
  rw [hday]
  rfl

theorem load_numeric (h : c.type = .numeric) {s : String} {d : Decimal}
    (hd : Decimal.ofText? s = some d) : c.load (.text s) = .ok (.decimal d) := by
  unfold load
  rw [h]
  change ((Decimal.ofText? s).map _).getD _ = _
  rw [hd]
  rfl

/-- A value of the kind of its column is loaded as it stands. -/
theorem load_of_suits (h : v.Suits c.type) : c.load v = .ok v := by
  generalize htype : c.type = t at h
  cases h with
  | null => exact c.load_null
  | boolean b =>
    rw [load_boolean htype (n := if b then 1 else 0) rfl]
    cases b <;> rfl
  | numeric | timestamp | date =>
    unfold load
    rw [htype]
    rfl
  | _ => exact load_plain (by rw [htype]; decide) _

/-- What is bound of a value of the kind of its column is loaded as an equal value. -/
theorem load_adapt_of_suits (d : Dialect) (h : v.Suits c.type) :
    ∃ p, v.toParameter = .ok p ∧ ∃ w, c.load (d.adapt p) = .ok w ∧ v.Equals w := by
  generalize htype : c.type = t at h
  cases h with
  | null => exact ⟨.null, rfl, .null, c.load_null, .refl _⟩
  | integer hn =>
    obtain ⟨p, hp, hpn⟩ := Value.toParameter_of_intOf? hn
    exact ⟨p, hp, d.adapt p, load_plain (by rw [htype]; decide) _,
      Value.equals_of_intOf? hn (d.intOf?_adapt hpn)⟩
  | numeric hlegible =>
    exact ⟨_, rfl, _, load_numeric htype (Decimal.ofText?_text hlegible), .refl _⟩
  | text hs | varchar hs =>
    exact ⟨_, Value.toParameter_of_textOf? hs, _, load_plain (by rw [htype]; decide) _,
      Value.equals_text hs⟩
  | boolean b =>
    have hb : (d.adapt (.bool b)).intOf? = some (if b then 1 else 0) := d.intOf?_adapt rfl
    refine ⟨.bool b, rfl, _, load_boolean htype hb, ?_⟩
    cases b <;> exact .refl _
  | @timestamp day time zone hzone =>
    have hread := Moment.instantOfText?_iso day time zone
    rw [hzone] at hread
    exact ⟨_, rfl, _, load_timestamp htype rfl hread, .refl _⟩
  | date day => exact ⟨_, rfl, _, load_date htype rfl day.ofText?_iso, .refl _⟩
  | real | blob => exact ⟨_, rfl, _, load_plain (by rw [htype]; decide) _, .refl _⟩

end Column

/-! ## Rows -/

/-- The row has the values under the names of their columns; where they stand in it and what else it
has does not count. -/
def Row.Holds (r : Row) (values : List (Name × Value)) : Prop :=
  ∀ e ∈ values, r.get? e.1.text = some e.2

namespace Entity

/-- Does no column stand for the field? -/
def Omits (e : Entity) (f : Field) : Prop := ∀ c ∈ e.columns, c.fieldName ≠ .ok f.name

/-- The fields that are loaded from a row that has a value for each column. -/
theorem load_eq_ok {e : Entity} {r : Row} {field : Column → String} {held loaded : Column → Value}
    (hfield : ∀ c ∈ e.columns, c.fieldName = .ok (field c))
    (hheld : ∀ c ∈ e.columns, r.get? c.name.text = some (held c))
    (hloaded : ∀ c ∈ e.columns, c.load (held c) = .ok (loaded c)) :
    e.load r = .ok (e.columns.map fun c => (field c, loaded c)) := by
  unfold load
  refine Result.bind_eq_ok.mpr ⟨e.columns.map fun c => some (field c, loaded c), ?_, ?_⟩
  · refine Result.mapM_eq_ok_map fun c hc => ?_
    rw [hheld c hc]
    dsimp only
    rw [hfield c hc, hloaded c hc]
    rfl
  · rw [List.filterMap_map]
    exact congrArg Except.ok (congrFun List.filterMap_eq_map' e.columns)

end Entity

/-! ## Instances -/

namespace Catalog

variable {catalog : Catalog} {i : Instance} {e : Entity} {fields : List Field}

/-- A model that loads its instances from rows: its constructor takes some fields, and each column
stands for one of them. -/
structure Stores (catalog : Catalog) (m : ModelId) (e : Entity) (fields : List Field) : Prop where
  offered : catalog.offers m .load = .ok ()
  entity : catalog.entity m = .ok e
  constructor : (catalog.lineage m).findSome? ModelClass.constructor = some fields
  mapped : ∀ c ∈ e.columns, ∃ f ∈ fields, c.fieldName = .ok f.name

/-- An instance whose values suit their columns, and that has the defaults of all other fields. -/
structure Suits (catalog : Catalog) (i : Instance) (e : Entity) (fields : List Field) : Prop where
  offered : catalog.offersOn i .columnValues = .ok ()
  mapped : ∀ c ∈ e.columns, ∃ v, catalog.valueIn i c = .ok v ∧ v.Suits c.type
  unmapped : ∀ f ∈ fields, e.Omits f →
    ∃ v, f.default.make? = some v ∧ catalog.attributeOf i f.name = .ok v

/-- Two instances of one model that have equal values in its fields. -/
structure Equals (catalog : Catalog) (fields : List Field) (i j : Instance) : Prop where
  model : i.model = j.model
  values : ∀ f ∈ fields, ∃ v w, catalog.attributeOf i f.name = .ok v ∧
    catalog.attributeOf j f.name = .ok w ∧ v.Equals w

/-- What a constructor gives a field: the argument of that name, or the default. -/
def supplied? (arguments : Arguments) (f : Field) : Option Value :=
  (getPair? f.name arguments).or f.default.make?

/-- The instance that a constructor makes of arguments and defaults. -/
def supply (m : ModelId) (fields : List Field) (arguments : Arguments) : Instance :=
  ⟨m, fields.filterMap fun f => (supplied? arguments f).map fun v => (f.name, v)⟩

/-- A constructor that has a value for each field makes an instance. -/
theorem instantiate_eq_ok {m : ModelId} {arguments : Arguments}
    (hfields : (catalog.lineage m).findSome? ModelClass.constructor = some fields)
    (hknown : ∀ a ∈ arguments, ∃ f ∈ fields, f.name = a.1)
    (hgiven : ∀ f ∈ fields, ∃ v, supplied? arguments f = some v) :
    catalog.instantiate m arguments = .ok (supply m fields arguments) := by
  have haccepts : ModelClass.accepts fields arguments = true := by
    rw [ModelClass.accepts, Bool.and_eq_true, List.all_eq_true, List.all_eq_true]
    constructor
    · intro a ha
      obtain ⟨f, hf, hname⟩ := hknown a ha
      exact List.any_eq_true.mpr ⟨f, hf, beq_iff_eq.mpr hname⟩
    · intro f hf
      obtain ⟨v, hv⟩ := hgiven f hf
      unfold supplied? at hv
      cases hdefault : f.default with
      | none =>
        rw [hdefault, FieldDefault.make?, Option.or_none] at hv
        rw [hv]
        rfl
      | value | factory => rfl
  unfold instantiate
  rw [hfields]
  dsimp only
  rw [ModelClass.instantiate, if_pos haccepts]
  rfl

/-- The attribute of an instance that was made. -/
theorem attributeOf_supply {m : ModelId} {arguments : Arguments} {f : Field} {w : Value}
    (hf : f ∈ fields) (hall : ∀ g ∈ fields, g.name = f.name → supplied? arguments g = some w) :
    catalog.attributeOf (supply m fields arguments) f.name = .ok w := by
  have hfound : getPair? f.name (supply m fields arguments).attributes = some w := by
    refine getPair?_of_all ⟨(f.name, w), ?_, rfl⟩ ?_
    · refine List.mem_filterMap.mpr ⟨f, hf, ?_⟩
      rw [hall f hf rfl]
      rfl
    · intro p hp hname
      obtain ⟨g, hg, hp⟩ := List.mem_filterMap.mp hp
      obtain ⟨v, hv, rfl⟩ := Option.map_eq_some_iff.mp hp
      rw [hall g hg hname] at hv
      exact (Option.some.inj hv).symm
  unfold attributeOf
  rw [hfound]
  rfl

section RoundTrip

variable (hcatalog : catalog.Declared) (hmodel : catalog.Stores i.model e fields)
  (hi : catalog.Suits i e fields) {field : Column → String} {value held loaded : Column → Value}
  (hfield : ∀ c ∈ e.columns, c.fieldName = .ok (field c))
  (hvalue : ∀ c ∈ e.columns, catalog.attributeOf i (field c) = .ok (value c))
  (hloaded : ∀ c ∈ e.columns, (value c).Equals (loaded c))

include hcatalog hmodel hi hfield hvalue hloaded

/-- Each field gets back what the instance has in it: from its column, or else from its default. -/
theorem supplied_of_loaded {f : Field} (hf : f ∈ fields) :
    ∃ v w, catalog.attributeOf i f.name = .ok v ∧ v.Equals w ∧ ∀ g ∈ fields, g.name = f.name →
      supplied? (e.columns.map fun c => (field c, loaded c)) g = some w := by
  by_cases homits : e.Omits f
  · obtain ⟨v, -, hv⟩ := hi.unmapped f hf homits
    refine ⟨v, v, hv, .refl v, fun g hg hname => ?_⟩
    have hnone : getPair? g.name (e.columns.map fun c => (field c, loaded c)) = none := by
      refine getPair?_eq_none fun p hp heq => ?_
      obtain ⟨c, hc, rfl⟩ := List.mem_map.mp hp
      exact homits c hc ((hfield c hc).trans (congrArg Except.ok (heq.trans hname)))
    obtain ⟨v', hdefault, hv'⟩ := hi.unmapped g hg fun c hc => hname ▸ homits c hc
    rw [hname, hv] at hv'
    cases hv'
    rw [supplied?, hnone, hdefault]
    rfl
  · obtain ⟨c, hc, hcf⟩ : ∃ c ∈ e.columns, c.fieldName = .ok f.name := by
      simpa [Entity.Omits] using homits
    have hname : field c = f.name := Except.ok.inj ((hfield c hc).symm.trans hcf)
    refine ⟨value c, loaded c, hname ▸ hvalue c hc, hloaded c hc, fun g _ hgf => ?_⟩
    -- No other column stands for the field.
    have hfound : getPair? g.name (e.columns.map fun c => (field c, loaded c)) =
        some (loaded c) := by
      refine getPair?_of_all ⟨(field c, loaded c), List.mem_map_of_mem hc, hname.trans hgf.symm⟩ ?_
      intro p hp heq
      obtain ⟨b, hb, rfl⟩ := List.mem_map.mp hp
      have hbf := (hfield b hb).trans (congrArg Except.ok (heq.trans hgf))
      rw [(hcatalog.compatible hmodel.entity).eq_of_fieldName hb hc hbf hcf]
    rw [supplied?, hfound]
    rfl

/-- A row whose values are loaded as equals of an instance's values makes an equal instance. -/
theorem load_of_held {r : Row} (hheld : ∀ c ∈ e.columns, r.get? c.name.text = some (held c))
    (hload : ∀ c ∈ e.columns, c.load (held c) = .ok (loaded c)) :
    ∃ j, catalog.load i.model r = .ok j ∧ catalog.Equals fields i j := by
  have hsupplied : ∀ f ∈ fields, _ := fun f hf =>
    supplied_of_loaded hcatalog hmodel hi hfield hvalue hloaded hf
  have hknown : ∀ a ∈ e.columns.map fun c => (field c, loaded c), ∃ f ∈ fields, f.name = a.1 := by
    intro a ha
    obtain ⟨c, hc, rfl⟩ := List.mem_map.mp ha
    obtain ⟨f, hf, hcf⟩ := hmodel.mapped c hc
    exact ⟨f, hf, Except.ok.inj (hcf.symm.trans (hfield c hc))⟩
  have hgiven : ∀ f ∈ fields,
      ∃ v, supplied? (e.columns.map fun c => (field c, loaded c)) f = some v := by
    intro f hf
    obtain ⟨v, w, -, -, hall⟩ := hsupplied f hf
    exact ⟨w, hall f hf rfl⟩
  refine ⟨supply i.model fields (e.columns.map fun c => (field c, loaded c)), ?_, rfl, ?_⟩
  · unfold load
    rw [hmodel.offered, hmodel.entity]
    change (e.load r >>= catalog.instantiate i.model) = _
    rw [Entity.load_eq_ok hfield hheld hload]
    exact instantiate_eq_ok hmodel.constructor hknown hgiven
  · intro f hf
    obtain ⟨v, w, hv, hequal, hall⟩ := hsupplied f hf
    exact ⟨v, w, hv, attributeOf_supply hf hall, hequal⟩

end RoundTrip

def receiptModel : ModelId := ⟨"Receipt", 3⟩

/-- The fields of receipts: the day has a column of another name, and the note has none. -/
def receiptFields : List Field :=
  [⟨"id", .type .nullType, .value .null,
      .options { type := .sqlType .integer, isKey := .bool true }⟩,
    ⟨"day", .type .nullType, .value .null,
      .options { type := .sqlType .date, name := .text "issued_on" }⟩,
    ⟨"total", .type .nullType, .value .null, .options { type := .sqlType .numeric }⟩,
    ⟨"paid", .type .nullType, .value (.bool false), .options { type := .sqlType .boolean }⟩,
    ⟨"note", .type .nullType, .value (.text ""), .off⟩]

def receipts : Catalog :=
  let body := receiptFields.map fun f => ⟨f.name, f.type, .object f.default f.mapping⟩
  ((Catalog.empty.declare receiptModel none true body).mapModel .own receiptModel
    (.text "receipts")).1

def receiptColumns : List Column :=
  [⟨.plain "id", .integer, .bool false, .bool false, .bool true, .text "id", .null⟩,
    ⟨.plain "issued_on", .date, .bool false, .bool false, .bool false, .text "day", .null⟩,
    ⟨.plain "total", .numeric, .bool false, .bool false, .bool false, .text "total", .null⟩,
    ⟨.plain "paid", .boolean, .bool false, .bool false, .bool false, .text "paid", .null⟩]

def leapDay : Date := ⟨2024, 2, 29, by decide⟩

def receipt : Instance :=
  ⟨receiptModel, [("id", .int 7), ("day", .moment (.day leapDay)),
    ("total", .decimal (.finite false 1250 (-2))), ("paid", .bool true), ("note", .text "")]⟩

theorem receipts_declared : receipts.Declared :=
  (Declared.empty.declare receiptModel none true _).mapModel .own receiptModel (.text "receipts")

theorem receipts_store :
    receipts.Stores receiptModel ⟨receiptModel, .plain "receipts", receiptColumns⟩
      receiptFields := by
  refine ⟨rfl, rfl, rfl, fun c hc => ?_⟩
  have hfields : receiptColumns.all (fun c => receiptFields.any fun f =>
      c.field.textOf? == some f.name) = true := by decide
  obtain ⟨f, hf, hname⟩ := List.any_eq_true.mp (List.all_eq_true.mp hfields c hc)
  refine ⟨f, hf, ?_⟩
  rw [Column.fieldName, eq_of_beq hname]

theorem receipt_suits :
    receipts.Suits receipt ⟨receiptModel, .plain "receipts", receiptColumns⟩ receiptFields := by
  refine ⟨rfl, fun c hc => ?_, fun f hf homits => ?_⟩
  · simp only [receiptColumns, List.mem_cons, List.not_mem_nil, or_false] at hc
    rcases hc with rfl | rfl | rfl | rfl
    · exact ⟨_, rfl, .integer rfl⟩
    · exact ⟨_, rfl, .date leapDay⟩
    · exact ⟨_, rfl, .numeric (by decide)⟩
    · exact ⟨_, rfl, .boolean true⟩
  · simp only [receiptFields, List.mem_cons, List.not_mem_nil, or_false] at hf
    rcases hf with rfl | rfl | rfl | rfl | rfl
    · exact (homits _ (.head _) rfl).elim
    · exact (homits _ (.tail _ (.head _)) rfl).elim
    · exact (homits _ (.tail _ (.tail _ (.head _))) rfl).elim
    · exact (homits _ (.tail _ (.tail _ (.tail _ (.head _)))) rfl).elim
    · exact ⟨_, rfl, rfl⟩

end Catalog

end RelMap
