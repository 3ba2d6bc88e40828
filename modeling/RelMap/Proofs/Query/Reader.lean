import RelMap.Proofs.Query.Regular
import RelMap.Proofs.Query.Weaving

/-!
# Reading statements

A reader takes something off the front of a statement: words and phrases off its text, and the value
of a mark off its parameters.  `Statement.read` puts readers together to one that reads the query
off a whole statement; it goes by the phrases of the library and not by what names there are.

What is written for some pieces is read back if `Reads` holds of a reader, the pieces and what they
stand for, whatever text goes on behind as the reader expects.
-/

namespace RelMap

/-- What has not been read of a statement. -/
structure Unread where
  text : List Char
  params : List Value

abbrev Reader := StateT Unread Option

namespace Reader

variable {α β : Type}

/-! ## Readers -/

/-- Words end at spaces and punctuation. -/
def isWordChar (c : Char) : Bool := !" ,()".toList.contains c

def word : Reader String := fun u =>
  some (.ofList (u.text.takeWhile isWordChar), { u with text := u.text.dropWhile isWordChar })

/-- Goes on behind a phrase, or, if the text does not begin with it, with another reader. -/
def after (s : String) (r other : Reader α) : Reader α := fun u =>
  if s.toList <+: u.text then r { u with text := u.text.drop s.toList.length } else other u

def phrase (s : String) : Reader Unit := after s (pure ()) failure

/-- One or more of the same kind, with phrases between. -/
def upTo (sep : String) (r : Reader α) : (bound : Nat) → Reader (List α)
  | 0 => failure
  | n + 1 => do
    let a ← r
    let rest ← after sep (upTo sep r n) (pure [])
    pure (a :: rest)

/-- As many as the text can have. -/
def listOf (sep : String) (r : Reader α) : Reader (List α) := fun u =>
  upTo sep r (u.text.length + 1) u

def name : Reader Value := do
  let s ← word
  pure (.text s)

def parameter : Reader Value := fun u =>
  match u.params with
  | [] => none
  | v :: params => some (v, { u with params })

/-- Passes over a mark, which stands for the next parameter. -/
def mark : Reader Value := do
  let _ ← word
  parameter

/-- A number of rows; a negative number stands for none. -/
def count : Reader Value := do
  let s ← word
  if s.toList.all Char.isDigit then pure (.int (Nat.ofDigitChars 10 s.toList 0))
  else if s = "-1" then pure .null
  else failure

/-- Does the text begin apart from a word? -/
def endsWord : List Char → Bool
  | [] => true
  | c :: _ => !isWordChar c

def operator : Reader String := fun u =>
  (operators.find? fun op =>
      op.toList.isPrefixOf u.text && endsWord (u.text.drop op.toList.length)).map fun op =>
    (op, { u with text := u.text.drop op.toList.length })

/-! ### Clauses -/

def condition : Reader Condition := do
  let column ← name
  phrase " "
  let op ← operator
  if op ∈ unaryOperators then pure { column, operator := .text op }
  else if op ∈ sequenceOperators then do
    phrase " ("
    let vs ← listOf ", " mark
    phrase ")"
    pure { column, operator := .text op, values := some vs }
  else do
    phrase " "
    let v ← mark
    pure { column, operator := .text op, value := v }

def ordering : Reader Ordering := do
  let column ← name
  after " DESC" (pure ⟨column, .bool true⟩) do
    phrase " ASC"
    pure ⟨column, .bool false⟩

def assignment : Reader Cell := do
  let column ← name
  phrase " = "
  let v ← mark
  pure (column, v)

/-- The clauses behind the head of a statement. -/
def clauses (q : Query) : Reader Query := do
  let conditions ← after " WHERE " (listOf " AND " condition) (pure [])
  let ordering ← after " ORDER BY " (listOf ", " ordering) (pure [])
  let limit ← after " LIMIT " count (pure .null)
  let offset ← after " OFFSET " count (pure .null)
  let returning ← after " RETURNING " (listOf ", " name) (pure [])
  pure { q with conditions, ordering, limit, offset, returning }

/-! ### Statements -/

def selection (distinct : Bool) : Reader Query := do
  let columns ← listOf ", " name
  phrase " FROM "
  let table ← name
  clauses { kind := Kind.select.toValue, table, columns, distinct := .bool distinct }

def insertion : Reader Query := do
  let table ← name
  after " DEFAULT VALUES"
    (clauses { kind := Kind.insert.toValue, table, defaultValues := .bool true }) do
      phrase " ("
      let columns ← listOf ", " name
      phrase ") VALUES ("
      let row ← listOf ", " mark
      phrase ")"
      clauses { kind := Kind.insert.toValue, table, values := columns.zip row }

def update : Reader Query := do
  let table ← name
  phrase " SET "
  let assignments ← listOf ", " assignment
  clauses { kind := Kind.update.toValue, table, assignments }

def deletion : Reader Query := do
  let table ← name
  clauses { kind := Kind.delete.toValue, table }

def query : Reader Query :=
  after "SELECT DISTINCT " (selection true) <| after "SELECT " (selection false) <|
    after "INSERT INTO " insertion <| after "UPDATE " update <| after "DELETE FROM " deletion failure

end Reader

/-- A value that is given by a plain text, and written as one word. -/
def Value.IsWord (v : Value) : Prop :=
  ∃ s, v = .text s ∧ ∀ c ∈ s.toList, Reader.isWordChar c = true

/-- The query that a statement was written for, if it was written for any. -/
def Statement.read (st : Statement) : Option Query :=
  match Reader.query ⟨st.sql.toList, st.params⟩ with
  | some (q, ⟨[], []⟩) => some q
  | _ => none

namespace Reader

variable {α β : Type} {style : ParamStyle}

/-! ## What is read back -/

/-- Where the text goes on as `F` says, the reader takes off it what is written for the pieces, and
yields what they stand for. -/
def Reads (style : ParamStyle) (r : Reader α) (ps : List Piece) (a : α) (F : List Char → Prop) :
    Prop :=
  ∀ first s text params, Piece.write style first ps = .ok s → F text →
    r ⟨s.toList ++ text, Piece.holes ps ++ params⟩ = some (a, ⟨text, params⟩)

/-- What is written for the pieces, and then as `G` says, is as `F` says. -/
def Leads (style : ParamStyle) (ps : List Piece) (F G : List Char → Prop) : Prop :=
  ∀ first s text, Piece.write style first ps = .ok s → G text → F (s.toList ++ text)

theorem leads_nil {F G : List Char → Prop} (h : ∀ text, G text → F text) :
    Leads style [] F G := by
  intro first s text hs htext
  cases hs
  exact h text htext

theorem leads_fixed {F G : List Char → Prop} {x : String} (h : ∀ text, F (x.toList ++ text))
    (ps : List Piece) : Leads style (.fixed x :: ps) F G := by
  intro first s text hs htext
  obtain ⟨t, ht, rfl⟩ := Piece.write_worded_eq_ok rfl hs
  rw [String.toList_append, List.append_assoc]
  exact h _

theorem Leads.mono {ps : List Piece} {F F' G : List Char → Prop} (hp : Leads style ps F G)
    (h : ∀ text, F text → F' text) : Leads style ps F' G :=
  fun first s text hs htext => h _ (hp first s text hs htext)

theorem Leads.append {ps qs : List Piece} {F G H : List Char → Prop} (hp : Leads style ps F G)
    (hq : Leads style qs G H) : Leads style (ps ++ qs) F H := by
  intro first s text hs htext
  obtain ⟨a, b, ha, hb, rfl⟩ := Piece.write_append_eq_ok hs
  rw [String.toList_append, List.append_assoc]
  exact hp first a _ ha (hq _ b text hb htext)

/-- Neither phrase begins the other. -/
abbrev Apart (s x : String) : Prop := ¬ s.toList <+: x.toList ∧ ¬ x.toList <+: s.toList

theorem Apart.not_prefix {s x : String} (h : Apart s x) (text : List Char) :
    ¬ s.toList <+: x.toList ++ text := by
  intro hbegins
  rcases List.prefix_or_prefix_of_prefix hbegins (List.prefix_append x.toList text) with hle | hle
  · exact h.1 hle
  · exact h.2 hle

namespace Reads

variable {r : Reader α} {ps qs : List Piece} {a : α} {b : β} {F G : List Char → Prop}

theorem pure (a : α) : Reads style (pure a) [] a F := by
  intro first s text params hs htext
  cases hs
  rfl

theorem bind {f : α → Reader β} (hr : Reads style r ps a F) (hf : Reads style (f a) qs b G)
    (hq : Leads style qs F G) : Reads style (r >>= f) (ps ++ qs) b G := by
  intro first s text params hs htext
  obtain ⟨x, y, hx, hy, rfl⟩ := Piece.write_append_eq_ok hs
  rw [String.toList_append, Piece.holes_append, List.append_assoc, List.append_assoc]
  have hread := hr first x (y.toList ++ text) (Piece.holes qs ++ params) hx
    (hq _ y text hy htext)
  change (r ⟨x.toList ++ (y.toList ++ text), _⟩ >>= fun p => f p.1 p.2) = _
  rw [hread]
  exact hf _ y text params hy htext

theorem mono (hr : Reads style r ps a F) (h : ∀ text, G text → F text) : Reads style r ps a G :=
  fun first s text params hs htext => hr first s text params hs (h text htext)

theorem map {f : α → β} (hr : Reads style r ps a F) :
    Reads style (r >>= fun x => Pure.pure (f x)) ps (f a) F := by
  have hread := hr.bind (f := fun x => Pure.pure (f x)) (.pure (f a)) (leads_nil fun _ h => h)
  rwa [List.append_nil] at hread

/-- A phrase is passed over. -/
theorem after {s : String} {other : Reader α} (hr : Reads style r ps a F) :
    Reads style (after s r other) (.fixed s :: ps) a F := by
  intro first t text params ht htext
  obtain ⟨x, hx, rfl⟩ := Piece.write_worded_eq_ok rfl ht
  rw [String.toList_append, List.append_assoc, Reader.after, if_pos (List.prefix_append _ _),
    List.drop_left]
  exact hr first x text params hx htext

/-- A phrase that the text does not begin with is passed by. -/
theorem otherwise {s : String} {other : Reader α} (hr : Reads style r ps a F)
    (hp : Leads style ps (fun text => ¬ s.toList <+: text) F) :
    Reads style (Reader.after s other r) ps a F := by
  intro first t text params ht htext
  rw [Reader.after, if_neg (hp first t text ht htext)]
  exact hr first t text params ht htext

theorem elsewhere {s x : String} {other : Reader α} (hr : Reads style r (.fixed x :: ps) a F)
    (h : Apart s x) : Reads style (Reader.after s other r) (.fixed x :: ps) a F :=
  hr.otherwise (leads_fixed h.not_prefix ps)

theorem phrase {s : String} {f : Unit → Reader β} (hf : Reads style (f ()) ps b F) :
    Reads style (Reader.phrase s >>= f) (.fixed s :: ps) b F := by
  have hpass : Reads style (Reader.phrase s) [.fixed s] () fun _ => True := after (.pure ())
  exact hpass.bind hf fun _ _ _ _ _ => trivial

end Reads

/-! ### Words -/

/-- The text begins apart from a word. -/
abbrev EndsWord (text : List Char) : Prop := endsWord text = true

theorem endsWord_append {w text : List Char} (hw : w ≠ []) : endsWord (w ++ text) = endsWord w := by
  cases w with
  | nil => exact (hw rfl).elim
  | cons c w => rfl

theorem word_append {w text : List Char} {params : List Value}
    (hw : ∀ c ∈ w, isWordChar c = true) (htext : EndsWord text) :
    word ⟨w ++ text, params⟩ = some (.ofList w, ⟨text, params⟩) := by
  have hends : text.takeWhile isWordChar = [] ∧ text.dropWhile isWordChar = text := by
    cases text with
    | nil => exact ⟨rfl, rfl⟩
    | cons c text =>
      have hc : isWordChar c = false := by simpa [EndsWord, endsWord] using htext
      simp [hc]
  simp only [word, List.takeWhile_append_of_pos hw, List.dropWhile_append_of_pos hw, hends.1,
    hends.2, List.append_nil]

theorem isWordChar_of_isNameChar {c : Char} (h : Identifier.isNameChar c = true) :
    isWordChar c = true := by
  have hall : " ,()".toList.all (fun c => !Identifier.isNameChar c) = true := by decide
  by_cases hmem : c ∈ " ,()".toList
  · simpa [h] using List.all_eq_true.mp hall c hmem
  · rw [isWordChar, Bool.not_eq_true', ← Bool.not_eq_true, List.contains_iff_mem]
    exact hmem

theorem isWordChar_of_isDigit {c : Char} (h : c.isDigit = true) : isWordChar c = true := by
  apply isWordChar_of_isNameChar
  simp [Identifier.isNameChar, Identifier.isTail, Char.isAlphanum, h]

theorem isWordChar_of_mem_markAt (k : Nat) :
    ∀ c ∈ (style.markAt k).toList, isWordChar c = true := by
  intro c hc
  rcases style.mem_markAt k c hc with hdigit | hsign
  · exact isWordChar_of_isDigit hdigit
  · simp only [List.mem_cons, List.not_mem_nil, or_false] at hsign
    rcases hsign with rfl | rfl | rfl | rfl <;> decide

namespace Reads

/-- A piece that is written as one word is read as that word. -/
theorem word {p : Piece} {x : String} (hp : p.wording? = some x)
    (hx : ∀ c ∈ x.toList, isWordChar c = true) : Reads style Reader.word [p] x EndsWord := by
  intro first s text params hs htext
  obtain ⟨t, ht, rfl⟩ := Piece.write_worded_eq_ok hp hs
  cases ht
  have hholes : Piece.holes [p] = [] := Piece.holes_worded hp []
  rw [String.append_empty, hholes, List.nil_append, word_append hx htext, String.ofList_toList]

theorem name {p : Piece} {v : Value} (hv : v.IsWord) (hp : p = .name v ∨ p = .listed v) :
    Reads style Reader.name [p] v EndsWord := by
  obtain ⟨s, rfl, hs⟩ := hv
  have hword : p.wording? = some s := by
    rcases hp with rfl | rfl <;> rfl
  exact (word hword hs).map

theorem mark (v : Value) : Reads style Reader.mark [.hole v] v EndsWord := by
  intro first s text params hs htext
  obtain ⟨t, ht, rfl⟩ := Piece.write_hole_eq_ok hs
  cases ht
  have hread : Reader.word ⟨(style.markAt first).toList ++ text, v :: params⟩ =
      some (.ofList (style.markAt first).toList, ⟨text, v :: params⟩) :=
    word_append (isWordChar_of_mem_markAt first) htext
  rw [String.append_empty]
  change (Reader.word ⟨_, v :: params⟩ >>= fun p => parameter p.2) = _
  rw [hread]
  rfl

theorem count {v : Value} (hv : v.IsCount) : Reads style Reader.count [.number v] v EndsWord := by
  obtain ⟨n, rfl⟩ := hv
  have hword : (Piece.number (.int n)).wording? = some (toString n) := rfl
  have hdigits : (toString n).toList.all Char.isDigit = true :=
    List.all_eq_true.mpr (isDigit_toString n)
  have hvalue : Nat.ofDigitChars 10 (toString n).toList 0 = n := by
    rw [show (toString n).toList = Nat.toDigits 10 n from Nat.toList_repr,
      Nat.ofDigitChars_ten_toDigits]
  refine (word hword fun c hc => isWordChar_of_isDigit (isDigit_toString n c hc)).bind ?_
    (leads_nil fun _ h => h)
  rw [if_pos hdigits, hvalue]
  exact .pure _

/-- No operator goes on another within a word. -/
theorem operators_apart : ∀ op ∈ operators, ∀ op' ∈ operators, op.toList <+: op'.toList →
    op = op' ∨ endsWord (op'.toList.drop op.toList.length) = false := by
  decide +kernel

/-- The operator that a text begins with as a word is the only one. -/
theorem operator_unique {op op' : String} (hop : op ∈ operators) (hop' : op' ∈ operators)
    {text rest : List Char} (htext : EndsWord text) (hrest : EndsWord rest)
    (h : op.toList ++ text = op'.toList ++ rest) : op = op' := by
  have happart {p p' : String} (hp : p ∈ operators) (hp' : p' ∈ operators) {z y : List Char}
      (hz : p.toList ++ z = p'.toList) (hy : EndsWord (z ++ y)) : p = p' := by
    rcases operators_apart p hp p' hp' ⟨z, hz⟩ with heq | hgoes
    · exact heq
    · rw [← hz, List.drop_left] at hgoes
      by_cases hnil : z = []
      · rw [hnil, List.append_nil] at hz
        exact String.toList_inj.mp hz
      · rw [EndsWord, endsWord_append hnil, hgoes] at hy
        cases hy
  -- one of the two begins the other, which then goes on within the word
  rcases List.append_eq_append_iff.mp h with ⟨z, hz, hy⟩ | ⟨z, hz, hy⟩
  · exact happart hop hop' hz.symm (hy ▸ htext)
  · exact (happart hop' hop hz.symm (hy ▸ hrest)).symm

theorem operator {op : String} (hop : op ∈ operators) :
    Reads style Reader.operator [.operator (.text op)] op EndsWord := by
  intro first s text params hs htext
  obtain ⟨t, ht, rfl⟩ := Piece.write_worded_eq_ok (x := op) rfl hs
  cases ht
  have hfind : (operators.find? fun op' => op'.toList.isPrefixOf (op.toList ++ text) &&
      endsWord ((op.toList ++ text).drop op'.toList.length)) = some op := by
    cases hfound : operators.find? fun op' => op'.toList.isPrefixOf (op.toList ++ text) &&
        endsWord ((op.toList ++ text).drop op'.toList.length) with
    | none =>
      have hnone := List.find?_eq_none.mp hfound op hop
      simp [htext] at hnone
    | some op' =>
      have hop' := List.mem_of_find?_eq_some hfound
      have hfits := List.find?_some hfound
      rw [Bool.and_eq_true, List.isPrefixOf_iff_prefix] at hfits
      obtain ⟨⟨rest, hrest⟩, hends⟩ := hfits
      rw [← hrest, List.drop_left] at hends
      rw [operator_unique hop hop' htext hends hrest.symm]
  rw [String.append_empty]
  simp only [Reader.operator, hfind, Option.map_some, List.drop_left]
  rfl

/-! ### Lists -/

section

variable {ι : Type} {sep : String} {r : Reader α} {f : ι → List Piece} {g : ι → α} {xs : List ι}
  {F : List Char → Prop}

theorem upTo (hxs : ∀ x ∈ xs, Reads style r (f x) (g x) F)
    (hsep : ∀ text, F (sep.toList ++ text)) (hne : xs ≠ []) {n : Nat} (hn : xs.length ≤ n) :
    Reads style (Reader.upTo sep r n) (Piece.separated sep (xs.map f)) (xs.map g)
      fun text => F text ∧ ¬ sep.toList <+: text := by
  induction xs generalizing n with
  | nil => exact (hne rfl).elim
  | cons x xs ih =>
    obtain ⟨m, rfl⟩ : ∃ m, n = m + 1 := ⟨n - 1, by simp at hn; omega⟩
    rw [List.forall_mem_cons] at hxs
    cases xs with
    | nil =>
      have hlast : Reads style (Reader.after sep (Reader.upTo sep r m) (Pure.pure [])) [] []
          fun text => F text ∧ ¬ sep.toList <+: text :=
        (Reads.pure []).otherwise (leads_nil fun _ h => h.2)
      have hread : Reads style (Reader.upTo sep r (m + 1)) (f x ++ []) [g x] _ :=
        hxs.1.bind hlast.map (leads_nil fun _ h => h.1)
      rwa [List.append_nil] at hread
    | cons y ys =>
      have hrest := ih hxs.2 (List.cons_ne_nil y ys) (n := m) (by simpa using hn)
      exact hxs.1.bind hrest.after.map (leads_fixed hsep _)

/-- There are no more groups than the separators between them allow. -/
theorem length_le_of_separated (hsep : sep.toList ≠ []) {groups : List (List Piece)} {first : Nat}
    {s : String} (h : Piece.write style first (Piece.separated sep groups) = .ok s) :
    groups.length ≤ s.toList.length + 1 := by
  induction groups generalizing first s with
  | nil => exact Nat.zero_le _
  | cons group groups ih =>
    cases groups with
    | nil => simp
    | cons other groups =>
      obtain ⟨a, b, -, hb, rfl⟩ := Piece.write_append_eq_ok h
      obtain ⟨t, ht, rfl⟩ := Piece.write_worded_eq_ok rfl hb
      have hrest := ih ht
      have hpos := List.length_pos_iff.mpr hsep
      simp only [String.toList_append, List.length_append, List.length_cons] at hrest ⊢
      omega

theorem listOf (hxs : ∀ x ∈ xs, Reads style r (f x) (g x) F)
    (hsep : ∀ text, F (sep.toList ++ text)) (hsome : sep.toList ≠ []) (hne : xs ≠ []) :
    Reads style (Reader.listOf sep r) (Piece.separated sep (xs.map f)) (xs.map g)
      fun text => F text ∧ ¬ sep.toList <+: text := by
  intro first s text params hs htext
  have hlength := length_le_of_separated hsome hs
  have hbound : xs.length ≤ (s.toList ++ text).length + 1 := by
    simp only [List.length_map, List.length_append] at hlength ⊢
    omega
  exact upTo hxs hsep hne hbound first s text params hs htext

end

end Reads

end Reader

end RelMap
