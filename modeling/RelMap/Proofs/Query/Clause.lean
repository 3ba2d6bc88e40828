import RelMap.Condition
import RelMap.Proofs.Query.Mark

/-!
# Clauses

A clause is what a caller gave a statement for some columns: the row of an insertion, one assignment
of an update, or one test.  It says which values it was given and how it reads once the marks of
these values begin at a certain position.

A text is a `Weave` of clauses if it consists of the clauses, one after the other and numbered
through, with nothing in between that has the sign of a mark.  Whatever is asked about the marks of
a statement is answered for weaves: which marks there are (`Weave.marksIn_eq`) and where the marks
of each clause stand (`Weave.split`).
-/

namespace RelMap

/-- What a caller gave a statement for some columns. -/
inductive Clause where
  | row (cells : List (String × Value))
  | assignment (column : String) (given : Value)
  | test (column operator : String) (given : Value)
deriving Repr

namespace Clause

/-- The values that the clause was given, in the order of its marks. -/
def values : Clause → List Value
  | row cells => cells.map Prod.snd
  | assignment _ given => [given]
  | test _ op given =>
    if unaryOperators.contains op then []
    else if sequenceOperators.contains op then given.items?.getD []
    else [given]

def size (c : Clause) : Nat := c.values.length

/-- The clause as it stands in a statement, with the marks from a position on. -/
def text (style : ParamStyle) (first : Nat) : Clause → String
  | row cells =>
    ", ".intercalate (cells.map Prod.fst) ++ ") VALUES (" ++
      ", ".intercalate (style.marks first cells.length)
  | assignment column _ => column ++ " = " ++ style.markAt first
  | test column op given =>
    if unaryOperators.contains op then column ++ " " ++ op
    else if sequenceOperators.contains op then
      match given.items?.getD [] with
      | [] => if op = "IN" then "1=0" else "1=1"
      | vs => column ++ " " ++ op ++ " (" ++ ", ".intercalate (style.marks first vs.length) ++ ")"
    else column ++ " " ++ op ++ " " ++ style.markAt first

/-- The names and operators of the clause have no sign of a mark. -/
def IsPlain : Clause → Prop
  | row cells => ∀ c ∈ cells, SignFree c.1.toList
  | assignment column _ => SignFree column.toList
  | test column op _ => SignFree column.toList ∧ SignFree op.toList

/-- How many values some clauses were given. -/
def total (cs : List Clause) : Nat := (cs.flatMap values).length

theorem total_cons (c : Clause) (cs : List Clause) : total (c :: cs) = c.size + total cs := by
  unfold total size
  rw [List.flatMap_cons, List.length_append]

end Clause

/-! ## Lists of names and of marks -/

variable {style : ParamStyle}

theorem SignFree.intercalate {names : List String} (h : ∀ n ∈ names, SignFree n.toList) :
    SignFree (", ".intercalate names).toList := by
  induction names with
  | nil => exact (by decide : SignFree "".toList)
  | cons n names ih =>
    have hrest := ih fun m hm => h m (List.mem_cons_of_mem n hm)
    cases names with
    | nil =>
      rw [String.intercalate_singleton]
      exact h n List.mem_cons_self
    | cons m names =>
      rw [String.intercalate_cons_cons, String.toList_append, String.toList_append]
      exact ((h n List.mem_cons_self).append (by decide)).append hrest

/-- The marks in a list of marks are those marks. -/
theorem ParamStyle.marksIn_intercalate (first count : Nat) {rest : List Char}
    (hrest : NoDigit rest) :
    style.marksIn ((", ".intercalate (style.marks first count)).toList ++ rest) =
      style.marks first count ++ style.marksIn rest := by
  induction count generalizing first with
  | zero => rfl
  | succ n ih =>
    rw [marks_succ]
    cases n with
    | zero =>
      rw [marks_zero, String.intercalate_singleton]
      exact marksIn_markAt first hrest
    | succ n =>
      have hmore : style.marks (first + 1) (n + 1) = _ := marks_succ (first + 1) n
      have hcomma : NoDigit ", ".toList := by decide
      rw [hmore, String.intercalate_cons_cons, ← hmore, String.toList_append, String.toList_append,
        List.append_assoc, List.append_assoc,
        marksIn_markAt first (hcomma.append_of_ne_nil (by decide)), marksIn_append (by decide),
        ih (first + 1)]
      rfl

/-- The marks in a clause are as many as it was given values. -/
theorem Clause.marksIn_text {c : Clause} (hc : c.IsPlain) (first : Nat) {rest : List Char}
    (hrest : NoDigit rest) :
    style.marksIn ((c.text style first).toList ++ rest) =
      style.marks first c.size ++ style.marksIn rest := by
  cases c with
  | row cells =>
    have hsize : (Clause.row cells).size = cells.length := by simp [size, values]
    have hnames : SignFree (", ".intercalate (cells.map Prod.fst)).toList := by
      apply SignFree.intercalate
      intro n hn
      obtain ⟨cell, hcell, rfl⟩ := List.mem_map.mp hn
      exact hc cell hcell
    rw [text, String.toList_append, String.toList_append, List.append_assoc,
      ParamStyle.marksIn_append (hnames.append (by decide)), hsize]
    exact ParamStyle.marksIn_intercalate first cells.length hrest
  | assignment column given =>
    have hcolumn : SignFree column.toList := hc
    rw [text, String.toList_append, String.toList_append, List.append_assoc,
      ParamStyle.marksIn_append (hcolumn.append (by decide)), ParamStyle.marksIn_markAt first hrest]
    rfl
  | test column op given =>
    obtain ⟨hcolumn, hop⟩ := hc
    simp only [text, size, values]
    split
    · -- nothing is compared with
      rw [String.toList_append, String.toList_append,
        ParamStyle.marksIn_append ((hcolumn.append (by decide)).append hop)]
      rfl
    · split
      · split
        · next hempty =>
          rw [hempty]
          split <;> exact ParamStyle.marksIn_append (by decide)
        · have hclose : NoDigit ")".toList := by decide
          rw [String.toList_append, String.toList_append, String.toList_append,
            String.toList_append, String.toList_append, List.append_assoc, List.append_assoc,
            ParamStyle.marksIn_append
              (((hcolumn.append (by decide)).append hop).append (by decide)),
            ParamStyle.marksIn_intercalate _ _ (hclose.append_of_ne_nil (by decide)),
            ParamStyle.marksIn_append (by decide)]
      · rw [String.toList_append, String.toList_append, String.toList_append, String.toList_append,
          List.append_assoc,
          ParamStyle.marksIn_append (((hcolumn.append (by decide)).append hop).append (by decide)),
          ParamStyle.marksIn_markAt first hrest]
        rfl

/-! ## Weaves -/

/-- The text consists of the clauses in their order, their marks numbered through from a position
on, and of text without signs in between. -/
inductive Weave (style : ParamStyle) : Nat → List Clause → List Char → Prop
  | glue {first : Nat} {cs : List Char} (h : SignFree cs) : Weave style first [] cs
  | clause {first : Nat} {glue rest : List Char} {c : Clause} {clauses : List Clause}
      (hglue : SignFree glue) (hc : c.IsPlain) (hrest : NoDigit rest)
      (h : Weave style (first + c.size) clauses rest) :
      Weave style first (c :: clauses) (glue ++ ((c.text style first).toList ++ rest))

namespace Weave

variable {first : Nat} {c : Clause} {clauses clauses' : List Clause} {cs cs' : List Char}

theorem single (hc : c.IsPlain) : Weave style first [c] (c.text style first).toList := by
  have h : Weave style first [c] ([] ++ ((c.text style first).toList ++ [])) :=
    clause nofun hc .nil (.glue nofun)
  rw [List.nil_append, List.append_nil] at h
  exact h

/-- The marks in a weave, and in what is set apart behind it, are those of its clauses first. -/
theorem marksIn_append (h : Weave style first clauses cs) {rest : List Char} (hrest : NoDigit rest) :
    style.marksIn (cs ++ rest) = style.marks first (Clause.total clauses) ++ style.marksIn rest := by
  induction h with
  | glue h => exact ParamStyle.marksIn_append h
  | clause hglue hc happart _ ih =>
    rw [List.append_assoc, List.append_assoc, ParamStyle.marksIn_append hglue,
      Clause.marksIn_text hc _ (happart.append hrest), ih, ← List.append_assoc,
      ParamStyle.marks_append, Clause.total_cons]

/-- The marks in a weave are those of its clauses. -/
theorem marksIn_eq (h : Weave style first clauses cs) :
    style.marksIn cs = style.marks first (Clause.total clauses) := by
  have hmarks := h.marksIn_append .nil
  rw [List.append_nil] at hmarks
  exact hmarks.trans (List.append_nil _)

theorem prepend (hglue : SignFree cs) (h : Weave style first clauses cs') :
    Weave style first clauses (cs ++ cs') := by
  cases h with
  | glue h => exact .glue (hglue.append h)
  | clause hglue' hc hrest h =>
    rw [← List.append_assoc]
    exact .clause (hglue.append hglue') hc hrest h

theorem append (h : Weave style first clauses cs)
    (h' : Weave style (first + Clause.total clauses) clauses' cs') (hcs' : NoDigit cs') :
    Weave style first (clauses ++ clauses') (cs ++ cs') := by
  induction h with
  | glue h => exact h'.prepend h
  | @clause first glue rest c clauses hglue hc hrest _ ih =>
    rw [List.append_assoc, List.append_assoc, List.cons_append]
    refine .clause hglue hc (hrest.append hcs') (ih ?_)
    rw [Clause.total_cons, ← Nat.add_assoc] at h'
    exact h'

/-- In a weave each clause stands behind the marks of the clauses before it. -/
theorem split {earlier later : List Clause}
    (h : Weave style first (earlier ++ c :: later) cs) :
    ∃ pre post, cs = pre ++ ((c.text style (first + Clause.total earlier)).toList ++ post) ∧
      Weave style first earlier pre := by
  induction earlier generalizing first cs with
  | nil =>
    cases h with
    | clause hglue hc hrest h => exact ⟨_, _, rfl, .glue hglue⟩
  | cons e earlier ih =>
    cases h with
    | @clause _ glue rest _ _ hglue hc hrest h =>
      obtain ⟨pre, post, hsplit, hpre⟩ := ih h
      refine ⟨glue ++ ((e.text style first).toList ++ pre), post, ?_, .clause hglue hc ?_ hpre⟩
      · rw [hsplit, Clause.total_cons, ← Nat.add_assoc]
        simp only [List.append_assoc]
      · rw [hsplit] at hrest
        exact hrest.of_append_left

end Weave

end RelMap
