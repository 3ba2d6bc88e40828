import Mathlib.Data.List.Infix
import RelMap.TypeHint.Evaluation

/-!
# How hints are written

A hint without parentheses, quotes and arithmetic is written with names, brackets, commas and bars,
and with spaces between them.  `TypeText.Writes` says which signs write an expression.  What the
reader makes of a text is written by the signs of the text (`TypeText.writes_of_ofText?`), and these
are all that there is in the text (`TypeToken.scan_plain`).
-/

namespace RelMap

/-! ## The signs of a text -/

/-- The signs that stand between the names of a hint. -/
def hintSigns : List Char := [' ', '[', ']', ',', '|']

namespace TypeToken

/-- Names, brackets, commas and bars. -/
def IsPlain : TypeToken → Prop
  | word _ | left | right | comma | bar => True
  | _ => False

/-- The characters of a sign. -/
def spelled : TypeToken → List Char
  | word s => s.toList
  | left => ['[']
  | right => [']']
  | comma => [',']
  | bar => ['|']
  | _ => []

variable {read cs : List Char} {depth : Nat} {ts : List TypeToken}

/-- Is the text written with the characters of words and the signs of hints? -/
def IsPlainText (cs : List Char) : Prop := ∀ c ∈ cs, Text.isWordChar c = true ∨ c ∈ hintSigns

instance : DecidablePred IsPlainText := fun cs => List.decidableBAll _ cs

theorem skipEmptyLines_of_plain {line : List Char} (h : IsPlainText cs) :
    skipEmptyLines line cs = line := by
  induction cs with
  | nil => rfl
  | cons c rest ih =>
    obtain ⟨hc, hrest⟩ := List.forall_mem_cons.mp h
    have hsigns : ∀ c ∈ hintSigns, isBreak c = false := by simp [hintSigns, isBreak]
    have hbreak : isBreak c = false := by
      rcases hc with hc | hc
      · refine Bool.eq_false_iff.mpr fun hbreak => ?_
        simp only [isBreak, Bool.or_eq_true, decide_eq_true_eq] at hbreak
        rcases hbreak with rfl | rfl <;> exact absurd hc (by decide)
      · exact hsigns c hc
    rw [skipEmptyLines, hbreak]
    split
    · next heq => cases heq
    · split
      · exact ih hrest
      · rfl

theorem spelled_close (read : List Char) (ts : List TypeToken) :
    (close read ts).flatMap spelled = read.reverse ++ ts.flatMap spelled := by
  unfold close
  split
  · next h => rw [List.isEmpty_iff.mp h]; rfl
  · rw [List.flatMap_cons, spelled, String.toList_ofList]

theorem mem_close {t : TypeToken} :
    t ∈ close read ts ↔ t ∈ ts ∨ read ≠ [] ∧ t = word (String.ofList read.reverse) := by
  unfold close
  split
  · next h => simp [List.isEmpty_iff.mp h]
  · next h =>
    rw [List.isEmpty_iff] at h
    rw [List.mem_cons]
    simp [h, or_comm]

theorem isPlain_close : (∀ t ∈ close read ts, t.IsPlain) ↔ ∀ t ∈ ts, t.IsPlain := by
  refine ⟨fun h t ht => h t (mem_close.mpr (Or.inl ht)), fun h t ht => ?_⟩
  rcases mem_close.mp ht with ht | ⟨-, rfl⟩
  · exact h t ht
  · trivial

/-- How a text is read that does not end: a word grows, a space ends it, and so does a sign. -/
theorem scan_cons (depth : Nat) (read cs : List Char) {c : Char}
    (hc : Text.isWordChar c = true ∨ c ∈ hintSigns) :
    (Text.isWordChar c = true ∧ scan none depth read (c :: cs) = scan none depth (c :: read) cs) ∨
      (c = ' ' ∧ scan none depth read (c :: cs) = (scan none depth [] cs).map (close read)) ∨
      ∃ t depth', t.IsPlain ∧ (∀ s, t ≠ word s) ∧ t.spelled = [c] ∧ c ≠ ' ' ∧ c ∈ hintSigns ∧
        scan none depth read (c :: cs) =
          (scan none depth' [] cs).map fun ts => close read (t :: ts) := by
  by_cases hword : Text.isWordChar c = true
  · refine Or.inl ⟨hword, ?_⟩
    rw [scan]
    simp only [hword, if_true]
  · have hsign := hc.resolve_left hword
    simp only [hintSigns, List.mem_cons, List.not_mem_nil, or_false] at hsign
    rcases hsign with rfl | rfl | rfl | rfl | rfl
    · exact Or.inr (Or.inl ⟨rfl, rfl⟩)
    · exact Or.inr (Or.inr ⟨left, _, trivial, nofun, rfl, by decide, by decide, rfl⟩)
    · exact Or.inr (Or.inr ⟨right, _, trivial, nofun, rfl, by decide, by decide, rfl⟩)
    · exact Or.inr (Or.inr ⟨comma, _, trivial, nofun, rfl, by decide, by decide, rfl⟩)
    · exact Or.inr (Or.inr ⟨bar, _, trivial, nofun, rfl, by decide, by decide, rfl⟩)

/-- The signs of a text are all that is written in it but spaces. -/
theorem scan_plain (hcs : IsPlainText cs) (hread : ∀ c ∈ read, Text.isWordChar c = true)
    (h : scan none depth read cs = some ts) :
    (∀ t ∈ ts, t.IsPlain) ∧ ts.flatMap spelled = read.reverse ++ cs.filter (· ≠ ' ') := by
  -- The word that is being read has no spaces in it, so it counts as text already read.
  induction cs generalizing depth read ts with
  | nil =>
    cases h
    exact ⟨isPlain_close.mpr (List.forall_mem_nil _), spelled_close read []⟩
  | cons c rest ih =>
    obtain ⟨hc, hrest⟩ := List.forall_mem_cons.mp hcs
    rcases scan_cons depth read rest hc with ⟨hword, hscan⟩ | ⟨rfl, hscan⟩ |
      ⟨t, depth', ht, -, hspelled, hspace, -, hscan⟩
    · rw [hscan] at h
      obtain ⟨hplain, hspelled⟩ := ih hrest (List.forall_mem_cons.mpr ⟨hword, hread⟩) h
      have hspace : c ≠ ' ' := by
        rintro rfl
        cases hword
      refine ⟨hplain, ?_⟩
      rw [hspelled, List.filter_cons_of_pos (by simpa using hspace), List.reverse_cons,
        List.append_assoc]
      rfl
    · rw [hscan] at h
      obtain ⟨ts', hts', rfl⟩ := Option.map_eq_some_iff.mp h
      obtain ⟨hplain, hspelled⟩ := ih hrest (List.forall_mem_nil _) hts'
      refine ⟨isPlain_close.mpr hplain, ?_⟩
      rw [spelled_close, hspelled]
      rfl
    · rw [hscan] at h
      obtain ⟨ts', hts', rfl⟩ := Option.map_eq_some_iff.mp h
      obtain ⟨hplain, hrestspelled⟩ := ih hrest (List.forall_mem_nil _) hts'
      refine ⟨isPlain_close.mpr (List.forall_mem_cons.mpr ⟨ht, hplain⟩), ?_⟩
      rw [spelled_close, List.flatMap_cons, hspelled, hrestspelled,
        List.filter_cons_of_pos (by simpa using hspace)]
      rfl

/-- What begins a list and is without an element begins the part before that. -/
theorem prefix_append_cons {α : Type} {k xs ys : List α} {c : α} (hc : c ∉ k) :
    k <+: xs ++ c :: ys ↔ k <+: xs := by
  refine ⟨fun hk => ?_, fun hk => hk.trans (List.prefix_append _ _)⟩
  rcases List.prefix_or_prefix_of_prefix hk (List.prefix_append xs (c :: ys)) with hshort | hlong
  · exact hshort
  · obtain ⟨k', rfl⟩ := hlong
    rw [List.prefix_append_right_inj] at hk
    cases k' with
    | nil => rw [List.append_nil]
    | cons d k' =>
      obtain ⟨rfl, -⟩ := List.cons_prefix_cons.mp hk
      exact absurd (List.mem_append_right xs List.mem_cons_self) hc

/-- A list without an element stands whole on one side of it. -/
theorem infix_append_cons {α : Type} {k xs ys : List α} {c : α} (hc : c ∉ k) :
    k <:+: xs ++ c :: ys ↔ k <:+: xs ∨ k <:+: ys := by
  have hnone : ∀ {k : List α}, c ∉ k → k <+: c :: ys → k = [] := fun hc hk =>
    List.prefix_nil.mp ((prefix_append_cons hc).mp ((List.nil_append (c :: ys)).symm ▸ hk))
  rw [List.infix_append_iff, List.infix_cons_iff]
  constructor
  · rintro (hleft | (hmiddle | hright) | ⟨k₁, k₂, rfl, hk₁, hk₂⟩)
    · exact Or.inl hleft
    · rw [hnone hc hmiddle]
      exact Or.inl List.nil_infix
    · exact Or.inr hright
    · rw [hnone (fun hmem => hc (List.mem_append_right k₁ hmem)) hk₂, List.append_nil]
      exact Or.inl hk₁.isInfix
  · rintro (hleft | hright)
    · exact Or.inl hleft
    · exact Or.inr (Or.inl (Or.inr hright))

theorem infix_close {f : Char → Char} {k : List Char} (hk : k ≠ []) :
    (∃ w, word w ∈ close read ts ∧ k <:+: w.toList.map f) ↔
      k <:+: read.reverse.map f ∨ ∃ w, word w ∈ ts ∧ k <:+: w.toList.map f := by
  unfold close
  split
  · next h =>
    rw [List.isEmpty_iff.mp h]
    refine ⟨Or.inr, fun h => h.resolve_left fun hnil => hk ?_⟩
    exact List.infix_nil.mp hnil
  · constructor
    · rintro ⟨w, hw, hoccurs⟩
      rcases List.mem_cons.mp hw with heq | hw
      · cases heq
        rw [String.toList_ofList] at hoccurs
        exact Or.inl hoccurs
      · exact Or.inr ⟨w, hw, hoccurs⟩
    · rintro (hoccurs | ⟨w, hw, hoccurs⟩)
      · refine ⟨_, List.mem_cons_self, ?_⟩
        rw [String.toList_ofList]
        exact hoccurs
      · exact ⟨w, List.mem_cons_of_mem _ hw, hoccurs⟩

/-- What is written without the signs of hints stands in one of the words of a text. -/
theorem infix_iff_of_scan {f : Char → Char} {k : List Char} (hk : k ≠ [])
    (hsigns : ∀ c ∈ hintSigns, f c ∉ k) (hcs : IsPlainText cs)
    (h : scan none depth read cs = some ts) :
    k <:+: (read.reverse ++ cs).map f ↔ ∃ w, word w ∈ ts ∧ k <:+: w.toList.map f := by
  -- A sign or a space splits the text, and nothing that is sought can stand across it.
  induction cs generalizing depth read ts with
  | nil =>
    cases h
    rw [infix_close hk, List.append_nil]
    simp
  | cons c rest ih =>
    obtain ⟨hc, hrest⟩ := List.forall_mem_cons.mp hcs
    rcases scan_cons depth read rest hc with ⟨-, hscan⟩ | ⟨rfl, hscan⟩ |
      ⟨t, depth', -, hword, -, -, hsign, hscan⟩
    · rw [hscan] at h
      rw [← ih hrest h, List.reverse_cons, List.append_assoc]
      rfl
    · rw [hscan] at h
      obtain ⟨ts', hts', rfl⟩ := Option.map_eq_some_iff.mp h
      rw [infix_close hk, ← ih hrest hts', List.map_append, List.map_cons,
        infix_append_cons (hsigns _ (by decide))]
      rfl
    · rw [hscan] at h
      obtain ⟨ts', hts', rfl⟩ := Option.map_eq_some_iff.mp h
      have hrestwords : (∃ w, word w ∈ t :: ts' ∧ k <:+: w.toList.map f) ↔
          ∃ w, word w ∈ ts' ∧ k <:+: w.toList.map f := by
        refine exists_congr fun w => and_congr_left fun _ => ?_
        rw [List.mem_cons, or_iff_right fun heq => hword w heq.symm]
      rw [infix_close hk, hrestwords, ← ih hrest hts', List.map_append, List.map_cons,
        infix_append_cons (hsigns c hsign)]
      rfl

end TypeToken

/-! ## The signs that write an expression -/

namespace TypeText

open TypeToken (IsPlain IsPlainText)

/-- Lists of expressions are no operands. -/
def IsOperand : TypeText → Prop
  | several _ => False
  | _ => True

mutual

/-- The signs write the expression; a list of expressions may end with a comma. -/
def Writes : TypeText → List TypeToken → Prop
  | name s, ts => ts = [.word s]
  | number _, ts => ∃ w, ts = [.word w]
  | applied head index, ts => ∃ hs is, head.IsOperand ∧ Writes head hs ∧ Writes index is ∧
      ts = hs ++ .left :: (is ++ [.right])
  | either a b, ts => ∃ as bs, a.IsOperand ∧ b.IsOperand ∧ Writes a as ∧ Writes b bs ∧
      ts = as ++ .bar :: bs
  | several items, ts => WritesAll items ts
  | _, _ => False

def WritesAll : List TypeText → List TypeToken → Prop
  | [], ts => ts = []
  | a :: items, ts => ∃ as, Writes a as ∧
      (items = [] ∧ ts = as ∨ ∃ bs, WritesAll items bs ∧ ts = as ++ .comma :: bs)

end

variable {t a : TypeText} {items : List TypeText} {s : String} {ts rest : List TypeToken}
  {fuel : Nat}

theorem isOperand_number? {cs : List Char} (h : number? cs = some t) : ∃ n, t = number n := by
  unfold number? at h
  split at h
  · split at h
    · cases h
      exact ⟨0, rfl⟩
    · cases h
  · split at h
    · cases h
      exact ⟨_, rfl⟩
    · cases h
  · cases h

/-- A word is read as a name or a number. -/
theorem writes_of_ofWord? (h : ofWord? s = some t) : t.IsOperand ∧ t.Writes [.word s] := by
  unfold ofWord? at h
  split at h
  · cases h
    exact ⟨trivial, by rw [Writes]⟩
  · obtain ⟨n, rfl⟩ := isOperand_number? h
    exact ⟨trivial, by rw [Writes]; exact ⟨s, rfl⟩⟩

/-- The reader consumes signs that write what it reads. -/
structure ReadsWritten (fuel : Nat) : Prop where
  parse {ts rest : List TypeToken} {t : TypeText} : (∀ u ∈ ts, u.IsPlain) →
    parse fuel ts = some (t, rest) → ∃ front, ts = front ++ rest ∧ t.IsOperand ∧ t.Writes front
  parseMore {ts rest : List TypeToken} {a t : TypeText} : (∀ u ∈ ts, u.IsPlain) →
    parseMore fuel a ts = some (t, rest) → a.IsOperand →
    ∃ front, ts = front ++ rest ∧ t.IsOperand ∧ ∀ as, a.Writes as → t.Writes (as ++ front)
  parseTerm {ts rest : List TypeToken} {t : TypeText} : (∀ u ∈ ts, u.IsPlain) →
    parseTerm fuel ts = some (t, rest) → ∃ front, ts = front ++ rest ∧ t.IsOperand ∧ t.Writes front
  parseOperand {ts rest : List TypeToken} {t : TypeText} : (∀ u ∈ ts, u.IsPlain) →
    parseOperand fuel ts = some (t, rest) →
    ∃ front, ts = front ++ rest ∧ t.IsOperand ∧ t.Writes front
  parseIndices {ts rest : List TypeToken} {a t : TypeText} : (∀ u ∈ ts, u.IsPlain) →
    parseIndices fuel a ts = some (t, rest) → a.IsOperand →
    ∃ front, ts = front ++ rest ∧ t.IsOperand ∧ ∀ as, a.Writes as → t.Writes (as ++ front)
  parseList {ts rest : List TypeToken} {t : TypeText} : (∀ u ∈ ts, u.IsPlain) →
    parseList fuel ts = some (t, rest) → ∃ front, ts = front ++ rest ∧ t.Writes front
  parseItems {ts rest : List TypeToken} {items : List TypeText} : (∀ u ∈ ts, u.IsPlain) →
    parseItems fuel ts = some (items, rest) → ∃ front, ts = front ++ rest ∧ WritesAll items front

namespace ReadsWritten

theorem parse_succ (h : ReadsWritten fuel) (hts : ∀ u ∈ ts, u.IsPlain)
    (hparse : TypeText.parse (fuel + 1) ts = some (t, rest)) :
    ∃ front, ts = front ++ rest ∧ t.IsOperand ∧ t.Writes front := by
  obtain ⟨⟨a, rest'⟩, hterm, hmore⟩ := Option.bind_eq_some_iff.mp hparse
  obtain ⟨as, rfl, ha, has⟩ := h.parseTerm hts hterm
  obtain ⟨front, rfl, ht, hfront⟩ :=
    h.parseMore (fun u hu => hts u (List.mem_append_right as hu)) hmore ha
  exact ⟨as ++ front, (List.append_assoc as front rest).symm, ht, hfront as has⟩

theorem parseMore_succ (h : ReadsWritten fuel) (hts : ∀ u ∈ ts, u.IsPlain)
    (hmore : TypeText.parseMore (fuel + 1) a ts = some (t, rest)) (ha : a.IsOperand) :
    ∃ front, ts = front ++ rest ∧ t.IsOperand ∧ ∀ as, a.Writes as → t.Writes (as ++ front) := by
  rw [TypeText.parseMore.eq_def] at hmore
  dsimp only at hmore
  split at hmore
  · contradiction
  · next ts heq =>
    cases heq
    obtain ⟨⟨b, rest'⟩, hterm, hrest⟩ := Option.bind_eq_some_iff.mp hmore
    obtain ⟨bs, rfl, hb, hbs⟩ := h.parseTerm (List.forall_mem_cons.mp hts).2 hterm
    obtain ⟨front, rfl, ht, hfront⟩ :=
      h.parseMore (fun u hu => hts u (List.mem_cons_of_mem _ (List.mem_append_right bs hu))) hrest
        trivial
    refine ⟨.bar :: (bs ++ front), by simp, ht, fun as has => ?_⟩
    have heither := hfront (as ++ .bar :: bs) (by
      rw [Writes]
      exact ⟨as, bs, ha, hb, has, hbs, rfl⟩)
    rwa [List.append_assoc, List.cons_append] at heither
  · cases hmore
    exact ⟨[], rfl, ha, fun as has => by rwa [List.append_nil]⟩

theorem parseTerm_succ (h : ReadsWritten fuel) (hts : ∀ u ∈ ts, u.IsPlain)
    (hterm : TypeText.parseTerm (fuel + 1) ts = some (t, rest)) :
    ∃ front, ts = front ++ rest ∧ t.IsOperand ∧ t.Writes front := by
  rw [TypeText.parseTerm.eq_def] at hterm
  dsimp only at hterm
  split at hterm
  · contradiction
  · next heq =>
    cases heq
    exact absurd (hts _ List.mem_cons_self) id
  · next hfuel _ =>
    cases hfuel
    obtain ⟨⟨a, rest'⟩, hoperand, hrest⟩ := Option.bind_eq_some_iff.mp hterm
    obtain ⟨front, rfl, ha, hfront⟩ := h.parseOperand hts hoperand
    dsimp only at hrest
    split at hrest
    · exact absurd (hts _ (List.mem_append_right front List.mem_cons_self)) id
    · cases hrest
      exact ⟨front, rfl, ha, hfront⟩

theorem parseOperand_succ (h : ReadsWritten fuel) (hts : ∀ u ∈ ts, u.IsPlain)
    (hoperand : TypeText.parseOperand (fuel + 1) ts = some (t, rest)) :
    ∃ front, ts = front ++ rest ∧ t.IsOperand ∧ t.Writes front := by
  rw [TypeText.parseOperand.eq_def] at hoperand
  dsimp only at hoperand
  split at hoperand
  · contradiction
  · next s ts heq =>
    cases heq
    obtain ⟨a, ha, hindices⟩ := Option.bind_eq_some_iff.mp hoperand
    obtain ⟨haoperand, hawrites⟩ := writes_of_ofWord? ha
    obtain ⟨front, rfl, ht, hfront⟩ :=
      h.parseIndices (List.forall_mem_cons.mp hts).2 hindices haoperand
    exact ⟨.word s :: front, rfl, ht, hfront _ hawrites⟩
  · exact absurd (hts _ List.mem_cons_self) id
  · exact absurd (hts _ List.mem_cons_self) id
  · exact absurd (hts _ List.mem_cons_self) id
  · cases hoperand

theorem parseIndices_succ (h : ReadsWritten fuel) (hts : ∀ u ∈ ts, u.IsPlain)
    (hindices : TypeText.parseIndices (fuel + 1) a ts = some (t, rest)) (ha : a.IsOperand) :
    ∃ front, ts = front ++ rest ∧ t.IsOperand ∧ ∀ as, a.Writes as → t.Writes (as ++ front) := by
  rw [TypeText.parseIndices.eq_def] at hindices
  dsimp only at hindices
  split at hindices
  · contradiction
  · next ts heq =>
    cases heq
    obtain ⟨⟨index, rest'⟩, hlist, hrest⟩ := Option.bind_eq_some_iff.mp hindices
    obtain ⟨is, rfl, his⟩ := h.parseList (List.forall_mem_cons.mp hts).2 hlist
    dsimp only at hrest
    split at hrest
    · next rest' =>
      obtain ⟨front, rfl, ht, hfront⟩ := h.parseIndices
        (fun u hu => hts u (List.mem_cons_of_mem _ (List.mem_append_right is
          (List.mem_cons_of_mem _ hu)))) hrest trivial
      refine ⟨.left :: (is ++ .right :: front), by simp, ht, fun as has => ?_⟩
      have happlied := hfront (as ++ .left :: (is ++ [.right])) (by
        rw [Writes]
        exact ⟨as, is, ha, has, his, rfl⟩)
      simpa using happlied
    · cases hrest
  · cases hindices
    exact ⟨[], rfl, ha, fun as has => by rwa [List.append_nil]⟩

theorem parseList_succ (h : ReadsWritten fuel) (hts : ∀ u ∈ ts, u.IsPlain)
    (hlist : TypeText.parseList (fuel + 1) ts = some (t, rest)) :
    ∃ front, ts = front ++ rest ∧ t.Writes front := by
  obtain ⟨⟨a, rest'⟩, hparse, hrest⟩ := Option.bind_eq_some_iff.mp hlist
  obtain ⟨as, rfl, -, has⟩ := h.parse hts hparse
  dsimp only at hrest
  split at hrest
  · next rest' =>
    obtain ⟨⟨items, rest''⟩, hitems, hrest⟩ := Option.bind_eq_some_iff.mp hrest
    cases hrest
    obtain ⟨front, rfl, hfront⟩ := h.parseItems
      (fun u hu => hts u (List.mem_append_right as (List.mem_cons_of_mem _ hu))) hitems
    refine ⟨as ++ .comma :: front, by simp, ?_⟩
    rw [Writes, WritesAll]
    exact ⟨as, has, Or.inr ⟨front, hfront, rfl⟩⟩
  · cases hrest
    exact ⟨as, rfl, has⟩

theorem parseItems_succ (h : ReadsWritten fuel) (hts : ∀ u ∈ ts, u.IsPlain)
    (hitems : TypeText.parseItems (fuel + 1) ts = some (items, rest)) :
    ∃ front, ts = front ++ rest ∧ WritesAll items front := by
  have hnil : WritesAll [] [] := by rw [WritesAll]
  rw [TypeText.parseItems.eq_def] at hitems
  dsimp only at hitems
  split at hitems
  · contradiction
  · cases hitems
    exact ⟨[], rfl, hnil⟩
  · cases hitems
    exact ⟨[], rfl, hnil⟩
  · cases hitems
    exact ⟨[], rfl, hnil⟩
  · next hfuel _ _ _ =>
    cases hfuel
    obtain ⟨⟨a, rest'⟩, hparse, hrest⟩ := Option.bind_eq_some_iff.mp hitems
    obtain ⟨as, rfl, -, has⟩ := h.parse hts hparse
    dsimp only at hrest
    split at hrest
    · next rest' =>
      obtain ⟨⟨items, rest''⟩, hmore, hrest⟩ := Option.bind_eq_some_iff.mp hrest
      cases hrest
      obtain ⟨front, rfl, hfront⟩ := h.parseItems
        (fun u hu => hts u (List.mem_append_right as (List.mem_cons_of_mem _ hu))) hmore
      refine ⟨as ++ .comma :: front, by simp, ?_⟩
      rw [WritesAll]
      exact ⟨as, has, Or.inr ⟨front, hfront, rfl⟩⟩
    · cases hrest
      refine ⟨as, rfl, ?_⟩
      rw [WritesAll]
      exact ⟨as, has, Or.inl ⟨rfl, rfl⟩⟩

end ReadsWritten

theorem readsWritten (fuel : Nat) : ReadsWritten fuel := by
  -- Each reader calls the others with less fuel, so all are proved at once.
  induction fuel with
  | zero => constructor <;> (intros; contradiction)
  | succ fuel ih =>
    exact ⟨ih.parse_succ, ih.parseMore_succ, ih.parseTerm_succ, ih.parseOperand_succ,
      ih.parseIndices_succ, ih.parseList_succ, ih.parseItems_succ⟩

/-- **What is read is written.**  The signs of a text write the expression that it is read as. -/
theorem writes_of_ofText? (hs : IsPlainText s.toList) (h : ofText? s = some t) :
    ∃ ts, TypeToken.scan none 0 [] s.toList = some ts ∧ t.Writes ts := by
  unfold ofText? at h
  rw [TypeToken.skipEmptyLines_of_plain hs] at h
  split at h
  · cases h
  · next c rest hchars =>
    rw [← hchars] at h
    split at h
    · cases h
    · obtain ⟨ts, hts, h⟩ := Option.bind_eq_some_iff.mp h
      obtain ⟨⟨a, rest'⟩, hlist, h⟩ := Option.bind_eq_some_iff.mp h
      split at h
      · next heq =>
        cases h
        cases heq
        obtain ⟨hplain, -⟩ := TypeToken.scan_plain hs (List.forall_mem_nil _) hts
        obtain ⟨front, rfl, hfront⟩ := (readsWritten _).parseList hplain hlist
        rw [List.append_nil] at hts
        exact ⟨front, hts, hfront⟩
      · cases h

theorem ofWord?_of_free (h : (Text.constantWords.contains s || Text.isFreeWord s) = true) :
    ofWord? s = some (name s) := by
  rw [ofWord?, if_pos h]

/-- A text is read as its signs are. -/
theorem ofText?_of_scan (hs : IsPlainText s.toList)
    (hgap : s.toList.head?.map TypeToken.isGap = some false)
    (hscan : TypeToken.scan none 0 [] s.toList = some ts)
    (hlist : parseList (6 * ts.length + 6) ts = some (t, [])) : ofText? s = some t := by
  unfold ofText?
  rw [TypeToken.skipEmptyLines_of_plain hs]
  cases hchars : s.toList with
  | nil =>
    rw [hchars] at hgap
    cases hgap
  | cons c rest =>
    rw [hchars] at hgap hscan
    dsimp only
    rw [if_neg (Bool.eq_false_iff.mp (Option.some.inj hgap)), hscan, Option.bind_eq_bind,
      Option.bind_some, hlist]
    rfl

end TypeText

end RelMap
