import Mathlib.Data.List.Chain
import RelMap.Proofs.TypeHint.Searched

/-!
# Hints that are optional as text

Whether a hint that is still text is optional is found by searching it for a bar next to the absent
value.  A text that is read as an expression of names, subscripts and bars is found to be optional if
the expression begins as an optional one or has a bar next to the absent value somewhere in it
(`FieldType.isOptionalText_iff`).
-/

namespace RelMap

/-! ## Bars next to the absent value -/

namespace TypeToken

variable {t : TypeToken} {ts : List TypeToken} {u v : List Char}

/-- Bars stand for themselves alone, and there are no dots. -/
theorem mem_small (ht : t ∈ typedSigns) : ('|' ∈ t.small → t = bar) ∧ '.' ∉ t.small := by
  have hall : ∀ t ∈ typedSigns, ('|' ∈ t.small → t = bar) ∧ '.' ∉ t.small := by decide +kernel
  exact hall t ht

/-- The bars of a text are those among its signs. -/
theorem small_eq_append_bar (h : ∀ t ∈ ts, t ∈ typedSigns) :
    ts.flatMap small = u ++ '|' :: v ↔
      ∃ pre post, ts = pre ++ bar :: post ∧ u = pre.flatMap small ∧ v = post.flatMap small := by
  constructor
  · intro heq
    induction ts generalizing u with
    | nil => simp at heq
    | cons t rest ih =>
      obtain ⟨ht, hrest⟩ := List.forall_mem_cons.mp h
      rw [List.flatMap_cons, List.append_eq_append_iff] at heq
      rcases heq with ⟨u', rfl, heq⟩ | ⟨x, hx, heq⟩
      · obtain ⟨pre, post, rfl, rfl, rfl⟩ := ih hrest heq
        exact ⟨t :: pre, post, rfl, rfl, rfl⟩
      · cases x with
        | nil =>
          obtain ⟨pre, post, rfl, hpre, rfl⟩ := ih (u := []) hrest heq.symm
          refine ⟨t :: pre, post, rfl, ?_, rfl⟩
          rw [List.flatMap_cons, ← hpre, hx, List.append_nil, List.append_nil]
        | cons c x =>
          -- The bar is within the first sign, so it is that sign.
          obtain ⟨rfl, rfl⟩ := List.cons.inj heq
          obtain rfl := (mem_small ht).1 (hx ▸ List.mem_append_right u List.mem_cons_self)
          cases u with
          | nil =>
            obtain ⟨-, rfl⟩ := List.cons.inj hx
            exact ⟨[], rest, rfl, rfl, rfl⟩
          | cons d u => simp [small, spelled] at hx
  · rintro ⟨pre, post, rfl, rfl, rfl⟩
    rw [List.flatMap_append, List.flatMap_cons]
    rfl

/-- Only the absent value begins as it does. -/
theorem small_starts_none (h : ∀ t ∈ ts, t ∈ typedSigns) :
    "none".toList <+: ts.flatMap small ↔ ts.head? = some (word "None") := by
  have hall : ∀ t ∈ typedSigns, "none".toList <+: t.small ∨ t.small <+: "none".toList →
      t = word "None" := by
    decide +kernel
  cases ts with
  | nil => decide
  | cons t rest =>
    rw [List.flatMap_cons, List.head?_cons, Option.some.injEq]
    constructor
    · intro hbegins
      exact hall t (h t List.mem_cons_self)
        (List.prefix_or_prefix_of_prefix hbegins (List.prefix_append _ _))
    · rintro rfl
      exact List.prefix_append _ _

/-- Only the absent value ends as it does. -/
theorem small_ends_none (h : ∀ t ∈ ts, t ∈ typedSigns) :
    "none".toList <:+ ts.flatMap small ↔ ts.getLast? = some (word "None") := by
  have hall : ∀ t ∈ typedSigns, "none".toList <:+ t.small ∨ t.small <:+ "none".toList →
      t = word "None" := by
    decide +kernel
  rcases List.eq_nil_or_concat ts with rfl | ⟨front, t, rfl⟩
  · decide
  · rw [List.concat_eq_append, List.flatMap_append, List.flatMap_singleton,
      List.getLast?_concat, Option.some.injEq]
    constructor
    · intro hends
      exact hall t (h t (by simp))
        (List.suffix_or_suffix_of_suffix hends (List.suffix_append _ _))
    · rintro rfl
      exact List.suffix_append _ _

theorem small_opens_left (h : ∀ t ∈ ts, t ∈ typedSigns) :
    ['['] <+: ts.flatMap small ↔ [left] <+: ts := by
  have hall : ∀ t ∈ typedSigns, ['['] <+: t.small ∨ t.small <+: ['['] → t = left := by
    decide +kernel
  cases ts with
  | nil => decide
  | cons t rest =>
    rw [List.flatMap_cons, List.cons_prefix_cons]
    constructor
    · intro hbegins
      have hleft := hall t (h t List.mem_cons_self)
        (List.prefix_or_prefix_of_prefix hbegins (List.prefix_append _ _))
      exact ⟨hleft.symm, List.nil_prefix⟩
    · rintro ⟨rfl, -⟩
      exact List.prefix_append _ _

theorem small_opens_optional (h : ∀ t ∈ ts, t ∈ typedSigns) :
    "optional[".toList <+: ts.flatMap small ↔ [word "Optional", left] <+: ts := by
  have hall : ∀ t ∈ typedSigns, "optional[".toList <+: t.small ∨ t.small <+: "optional[".toList →
      t = word "Optional" := by
    decide +kernel
  have hsplit : "optional[".toList = (word "Optional").small ++ ['['] := by decide
  cases ts with
  | nil => decide
  | cons t rest =>
    obtain ⟨ht, hrest⟩ := List.forall_mem_cons.mp h
    rw [List.flatMap_cons, List.cons_prefix_cons]
    constructor
    · intro hbegins
      obtain rfl := hall t ht (List.prefix_or_prefix_of_prefix hbegins (List.prefix_append _ _))
      rw [hsplit, List.prefix_append_right_inj] at hbegins
      exact ⟨rfl, (small_opens_left hrest).mp hbegins⟩
    · rintro ⟨rfl, hleft⟩
      rw [hsplit, List.prefix_append_right_inj]
      exact (small_opens_left hrest).mpr hleft

end TypeToken

/-! ## Texts that are optional -/

namespace TypeText

open TypeToken (word left right comma bar)

/-- Does the expression begin with the absent value? -/
def BeginsNone : TypeText → Prop
  | name s => s = "None"
  | applied head _ => head.BeginsNone
  | either a _ => a.BeginsNone
  | _ => False

/-- Does the expression end with the absent value? -/
def EndsNone : TypeText → Prop
  | name s => s = "None"
  | either _ b => b.EndsNone
  | _ => False

mutual

/-- Is there a bar next to the absent value in the expression? -/
def MeetsNone : TypeText → Prop
  | applied head index => MeetsNone head ∨ MeetsNone index
  | either a b => a.EndsNone ∨ b.BeginsNone ∨ MeetsNone a ∨ MeetsNone b
  | several items => AnyMeetsNone items
  | _ => False

def AnyMeetsNone : List TypeText → Prop
  | [] => False
  | a :: items => MeetsNone a ∨ AnyMeetsNone items

end

/-- Does the expression begin as one that is made optional? -/
def OpensOptional : TypeText → Prop
  | applied head _ => head = name "Optional" ∨ head.OpensOptional
  | either a _ => a.OpensOptional
  | several (a :: _) => a.OpensOptional
  | _ => False

/-- Signs that stand side by side without a bar next to the absent value. -/
def Apart (x y : TypeToken) : Prop :=
  ¬ (x = bar ∧ y = word "None") ∧ ¬ (x = word "None" ∧ y = bar)

theorem isChain_append_sign {x : TypeToken} (hbar : x ≠ bar) (hnone : x ≠ word "None")
    {as bs : List TypeToken} :
    (as ++ x :: bs).IsChain Apart ↔ as.IsChain Apart ∧ bs.IsChain Apart := by
  have hright : ∀ y, Apart x y := fun y => ⟨fun h => hbar h.1, fun h => hnone h.1⟩
  have hleft : ∀ z, Apart z x := fun z => ⟨fun h => hnone h.2, fun h => hbar h.2⟩
  rw [List.isChain_append, List.isChain_cons]
  constructor
  · rintro ⟨has, ⟨-, hbs⟩, -⟩
    exact ⟨has, hbs⟩
  · rintro ⟨has, hbs⟩
    refine ⟨has, ⟨fun y _ => hright y, hbs⟩, fun z _ y hy => ?_⟩
    cases Option.mem_some_iff.mp hy
    exact hleft z

theorem isChain_append_bar {as bs : List TypeToken} :
    (as ++ bar :: bs).IsChain Apart ↔ as.getLast? ≠ some (word "None") ∧
      bs.head? ≠ some (word "None") ∧ as.IsChain Apart ∧ bs.IsChain Apart := by
  have hright : ∀ y, Apart bar y ↔ y ≠ word "None" := fun y => by simp [Apart]
  have hleft : ∀ z, Apart z bar ↔ z ≠ word "None" := fun z => by simp [Apart]
  rw [List.isChain_append, List.isChain_cons]
  constructor
  · rintro ⟨has, ⟨hhead, hbs⟩, hlast⟩
    refine ⟨fun h => ?_, fun h => ?_, has, hbs⟩
    · exact (hleft _).mp (hlast _ h bar rfl) rfl
    · exact (hright _).mp (hhead _ h) rfl
  · rintro ⟨hlast, hhead, has, hbs⟩
    refine ⟨has, ⟨fun y hy => (hright y).mpr ?_, hbs⟩, fun z hz y hy => ?_⟩
    · rintro rfl
      exact hhead hy
    · cases Option.mem_some_iff.mp hy
      refine (hleft z).mpr ?_
      rintro rfl
      exact hlast hz

/-- Signs are not apart where there is a bar next to the absent value. -/
theorem not_isChain_iff {ts : List TypeToken} : ¬ ts.IsChain Apart ↔
    ∃ pre post, ts = pre ++ bar :: post ∧
      (post.head? = some (word "None") ∨ pre.getLast? = some (word "None")) := by
  constructor
  · intro hchain
    by_contra hnone
    refine hchain (List.isChain_iff_forall_rel_of_append_cons_cons.mpr fun x y pre post hts => ?_)
    refine ⟨?_, ?_⟩
    · rintro ⟨rfl, rfl⟩
      exact hnone ⟨pre, word "None" :: post, hts, Or.inl rfl⟩
    · rintro ⟨rfl, rfl⟩
      exact hnone ⟨pre ++ [word "None"], post, by simpa using hts, Or.inr (by simp)⟩
  · rintro ⟨pre, post, rfl, hnone⟩ hchain
    obtain ⟨hlast, hhead, -, -⟩ := isChain_append_bar.mp hchain
    exact hnone.elim hhead hlast

/-! ## How expressions begin and end -/

variable {x : TypeToken} {as bs ts : List TypeToken} {t : TypeText}

theorem head?_append_sign (h : x ≠ word "None") :
    (as ++ x :: bs).head? = some (word "None") ↔ as.head? = some (word "None") := by
  cases as with
  | nil => simp [h]
  | cons a as => rfl

theorem getLast?_append_sign (h : x ≠ word "None") :
    (as ++ x :: bs).getLast? = some (word "None") ↔ bs.getLast? = some (word "None") := by
  rw [List.getLast?_append_cons]
  rcases List.eq_nil_or_concat bs with rfl | ⟨front, b, rfl⟩
  · simp [h]
  · simp [List.getLast?_cons]

theorem beginsNone_iff (hplain : t.IsPlain) : ∀ {ts}, t.IsOperand → t.Writes ts →
    (ts.head? = some (word "None") ↔ t.BeginsNone) := by
  induction hplain with
  | name =>
    intro ts _ h
    rw [Writes] at h
    subst h
    simp [BeginsNone]
  | applied _ _ ihhead _ =>
    intro ts _ h
    rw [Writes] at h
    obtain ⟨hs, is, hhead, hhs, -, rfl⟩ := h
    rw [head?_append_sign (by decide), ihhead hhead hhs]
    rfl
  | either _ _ iha _ =>
    intro ts _ h
    rw [Writes] at h
    obtain ⟨as, bs, ha, -, has, -, rfl⟩ := h
    rw [head?_append_sign (by decide), iha ha has]
    rfl
  | several => exact fun hoperand => absurd hoperand id

theorem endsNone_iff (hplain : t.IsPlain) : ∀ {ts}, t.IsOperand → t.Writes ts →
    (ts.getLast? = some (word "None") ↔ t.EndsNone) := by
  induction hplain with
  | name =>
    intro ts _ h
    rw [Writes] at h
    subst h
    simp [EndsNone]
  | applied =>
    intro ts _ h
    rw [Writes] at h
    obtain ⟨hs, is, -, -, -, rfl⟩ := h
    rw [getLast?_append_sign (by decide), getLast?_append_sign (by decide)]
    refine iff_of_false (fun hlast => ?_) id
    cases hlast
  | either _ _ _ ihb =>
    intro ts _ h
    rw [Writes] at h
    obtain ⟨as, bs, -, hb, -, hbs, rfl⟩ := h
    rw [getLast?_append_sign (by decide), ihb hb hbs]
    rfl
  | several => exact fun hoperand => absurd hoperand id

theorem isChain_iff_all {items : List TypeText}
    (h : ∀ a ∈ items, ∀ {ts}, a.Writes ts → (ts.IsChain Apart ↔ ¬ a.MeetsNone))
    (hts : WritesAll items ts) : ts.IsChain Apart ↔ ¬ AnyMeetsNone items := by
  induction items generalizing ts with
  | nil =>
    rw [WritesAll] at hts
    subst hts
    rw [AnyMeetsNone]
    exact iff_of_true List.isChain_nil id
  | cons a items ih =>
    obtain ⟨ha, hitems⟩ := List.forall_mem_cons.mp h
    rw [WritesAll] at hts
    rw [AnyMeetsNone, not_or]
    obtain ⟨as, has, ⟨rfl, rfl⟩ | ⟨bs, hbs, rfl⟩⟩ := hts
    · rw [ha has, AnyMeetsNone, and_iff_left id]
    · rw [isChain_append_sign (by decide) (by decide), ha has, ih hitems hbs]

/-- The signs of an expression are apart unless a bar in it is next to the absent value. -/
theorem isChain_iff (hplain : t.IsPlain) :
    ∀ {ts}, t.Writes ts → (ts.IsChain Apart ↔ ¬ t.MeetsNone) := by
  induction hplain with
  | name =>
    intro ts h
    rw [Writes] at h
    subst h
    exact iff_of_true (List.isChain_singleton _) (by simp [MeetsNone])
  | applied _ _ ihhead ihindex =>
    intro ts h
    rw [Writes] at h
    obtain ⟨hs, is, -, hhs, his, rfl⟩ := h
    rw [isChain_append_sign (by decide) (by decide), isChain_append_sign (by decide) (by decide),
      ihhead hhs, ihindex his, MeetsNone]
    simp
  | either hplaina hplainb iha ihb =>
    intro ts h
    rw [Writes] at h
    obtain ⟨as, bs, ha, hb, has, hbs, rfl⟩ := h
    rw [isChain_append_bar, iha has, ihb hbs, ne_eq, endsNone_iff hplaina ha has, ne_eq,
      beginsNone_iff hplainb hb hbs, MeetsNone]
    simp only [not_or]
  | several _ ih =>
    intro ts h
    rw [Writes] at h
    rw [MeetsNone]
    exact isChain_iff_all ih h

/-- Only a name is written by a single word. -/
theorem eq_name_of_writes {w : String} (hplain : t.IsPlain) (hoperand : t.IsOperand)
    (h : t.Writes [word w]) : t = name w := by
  have hsign : ∀ {x : TypeToken} {as bs : List TypeToken}, [word w] = as ++ x :: bs →
      x = word w := by
    intro x as bs heq
    exact List.mem_singleton.mp (heq ▸ List.mem_append_right as List.mem_cons_self)
  cases hplain with
  | name =>
    rw [Writes, List.cons.injEq] at h
    rw [TypeToken.word.inj h.1]
  | applied =>
    rw [Writes] at h
    obtain ⟨hs, is, -, -, -, heq⟩ := h
    cases hsign heq
  | either =>
    rw [Writes] at h
    obtain ⟨as, bs, -, -, -, -, heq⟩ := h
    cases hsign heq
  | several => exact absurd hoperand id

/-- The two signs with which an optional expression begins. -/
def optionalSigns : List TypeToken := [word "Optional", left]

theorem opens_append_left : optionalSigns <+: as ++ left :: bs ↔
    optionalSigns <+: as ∨ as = [word "Optional"] := by
  constructor
  · intro h
    match as with
    | [] => exact absurd (List.cons_prefix_cons.mp h).1 (by decide)
    | [a] =>
      rw [← (List.cons_prefix_cons.mp h).1]
      exact Or.inr rfl
    | a :: b :: as =>
      obtain ⟨rfl, hleft⟩ := List.cons_prefix_cons.mp h
      obtain ⟨rfl, -⟩ := List.cons_prefix_cons.mp hleft
      exact Or.inl (List.prefix_append optionalSigns as)
  · rintro (h | rfl)
    · exact h.trans (List.prefix_append _ _)
    · exact List.prefix_append optionalSigns bs

/-- The signs of an expression begin as it does. -/
theorem opensOptional_iff (hplain : t.IsPlain) :
    ∀ {ts}, t.Writes ts → (optionalSigns <+: ts ↔ t.OpensOptional) := by
  induction hplain with
  | name =>
    intro ts h
    rw [Writes] at h
    subst h
    exact iff_of_false (fun h => Nat.not_succ_le_self 1 h.length_le) id
  | applied hhead _ ihhead _ =>
    intro ts h
    rw [Writes] at h
    obtain ⟨hs, is, hoperand, hhs, -, rfl⟩ := h
    rw [opens_append_left, ihhead hhs, OpensOptional, or_comm]
    -- Left is that the head is written by this one word if and only if it is this name.
    refine or_congr_left ⟨?_, ?_⟩
    · rintro rfl
      exact eq_name_of_writes hhead hoperand hhs
    · rintro rfl
      rwa [Writes] at hhs
  | either _ _ iha _ =>
    intro ts h
    rw [Writes] at h
    obtain ⟨as, bs, -, -, has, -, rfl⟩ := h
    rw [TypeToken.prefix_append_cons (by decide), iha has, OpensOptional]
  | @several items _ ih =>
    intro ts h
    cases items with
    | nil =>
      rw [Writes, WritesAll] at h
      subst h
      exact iff_of_false (by decide) id
    | cons a items =>
      rw [Writes, WritesAll] at h
      rw [OpensOptional]
      obtain ⟨as, has, ⟨-, rfl⟩ | ⟨bs, -, rfl⟩⟩ := h
      · exact ih a List.mem_cons_self has
      · rw [TypeToken.prefix_append_cons (by decide), ih a List.mem_cons_self has]

end TypeText

/-! ## What the search finds -/

namespace FieldType

open TypeToken (word bar small typedSigns)
open TypeText (Apart)

variable {s : String} {t : TypeText} {ts : List TypeToken} {cs k : List Char}

theorem bar_infix_iff : '|' :: k <:+: cs ↔ ∃ u v, cs = u ++ '|' :: v ∧ k <+: v := by
  constructor
  · rintro ⟨u, v, rfl⟩
    exact ⟨u, k ++ v, by simp, List.prefix_append k v⟩
  · rintro ⟨u, _, rfl, v, rfl⟩
    exact ⟨u, v, by simp⟩

theorem infix_bar_iff : k ++ ['|'] <:+: cs ↔ ∃ u v, cs = u ++ '|' :: v ∧ k <:+ u := by
  constructor
  · rintro ⟨u, v, rfl⟩
    exact ⟨u ++ k, v, by simp, List.suffix_append u k⟩
  · rintro ⟨_, v, rfl, u, rfl⟩
    exact ⟨u, v, by simp⟩

/-- The absent value stands next to a bar in a text where it does among its signs. -/
theorem small_meets_none (h : ∀ u ∈ ts, u ∈ typedSigns) :
    '|' :: "none".toList <:+: ts.flatMap small ∨ "none".toList ++ ['|'] <:+: ts.flatMap small ↔
      ¬ ts.IsChain Apart := by
  rw [bar_infix_iff, infix_bar_iff, TypeText.not_isChain_iff]
  have hparts : ∀ {pre post : List TypeToken}, ts = pre ++ bar :: post →
      (∀ u ∈ pre, u ∈ typedSigns) ∧ ∀ u ∈ post, u ∈ typedSigns := by
    rintro pre post rfl
    obtain ⟨hpre, hpost⟩ := List.forall_mem_append.mp h
    exact ⟨hpre, (List.forall_mem_cons.mp hpost).2⟩
  constructor
  · rintro (⟨u, v, heq, hnone⟩ | ⟨u, v, heq, hnone⟩)
    · obtain ⟨pre, post, hts, rfl, rfl⟩ := (TypeToken.small_eq_append_bar h).mp heq
      exact ⟨pre, post, hts, Or.inl ((TypeToken.small_starts_none (hparts hts).2).mp hnone)⟩
    · obtain ⟨pre, post, hts, rfl, rfl⟩ := (TypeToken.small_eq_append_bar h).mp heq
      exact ⟨pre, post, hts, Or.inr ((TypeToken.small_ends_none (hparts hts).1).mp hnone)⟩
  · rintro ⟨pre, post, hts, hnone⟩
    have heq := (TypeToken.small_eq_append_bar h).mpr ⟨pre, post, hts, rfl, rfl⟩
    rcases hnone with hnone | hnone
    · exact Or.inl ⟨_, _, heq, (TypeToken.small_starts_none (hparts hts).2).mpr hnone⟩
    · exact Or.inr ⟨_, _, heq, (TypeToken.small_ends_none (hparts hts).1).mpr hnone⟩

/-- **What is optional as text.**  A text counts as optional if it begins as an optional type or has
a bar next to the absent value in it. -/
theorem isOptionalText_iff (h : Spells s t ts) (hplain : t.IsPlain) :
    isOptionalText s = true ↔ t.OpensOptional ∨ t.MeetsNone := by
  have hlowered : Text.lowerChars (s.toList.filter (· ≠ ' ')) = ts.flatMap small := by
    rw [Text.lowerChars_of_ascii fun c hc => h.ascii c (List.mem_of_mem_filter hc), ← h.spelled,
      List.map_flatMap]
    rfl
  -- The dot is no sign of these expressions, so the longer form is never found.
  have hdotted : ¬ "typing.optional[".toList <+: ts.flatMap small := by
    intro hbegins
    have hdot : '.' ∈ ts.flatMap small := hbegins.subset (by decide)
    obtain ⟨u, hu, hdot⟩ := List.mem_flatMap.mp hdot
    exact (TypeToken.mem_small (h.typed u hu)).2 hdot
  have hmeets := small_meets_none h.typed
  rw [TypeText.isChain_iff hplain h.writes, not_not] at hmeets
  unfold isOptionalText
  dsimp only
  rw [hlowered, Bool.or_eq_true, Bool.or_eq_true, Bool.or_eq_true, List.isPrefixOf_iff_prefix,
    List.isPrefixOf_iff_prefix, occursIn_iff, occursIn_iff, or_iff_left hdotted, or_assoc,
    TypeToken.small_opens_optional h.typed]
  exact or_congr (TypeText.opensOptional_iff hplain h.writes) hmeets

end FieldType

end RelMap
