import Autofix.Proofs.Regex.Preferred
import Autofix.Proofs.Regex.Reading
import Autofix.Regex
import Autofix.Traced
import Mathlib.Tactic.SplitIfs

/-!
# Groups are numbered from one

The capturing groups of a pattern are counted while it is read, the first one as number one. So the
slots 0 and 1 of a search, in which a match as a whole is kept, are none that the program of a
pattern saves a place in (`Regex.savesGroups_of_read?`).

Each of the stages from the text of a pattern to its program keeps this: what is read has numbered
groups (`Tree.Numbered`), so has what it means (`Expr.Numbered`), and a construction adds nothing
else to a code in which only such places are saved (`Program.SavesOnly`).
-/

namespace Autofix.Regex

/-! ### Reading -/

/-- Whether all capturing groups of a tree have numbers from one on. -/
inductive Tree.Numbered : Tree → Prop
  | empty : Numbered .empty
  | flags (settings : List FlagSetting) : Numbered (.flags settings)
  | primitive (p : Primitive) : Numbered p.tree
  | set (negated : Bool) (inner : ClassTree) : Numbered (.set negated inner)
  | repetition {min : ℕ} {max : Option ℕ} {greedy : Bool} {inner : Tree} (h : inner.Numbered) :
      Numbered (.repetition min max greedy inner)
  | capture {index : ℕ} {inner : Tree} (hindex : index ≠ 0) (h : inner.Numbered) :
      Numbered (.capture index inner)
  | group {settings : List FlagSetting} {inner : Tree} (h : inner.Numbered) :
      Numbered (.group settings inner)
  | alternation {branches : List Tree} (h : ∀ t ∈ branches, t.Numbered) :
      Numbered (.alternation branches)
  | sequence {items : List Tree} (h : ∀ t ∈ items, t.Numbered) : Numbered (.sequence items)

namespace Parse

variable {α β : Type} {x : Parse α} {P : α → Prop} {Q : β → Prop}

/-- What holds of everything that a step of reading may come to. -/
def Yields (x : Parse α) (P : α → Prop) : Prop := ∀ s a s', x s = .ok (a, s') → P a

theorem yields_true (x : Parse α) : x.Yields fun _ => True := fun _ _ _ _ => trivial

theorem yields_pure {a : α} (h : P a) : Yields (pure a) P := by
  rintro s b s' heq
  obtain ⟨rfl, -⟩ := Prod.mk.inj (Except.ok.inj heq)
  exact h

theorem yields_fail (f : Flaw) : Yields (fail f) P := by
  rintro s a s' heq
  cases heq

theorem Yields.bind {f : α → Parse β} (hx : x.Yields P) (hf : ∀ a, P a → (f a).Yields Q) :
    Yields (x >>= f) Q := by
  intro s b s' h
  rw [bind_apply] at h
  cases hx' : x s with
  | error e =>
    rw [hx'] at h
    cases h
  | ok r =>
    rw [hx'] at h
    exact hf r.1 (hx s r.1 r.2 hx') r.2 b s' h

/-- A step that nothing has to be known of. -/
theorem Yields.after {f : α → Parse β} (hf : ∀ a, (f a).Yields Q) : Yields (x >>= f) Q :=
  x.yields_true.bind fun a _ => hf a

/-- A step that fails on some condition. -/
theorem yields_unless {c : Prop} [Decidable c] {f : Flaw} {x : Unit → Parse β}
    (hx : (x ()).Yields Q) : Yields (if c then fail f >>= x else x ()) Q := by
  split_ifs
  · exact (yields_fail f (P := fun _ => False)).bind fun _ h => h.elim
  · exact hx

theorem yields_ite {c : Prop} [Decidable c] {y : Parse α} (hx : c → x.Yields P)
    (hy : ¬c → y.Yields P) : Yields (if c then x else y) P := by
  split_ifs with h
  · exact hx h
  · exact hy h

end Parse

open Parse

/-- The number of a group that an opening starts. -/
def Opening.Numbered : Opening → Prop
  | .capture index => index ≠ 0
  | _ => True

theorem opening_yields : opening.Yields Opening.Numbered := by
  have hnext : nextGroup.Yields (· ≠ 0) :=
    .after fun s => .after fun _ => yields_pure (Nat.succ_ne_zero _)
  unfold opening
  dsimp only
  refine .after fun _ => .after fun _ => .after fun _ => .after fun _ => .after fun _ =>
    .after fun _ => yields_unless (.after fun _ => .after fun _ => yields_ite (fun _ => ?_) fun _ =>
      .after fun _ => yields_ite (fun _ => ?_) fun _ => ?_)
  · -- A group with a name.
    exact hnext.bind fun index hindex => .after fun _ => .after fun _ => yields_unless <|
      .after fun _ => yields_unless <| .after fun _ => yields_pure hindex
  · -- Flags.
    refine .after fun _ => yields_unless <| .after fun _ => .after fun r => .after fun _ =>
      .after fun _ => yields_ite (fun _ => yields_unless <| yields_pure trivial) fun _ =>
        yields_pure trivial
  · exact hnext.bind fun index hindex => yields_pure hindex

theorem repeatable_yields {items : List Tree} (h : ∀ t ∈ items, t.Numbered) :
    (repeatable items).Yields fun r => r.1.Numbered ∧ ∀ t ∈ r.2, t.Numbered := by
  unfold repeatable
  split
  · exact yields_fail _
  · exact yields_fail _
  · exact yields_fail _
  · exact yields_pure ⟨h _ List.mem_cons_self, fun t ht => h t (List.mem_cons_of_mem _ ht)⟩

theorem counted_yields {items : List Tree} (h : ∀ t ∈ items, t.Numbered) :
    (counted items).Yields fun items => ∀ t ∈ items, t.Numbered := by
  unfold counted
  refine (repeatable_yields h).bind fun ⟨t, ts⟩ ⟨ht, hts⟩ => .after fun _ => .after fun start => ?_
  -- However the numbers are written, what is read in the end is a repetition of `t`.
  extract_lets close upTo counts digits
  have hclose : ∀ r, (close r).Yields fun items => ∀ t ∈ items, t.Numbered := by
    rintro ⟨min, max⟩
    exact .after fun _ => yields_unless <| .after fun _ => .after fun _ => .after fun _ =>
      yields_unless <| yields_pure <| List.forall_mem_cons.2 ⟨.repetition ht, hts⟩
  have hupTo : ∀ lo, (upTo lo).Yields fun items => ∀ t ∈ items, t.Numbered := by
    refine fun lo => .after fun hi => ?_
    split <;> exact .after hclose
  clear_value close upTo
  have hcounts : ∀ r, (counts r).Yields fun items => ∀ t ∈ items, t.Numbered := by
    rintro ⟨first, after⟩
    refine .after fun _ => .after fun c => ?_
    split
    · refine yields_ite (fun _ => .after fun _ => yields_ite (fun _ => .after fun _ =>
        .after hclose) fun _ => ?_) fun _ => .after fun _ => .after hclose
      split <;> exact .after hupTo
    · exact yields_fail _
  clear_value counts
  split
  · exact .after hcounts
  · split <;> exact .after hcounts

theorem Tree.Numbered.ofItems {items : List Tree} (h : ∀ t ∈ items, t.Numbered) :
    (Tree.ofItems items).Numbered := by
  unfold Tree.ofItems
  split
  · exact .empty
  · exact h _ List.mem_cons_self
  · exact .sequence h

theorem Tree.Numbered.ofBranches {items : List Tree} (h : ∀ t ∈ items, t.Numbered) :
    (Tree.ofBranches items).Numbered := by
  unfold Tree.ofBranches
  split
  · exact h _ List.mem_cons_self
  · exact .alternation h

theorem branches_yields (fuel : ℕ) {done items : List Tree} (hdone : ∀ t ∈ done, t.Numbered)
    (hitems : ∀ t ∈ items, t.Numbered) : (branches fuel done items).Yields Tree.Numbered := by
  induction fuel generalizing done items with
  | zero =>
    rw [branches]
    exact yields_fail _
  | succ fuel ih =>
    have hmore : ∀ {t}, t.Numbered → (branches fuel done (t :: items)).Yields Tree.Numbered :=
      fun ht => ih hdone (List.forall_mem_cons.2 ⟨ht, hitems⟩)
    have hbranch : ∀ t ∈ Tree.ofItems items.reverse :: done, t.Numbered :=
      List.forall_mem_cons.2 ⟨.ofItems fun t ht => hitems t (List.mem_reverse.1 ht), hdone⟩
    have hinner : (branches fuel [] []).Yields Tree.Numbered :=
      ih (List.forall_mem_nil _) (List.forall_mem_nil _)
    have hsuffix : ∀ min max, (branches.suffix fuel done items min max).Yields Tree.Numbered := by
      intro min max
      unfold branches.suffix
      refine (repeatable_yields hitems).bind ?_
      rintro ⟨t, ts⟩ ⟨ht, hts⟩
      exact .after fun _ => .after fun _ =>
        ih hdone (List.forall_mem_cons.2 ⟨.repetition ht, hts⟩)
    rw [branches]
    refine .after fun _ => ?_
    extract_lets finish
    refine .after fun c => ?_
    split
    · exact yields_pure (.ofBranches fun t ht => hbranch t (List.mem_reverse.1 ht))
    · exact yields_pure (.ofBranches fun t ht => hbranch t (List.mem_reverse.1 ht))
    · refine .after fun s => opening_yields.bind fun start hstart => ?_
      -- Whatever is read inside a group is read with nothing before it.
      split
      · extract_lets more
        have hgo : ∀ u, (more u).Yields Tree.Numbered := fun _ => hmore (.flags _)
        clear_value more
        split
        · exact .after hgo
        · exact hgo ()
      · exact hinner.bind fun inner hinner => .after fun _ => yields_unless <| .after fun _ =>
          .after fun _ => hmore (.capture hstart hinner)
      · exact .after fun _ => hinner.bind fun inner hinner => .after fun _ => yields_unless <|
          .after fun _ => .after fun _ => hmore (.group hinner)
    · exact .after fun _ => ih hbranch (List.forall_mem_nil _)
    · exact .after fun _ => .after fun _ => hmore (.set _ _)
    · exact hsuffix _ _
    · exact hsuffix _ _
    · exact hsuffix _ _
    · exact (counted_yields hitems).bind fun items hitems => ih hdone hitems
    · exact .after fun p => hmore (.primitive p)

/-- The tree of a pattern has numbered groups. -/
theorem Parsed.numbered_of_ofText? {pattern : String} {parsed : Parsed}
    (h : Parsed.ofText? pattern = .ok parsed) : parsed.tree.Numbered := by
  rw [Parsed.ofText?, bind_eq_ok_iff] at h
  obtain ⟨⟨tree, s⟩, hread, h⟩ := h
  have hnumbered := branches_yields _ (List.forall_mem_nil _) (List.forall_mem_nil _) _ _ _ hread
  dsimp only at h
  split_ifs at h
  · cases h
  · cases h
  · cases h
  · obtain rfl := Except.ok.inj h
    exact hnumbered

/-! ### Meaning -/

/-- Whether all groups of an expression have numbers from one on. -/
def Expr.Numbered : Expr → Prop
  | .empty | .set _ | .look _ => True
  | .seq a b => a.Numbered ∧ b.Numbered
  | .alt a b => a.Numbered ∧ b.Numbered
  | .loop _ _ _ e => e.Numbered
  | .group index e => index ≠ 0 ∧ e.Numbered

theorem Expr.Numbered.repeated {e : Expr} (h : e.Numbered) (min : ℕ) (max : Option ℕ)
    (greedy : Bool) : (Expr.repeated min max greedy e).Numbered := by
  unfold Expr.repeated
  split
  split_ifs
  · trivial
  · exact h
  · exact h

section Meaning

variable {f f' : Flags} {e : Expr} {t : Tree} {ts : List Tree}

/-- What leaves the flags as they are. -/
theorem numbered_of_map {α : Type} {x : Except Flaw α} {g : α → Expr}
    (hx : ∀ a, x = .ok a → (g a).Numbered) (h : (x.map fun a => (g a, f)) = .ok (e, f')) :
    e.Numbered := by
  cases x with
  | error _ => cases h
  | ok a =>
    obtain ⟨rfl, -⟩ := Prod.mk.inj (Except.ok.inj h)
    exact hx a rfl

theorem numbered_of_literalExpr {l : Literal} (h : literalExpr f l = .ok e) : e.Numbered := by
  unfold literalExpr at h
  split_ifs at h <;> cases h <;> trivial

theorem numbered_of_dotExpr (h : dotExpr f = .ok e) : e.Numbered := by
  unfold dotExpr at h
  split_ifs at h <;> cases h <;> trivial

theorem numbered_of_primitive {p : Primitive} (h : p.tree.meaning f = .ok (e, f')) :
    e.Numbered := by
  cases p with
  | literal l =>
    rw [Primitive.tree, Tree.meaning] at h
    exact numbered_of_map (fun _ => numbered_of_literalExpr) h
  | dot =>
    rw [Primitive.tree, Tree.meaning] at h
    exact numbered_of_map (fun _ => numbered_of_dotExpr) h
  | anchor a =>
    rw [Primitive.tree, Tree.meaning] at h
    obtain ⟨rfl, -⟩ := Prod.mk.inj (Except.ok.inj h)
    trivial
  | property | shorthand =>
    rw [Primitive.tree, Tree.meaning] at h
    exact numbered_of_map (g := .set) (fun _ _ => trivial) h

/-- Branches and parts, which are put together in a way of their own each. -/
theorem numbered_of_joined (join : Expr → Expr → Expr)
    {joined : Flags → List Tree → Except Flaw (Expr × Flags)}
    (hjoin : ∀ a b, a.Numbered → b.Numbered → (join a b).Numbered)
    (hnil : ∀ f, joined f [] = .ok (.empty, f)) (hone : ∀ f t, joined f [t] = t.meaning f)
    (hmore : ∀ f t t' ts, joined f (t :: t' :: ts) = do
      let (a, f) ← t.meaning f
      let (b, f) ← joined f (t' :: ts)
      return (join a b, f))
    (hts : ∀ t ∈ ts, ∀ f e f', t.meaning f = .ok (e, f') → e.Numbered)
    (h : joined f ts = .ok (e, f')) : e.Numbered := by
  induction ts generalizing f e f' with
  | nil =>
    obtain ⟨rfl, -⟩ := Prod.mk.inj (Except.ok.inj ((hnil f).symm.trans h))
    trivial
  | cons t ts ih =>
    obtain ⟨ht, hts⟩ := List.forall_mem_cons.1 hts
    cases ts with
    | nil => exact ht _ _ _ ((hone f t).symm.trans h)
    | cons t' ts =>
      rw [hmore, bind_eq_ok_iff] at h
      obtain ⟨⟨a, f₁⟩, ha, h⟩ := h
      obtain ⟨⟨b, f₂⟩, hb, h⟩ := bind_eq_ok_iff.1 h
      obtain ⟨rfl, -⟩ := Prod.mk.inj (Except.ok.inj h)
      exact hjoin a b (ht _ _ _ ha) (ih hts hb)

/-- What a tree means has numbered groups, if the tree has. -/
theorem Tree.Numbered.meaning (ht : t.Numbered) (h : t.meaning f = .ok (e, f')) : e.Numbered := by
  induction ht generalizing f e f' with
  | empty | flags =>
    rw [Tree.meaning] at h
    obtain ⟨rfl, -⟩ := Prod.mk.inj (Except.ok.inj h)
    trivial
  | primitive => exact numbered_of_primitive h
  | set negated inner =>
    rw [Tree.meaning, bind_eq_ok_iff] at h
    obtain ⟨s, -, h⟩ := h
    obtain ⟨s', -, h⟩ := bind_eq_ok_iff.1 h
    obtain ⟨rfl, -⟩ := Prod.mk.inj (Except.ok.inj h)
    trivial
  | repetition _ ih =>
    rw [Tree.meaning, bind_eq_ok_iff] at h
    obtain ⟨⟨a, f₁⟩, ha, h⟩ := h
    obtain ⟨rfl, -⟩ := Prod.mk.inj (Except.ok.inj h)
    exact (ih ha).repeated _ _ _
  | capture hindex _ ih =>
    rw [Tree.meaning, bind_eq_ok_iff] at h
    obtain ⟨⟨a, f₁⟩, ha, h⟩ := h
    obtain ⟨rfl, -⟩ := Prod.mk.inj (Except.ok.inj h)
    exact ⟨hindex, ih ha⟩
  | group _ ih =>
    rw [Tree.meaning, bind_eq_ok_iff] at h
    obtain ⟨⟨a, f₁⟩, ha, h⟩ := h
    obtain ⟨rfl, -⟩ := Prod.mk.inj (Except.ok.inj h)
    exact ih ha
  | alternation _ ih =>
    rw [Tree.meaning] at h
    exact numbered_of_joined .alt (fun _ _ ha hb => ⟨ha, hb⟩) (fun _ => rfl)
      (fun _ _ => rfl) (fun _ _ _ _ => rfl) (fun t ht _ _ _ => ih t ht) h
  | sequence _ ih =>
    rw [Tree.meaning] at h
    exact numbered_of_joined .seq (fun _ _ ha hb => ⟨ha, hb⟩) (fun _ => rfl)
      (fun _ _ => rfl) (fun _ _ _ _ => rfl) (fun t ht _ _ _ => ih t ht) h

end Meaning

/-! ### Programs -/

/-- Whether an instruction saves places of groups only. -/
def Instruction.InGroups : Instruction → Prop
  | .save slot _ => slot ≠ 0 ∧ slot ≠ 1
  | _ => True

namespace Program

variable {α β : Type}

/-- A construction that adds nothing but instructions that save places of groups only. -/
def AddsInGroups (build : Build α) : Prop :=
  ∀ code : Array Instruction, (∀ i ∈ code, i.InGroups) → ∀ i ∈ (build code).2, i.InGroups

theorem addsInGroups_pure (a : α) : AddsInGroups (pure a : Build α) := fun _ h => h

theorem AddsInGroups.bind {x : Build α} {f : α → Build β} (hx : AddsInGroups x)
    (hf : ∀ a, AddsInGroups (f a)) : AddsInGroups (x >>= f) :=
  fun code h => hf _ _ (hx code h)

theorem addsInGroups_add {i : Instruction} (hi : i.InGroups) : AddsInGroups (add i) := by
  intro code h j hj
  rcases Array.mem_push.1 hj with hj | rfl
  · exact h j hj
  · exact hi

theorem addsInGroups_set (place : ℕ) {i : Instruction} (hi : i.InGroups) :
    AddsInGroups (set place i) := by
  intro code h j hj
  rcases Array.mem_or_eq_of_mem_setIfInBounds hj with hj | rfl
  · exact h j hj
  · exact hi

theorem addsInGroups_times {build : ℕ → Build ℕ} (h : ∀ next, AddsInGroups (build next))
    (n next : ℕ) : AddsInGroups (times build n next) := by
  induction n generalizing next with
  | zero => exact addsInGroups_pure _
  | succ n ih => exact (h next).bind ih

theorem inGroups_choice (greedy : Bool) (more leave : ℕ) :
    (choice greedy more leave).InGroups := by
  cases greedy <;> trivial

theorem addsInGroups_compile {e : Expr} (h : e.Numbered) (next : ℕ) :
    AddsInGroups (compile e next) := by
  induction e generalizing next with
  | empty => exact addsInGroups_pure _
  | set | look => exact addsInGroups_add trivial
  | seq a b iha ihb => exact (ihb h.2 next).bind (iha h.1)
  | alt a b iha ihb =>
    exact (addsInGroups_add (i := .fail) trivial).bind fun _ => (iha h.1 next).bind fun _ =>
      (ihb h.2 next).bind fun _ => (addsInGroups_set (i := .split _ _) _ trivial).bind fun _ =>
        addsInGroups_pure _
  | group index e ih =>
    -- With a number from one on, a group saves at neither of the places of the whole match.
    obtain ⟨hindex, h⟩ := h
    have hclose : (Instruction.save (2 * index + 1) next).InGroups := ⟨by omega, by omega⟩
    have hopen : ∀ inner, (Instruction.save (2 * index) inner).InGroups :=
      fun _ => ⟨by omega, by omega⟩
    exact (addsInGroups_add hclose).bind fun _ => (ih h _).bind fun _ =>
      addsInGroups_add (hopen _)
  | loop min max greedy e ih =>
    cases max with
    | some max =>
      exact (addsInGroups_times (fun _ => (ih h _).bind fun _ =>
        addsInGroups_add (inGroups_choice ..)) _ _).bind fun _ => addsInGroups_times (ih h) _ _
    | none =>
      rw [compile]
      refine (addsInGroups_add (i := .fail) trivial).bind fun again => (ih h again).bind fun body =>
        (addsInGroups_set _ (inGroups_choice ..)).bind fun _ => ?_
      split_ifs
      · exact addsInGroups_pure _
      · exact addsInGroups_add (inGroups_choice ..)
      · exact addsInGroups_times (ih h) _ _

theorem savesGroups_ofExpr {e : Expr} (h : e.Numbered) : (ofExpr e).SavesGroups := by
  have hadds : AddsInGroups (do compile e (← add .accept)) :=
    (addsInGroups_add (i := .accept) trivial).bind (addsInGroups_compile h)
  intro i slot next hi
  exact hadds #[] (by simp) _ (Array.mem_of_getElem? hi)

end Program

/-- The program of a pattern saves places of its groups only. -/
theorem savesGroups_of_read? {flags : Flags} {pattern : String} {r : Regex}
    (h : read? flags pattern = .ok r) : r.program.SavesGroups := by
  rw [read?, bind_eq_ok_iff] at h
  obtain ⟨parsed, hparsed, h⟩ := h
  obtain ⟨⟨e, f⟩, he, h⟩ := bind_eq_ok_iff.1 h
  dsimp only at h
  split_ifs at h
  · cases h
  · obtain rfl := Except.ok.inj h
    exact Program.savesGroups_ofExpr ((Parsed.numbered_of_ofText? hparsed).meaning he)

end Autofix.Regex
