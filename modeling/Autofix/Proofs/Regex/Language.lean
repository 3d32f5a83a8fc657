import Autofix.Regex.Expr
import Mathlib.Data.List.Basic

/-!
# What expressions match

A place in a text is given by the character before it and by the characters after it, as much as a
condition on the place may look at. An expression matches from one place to another one
(`Expr.Matches`). Greed and the numbers of groups say which match is preferred and what is kept of
it, not what is a match.
-/

namespace Autofix.Regex

/-- A place in a text. -/
structure Spot where
  before : Option Char
  rest : List Char
  deriving DecidableEq, Repr

/-! ### Rounds -/

section Rounds

variable {α : Type} {R : α → α → Prop} {p q : α} {a b n : ℕ}

/-- One round of a relation after the other. -/
def Rounds (R : α → α → Prop) : ℕ → α → α → Prop
  | 0, p, q => p = q
  | n + 1, p, q => ∃ m, Rounds R n p m ∧ R m q

/-- Rounds may be counted from the front. -/
theorem rounds_succ_iff : Rounds R (n + 1) p q ↔ ∃ m, R p m ∧ Rounds R n m q := by
  induction n generalizing q with
  | zero =>
    constructor
    · rintro ⟨m, rfl, h⟩
      exact ⟨q, h, rfl⟩
    · rintro ⟨m, h, rfl⟩
      exact ⟨p, rfl, h⟩
  | succ n ih =>
    constructor
    · rintro ⟨m, h, hlast⟩
      obtain ⟨first, hfirst, hrest⟩ := ih.1 h
      exact ⟨first, hfirst, m, hrest, hlast⟩
    · rintro ⟨first, hfirst, m, hrest, hlast⟩
      exact ⟨m, ih.2 ⟨first, hfirst, hrest⟩, hlast⟩

theorem rounds_add :
    Rounds R (a + b) p q ↔ ∃ m, Rounds R a p m ∧ Rounds R b m q := by
  induction b generalizing q with
  | zero => exact ⟨fun h => ⟨q, h, rfl⟩, by rintro ⟨m, h, rfl⟩; exact h⟩
  | succ b ih =>
    constructor
    · rintro ⟨last, h, hlast⟩
      obtain ⟨m, ha, hb⟩ := ih.1 h
      exact ⟨m, ha, last, hb, hlast⟩
    · rintro ⟨m, ha, last, hb, hlast⟩
      exact ⟨last, ih.2 ⟨m, ha, hb⟩, hlast⟩

/-- Any number of rounds are none, or a first one and any number of further ones. -/
theorem exists_rounds_iff :
    (∃ n, Rounds R n p q) ↔ p = q ∨ ∃ m, R p m ∧ ∃ n, Rounds R n m q := by
  constructor
  · rintro ⟨_ | n, h⟩
    · exact .inl h
    · obtain ⟨m, hfirst, hrest⟩ := rounds_succ_iff.1 h
      exact .inr ⟨m, hfirst, n, hrest⟩
  · rintro (rfl | ⟨m, hfirst, n, hrest⟩)
    · exact ⟨0, rfl⟩
    · exact ⟨n + 1, rounds_succ_iff.2 ⟨m, hfirst, hrest⟩⟩

/-- At least `a` rounds are `a` of them and any number of further ones. -/
theorem exists_rounds_of_le_iff :
    (∃ n, a ≤ n ∧ Rounds R n p q) ↔ ∃ m, Rounds R a p m ∧ ∃ n, Rounds R n m q := by
  constructor
  · rintro ⟨n, hle, h⟩
    obtain ⟨k, rfl⟩ := Nat.exists_eq_add_of_le hle
    obtain ⟨m, ha, hk⟩ := rounds_add.1 h
    exact ⟨m, ha, k, hk⟩
  · rintro ⟨m, ha, k, hk⟩
    exact ⟨a + k, Nat.le_add_right _ _, rounds_add.2 ⟨m, ha, hk⟩⟩

/-- At most `a` rounds of a relation. -/
def Upto (R : α → α → Prop) (a : ℕ) (p q : α) : Prop := ∃ n ≤ a, Rounds R n p q

theorem upto_zero : Upto R 0 p q ↔ p = q := by simp [Upto, Rounds]

theorem upto_succ : Upto R (a + 1) p q ↔ p = q ∨ ∃ m, R p m ∧ Upto R a m q := by
  constructor
  · rintro ⟨_ | n, hle, h⟩
    · exact .inl h
    · obtain ⟨m, hfirst, hrest⟩ := rounds_succ_iff.1 h
      exact .inr ⟨m, hfirst, n, Nat.le_of_succ_le_succ hle, hrest⟩
  · rintro (rfl | ⟨m, hfirst, n, hle, hrest⟩)
    · exact ⟨0, Nat.zero_le _, rfl⟩
    · exact ⟨n + 1, Nat.succ_le_succ hle, rounds_succ_iff.2 ⟨m, hfirst, hrest⟩⟩

end Rounds

/-! ### Matching -/

namespace Expr

/-- Whether an expression matches from one place to another one. A repetition whose bounds are the
    wrong way around has as many rounds as the lower one says. -/
def Matches : Expr → Spot → Spot → Prop
  | empty, p, q => p = q
  | set s, p, q => ∃ c, s.contains c ∧ p.rest = c :: q.rest ∧ q.before = some c
  | look l, p, q => l.holds p.before p.rest.head? ∧ p = q
  | seq a b, p, q => ∃ m, a.Matches p m ∧ b.Matches m q
  | alt a b, p, q => a.Matches p q ∨ b.Matches p q
  | loop lo hi _ e, p, q => ∃ n, lo ≤ n ∧ (∀ m ∈ hi, n ≤ max lo m) ∧ Rounds e.Matches n p q
  | group _ e, p, q => e.Matches p q

/-! ### What is left of a text -/

/-- An expression takes a part off the front of a text: it matches if and only if a relation holds
    between what follows one place and what follows the other one. -/
def Takes (e : Expr) (T : List Char → List Char → Prop) : Prop :=
  ∀ p rest, (∃ before, e.Matches p ⟨before, rest⟩) ↔ T p.rest rest

variable {e a b : Expr} {T U : List Char → List Char → Prop}

theorem Takes.congr (h : e.Takes T) (hTU : ∀ text rest, T text rest ↔ U text rest) : e.Takes U :=
  fun p rest => (h p rest).trans (hTU p.rest rest)

theorem takes_empty : empty.Takes Eq := fun p rest =>
  ⟨by rintro ⟨before, rfl⟩; rfl, by rintro rfl; exact ⟨p.before, rfl⟩⟩

theorem takes_set (s : Unicode.CodeSet) :
    (set s).Takes fun text rest => ∃ c, s.contains c ∧ text = c :: rest := fun p rest =>
  ⟨by rintro ⟨before, c, hc, htext, -⟩; exact ⟨c, hc, htext⟩,
    by rintro ⟨c, hc, htext⟩; exact ⟨some c, c, hc, htext, rfl⟩⟩

theorem takes_textEnd : (look .textEnd).Takes fun text rest => text = [] ∧ rest = [] := by
  rintro ⟨before, text⟩ rest
  constructor
  · rintro ⟨before', hend, heq⟩
    obtain ⟨rfl, rfl⟩ := Spot.mk.inj heq
    cases text with
    | nil => exact ⟨rfl, rfl⟩
    | cons c cs => simp [Look.holds] at hend
  · rintro ⟨rfl, rfl⟩
    exact ⟨before, rfl, rfl⟩

theorem Takes.seq (ha : a.Takes T) (hb : b.Takes U) :
    (seq a b).Takes fun text rest => ∃ mid, T text mid ∧ U mid rest := by
  intro p rest
  constructor
  · rintro ⟨before, m, hfirst, hsecond⟩
    exact ⟨m.rest, (ha p m.rest).1 ⟨m.before, hfirst⟩, (hb m rest).1 ⟨before, hsecond⟩⟩
  · rintro ⟨mid, hfirst, hsecond⟩
    -- Whatever stands before the place where `a` ends, `b` matches from there.
    obtain ⟨between, hfirst⟩ := (ha p mid).2 hfirst
    obtain ⟨before, hsecond⟩ := (hb ⟨between, mid⟩ rest).2 hsecond
    exact ⟨before, ⟨between, mid⟩, hfirst, hsecond⟩

theorem Takes.alt (ha : a.Takes T) (hb : b.Takes U) :
    (alt a b).Takes fun text rest => T text rest ∨ U text rest := fun p rest =>
  exists_or.trans (or_congr (ha p rest) (hb p rest))

theorem Takes.group (h : e.Takes T) (index : ℕ) : (group index e).Takes T := h

theorem Takes.rounds (h : e.Takes T) (n : ℕ) (p : Spot) (rest : List Char) :
    (∃ before, Rounds e.Matches n p ⟨before, rest⟩) ↔ Rounds T n p.rest rest := by
  induction n generalizing rest with
  | zero => exact takes_empty p rest
  | succ n ih =>
    constructor
    · rintro ⟨before, m, hrounds, hlast⟩
      exact ⟨m.rest, (ih m.rest).1 ⟨m.before, hrounds⟩, (h m rest).1 ⟨before, hlast⟩⟩
    · rintro ⟨mid, hrounds, hlast⟩
      obtain ⟨between, hrounds⟩ := (ih mid).2 hrounds
      obtain ⟨before, hlast⟩ := (h ⟨between, mid⟩ rest).2 hlast
      exact ⟨before, ⟨between, mid⟩, hrounds, hlast⟩

theorem Takes.loop (h : e.Takes T) (lo : ℕ) (hi : Option ℕ) (greedy : Bool) :
    (loop lo hi greedy e).Takes fun text rest =>
      ∃ n, lo ≤ n ∧ (∀ m ∈ hi, n ≤ max lo m) ∧ Rounds T n text rest := by
  intro p rest
  constructor
  · rintro ⟨before, n, hlo, hhi, hrounds⟩
    exact ⟨n, hlo, hhi, (h.rounds n p rest).1 ⟨before, hrounds⟩⟩
  · rintro ⟨n, hlo, hhi, hrounds⟩
    obtain ⟨before, hrounds⟩ := (h.rounds n p rest).2 hrounds
    exact ⟨before, n, hlo, hhi, hrounds⟩

end Expr

/-- Rounds of a single character take a run of such characters. -/
theorem rounds_set_iff {P : Char → Prop} {n : ℕ} {text rest : List Char} :
    Rounds (fun text rest => ∃ c, P c ∧ text = c :: rest) n text rest ↔
      ∃ run : List Char, run.length = n ∧ (∀ c ∈ run, P c) ∧ text = run ++ rest := by
  induction n generalizing text with
  | zero =>
    constructor
    · rintro rfl
      exact ⟨[], rfl, List.forall_mem_nil _, rfl⟩
    · rintro ⟨run, hlength, -, rfl⟩
      rw [List.length_eq_zero_iff.1 hlength]
      rfl
  | succ n ih =>
    rw [rounds_succ_iff]
    constructor
    · rintro ⟨mid, ⟨c, hc, rfl⟩, hrounds⟩
      obtain ⟨run, hlength, hrun, rfl⟩ := ih.1 hrounds
      exact ⟨c :: run, by rw [List.length_cons, hlength], List.forall_mem_cons.2 ⟨hc, hrun⟩, rfl⟩
    · rintro ⟨_ | ⟨c, run⟩, hlength, hrun, rfl⟩
      · cases hlength
      · obtain ⟨hc, hrun⟩ := List.forall_mem_cons.1 hrun
        exact ⟨run ++ rest, ⟨c, hc, rfl⟩, ih.2 ⟨run, Nat.succ.inj hlength, hrun, rfl⟩⟩

end Autofix.Regex
