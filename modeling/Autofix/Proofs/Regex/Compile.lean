import Autofix.Proofs.Regex.Language
import Autofix.Regex.Program
import Mathlib.Order.Nat

/-!
# Programs and what they match

A program may come from an instruction at a place of a text to accepting in some number of steps
(`Accepts`). The instructions made for an expression lead from their start to where they go on
through exactly what the expression matches (`makes_compile`), so that a program accepts from the
places where its expression has a match (`accepts_ofExpr_iff`).

Constructions are put together as in a program logic: `Makes build P` says what holds of the outcome
of a construction in every code that keeps what the construction has added. A repetition goes back
to an instruction that is still to be filled in while its body is made, and the number of steps is
what an induction over its rounds goes down on.
-/

namespace Autofix.Regex.Program

variable {code : Array Instruction} {n i j next : ℕ} {p q : Spot} {R S U : Spot → Spot → Prop}

/-! ### Running -/

/-- A way from an instruction at a place to accepting, with its number of steps. -/
inductive Accepts (code : Array Instruction) : ℕ → ℕ → Spot → Prop
  | accept {i : ℕ} {p : Spot} (hi : code[i]? = some .accept) : Accepts code 0 i p
  | read {n i next : ℕ} {s : Unicode.CodeSet} {before : Option Char} {c : Char} {cs : List Char}
      (hi : code[i]? = some (.read s next)) (hc : s.contains c)
      (h : Accepts code n next ⟨some c, cs⟩) : Accepts code (n + 1) i ⟨before, c :: cs⟩
  | test {n i next : ℕ} {l : Look} {p : Spot} (hi : code[i]? = some (.test l next))
      (hl : l.holds p.before p.rest.head?) (h : Accepts code n next p) : Accepts code (n + 1) i p
  | save {n i slot next : ℕ} {p : Spot} (hi : code[i]? = some (.save slot next))
      (h : Accepts code n next p) : Accepts code (n + 1) i p
  | first {n i first second : ℕ} {p : Spot} (hi : code[i]? = some (.split first second))
      (h : Accepts code n first p) : Accepts code (n + 1) i p
  | second {n i first second : ℕ} {p : Spot} (hi : code[i]? = some (.split first second))
      (h : Accepts code n second p) : Accepts code (n + 1) i p

/-- From `i` a program comes to accepting exactly by way of `next`, through what a relation says. -/
def Leads (code : Array Instruction) (i next : ℕ) (R : Spot → Spot → Prop) : Prop :=
  (∀ n p, Accepts code n i p → ∃ m ≤ n, ∃ q, R p q ∧ Accepts code m next q) ∧
  ∀ p q, R p q → (∃ m, Accepts code m next q) → ∃ n, Accepts code n i p

theorem Leads.refl (code : Array Instruction) (i : ℕ) : Leads code i i Eq :=
  ⟨fun n p h => ⟨n, Nat.le_refl n, p, rfl, h⟩, by rintro p q rfl h; exact h⟩

theorem Leads.trans (h : Leads code i j R) (h' : Leads code j next S) :
    Leads code i next fun p q => ∃ m, R p m ∧ S m q := by
  constructor
  · intro n p hn
    obtain ⟨m, hm, mid, hR, hmid⟩ := h.1 n p hn
    obtain ⟨k, hk, q, hS, hq⟩ := h'.1 m mid hmid
    exact ⟨k, hk.trans hm, q, ⟨mid, hR, hS⟩, hq⟩
  · rintro p q ⟨mid, hR, hS⟩ hq
    exact h.2 p mid hR (h'.2 mid q hS hq)

theorem Leads.congr (h : Leads code i next R) (hRS : ∀ p q, R p q ↔ S p q) : Leads code i next S := by
  have heq : R = S := funext fun p => funext fun q => propext (hRS p q)
  exact heq ▸ h

theorem leads_read {s : Unicode.CodeSet} (hi : code[i]? = some (.read s next)) :
    Leads code i next (Expr.set s).Matches := by
  constructor
  · intro n p h
    cases h with
    | read hi' hc h =>
      obtain ⟨rfl, rfl⟩ := Instruction.read.inj (Option.some.inj (hi.symm.trans hi'))
      exact ⟨_, Nat.le_succ _, _, ⟨_, hc, rfl, rfl⟩, h⟩
    | _ hi' => cases hi.symm.trans hi'
  · rintro ⟨before, rest⟩ ⟨before', cs⟩ ⟨c, hc, rfl, rfl⟩ ⟨m, h⟩
    exact ⟨m + 1, .read hi hc h⟩

theorem leads_test {l : Look} (hi : code[i]? = some (.test l next)) :
    Leads code i next (Expr.look l).Matches := by
  constructor
  · intro n p h
    cases h with
    | test hi' hl h =>
      obtain ⟨rfl, rfl⟩ := Instruction.test.inj (Option.some.inj (hi.symm.trans hi'))
      exact ⟨_, Nat.le_succ _, p, ⟨hl, rfl⟩, h⟩
    | _ hi' => cases hi.symm.trans hi'
  · rintro p q ⟨hl, rfl⟩ ⟨m, h⟩
    exact ⟨m + 1, .test hi hl h⟩

theorem leads_save {slot : ℕ} (hi : code[i]? = some (.save slot next)) : Leads code i next Eq := by
  constructor
  · intro n p h
    cases h with
    | save hi' h =>
      obtain ⟨rfl, rfl⟩ := Instruction.save.inj (Option.some.inj (hi.symm.trans hi'))
      exact ⟨_, Nat.le_succ _, p, rfl, h⟩
    | _ hi' => cases hi.symm.trans hi'
  · rintro p q rfl ⟨m, h⟩
    exact ⟨m + 1, .save hi h⟩

/-- The steps from a place where a program may go on in two ways. -/
theorem accepts_split {first second : ℕ} (hi : code[i]? = some (.split first second))
    (h : Accepts code n i p) :
    ∃ m < n, Accepts code m first p ∨ Accepts code m second p := by
  cases h with
  | first hi' h =>
    obtain ⟨rfl, rfl⟩ := Instruction.split.inj (Option.some.inj (hi.symm.trans hi'))
    exact ⟨_, Nat.lt_succ_self _, .inl h⟩
  | second hi' h =>
    obtain ⟨rfl, rfl⟩ := Instruction.split.inj (Option.some.inj (hi.symm.trans hi'))
    exact ⟨_, Nat.lt_succ_self _, .inr h⟩
  | _ hi' => cases hi.symm.trans hi'

theorem leads_split {first second : ℕ} (hi : code[i]? = some (.split first second))
    (hfirst : Leads code first next R) (hsecond : Leads code second next S) :
    Leads code i next fun p q => R p q ∨ S p q := by
  constructor
  · intro n p h
    obtain ⟨k, hk, h | h⟩ := accepts_split hi h
    · obtain ⟨m, hm, q, hR, hq⟩ := hfirst.1 k p h
      exact ⟨m, hm.trans hk.le, q, .inl hR, hq⟩
    · obtain ⟨m, hm, q, hS, hq⟩ := hsecond.1 k p h
      exact ⟨m, hm.trans hk.le, q, .inr hS, hq⟩
  · rintro p q (hR | hS) hq
    · obtain ⟨m, h⟩ := hfirst.2 p q hR hq
      exact ⟨m + 1, .first hi h⟩
    · obtain ⟨m, h⟩ := hsecond.2 p q hS hq
      exact ⟨m + 1, .second hi h⟩

/-- Which of its two ways a choice prefers does not matter. -/
theorem leads_choice {greedy : Bool} {more leave : ℕ}
    (hi : code[i]? = some (choice greedy more leave)) (hmore : Leads code more next R)
    (hleave : Leads code leave next S) : Leads code i next fun p q => S p q ∨ R p q := by
  cases greedy with
  | true => exact (leads_split hi hmore hleave).congr fun _ _ => or_comm
  | false => exact leads_split hi hleave hmore

/-- A choice that its body leads back to leads through any number of rounds. -/
theorem leads_again {greedy : Bool} {body : ℕ} (hi : code[i]? = some (choice greedy body next))
    (hbody : Leads code body i R) : Leads code i next fun p q => ∃ n, Rounds R n p q := by
  constructor
  · intro n
    -- On the number of steps: a round of the body leaves fewer of them.
    induction n using Nat.strongRecOn with
    | _ n ih =>
      intro p h
      obtain ⟨k, hk, hbody' | hleave⟩ :
          ∃ m < n, Accepts code m body p ∨ Accepts code m next p := by
        cases greedy with
        | true => exact accepts_split hi h
        | false =>
          obtain ⟨m, hm, h⟩ := accepts_split hi h
          exact ⟨m, hm, h.symm⟩
      · obtain ⟨m, hm, mid, hR, hmid⟩ := hbody.1 k p hbody'
        obtain ⟨m', hm', q, ⟨rounds, hrounds⟩, hq⟩ := ih m (hm.trans_lt hk) mid hmid
        exact ⟨m', hm'.trans (hm.trans hk.le), q,
          ⟨rounds + 1, rounds_succ_iff.2 ⟨mid, hR, hrounds⟩⟩, hq⟩
      · exact ⟨k, hk.le, p, ⟨0, rfl⟩, hleave⟩
  · have hsteps : ∀ p, (∃ n, Accepts code n body p) ∨ (∃ n, Accepts code n next p) →
        ∃ n, Accepts code n i p := by
      rintro p (⟨m, h⟩ | ⟨m, h⟩)
      · cases greedy with
        | true => exact ⟨m + 1, .first hi h⟩
        | false => exact ⟨m + 1, .second hi h⟩
      · cases greedy with
        | true => exact ⟨m + 1, .second hi h⟩
        | false => exact ⟨m + 1, .first hi h⟩
    rintro p q ⟨n, hrounds⟩ hq
    -- On the number of rounds, the first one told apart.
    induction n generalizing p with
    | zero =>
      obtain rfl : p = q := hrounds
      exact hsteps p (.inr hq)
    | succ n ih =>
      obtain ⟨mid, hR, hrounds⟩ := rounds_succ_iff.1 hrounds
      exact hsteps p (.inl (hbody.2 p mid hR (ih mid hrounds)))

/-! ### Constructions -/

/-- A construction adds to a code and leaves what was there; and of its outcome something holds in
    every code that has what was added. -/
structure Makes {α : Type} (build : Build α) (P : Array Instruction → α → Prop) : Prop where
  grows (code : Array Instruction) : code.size ≤ (build code).2.size
  keeps (code : Array Instruction) (j : ℕ) (hj : j < code.size) : (build code).2[j]? = code[j]?
  holds (code big : Array Instruction)
    (hbig : ∀ j, code.size ≤ j → j < (build code).2.size → big[j]? = (build code).2[j]?) :
    P big (build code).1

variable {α β : Type} {P : Array Instruction → α → Prop} {Q : Array Instruction → β → Prop}

theorem Makes.mono {build : Build α} {P' : Array Instruction → α → Prop} (h : Makes build P)
    (hP : ∀ big a, P big a → P' big a) : Makes build P' :=
  ⟨h.grows, h.keeps, fun code big hbig => hP _ _ (h.holds code big hbig)⟩

theorem makes_pure {a : α} (h : ∀ big, P big a) : Makes (pure a) P :=
  ⟨fun _ => Nat.le_refl _, fun _ _ _ => rfl, fun _ big _ => h big⟩

theorem Makes.bind {x : Build α} {f : α → Build β} (hx : Makes x P)
    (hf : ∀ a, Makes (f a) fun big b => P big a → Q big b) : Makes (x >>= f) Q := by
  have hbind : ∀ code, (x >>= f) code = f (x code).1 (x code).2 := fun _ => rfl
  refine ⟨fun code => ?_, fun code j hj => ?_, fun code big hbig => ?_⟩
  · rw [hbind]
    exact (hx.grows code).trans ((hf _).grows _)
  · rw [hbind, (hf _).keeps _ j (hj.trans_le (hx.grows code)), hx.keeps code j hj]
  · rw [hbind] at hbig ⊢
    -- What `x` has added is still there after what follows, so that it is in `big`, too.
    refine (hf _).holds _ big (fun j hj hj' => hbig j ((hx.grows code).trans hj) hj')
      (hx.holds code big fun j hj hj' => ?_)
    rw [hbig j hj (hj'.trans_le ((hf _).grows _)), (hf _).keeps _ j hj']

theorem makes_add (i : Instruction) : Makes (add i) fun big place => big[place]? = some i := by
  have hadd : ∀ code, add i code = (code.size, code.push i) := fun _ => rfl
  refine ⟨fun code => ?_, fun code j hj => ?_, fun code big hbig => ?_⟩
  · simp [hadd]
  · rw [hadd, Array.getElem?_push_lt hj, Array.getElem?_eq_getElem hj]
  · rw [hadd] at hbig ⊢
    rw [hbig code.size (Nat.le_refl _) (by simp), Array.getElem?_push_size]

/-- An instruction that leads somewhere, before a construction of what leads on. -/
theorem makes_add_leads {i : Instruction}
    (h : ∀ big place, big[place]? = some i → Leads big place next R) :
    Makes (add i) fun big place => Leads big place next R :=
  (makes_add i).mono h

/-- An instruction that is filled in after what it is about has been made. -/
theorem makes_patch {f : ℕ → Build α} {g : α → Instruction}
    {P : ℕ → Array Instruction → α → Prop} (hf : ∀ place, Makes (f place) (P place)) :
    Makes (do
        let place ← add .fail
        let a ← f place
        set place (g a)
        return (place, a))
      fun big (place, a) => big[place]? = some (g a) ∧ P place big a := by
  -- What has been made once the instruction is filled in.
  have hrun : ∀ code, (do
      let place ← add .fail
      let a ← f place
      set place (g a)
      return (place, a) : Build (ℕ × α)) code =
        ((code.size, (f code.size (code.push .fail)).1),
          (f code.size (code.push .fail)).2.setIfInBounds code.size
            (g (f code.size (code.push .fail)).1)) := fun _ => rfl
  have hgrows : ∀ code : Array Instruction,
      code.size < (f code.size (code.push .fail)).2.size := fun code => by
    have h := (hf code.size).grows (code.push .fail)
    rwa [Array.size_push] at h
  refine ⟨fun code => ?_, fun code j hj => ?_, fun code big hbig => ?_⟩
  · rw [hrun, Array.size_setIfInBounds]
    exact (hgrows code).le
  · rw [hrun, Array.getElem?_setIfInBounds_ne hj.ne',
      (hf code.size).keeps _ j (by rw [Array.size_push]; exact hj.trans (Nat.lt_succ_self _)),
      Array.getElem?_push_lt hj, Array.getElem?_eq_getElem hj]
  · rw [hrun] at hbig ⊢
    simp only [Array.size_setIfInBounds] at hbig
    constructor
    · rw [hbig code.size (Nat.le_refl _) (hgrows code),
        Array.getElem?_setIfInBounds_self_of_lt (hgrows code)]
    · refine (hf code.size).holds _ big fun j hj hj' => ?_
      rw [Array.size_push] at hj
      rw [hbig j (Nat.le_of_succ_le hj) hj', Array.getElem?_setIfInBounds_ne (by omega)]

/-! ### Repetitions -/

/-- Constructions one before the other lead through one round each. -/
theorem makes_times {once : ℕ → Build ℕ}
    (h : ∀ next, Makes (once next) fun big i => Leads big i next R) (n next : ℕ) :
    Makes (times once n next) fun big i => Leads big i next (Rounds R n) := by
  induction n generalizing next with
  | zero => exact makes_pure fun big => Leads.refl big next
  | succ n ih => exact (h next).bind fun i => (ih i).mono fun big j hj hi => hj.trans hi

/-- Choices one before the other, each of which may leave, lead through up to one round each. -/
theorem makes_times_choice {once : ℕ → Build ℕ}
    (h : ∀ next, Makes (once next) fun big i => Leads big i next R) (greedy : Bool)
    (next n inner k : ℕ) :
    Makes (times (fun inner => do
        let body ← once inner
        add (choice greedy body next)) n inner)
      fun big i => Leads big inner next (Upto R k) → Leads big i next (Upto R (k + n)) := by
  induction n generalizing inner k with
  | zero => exact makes_pure fun big hinner => hinner
  | succ n ih =>
    have hstep : Makes (do
          let body ← once inner
          add (choice greedy body next))
        fun big i => Leads big inner next (Upto R k) → Leads big i next (Upto R (k + 1)) :=
      (h inner).bind fun body => (makes_add _).mono fun big i hi hbody hinner =>
        (leads_choice hi (hbody.trans hinner) (Leads.refl big next)).congr fun _ _ =>
          upto_succ.symm
    refine hstep.bind fun i => (ih i (k + 1)).mono fun big j hj hi hinner => ?_
    have hj' := hj (hi hinner)
    rwa [Nat.add_assoc, Nat.add_comm 1 n] at hj'

/-- What is made for a choice leads on through what one of its branches matches. -/
theorem makes_alt {a b : Expr} (ha : Makes (compile a next) fun big i => Leads big i next a.Matches)
    (hb : Makes (compile b next) fun big i => Leads big i next b.Matches) :
    Makes (compile (.alt a b) next) fun big i => Leads big i next (Expr.alt a b).Matches := by
  -- The two ways, before the choice between them is filled in.
  have hways : ∀ place : ℕ, Makes (do
        let first ← compile a next
        let second ← compile b next
        return (first, second))
      fun big x => Leads big x.1 next a.Matches ∧ Leads big x.2 next b.Matches := fun _ =>
    ha.bind fun first => hb.bind fun second => makes_pure fun big hsecond hfirst =>
      ⟨hfirst, hsecond⟩
  have hpatch := makes_patch (g := fun x : ℕ × ℕ => .split x.1 x.2) hways
  exact hpatch.bind fun x => makes_pure (a := x.1) fun big h => leads_split h.1 h.2.1 h.2.2

section Loop

variable {e : Expr} (h : ∀ next, Makes (compile e next) fun big i => Leads big i next e.Matches)
include h

/-- What is made for a repetition with an upper bound are the rounds that must be, and before them
    choices for those that may be. -/
theorem makes_loop_some (lo hi : ℕ) (greedy : Bool) (next : ℕ) :
    Makes (compile (.loop lo (some hi) greedy e) next)
      fun big i => Leads big i next (Expr.loop lo (some hi) greedy e).Matches := by
  have hoptional := makes_times_choice h greedy next (hi - lo) next 0
  refine hoptional.bind fun rest => (makes_times h lo rest).mono fun big i hi hrest => ?_
  have hnone : Leads big next next (Upto e.Matches 0) :=
    (Leads.refl big next).congr fun p q => upto_zero.symm
  refine (hi.trans (hrest hnone)).congr fun p q => ?_
  constructor
  · rintro ⟨m, hlo, k, hk, hrounds⟩
    refine ⟨lo + k, Nat.le_add_right _ _, fun m' hm' => ?_, rounds_add.2 ⟨m, hlo, hrounds⟩⟩
    obtain rfl := Option.some.inj hm'
    omega
  · rintro ⟨n, hlo, hhi, hrounds⟩
    obtain ⟨k, rfl⟩ := Nat.exists_eq_add_of_le hlo
    obtain ⟨m, hm, hk⟩ := rounds_add.1 hrounds
    have hle := hhi _ rfl
    exact ⟨m, hm, k, by omega, hk⟩

/-- What is made for a repetition without an upper bound is a choice that its body leads back to,
    and before it the rounds that must be, the body being the last one of them. -/
theorem makes_loop_none (lo : ℕ) (greedy : Bool) (next : ℕ) :
    Makes (compile (.loop lo none greedy e) next)
      fun big i => Leads big i next (Expr.loop lo none greedy e).Matches := by
  have hmatches : ∀ p q, (Expr.loop lo none greedy e).Matches p q ↔
      ∃ n, lo ≤ n ∧ Rounds e.Matches n p q := fun p q => by simp [Expr.Matches]
  have hpatch := makes_patch (g := fun body => choice greedy body next) h
  have hcompile : compile (.loop lo none greedy e) next = (do
        let again ← add .fail
        let body ← compile e again
        set again (choice greedy body next)
        return (again, body)) >>= fun x =>
      if lo = 0 then if e.consumes then return x.1 else add (choice greedy x.2 next)
      else times (compile e) (lo - 1) x.2 := rfl
  rw [hcompile]
  refine hpatch.bind fun x => ?_
  obtain ⟨again, body⟩ := x
  -- Rounds from the choice on; before it the body is one more of them.
  have hagain : ∀ {big : Array Instruction}, big[again]? = some (choice greedy body next) ∧
      Leads big body again e.Matches → Leads big again next fun p q =>
        ∃ n, Rounds e.Matches n p q := fun h => leads_again h.1 h.2
  obtain _ | lo := lo
  · by_cases hconsumes : e.consumes
    · simp only [hconsumes, if_true]
      refine makes_pure fun big h => (hagain h).congr fun p q => ?_
      simp [hmatches]
    · simp only [hconsumes, if_true, Bool.false_eq_true, if_false]
      refine (makes_add _).mono fun big i hi h => ?_
      refine (leads_choice hi (h.2.trans (hagain h)) (Leads.refl big next)).congr fun p q => ?_
      simp only [hmatches, Nat.zero_le, true_and]
      exact exists_rounds_iff.symm
  · simp only [Nat.add_one_ne_zero, if_false, Nat.add_one_sub_one]
    refine (makes_times h lo body).mono fun big i hi h => ?_
    refine (hi.trans (h.2.trans (hagain h))).congr fun p q => ?_
    rw [hmatches, exists_rounds_of_le_iff]
    constructor
    · rintro ⟨m, hfirst, last, hlast, hmore⟩
      exact ⟨last, ⟨m, hfirst, hlast⟩, hmore⟩
    · rintro ⟨last, ⟨m, hfirst, hlast⟩, hmore⟩
      exact ⟨m, hfirst, last, hlast, hmore⟩

end Loop

/-! ### Expressions -/

/-- What is made for an expression leads on through what the expression matches. -/
theorem makes_compile (e : Expr) (next : ℕ) :
    Makes (compile e next) fun big i => Leads big i next e.Matches := by
  induction e generalizing next with
  | empty => exact makes_pure fun big => Leads.refl big next
  | set s => exact makes_add_leads fun big place hi => leads_read hi
  | look l => exact makes_add_leads fun big place hi => leads_test hi
  | seq a b iha ihb =>
    exact (ihb next).bind fun i => (iha i).mono fun big j hj hi => hj.trans hi
  | group index e ih =>
    refine (makes_add (.save (2 * index + 1) next)).bind fun close => (ih close).bind fun inner =>
      (makes_add _).mono fun big i hi hinner hclose => ?_
    refine ((leads_save hi).trans (hinner.trans (leads_save hclose))).congr fun p q => ?_
    simp [Expr.Matches]
  | alt a b iha ihb => exact makes_alt (iha next) (ihb next)
  | loop lo hi greedy e ih =>
    cases hi with
    | some hi => exact makes_loop_some ih lo hi greedy next
    | none => exact makes_loop_none ih lo greedy next

/-- The program of an expression accepts from the places where the expression has a match. -/
theorem accepts_ofExpr_iff (e : Expr) (p : Spot) :
    (∃ n, Accepts (ofExpr e).code n (ofExpr e).start p) ↔ ∃ q, e.Matches p q := by
  have hmakes : Makes (do
        let accept ← add .accept
        compile e accept)
      fun big i => ∃ accept, Leads big i accept e.Matches ∧ big[accept]? = some .accept :=
    (makes_add .accept).bind fun accept =>
      (makes_compile e accept).mono fun big i hi haccept => ⟨accept, hi, haccept⟩
  obtain ⟨accept, hleads, haccept⟩ : ∃ accept,
      Leads (ofExpr e).code (ofExpr e).start accept e.Matches ∧
        (ofExpr e).code[accept]? = some .accept :=
    hmakes.holds #[] (ofExpr e).code fun j _ _ => rfl
  constructor
  · rintro ⟨n, h⟩
    obtain ⟨m, -, q, hmatches, -⟩ := hleads.1 n p h
    exact ⟨q, hmatches⟩
  · rintro ⟨q, hmatches⟩
    exact hleads.2 p q hmatches ⟨0, .accept haccept⟩

end Autofix.Regex.Program
