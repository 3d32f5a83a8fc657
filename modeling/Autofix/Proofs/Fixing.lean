import Autofix.Proofs.Fixing.Accepted
import Autofix.Proofs.Fixing.Splice
import Mathlib

/-!
# What fixing comes to

Fixes are applied one after the other, from the end of a text to its start. This is to come to
replacing all of their spans at once, and it does so exactly if no insertion is given before a fix
that takes something away at the same offset (`apply_isAtOnce_iff`). Where one is, it is accepted
first and the other fix right after it, so that the latter takes away what has been inserted.

Whether all replacements can be made is a weaker question: a fix after an insertion at its start
may still end between two characters of the text fixed so far. These are the only places where
fixing may break off (`eachInPlace_iff`).
-/

namespace Autofix.Fixing

variable {content : String} {ds : List Diagnostic}

/-- A text and the applied diagnostics are what replacing the spans of their fixes at once comes to:
    the fixes lie in the text, each ends before the next one starts, and the text is kept between
    them. -/
def IsAtOnce (content : String) (fixed : Fixed) : Prop :=
  ∃ fs : List Fix, fixed.applied.map (·.fix) = fs.map some ∧
    (∀ f ∈ fs, f.fits content.toList) ∧
    fs.IsChain (fun f g => f.span.stop ≤ g.span.start) ∧
    splice? content.toList 0 fs = some fixed.content.toList

/-- Diagnostics that all have a fix, and their fixes. -/
theorem filterMap_fix_eq {fs : List Fix} (h : ds.map (·.fix) = fs.map some) :
    ds.filterMap (·.fix) = fs := by
  have hmap := congrArg (List.filterMap id) h
  rwa [List.filterMap_map, List.filterMap_map, Function.id_comp, Function.id_comp,
    List.filterMap_some] at hmap

theorem fix_of_mem_accept {c : Fixable} (hc : c ∈ accept (candidates content.toList ds)) :
    c.diagnostic.fix = some c.fix ∧ c.fix.fits content.toList :=
  (mem_candidates.1 ((accept_sublist _).subset hc)).2

/-- The fixes of the applied diagnostics. -/
theorem map_fix_applied : (accept (candidates content.toList ds)).map (·.diagnostic.fix) =
    (accept (candidates content.toList ds)).map fun c => some c.fix :=
  List.map_congr_left fun _ hc => (fix_of_mem_accept hc).1

/-- Where insertions come last, fixing does not break off and comes to replacing at once. -/
theorem exists_isAtOnce (h : InsertionsLast (fitting content.toList ds)) :
    ∃ fixed, apply content ds = some fixed ∧ IsAtOnce content fixed ∧
      fixed.applied = ((accept (candidates content.toList ds)).map (·.diagnostic)).reverse := by
  have hdesc := pairwise_accept_iff.2 h
  obtain ⟨out, hsplice, hreplace⟩ := exists_splice? (fun c hc => (fix_of_mem_accept hc).2) hdesc
  have hout : replaceEach content.toList (accept (candidates content.toList ds)) = some out := by
    simpa using hreplace []
  refine ⟨_, by rw [apply, hout, Option.map_some], ⟨_, ?_, ?_, ?_, by rw [hsplice]; simp⟩, rfl⟩
  · rw [List.map_reverse, List.map_map, List.map_reverse, List.map_map]
    exact congrArg List.reverse map_fix_applied
  · intro f hf
    obtain ⟨c, hc, rfl⟩ := List.mem_map.1 (List.mem_reverse.1 hf)
    exact (fix_of_mem_accept hc).2
  · rw [List.isChain_reverse, List.isChain_map]
    exact hdesc.isChain

/-- Fixing comes to replacing the spans of all applied fixes at once exactly if no insertion is
    given before a fix that takes something away at the same offset. -/
theorem apply_isAtOnce_iff (content : String) (ds : List Diagnostic) :
    (∃ fixed, apply content ds = some fixed ∧ IsAtOnce content fixed) ↔
      InsertionsLast (fitting content.toList ds) := by
  constructor
  · rintro ⟨fixed, happly, fs, hfs, -, hchain, -⟩
    rw [apply, Option.map_eq_some_iff] at happly
    obtain ⟨text, -, rfl⟩ := happly
    rw [List.map_reverse, List.map_map, ← List.reverse_inj, List.reverse_reverse,
      ← List.map_reverse] at hfs
    have hmap : (accept (candidates content.toList ds)).map (·.fix) = fs.reverse := by
      apply List.map_injective_iff.2 fun _ _ => Option.some.inj
      rw [List.map_map, ← hfs]
      exact map_fix_applied.symm
    rw [← pairwise_accept_iff]
    refine pairwise_accept_of_isChain ?_
    have hdesc : ((accept (candidates content.toList ds)).map (·.fix)).IsChain
        fun f g => g.span.stop ≤ f.span.start := by
      rw [hmap, List.isChain_reverse]
      exact hchain
    exact (List.isChain_map Fixable.fix).1 hdesc
  · intro h
    obtain ⟨fixed, happly, hfixed, -⟩ := exists_isAtOnce h
    exact ⟨fixed, happly, hfixed⟩

/-- A finding at a span with a fix for it. -/
private def replacing (start stop : Nat) (text : String) : Diagnostic where
  path := ⟨"a.ts"⟩
  ruleId := "rule"
  message := "found"
  span := ⟨start, stop⟩
  loc := none
  severity := .error
  fix := some ⟨⟨start, stop⟩, text⟩

/-- An insertion before a replacement at the same offset is taken away again, in part: one byte of
    the replaced word stays instead. -/
theorem insertion_taken_away : ∃ fixed,
    apply "Hello World" [replacing 0 0 "X", replacing 0 5 "Hi"] = some fixed ∧
      fixed.content = "Hio World" ∧ ¬IsAtOnce "Hello World" fixed := by
  refine ⟨⟨"Hio World", [replacing 0 5 "Hi", replacing 0 0 "X"]⟩, by cbv, rfl, ?_⟩
  rintro ⟨fs, hfs, -, hchain, -⟩
  obtain rfl : [⟨⟨0, 5⟩, "Hi"⟩, ⟨⟨0, 0⟩, "X"⟩] = fs :=
    List.map_injective_iff.2 (fun _ _ => Option.some.inj) hfs
  exact absurd (List.isChain_pair.1 hchain) (by decide)

/-! ### Where fixing breaks off -/

/-- The starts of accepted fixes descend. -/
theorem start_le_of_accept_eq {done rest : List Fixable} {c d : Fixable}
    (h : accept (candidates content.toList ds) = done ++ c :: rest) (hd : d ∈ done) :
    c.fix.span.start ≤ d.fix.span.start := by
  have desc := (pairwise_candidates content.toList ds).sublist (accept_sublist _)
  rw [h, List.pairwise_append] at desc
  exact desc.2.2 d hd c List.mem_cons_self

/-- A fix that lies in a text lies in what replacements behind its start make of it, if its end is a
    boundary there. -/
theorem fits_of_isBoundary {text now : List Char} {cs : List Fixable} {f : Fix}
    (hf : f.fits text) (hcs : ∀ c ∈ cs, f.span.start ≤ c.fix.span.start)
    (h : replaceEach text cs = some now) (hstop : Text.isBoundary now f.span.stop) :
    f.fits now := by
  obtain ⟨before, mid, after, rfl, hsize, hsize'⟩ := Fix.fits_iff.1 hf
  rw [List.append_assoc] at h
  obtain ⟨tail, rfl⟩ := exists_keep (fun c hc => hsize ▸ hcs c hc) h
  have hstart : Text.isBoundary (before ++ tail) f.span.start :=
    Text.isBoundary_iff.2 ⟨before, tail, rfl, hsize⟩
  simp only [Fix.fits, hstart, hstop, Bool.and_true, decide_eq_true_eq]
  omega

/-- The accepted fixes all find their spans, once those find their ends that are not empty and come
    right after an insertion at their start. -/
theorem eachInPlace_of_isBoundary
    (h : ∀ done ins c rest now, accept (candidates content.toList ds) = done ++ ins :: c :: rest →
      ins.fix.span.isEmpty → ¬c.fix.span.isEmpty → c.fix.span.start = ins.fix.span.start →
      replaceEach content.toList (done ++ [ins]) = some now →
      Text.isBoundary now c.fix.span.stop) :
    EachInPlace content.toList (accept (candidates content.toList ds)) := by
  intro done
  -- By induction on the replacements made so far, which end with the one before `c`.
  induction done using List.reverseRecOn with
  | nil =>
    intro c rest hc
    have hmem : c ∈ accept (candidates content.toList ds) := by rw [hc]; simp
    exact ⟨_, rfl, (fix_of_mem_accept hmem).2⟩
  | append_singleton done d ih =>
    intro c rest hcd
    have hmem : c ∈ accept (candidates content.toList ds) := by rw [hcd]; simp
    have hc := (fix_of_mem_accept hmem).2
    rw [List.append_assoc, List.singleton_append] at hcd
    obtain ⟨before, hbefore, hd⟩ := ih d (c :: rest) hcd
    obtain ⟨now, hnow⟩ := Option.isSome_iff_exists.1 (isSome_replace?_iff.2 hd)
    have hdone : replaceEach content.toList (done ++ [d]) = some now := by
      rw [replaceEach_append, hbefore, Option.bind_some, replaceEach, hnow]
      rfl
    have hstart : ∀ e ∈ done ++ [d], d.fix.span.start ≤ e.fix.span.start := by
      intro e he
      rcases List.mem_append.1 he with he | he
      · exact start_le_of_accept_eq hcd he
      · rw [List.mem_singleton.1 he]
    refine ⟨now, hdone, ?_⟩
    rcases List.isChain_iff_forall_rel_of_append_cons_cons.1
      (isChain_accept_candidates content.toList ds) hcd with hle | ⟨hins, hne, heq⟩
    · exact fits_of_replaceEach hc (fun e he => hle.trans (hstart e he)) hdone
    · exact fits_of_isBoundary hc (fun e he => heq.le.trans (hstart e he)) hdone
        (h done d c rest now hcd hins hne heq hdone)

/-! ### Other texts for the same spans -/

/-- A diagnostic with another text for its fix, if it has one. -/
def retext (t : String) (d : Diagnostic) : Diagnostic :=
  { d with fix := d.fix.map fun f => ⟨f.span, t⟩ }

def retextFixable (t : String) (c : Fixable) : Fixable := ⟨retext t c.diagnostic, ⟨c.fix.span, t⟩⟩

theorem candidates_retext (content : List Char) (ds : List Diagnostic) (t : String) :
    candidates content (ds.map (retext t)) = (candidates content ds).map (retextFixable t) := by
  have hfixable : Diagnostic.fixable? ∘ retext t =
      fun d => d.fixable?.map (retextFixable t) := by
    funext d
    cases hd : d.fix <;> simp [Diagnostic.fixable?, retext, retextFixable, hd]
  have hfits : (fun c : Fixable => c.fix.fits content) ∘ retextFixable t =
      fun c => c.fix.fits content := rfl
  rw [candidates, List.filterMap_map, hfixable, ← List.map_filterMap, List.filter_map, hfits,
    candidates]
  refine (List.map_mergeSort (f := retextFixable t) fun a _ b _ => ?_).symm
  rfl

theorem acceptAfter_retext (last? : Option Span) (cs : List Fixable) (t : String) :
    acceptAfter last? (cs.map (retextFixable t)) =
      (acceptAfter last? cs).map (retextFixable t) := by
  induction cs generalizing last? with
  | nil => rfl
  | cons c cs ih =>
    rw [List.map_cons, acceptAfter, acceptAfter, ih, ih]
    split_ifs <;> first | rfl | contradiction

/-- Which fixes are accepted does not depend on their texts. -/
theorem accept_retext (content : List Char) (ds : List Diagnostic) (t : String) :
    accept (candidates content (ds.map (retext t))) =
      (accept (candidates content ds)).map (retextFixable t) := by
  rw [candidates_retext, accept, acceptAfter_retext, accept]

/-- A text of which the part before its last byte is no part, its last character having two. -/
private def spanning (n : Nat) : String := String.ofList (List.replicate n 'a' ++ ['é'])

theorem size_replicate (n : Nat) : Text.size (List.replicate n 'a') = n := by
  induction n with
  | zero => rfl
  | succ n ih =>
    have one : 'a'.utf8Size = 1 := by decide
    rw [List.replicate_succ, Text.size, ih, one, Nat.add_comm]

theorem not_isBoundary_spanning (before after : List Char) (n : Nat) :
    ¬Text.isBoundary (before ++ (spanning n).toList ++ after) (Text.size before + n + 1) := by
  intro h
  obtain ⟨as, bs, hcut, hsize⟩ := Text.isBoundary_iff.1 h
  have hcut' : before ++ List.replicate n 'a' ++ ('é' :: after) = as ++ bs := by
    rw [← hcut]
    simp [spanning]
  have hle : Text.size (before ++ List.replicate n 'a') ≤ Text.size as := by
    rw [Text.size_append, size_replicate]
    omega
  obtain ⟨mid, rfl, hmid⟩ := Text.exists_middle hcut' hle
  rw [Text.size_append, Text.size_append, size_replicate] at hsize
  have two : 'é'.utf8Size = 2 := by decide
  cases mid with
  | nil =>
    simp only [Text.size] at hsize
    omega
  | cons c mid =>
    obtain ⟨rfl, -⟩ := List.cons.inj hmid
    simp only [Text.size, two] at hsize
    omega

/-- After an insertion at its start a fix misses its end for some inserted texts. -/
theorem not_forall_eachInPlace_retext {done rest : List Fixable} {ins c : Fixable}
    (heq : accept (candidates content.toList ds) = done ++ ins :: c :: rest)
    (hins : ins.fix.span.isEmpty) (hne : ¬c.fix.span.isEmpty)
    (hstart : c.fix.span.start = ins.fix.span.start) :
    ¬∀ t, EachInPlace content.toList (accept (candidates content.toList (ds.map (retext t)))) := by
  intro h
  simp only [Span.isEmpty, decide_eq_true_eq] at hins hne
  have hmem : c ∈ accept (candidates content.toList ds) := by rw [heq]; simp
  obtain ⟨before, mid, after, hcut, hbefore, hmid⟩ := Fix.fits_iff.1 (fix_of_mem_accept hmem).2
  have h := h (spanning (Text.size mid - 1))
  rw [accept_retext, heq, List.map_append, List.map_cons, List.map_cons, hcut,
    List.append_assoc] at h
  set t := spanning (Text.size mid - 1) with ht
  obtain ⟨now, hnow, hfits⟩ := h (done.map (retextFixable t) ++ [retextFixable t ins])
    (retextFixable t c) (rest.map (retextFixable t)) (by simp)
  rw [replaceEach_append, Option.bind_eq_some_iff] at hnow
  obtain ⟨kept, hkept, hnow⟩ := hnow
  -- What has been replaced so far lies behind the insertion, which is thus put between `before` and
  -- what follows it.
  have hdone : ∀ d ∈ done.map (retextFixable t), Text.size before ≤ d.fix.span.start := by
    intro d hd
    obtain ⟨e, he, rfl⟩ := List.mem_map.1 hd
    have hle : ins.fix.span.start ≤ e.fix.span.start := start_le_of_accept_eq heq he
    exact hbefore.trans_le (hstart.trans_le hle)
  obtain ⟨tail, rfl⟩ := exists_keep hdone hkept
  have hinsert : replace? (before ++ tail) (retextFixable t ins).fix =
      some (before ++ t.toList ++ tail) :=
    replace?_eq_some_iff.2 ⟨before, [], tail, by simp, hbefore.trans hstart,
      (hbefore.trans hstart).trans hins, rfl⟩
  rw [replaceEach, hinsert] at hnow
  obtain rfl : before ++ t.toList ++ tail = now := Option.some.inj hnow
  simp only [Fix.fits, Bool.and_eq_true] at hfits
  have hstop : (retextFixable t c).fix.span.stop =
      Text.size before + (Text.size mid - 1) + 1 := by
    change c.fix.span.stop = _
    omega
  rw [hstop, ht] at hfits
  exact not_isBoundary_spanning before tail _ hfits.2

/-- The spans alone make sure that fixing does not break off exactly if insertions come last. -/
theorem forall_eachInPlace_retext_iff : (∀ t, EachInPlace content.toList
      (accept (candidates content.toList (ds.map (retext t))))) ↔
    InsertionsLast (fitting content.toList ds) := by
  rw [← pairwise_accept_iff]
  constructor
  · intro h
    refine pairwise_accept_of_forall fun done ins c rest heq hins hstart => ?_
    by_contra hne
    exact not_forall_eachInPlace_retext heq hins hne hstart h
  · intro h t
    rw [accept_retext, ← isSome_replaceEach_iff]
    have hfits : ∀ c ∈ (accept (candidates content.toList ds)).map (retextFixable t),
        c.fix.fits content.toList := fun c hc => by
      obtain ⟨d, hd, rfl⟩ := List.mem_map.1 hc
      exact (fix_of_mem_accept hd).2
    obtain ⟨out, -, hout⟩ := exists_splice? hfits (List.pairwise_map.2 h)
    have := hout []
    rw [List.append_nil] at this
    rw [this]
    rfl

/-! ### The condition -/

/-- Each span lies in the text fixed so far when its turn comes, so that fixing does not break off,
    exactly if that text has a boundary at the end of every fix that takes something away right
    after an insertion at its start. Whatever the replacing texts are, this is so exactly if no
    insertion is given before a fix that takes something away at the same offset. -/
theorem eachInPlace_iff (content : String) (ds : List Diagnostic) :
    ((EachInPlace content.toList (accept (candidates content.toList ds)) ∧
        (apply content ds).isSome) ↔
      ∀ done ins c rest now,
        accept (candidates content.toList ds) = done ++ ins :: c :: rest →
        ins.fix.span.isEmpty → ¬c.fix.span.isEmpty → c.fix.span.start = ins.fix.span.start →
        replaceEach content.toList (done ++ [ins]) = some now →
        Text.isBoundary now c.fix.span.stop) ∧
    ((∀ t, EachInPlace content.toList
        (accept (candidates content.toList (ds.map (retext t))))) ↔
      InsertionsLast (fitting content.toList ds)) := by
  refine ⟨⟨?_, fun h => ?_⟩, forall_eachInPlace_retext_iff⟩
  · rintro ⟨h, -⟩ done ins c rest now hc - - - hnow
    obtain ⟨now', hnow', hfits⟩ := h (done ++ [ins]) c rest (by simpa using hc)
    obtain rfl : now = now' := Option.some.inj (hnow.symm.trans hnow')
    simp only [Fix.fits, Bool.and_eq_true] at hfits
    exact hfits.2
  · have hplace := eachInPlace_of_isBoundary h
    refine ⟨hplace, ?_⟩
    rw [apply, Option.isSome_map]
    exact isSome_replaceEach_iff.2 hplace

/-- A replacement after an insertion at the same offset may end inside a character that has been
    inserted. Both spans lie in the text itself. -/
theorem breaks_off_inside_insertion :
    fitting "ab".toList [replacing 0 0 "é", replacing 0 1 "x"] =
        [⟨⟨0, 0⟩, "é"⟩, ⟨⟨0, 1⟩, "x"⟩] ∧
      apply "ab" [replacing 0 0 "é", replacing 0 1 "x"] = none := by
  constructor <;> cbv

end Autofix.Fixing
