import Autofix.Proofs.Disk.Rewriting
import Autofix.Proofs.Fixing.Selection
import Autofix.Proofs.Linting

/-!
# Linting a file by one pattern rule

With a single pattern rule that has a replacement, a file is fixed by one pass from left to right:
the text is copied up to each match that is not empty, and the expanded template put in its place.

* `PatternRule.replaceAll?` is that pass, which knows nothing of diagnostics, and
  `PatternRule.exists_replaceAll?` says that it is replacing at once the matches that change;
* `Ruleset.check_of_active`: the matches are found in the order of the text;
* `RuleEngine.lint_of_active`: linting leaves no fix out, writes what the pass gives, and records the
  matches that change.
-/

namespace Autofix

/-! ### One pass -/

/-- What is kept before the spans can be cut in two. -/
theorem Fixing.splice?_of_slice? {text part out : List Char} {pos mid : Nat} {fs : List Fix}
    (hpart : Text.slice? text pos mid = some part) (hout : splice? text mid fs = some out) :
    splice? text pos fs = some (part ++ out) := by
  cases fs with
  | nil => exact Text.slice?_append hpart hout
  | cons f fs =>
    simp only [splice?, Option.bind_eq_bind, Option.bind_eq_some_iff] at hout ⊢
    obtain ⟨kept, hkept, rest, hrest, hout⟩ := hout
    refine ⟨part ++ kept, Text.slice?_append hpart hkept, rest, hrest, ?_⟩
    rw [← Option.some.inj hout]
    simp

namespace PatternRule

variable (r : PatternRule) (template : String) (text : List Char)

/-- The matches in a text that are not empty. -/
def hits : List Regex.Match := (r.regex.findAll text).filter fun m => m.start ≠ m.stop

/-- What the template comes to for a match. -/
def expansion (m : Regex.Match) : List Char := r.regex.expand template text m

/-- Copies a text from `pos` on up to each of some matches, and puts its expansion in its place. -/
def passFrom? (pos : Nat) : List Regex.Match → Option (List Char)
  | [] => Text.slice? text pos (Text.size text)
  | m :: ms => do
    let kept ← Text.slice? text pos m.start
    let rest ← passFrom? m.stop ms
    return kept ++ r.expansion template text m ++ rest

/-- The text with every match that is not empty replaced by its expansion, in one pass from left to
    right. -/
def replaceAll? : Option (List Char) := r.passFrom? template text 0 (r.hits text)

/-- The replacement of a match. -/
def rewrite (m : Regex.Match) : Fix :=
  ⟨⟨m.start, m.stop⟩, String.ofList (r.expansion template text m)⟩

/-- The matches that are not empty and whose expansion is another text. -/
def changes : List Regex.Match :=
  (r.hits text).filter fun m => Fixing.Alters text (r.rewrite template text m)

variable {r template text} {pos : Nat} {m : Regex.Match} {ms : List Regex.Match}

theorem alters_rewrite_iff : Fixing.Alters text (r.rewrite template text m) ↔
    some (r.expansion template text m) ≠ Text.slice? text m.start m.stop := by
  rw [Fixing.Alters, rewrite, String.toList_ofList]
  exact ne_comm

theorem bounds_of_mem_hits (hm : m ∈ r.hits text) :
    m.start < m.stop ∧ Text.isBoundary text m.start ∧ Text.isBoundary text m.stop := by
  obtain ⟨hm, hne⟩ := List.mem_filter.1 hm
  obtain ⟨hle, hstart, hstop⟩ := Regex.bounds_of_mem_findAll hm
  exact ⟨lt_of_le_of_ne hle (of_decide_eq_true hne), hstart, hstop⟩

theorem pairwise_hits (r : PatternRule) (text : List Char) :
    (r.hits text).Pairwise fun m n => m.stop ≤ n.start :=
  (r.regex.pairwise_findAll text).filter _

/-- A pass over matches from left to right is replacing at once those that change: what stands in
    the place of the others is copied. -/
theorem exists_passFrom? (hpos : Text.isBoundary text pos)
    (hms : ∀ m ∈ ms, m ∈ r.hits text ∧ pos ≤ m.start)
    (hascending : ms.Pairwise fun m n => m.stop ≤ n.start) :
    ∃ out, r.passFrom? template text pos ms = some out ∧
      Fixing.splice? text pos ((ms.filter fun m =>
        Fixing.Alters text (r.rewrite template text m)).map (r.rewrite template text)) =
          some out := by
  induction ms generalizing pos with
  | nil =>
    obtain ⟨before, rest, rfl, rfl⟩ := Text.isBoundary_iff.1 hpos
    exact ⟨rest, Text.slice?_end before rest, Text.slice?_end before rest⟩
  | cons m ms ih =>
    obtain ⟨hlater, hascending⟩ := List.pairwise_cons.1 hascending
    obtain ⟨⟨hm, hle⟩, hms⟩ := List.forall_mem_cons.1 hms
    obtain ⟨hlt, hstart, hstop⟩ := bounds_of_mem_hits hm
    obtain ⟨kept, hkept⟩ := Text.exists_slice? hpos hstart hle
    obtain ⟨out, hout, hsplice⟩ := ih hstop (fun n hn => ⟨(hms n hn).1, hlater n hn⟩) hascending
    refine ⟨kept ++ r.expansion template text m ++ out, by rw [passFrom?, hkept, hout]; rfl, ?_⟩
    by_cases halters : Fixing.Alters text (r.rewrite template text m)
    · rw [List.filter_cons_of_pos (by simpa using halters), List.map_cons, Fixing.splice?]
      simp only [rewrite, String.toList_ofList] at hsplice ⊢
      rw [hkept, hsplice]
      rfl
    · have hsame := not_not.1 (mt alters_rewrite_iff.2 halters)
      rw [List.filter_cons_of_neg (by simpa using halters), List.append_assoc]
      exact Fixing.splice?_of_slice? hkept (Fixing.splice?_of_slice? hsame.symm hsplice)

/-- The pass comes to a text, which is the text with the changing matches replaced at once. -/
theorem exists_replaceAll? (r : PatternRule) (template : String) (text : List Char) :
    ∃ out, r.replaceAll? template text = some out ∧
      Fixing.splice? text 0 ((r.changes template text).map (r.rewrite template text)) = some out :=
  exists_passFrom? (Text.isBoundary_iff.2 ⟨[], text, rfl, rfl⟩)
    (fun _ hm => ⟨hm, Nat.zero_le _⟩) (r.pairwise_hits text)

/-- Without a match that changes, the pass comes to the text as it is. -/
theorem replaceAll?_of_changes_eq_nil (h : r.changes template text = []) :
    r.replaceAll? template text = some text := by
  obtain ⟨out, hout, hsplice⟩ := r.exists_replaceAll? template text
  rw [h, List.map_nil, Fixing.splice?, Text.slice?_self] at hsplice
  exact hout.trans hsplice.symm

/-- The finding for a match has a fix exactly if the match changes. -/
theorem failure_of_replacement (htemplate : r.replacement = some template) :
    r.failure text m = ⟨⟨m.start, m.stop⟩, r.message,
      if Fixing.Alters text (r.rewrite template text m) then some (r.rewrite template text m)
      else none⟩ := by
  rw [failure, htemplate, Option.bind_some]
  refine congrArg (Finding.mk _ _) ?_
  by_cases halters : Fixing.Alters text (r.rewrite template text m)
  · exact (if_neg (alters_rewrite_iff.1 halters)).trans (if_pos halters).symm
  · exact (if_pos (not_not.1 (mt alters_rewrite_iff.2 halters))).trans (if_neg halters).symm

end PatternRule

/-! ### What is found -/

theorem Span.isLE_compare_of_lt {s t : Span} (h : s.start < t.start) : (s.compare t).isLE := by
  rw [Span.compare, Nat.compare_eq_lt.2 h]
  rfl

namespace Ruleset

variable {c : Ruleset} {a : ConfiguredRule} {r : PatternRule} {template : String}
  (registry : Registry) (path : Path) (content : String)

/-- A single pattern rule finds its matches in the order of the text. -/
theorem check_of_active (hactive : c.active = [a]) (hpattern : a.pattern = some r) :
    c.check registry path content = (r.hits content.toList).map fun m =>
      diagnostic path content.toList a (r.failure content.toList m) := by
  rw [check, hactive, List.flatMap_singleton, findings, ruleOf?, hpattern]
  simp only [PatternRule.toRule, PatternRule.failures, List.map_map]
  refine List.mergeSort_of_pairwise (List.pairwise_map.2 ?_)
  refine (r.pairwise_hits content.toList).imp_of_mem fun hm _ hle => Span.isLE_compare_of_lt ?_
  exact (PatternRule.bounds_of_mem_hits hm).1.trans_le hle

/-- The diagnostics that a rule records for the matches that change. -/
def rewrites (a : ConfiguredRule) (r : PatternRule) (template : String) : List Diagnostic :=
  (r.changes template content.toList).map fun m => diagnostic path content.toList a
    ⟨⟨m.start, m.stop⟩, r.message, some (r.rewrite template content.toList m)⟩

/-- What a single pattern rule can fix are the matches that change. -/
theorem filter_check_of_active (hactive : c.active = [a]) (hpattern : a.pattern = some r)
    (htemplate : r.replacement = some template) :
    (c.check registry path content).filter (·.fix.isSome) = rewrites path content a r template := by
  have hfixable : ((·.fix.isSome) : Diagnostic → Bool) ∘ (fun m =>
      diagnostic path content.toList a (r.failure content.toList m)) =
        fun m => Fixing.Alters content.toList (r.rewrite template content.toList m) := by
    funext m
    simp only [Function.comp_apply, diagnostic, PatternRule.failure_of_replacement htemplate]
    split_ifs with halters <;> simp [halters]
  rw [check_of_active registry path content hactive hpattern, List.filter_map, hfixable]
  refine List.map_congr_left fun m hm => ?_
  rw [PatternRule.failure_of_replacement htemplate, if_pos (of_decide_eq_true (List.mem_filter.1 hm).2)]

/-- The fixes for the matches that change. -/
theorem filterMap_fix_check_of_active (hactive : c.active = [a]) (hpattern : a.pattern = some r)
    (htemplate : r.replacement = some template) :
    (c.check registry path content).filterMap (·.fix) =
      (r.changes template content.toList).map (r.rewrite template content.toList) := by
  have hsome : ∀ d ∈ c.check registry path content, d.fix =
      if d.fix.isSome then d.fix else none := fun d _ => by cases d.fix <;> rfl
  rw [List.filterMap_congr hsome, ← List.filterMap_filter,
    filter_check_of_active registry path content hactive hpattern htemplate, rewrites,
    List.filterMap_map]
  exact congrFun List.filterMap_eq_map _

end Ruleset

namespace RuleEngine

variable {path : Path} {content : String} {c : Ruleset} {w : World RuleEngine} {a : ConfiguredRule}
  {r : PatternRule} {template : String}

/-- Fixing what a single pattern rule finds leaves nothing out, and comes to the pass over the
    text. -/
theorem exists_pass (hactive : c.active = [a]) (hpattern : a.pattern = some r)
    (htemplate : r.replacement = some template) (registry : Registry) (path : Path)
    (content : String) :
    ∃ fixed, Fixing.apply content (c.check registry path content) = some fixed ∧
      r.replaceAll? template content.toList = some fixed.content.toList ∧
      fixed.applied = Ruleset.rewrites path content a r template ∧
      Fixing.skippedAfter none
        (Fixing.candidates content.toList (c.check registry path content)) = [] := by
  set found := c.check registry path content with hfound
  have hfixes : found.filterMap (·.fix) =
      (r.changes template content.toList).map (r.rewrite template content.toList) :=
    Ruleset.filterMap_fix_check_of_active registry path content hactive hpattern htemplate
  have hbounds : ∀ f ∈ found.filterMap (·.fix), f.fits content.toList ∧ ¬f.span.isEmpty := by
    rw [hfixes]
    intro f hf
    obtain ⟨m, hm, rfl⟩ := List.mem_map.1 hf
    obtain ⟨hlt, hstart, hstop⟩ := PatternRule.bounds_of_mem_hits (List.mem_of_mem_filter hm)
    simp [Fix.fits, PatternRule.rewrite, Span.isEmpty, hstart, hstop, hlt.le, hlt.ne]
  have hfitting : Fixing.fitting content.toList found = found.filterMap (·.fix) :=
    List.filter_eq_self.2 fun f hf => (hbounds f hf).1
  have hne : ∀ f ∈ Fixing.fitting content.toList found, ¬f.span.isEmpty := by
    rw [hfitting]
    exact fun f hf => (hbounds f hf).2
  have hascending : (Fixing.fitting content.toList found).Pairwise
      fun f g => f.span.stop ≤ g.span.start := by
    rw [hfitting, hfixes, List.pairwise_map]
    exact (r.pairwise_hits content.toList).filter _
  obtain ⟨fixed, happly, ⟨fs, hfs, -, -, hsplice⟩, happlied, hskipped⟩ :=
    Fixing.exists_applied_of_ascending hne hascending
  -- Everything that has a fix is applied, so that the pass and the fixed text come from one list.
  have happlied' : fixed.applied = Ruleset.rewrites path content a r template := by
    rw [happlied, ← Ruleset.filter_check_of_active registry path content hactive hpattern htemplate]
    refine List.filter_congr fun d hd => ?_
    cases hfix : d.fix with
    | none => rfl
    | some f => exact (hbounds f (List.mem_filterMap.2 ⟨d, hd, hfix⟩)).1
  obtain ⟨out, hout, hsplice'⟩ := r.exists_replaceAll? template content.toList
  have hfs' : fs = (r.changes template content.toList).map (r.rewrite template content.toList) := by
    refine List.map_injective_iff.2 (fun _ _ => Option.some.inj) ?_
    rw [← hfs, happlied', Ruleset.rewrites, List.map_map, List.map_map]
    rfl
  rw [hfs', hsplice'] at hsplice
  exact ⟨fixed, happly, hout.trans hsplice, happlied', hskipped⟩

/-- Linting a file that is not left out, by a single pattern rule with a replacement and with fixing
    on, leaves no fix out. Unless a text that is not there yet cannot be written, the text after the
    call is what the pass from left to right makes of it, and the matches that change are recorded as
    fixed; nothing is written if there are none. -/
theorem lint_of_active (hactive : c.active = [a]) (hpattern : a.pattern = some r)
    (htemplate : r.replacement = some template) (hfix : w.engine.options.fix)
    (hkeep : c.config.excludes path = false) :
    ∃ pass : String, r.replaceAll? template content.toList = some pass.toList ∧
      Fixing.skippedAfter none (Fixing.candidates content.toList
        (c.check w.engine.registry path content)) = [] ∧
      let fixes := Ruleset.rewrites path content a r template
      let (outcome, after) := lint path content c w
      (outcome = .ok () ∧
          after.engine = w.engine.recorded (c.check w.engine.registry path pass) fixes ∧
          (fixes = [] → pass = content ∧ after.disk = w.disk) ∧
          (fixes ≠ [] → w.disk.writeText path pass = .ok after.disk)) ∨
        (¬w.disk.isFile path ∧ fixes ≠ [] ∧ ∃ e, w.disk.writeText path pass = .error e ∧
          outcome = .error (.io e) ∧ after.disk = w.disk ∧ after.engine = w.engine) := by
  obtain ⟨fixed, happly, hpass, happlied, hskipped⟩ :=
    exists_pass hactive hpattern htemplate w.engine.registry path content
  refine ⟨fixed.content, hpass, hskipped, ?_⟩
  have hfixable := Ruleset.filter_check_of_active w.engine.registry path content hactive hpattern
    htemplate
  rw [lint_apply hkeep, lintText_apply]
  dsimp only
  rw [hfix, Bool.true_and]
  -- Where no match changes, nothing is fixed or written; otherwise the pass is.
  by_cases hnil : Ruleset.rewrites path content a r template = []
  · have hany : ¬(c.check w.engine.registry path content).any (·.fix.isSome) := by
      rw [List.any_eq_true]
      rintro ⟨d, hd, hfix⟩
      exact List.not_mem_nil (hnil ▸ hfixable ▸ List.mem_filter.2 ⟨hd, hfix⟩)
    rw [PatternRule.replaceAll?_of_changes_eq_nil (List.map_eq_nil_iff.1 hnil)] at hpass
    obtain rfl : content = fixed.content := String.toList_inj.1 (Option.some.inj hpass)
    rw [if_neg hany, hnil]
    exact .inl ⟨rfl, rfl, fun _ => ⟨rfl, rfl⟩, fun hne => absurd rfl hne⟩
  · have hany : (c.check w.engine.registry path content).any (·.fix.isSome) := by
      obtain ⟨d, hd⟩ := List.exists_mem_of_ne_nil _ hnil
      obtain ⟨hd, hfix⟩ := List.mem_filter.1 (hfixable ▸ hd)
      exact List.any_eq_true.2 ⟨d, hd, hfix⟩
    have hmodified : fixed.modified := by simpa [Fixed.modified, happlied] using hnil
    rw [if_pos hany, happly]
    dsimp only
    rw [if_pos hmodified, happlied]
    cases hwrite : w.disk.writeText path fixed.content with
    | ok d => exact .inl ⟨rfl, rfl, fun hnil' => absurd hnil' hnil, fun _ => rfl⟩
    | error e =>
      refine .inr ⟨fun hfile => ?_, hnil, e, rfl, rfl, rfl, rfl⟩
      obtain ⟨d, hd⟩ := Disk.exists_writeText hfile fixed.content
      cases hwrite.symm.trans hd

/-- Matches that touch, behind a character of two bytes. -/
theorem lint_of_active_letterRules :
    let r : PatternRule :=
      ⟨"letter", ⟨.ofExpr (.set (Unicode.CodeSet.single 'a')), 0, []⟩, some "b", "Write b"⟩
    let a : ConfiguredRule := ⟨"letter", .error, .null, some r⟩
    (letterRules.active = [a] ∧ a.pattern = some r ∧ r.replacement = some "b" ∧
      oneFile.engine.options.fix ∧ letterRules.config.excludes ⟨"a.ts"⟩ = false) ∧
    r.replaceAll? "b" "éaac".toList = some "ébbc".toList ∧
      Fixing.skippedAfter none
        (Fixing.candidates "éaac".toList (letterRules.check [] ⟨"a.ts"⟩ "éaac")) = [] ∧
      let (outcome, after) := lint ⟨"a.ts"⟩ "éaac" letterRules oneFile
      outcome = .ok () ∧ after.disk.root = .folder [("a.ts", .file (.text "ébbc"))] ∧
        after.engine.failures = [] ∧
        after.engine.fixes.map (·.fix) = [some ⟨⟨2, 3⟩, "b"⟩, some ⟨⟨3, 4⟩, "b"⟩] := by
  intro r a
  have hkeep : letterRules.config.excludes ⟨"a.ts"⟩ = false := by cbv
  have hclean : letterRules.check [] ⟨"a.ts"⟩ "ébbc" = [] := by cbv
  have hreplaced : r.replaceAll? "b" "éaac".toList = some "ébbc".toList := by cbv
  have hfixes : (Ruleset.rewrites ⟨"a.ts"⟩ "éaac" a r "b").map (·.fix) =
      [some ⟨⟨2, 3⟩, "b"⟩, some ⟨⟨3, 4⟩, "b"⟩] := by cbv
  have hne : Ruleset.rewrites ⟨"a.ts"⟩ "éaac" a r "b" ≠ [] := fun hnil => by
    rw [hnil] at hfixes
    cases hfixes
  have hfile : oneFile.disk.isFile ⟨"a.ts"⟩ := rfl
  have hwrite : oneFile.disk.writeText ⟨"a.ts"⟩ "ébbc" =
      .ok ⟨.folder [("a.ts", .file (.text "ébbc"))], [], none⟩ := rfl
  obtain ⟨pass, hpass, hskipped, hlint⟩ :=
    @lint_of_active ⟨"a.ts"⟩ "éaac" letterRules oneFile a r "b" rfl rfl rfl rfl hkeep
  obtain rfl : pass = "ébbc" :=
    String.toList_inj.1 (Option.some.inj (hpass.symm.trans hreplaced))
  refine ⟨⟨rfl, rfl, rfl, rfl, hkeep⟩, hpass, hskipped, ?_⟩
  generalize lint ⟨"a.ts"⟩ "éaac" letterRules oneFile = ran at hlint ⊢
  obtain ⟨outcome, after⟩ := ran
  rcases hlint with ⟨houtcome, hengine, -, hdisk⟩ | ⟨hno, -⟩
  · dsimp only at houtcome hengine hdisk ⊢
    rw [Except.ok.inj ((hdisk hne).symm.trans hwrite), hengine]
    exact ⟨houtcome, rfl, hclean, hfixes⟩
  · exact absurd hfile hno

end RuleEngine

end Autofix
