import Autofix.Engine.Rules
import Autofix.Proofs.Fixing
import Autofix.Proofs.Rule.Pattern

/-!
# Linting a file by pattern rules

Where all rules that run are pattern rules, every fix replaces a match that is not empty by the
expanded template of its rule. Linting a file then replaces at once the matches of those fixes that
it records (`FixedAtOnce`), writes the text that comes out, and records what the rules find there;
without a fix to record it writes nothing and records what the rules find in the text as it is. If
the text cannot be written, the run ends and nothing is recorded (`lint_patternRules`).
-/

namespace Autofix

namespace Ruleset

variable {registry : Registry} {c : Ruleset} {path : Path} {content : String} {d : Diagnostic}

theorem mem_check_iff : d ∈ c.check registry path content ↔
    ∃ a ∈ c.active, d ∈ findings registry path content a := by
  simp [check]

/-- What a pattern rule finds is a match that is not empty. -/
theorem exists_match_of_mem_check (hpattern : ∀ a ∈ c.active, a.pattern.isSome)
    (hd : d ∈ c.check registry path content) : ∃ a ∈ c.active, ∃ r, a.pattern = some r ∧
      ∃ m ∈ r.regex.findAll content.toList, m.start ≠ m.stop ∧
        d = diagnostic path content.toList a (r.failure content.toList m) := by
  obtain ⟨a, ha, hd⟩ := mem_check_iff.1 hd
  obtain ⟨r, hr⟩ := Option.isSome_iff_exists.1 (hpattern a ha)
  simp only [findings, ruleOf?, hr, PatternRule.toRule, List.mem_map] at hd
  obtain ⟨f, hf, rfl⟩ := hd
  obtain ⟨m, hm, hne, rfl⟩ := PatternRule.mem_failures_iff.1 hf
  exact ⟨a, ha, r, hr, m, hm, hne, rfl⟩

/-- Every match of a pattern rule that is not empty is found. -/
theorem diagnostic_mem_check {a : ConfiguredRule} {r : PatternRule} {m : Regex.Match}
    (ha : a ∈ c.active) (hr : a.pattern = some r) (hm : m ∈ r.regex.findAll content.toList)
    (hne : m.start ≠ m.stop) :
    diagnostic path content.toList a (r.failure content.toList m) ∈
      c.check registry path content := by
  refine mem_check_iff.2 ⟨a, ha, ?_⟩
  rw [findings, ruleOf?, hr]
  exact List.mem_map_of_mem (PatternRule.mem_failures_iff.2 ⟨m, hm, hne, rfl⟩)

/-- A diagnostic that replaces a match of one of the rules, which is not empty, by the expanded
    template of the rule. -/
def Replaces (c : Ruleset) (text : List Char) (d : Diagnostic) : Prop :=
  ∃ a ∈ c.active, ∃ r template, a.pattern = some r ∧ r.replacement = some template ∧
    ∃ m ∈ r.regex.findAll text, m.start ≠ m.stop ∧ d.ruleId = a.name ∧ d.span = ⟨m.start, m.stop⟩ ∧
      d.fix = some ⟨d.span, String.ofList (r.regex.expand template text m)⟩

/-- What a pattern rule finds and can fix is a match to replace. -/
theorem replaces_of_mem_check (hpattern : ∀ a ∈ c.active, a.pattern.isSome)
    (hd : d ∈ c.check registry path content) (hfix : d.fix.isSome) :
    c.Replaces content.toList d := by
  obtain ⟨a, ha, r, hr, m, hm, hne, rfl⟩ := exists_match_of_mem_check hpattern hd
  obtain ⟨fix, hfix⟩ := Option.isSome_iff_exists.1 hfix
  obtain ⟨template, htemplate, rfl⟩ := PatternRule.fix_failure hfix
  exact ⟨a, ha, r, template, hr, htemplate, m, hm, hne, rfl, rfl, hfix⟩

/-- A replacement of a match lies in the text and takes something away. -/
theorem Replaces.fits {text : List Char} (h : c.Replaces text d) : d.span.start < d.span.stop ∧
    ∃ fix, d.fix = some fix ∧ fix.span = d.span ∧ fix.fits text := by
  obtain ⟨a, -, r, template, -, -, m, hm, hne, -, hspan, hfix⟩ := h
  obtain ⟨hle, hstart, hstop⟩ := Regex.bounds_of_mem_findAll hm
  refine ⟨by rw [hspan]; exact lt_of_le_of_ne hle hne, _, hfix, rfl, ?_⟩
  simp [Fix.fits, hspan, hle, hstart, hstop]

theorem Replaces.isSome {text : List Char} (h : c.Replaces text d) : d.fix.isSome := by
  obtain ⟨_, fix, hfix, -⟩ := h.fits
  exact Option.isSome_iff_exists.2 ⟨fix, hfix⟩

/-- What fixing by pattern rules makes of a text, and the fixes that it records: all of them replace
    matches, which are not empty, ascend and do not overlap; the matches are replaced at once; and
    what could be fixed and is not recorded overlaps something recorded. -/
structure FixedAtOnce (registry : Registry) (c : Ruleset) (path : Path) (content written : String)
    (fixes : List Diagnostic) : Prop where
  found : ∀ d ∈ fixes, d ∈ c.check registry path content
  replaces : ∀ d ∈ fixes, c.Replaces content.toList d
  nonempty : ∀ d ∈ fixes, d.span.start < d.span.stop
  ascending : fixes.Pairwise fun d e => d.span.stop ≤ e.span.start
  written_eq : Fixing.splice? content.toList 0 (fixes.filterMap (·.fix)) = some written.toList
  skipped : ∀ d ∈ c.check registry path content, d.fix.isSome →
    d ∈ fixes ∨ ∃ e ∈ fixes, e.span.overlaps d.span

/-- Pattern rules give no insertions. -/
theorem insertionsLast_check (hpattern : ∀ a ∈ c.active, a.pattern.isSome) :
    Fixing.InsertionsLast (Fixing.fitting content.toList (c.check registry path content)) := by
  refine Fixing.insertionsLast_of_not_isEmpty fun f hf => ?_
  obtain ⟨d, hd, hfix⟩ := List.mem_filterMap.1 (List.mem_of_mem_filter hf)
  obtain ⟨hlt, fix, hfix', hspan, -⟩ :=
    (replaces_of_mem_check hpattern hd (Option.isSome_iff_exists.2 ⟨f, hfix⟩)).fits
  obtain rfl : f = fix := Option.some.inj (hfix.symm.trans hfix')
  simp only [Span.isEmpty, hspan, decide_eq_true_eq]
  omega

/-- The fix of a candidate is for the span that its rule has found. -/
theorem span_of_mem_candidates (hpattern : ∀ a ∈ c.active, a.pattern.isSome) {a : Fixable}
    (ha : a ∈ Fixing.candidates content.toList (c.check registry path content)) :
    a.fix.span = a.diagnostic.span := by
  obtain ⟨hd, hfix, -⟩ := Fixing.mem_candidates.1 ha
  obtain ⟨-, fix, hfix', hspan, -⟩ :=
    (replaces_of_mem_check hpattern hd (Option.isSome_iff_exists.2 ⟨_, hfix⟩)).fits
  rw [Option.some.inj (hfix.symm.trans hfix'), hspan]

/-- Fixing what pattern rules find does not break off and replaces matches at once. -/
theorem exists_fixedAtOnce (hpattern : ∀ a ∈ c.active, a.pattern.isSome) :
    ∃ fixed, Fixing.apply content (c.check registry path content) = some fixed ∧
      FixedAtOnce registry c path content fixed.content fixed.applied := by
  have hlast : Fixing.InsertionsLast
      (Fixing.fitting content.toList (c.check registry path content)) :=
    insertionsLast_check hpattern
  obtain ⟨fixed, happly, ⟨fs, hfs, -, -, hsplice⟩, happlied⟩ := Fixing.exists_isAtOnce hlast
  set accepted := Fixing.accept
    (Fixing.candidates content.toList (c.check registry path content))
  have hcandidate : ∀ a ∈ accepted,
      a ∈ Fixing.candidates content.toList (c.check registry path content) :=
    fun a ha => (Fixing.accept_sublist _).subset ha
  have hfixable : ∀ d ∈ fixed.applied, d ∈ c.check registry path content ∧ d.fix.isSome := by
    intro d hd
    rw [happlied, List.mem_reverse] at hd
    obtain ⟨a, ha, rfl⟩ := List.mem_map.1 hd
    obtain ⟨hd, hfix, -⟩ := Fixing.mem_candidates.1 (hcandidate a ha)
    exact ⟨hd, Option.isSome_iff_exists.2 ⟨_, hfix⟩⟩
  have hreplaces : ∀ d ∈ fixed.applied, c.Replaces content.toList d := fun d hd =>
    replaces_of_mem_check hpattern (hfixable d hd).1 (hfixable d hd).2
  refine ⟨fixed, happly, fun d hd => (hfixable d hd).1, hreplaces,
    fun d hd => (hreplaces d hd).fits.1, ?_, ?_, fun d hd hfix => ?_⟩
  · rw [happlied, List.pairwise_reverse, List.pairwise_map]
    refine (Fixing.pairwise_accept_iff.2 hlast).imp_of_mem fun ha hb hle => ?_
    rwa [← span_of_mem_candidates hpattern (hcandidate _ ha),
      ← span_of_mem_candidates hpattern (hcandidate _ hb)]
  · rw [Fixing.filterMap_fix_eq hfs, hsplice]
  · -- What can be fixed fits the text, hence is a candidate, and those are accepted or overlap.
    obtain ⟨-, fix, hfix, hspan, hfits⟩ := (replaces_of_mem_check hpattern hd hfix).fits
    have hmem : ⟨d, fix⟩ ∈ Fixing.candidates content.toList (c.check registry path content) :=
      Fixing.mem_candidates.2 ⟨hd, hfix, hfits⟩
    rcases Fixing.mem_accept_or_overlaps hmem with ha | ⟨a, ha, hover⟩
    · refine .inl ?_
      rw [happlied, List.mem_reverse]
      exact List.mem_map.2 ⟨_, ha, rfl⟩
    · refine .inr ⟨a.diagnostic, ?_, ?_⟩
      · rw [happlied, List.mem_reverse]
        exact List.mem_map.2 ⟨_, ha, rfl⟩
      · rwa [← span_of_mem_candidates hpattern (hcandidate a ha), ← hspan]

/-- Without a fix the text stays as it is. -/
theorem FixedAtOnce.eq_of_nil {written : String}
    (h : FixedAtOnce registry c path content written []) : written = content := by
  have hsplice := h.written_eq
  rw [List.filterMap_nil, Fixing.splice?, Text.slice?_self] at hsplice
  exact (String.toList_inj.1 (Option.some.inj hsplice)).symm

/-- A finding that is alone and has a fix is what is fixed. -/
theorem FixedAtOnce.eq_singleton {written : String} {fixes : List Diagnostic}
    (h : FixedAtOnce registry c path content written fixes)
    (hcheck : c.check registry path content = [d]) (hfix : d.fix.isSome) : fixes = [d] := by
  have hall : ∀ e ∈ fixes, e = d := fun e he => List.mem_singleton.1 (hcheck ▸ h.found e he)
  have hmem : d ∈ fixes := by
    rcases h.skipped d (hcheck ▸ List.mem_singleton.2 rfl) hfix with hd | ⟨e, he, -⟩
    · exact hd
    · exact hall e he ▸ he
  -- As it takes something away, it does not stand behind itself.
  cases fixes with
  | nil => exact absurd hmem List.not_mem_nil
  | cons e rest =>
    obtain rfl := hall e List.mem_cons_self
    refine congrArg _ (List.eq_nil_iff_forall_not_mem.2 fun e' he' => ?_)
    obtain rfl := hall e' (List.mem_cons_of_mem _ he')
    exact absurd ((List.pairwise_cons.1 h.ascending).1 _ he')
      (Nat.not_le_of_lt (h.nonempty _ hmem))

end Ruleset

namespace RuleEngine

/-- The engine with more failures and fixes recorded. -/
def recorded (e : RuleEngine) (failures fixes : List Diagnostic) : RuleEngine :=
  { e with failures := e.failures ++ failures, fixes := e.fixes ++ fixes }

variable (path : Path) (content : String) (c : Ruleset) (w : World RuleEngine)

theorem lintText_apply : lintText path content c w =
    let found := c.check w.engine.registry path content
    let told := w.trace ++ Fixing.trace content found
    if w.engine.options.fix && found.any (·.fix.isSome) then
      match Fixing.apply content found with
      | none => (.error (.misplacedFix path), { w with trace := told })
      | some fixed =>
        if fixed.modified then
          match w.disk.writeText path fixed.content with
          | .error e => (.error (.io e), { w with trace := told })
          | .ok d => (.ok (), { w with
              disk := d
              engine := w.engine.recorded (c.check w.engine.registry path fixed.content)
                fixed.applied
              trace := told ++ [.debug s!"Applied {fixed.applied.length} fixes to {path.text}"] })
        else (.ok (), { w with engine := w.engine.recorded found [], trace := told })
    else (.ok (), { w with engine := w.engine.recorded found [] }) := by
  simp only [lintText, Run.bind_apply, Run.get_apply]
  split_ifs with hfix
  · simp only [Run.bind_apply, Run.notes_apply]
    cases Fixing.apply content (c.check w.engine.registry path content) with
    | none => rfl
    | some fixed =>
      by_cases hmodified : fixed.modified
      · simp only [hmodified, if_true, Run.bind_apply, Run.write_apply]
        cases w.disk.writeText path fixed.content <;> rfl
      · simp only [hmodified, Bool.false_eq_true, if_false, record, Run.modify_apply, recorded,
          List.append_nil]
  · simp only [record, Run.modify_apply, recorded, List.append_nil]

variable {path content c w}

theorem lint_apply (hkeep : c.config.excludes path = false) :
    lint path content c w = lintText path content c w := by
  simp [lint, hkeep]

/-- Linting a file that is not left out, by pattern rules and with fixing on, comes to one of three:
    nothing is fixed and nothing written; or the text with the recorded fixes replaced at once is
    written; or it cannot be written, which ends the run and records nothing. Unless the run ends,
    what the rules find in the text that is there then is recorded. -/
theorem lint_patternRules (hpattern : ∀ a ∈ c.active, a.pattern.isSome)
    (hfix : w.engine.options.fix) (hkeep : c.config.excludes path = false) :
    ∃ fixes written, c.FixedAtOnce w.engine.registry path content written fixes ∧
      let (outcome, after) := lint path content c w
      let found := c.check w.engine.registry path written
      (outcome = .ok () ∧ fixes = [] ∧ written = content ∧ after.disk = w.disk ∧
          after.engine = w.engine.recorded found []) ∨
        (outcome = .ok () ∧ fixes ≠ [] ∧ w.disk.writeText path written = .ok after.disk ∧
          after.engine = w.engine.recorded found fixes) ∨
        (fixes ≠ [] ∧ ∃ e, w.disk.writeText path written = .error e ∧ outcome = .error (.io e) ∧
          after.engine = w.engine) := by
  obtain ⟨fixed, happly, hfixed⟩ := Ruleset.exists_fixedAtOnce hpattern
  refine ⟨fixed.applied, fixed.content, hfixed, ?_⟩
  rw [lint_apply hkeep, lintText_apply]
  dsimp only
  rw [hfix, Bool.true_and]
  by_cases hany : (c.check w.engine.registry path content).any (·.fix.isSome)
  · rw [if_pos hany, happly]
    dsimp only
    by_cases hmodified : fixed.modified
    · have hne : fixed.applied ≠ [] := by simpa [Fixed.modified] using hmodified
      rw [if_pos hmodified]
      cases hwrite : w.disk.writeText path fixed.content with
      | error e => exact .inr (.inr ⟨hne, e, rfl, rfl, rfl⟩)
      | ok d => exact .inr (.inl ⟨rfl, hne, rfl, rfl⟩)
    · have hnil : fixed.applied = [] := by simpa [Fixed.modified] using hmodified
      rw [hnil] at hfixed
      rw [if_neg hmodified]
      exact .inl ⟨rfl, hnil, hfixed.eq_of_nil, rfl, by rw [hfixed.eq_of_nil]⟩
  · -- What is fixed has been found, with a fix.
    have hnil : fixed.applied = [] := List.eq_nil_iff_forall_not_mem.2 fun d hd => hany <|
      List.any_eq_true.2 ⟨d, hfixed.found d hd, (hfixed.replaces d hd).isSome⟩
    rw [hnil] at hfixed
    rw [if_neg hany]
    exact .inl ⟨rfl, hnil, hfixed.eq_of_nil, rfl, by rw [hfixed.eq_of_nil]⟩

/-- The rules that want `b` in place of `a`. -/
def letterRules : Ruleset :=
  let regex := ⟨.ofExpr (.set (Unicode.CodeSet.single 'a')), 0, []⟩
  ⟨{}, [⟨"letter", .error, .null, some ⟨"letter", regex, some "b", "Write b"⟩⟩]⟩

/-- What `letterRules` find in the text `a`. -/
def letterFound (path : Path) : Diagnostic :=
  ⟨path, "letter", "Write b", ⟨0, 1⟩, some ⟨⟨1, 0⟩, ⟨1, 1⟩⟩, .error, some ⟨⟨0, 1⟩, "b"⟩⟩

/-- A world in which nothing is recorded and the file `a.ts` is alone on the disk. -/
def oneFile : World RuleEngine :=
  { disk := ⟨.folder [("a.ts", .file (.text "a"))], [], none⟩, engine := {} }

theorem lint_letterRules :
    ((∀ a ∈ letterRules.active, a.pattern.isSome) ∧ oneFile.engine.options.fix ∧
      letterRules.config.excludes ⟨"a.ts"⟩ = false) ∧
    let (outcome, after) := lint ⟨"a.ts"⟩ "a" letterRules oneFile
    letterRules.FixedAtOnce [] ⟨"a.ts"⟩ "a" "b" [letterFound ⟨"a.ts"⟩] ∧ outcome = .ok () ∧
      after.disk.root = .folder [("a.ts", .file (.text "b"))] ∧
      after.engine.failures = [] ∧ after.engine.fixes = [letterFound ⟨"a.ts"⟩] := by
  have hpattern : ∀ a ∈ letterRules.active, a.pattern.isSome := by simp [letterRules]
  have hkeep : letterRules.config.excludes ⟨"a.ts"⟩ = false := by cbv
  have hfound : letterRules.check [] ⟨"a.ts"⟩ "a" = [letterFound ⟨"a.ts"⟩] := by cbv
  have hclean : letterRules.check [] ⟨"a.ts"⟩ "b" = [] := by cbv
  have hwrite : oneFile.disk.writeText ⟨"a.ts"⟩ "b" =
      .ok ⟨.folder [("a.ts", .file (.text "b"))], [], none⟩ := rfl
  obtain ⟨fixes, written, hfixed, hlint⟩ := lint_patternRules (w := oneFile) hpattern rfl hkeep
  obtain rfl := hfixed.eq_singleton hfound rfl
  obtain rfl : written = "b" :=
    String.toList_inj.1 (Option.some.inj (hfixed.written_eq.symm.trans rfl))
  refine ⟨⟨hpattern, rfl, hkeep⟩, ?_⟩
  generalize lint ⟨"a.ts"⟩ "a" letterRules oneFile = ran at hlint ⊢
  obtain ⟨outcome, after⟩ := ran
  rcases hlint with ⟨-, hnil, -⟩ | ⟨houtcome, -, hdisk, hengine⟩ | ⟨-, e, herror, -⟩
  · cases hnil
  · dsimp only at houtcome hdisk hengine ⊢
    rw [Except.ok.inj (hdisk.symm.trans hwrite), hengine]
    exact ⟨hfixed, houtcome, rfl, hclean, rfl⟩
  · cases herror.symm.trans hwrite

/-- If the text cannot be written, what could be fixed is recorded neither as a fix nor as a
    failure. -/
theorem nothing_recorded_without_folder :
    letterRules.check [] ⟨"gone/a.ts"⟩ "a" = [letterFound ⟨"gone/a.ts"⟩] ∧
      let (outcome, after) := lint ⟨"gone/a.ts"⟩ "a" letterRules oneFile
      outcome = .error (.io .notFound) ∧ after.disk = oneFile.disk ∧
        after.engine.failures = [] ∧ after.engine.fixes = [] := by
  have hcheck : letterRules.check [] ⟨"gone/a.ts"⟩ "a" = [letterFound ⟨"gone/a.ts"⟩] := by cbv
  have happly : Fixing.apply "a" [letterFound ⟨"gone/a.ts"⟩] =
      some ⟨"b", [letterFound ⟨"gone/a.ts"⟩]⟩ := by cbv
  have hkeep : letterRules.config.excludes ⟨"gone/a.ts"⟩ = false := by cbv
  have hparts : Disk.parts "gone/a.ts" = ["gone", "a.ts"] := by cbv
  have hend : Disk.withoutEnd ⟨"gone/a.ts"⟩ = ⟨"gone/a.ts"⟩ := by cbv
  have hfind : oneFile.disk.find true ⟨"gone/a.ts"⟩ = .error .notFound := by
    simp only [Disk.find, hparts]
    rfl
  have hwrite : oneFile.disk.writeText ⟨"gone/a.ts"⟩ "b" = .error .notFound := by
    simp only [Disk.writeText, hend, hfind]
    rfl
  refine ⟨hcheck, ?_⟩
  rw [lint_apply hkeep, lintText_apply, show oneFile.engine.registry = [] from rfl, hcheck]
  dsimp only
  rw [if_pos (by rfl), happly]
  dsimp only
  rw [if_pos (by rfl), hwrite]
  exact ⟨rfl, rfl, rfl, rfl⟩

end RuleEngine

end Autofix
