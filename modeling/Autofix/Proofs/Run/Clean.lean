import Autofix.Proofs.Linting.Clean
import Autofix.Proofs.Run.Again

/-!
# Files that are left clean

Rules that put texts in place of what they match, in which none of them matches anything, leave a
file clean if all that they find in it is fixed and nothing is found at the edges of replacements: a
second run finds nothing and writes nothing (`RuleEngine.run_leaves_clean`). A run fixes each file
once. So what it leaves out for overlapping something else may be there afterwards, as well as what
would only be replaced by itself, what stands on both sides of a replacement may make a match, and a
text may start with a byte-order mark after fixing, which is not read again
(`RuleEngine.found_again`).
-/

namespace Autofix

/-- Nothing is left to find in a file, if all that is found in it is fixed and nothing is found at
    the edges. -/
theorem Ruleset.failures_eq_nil {registry : Registry} {c : Ruleset} {path : Path}
    {text : Option String} {l : Linted} (hclean : c.RewritesCleanly registry)
    (hsaves : c.SavesGroups)
    (hfixes : ∀ content, text = some content → c.config.excludes path = false →
      c.AppliesAll registry path content ∧ c.LeavesEdges registry path content)
    (h : c.linted? registry true path text = some l) : l.failures = [] := by
  obtain rfl | ⟨content, rfl, hkeep, rfl | ⟨fixed, happly, -, rfl⟩⟩ := linted?_cases h
  · rfl
  · -- Nothing has been fixed, and all that is found is fixed.
    obtain ⟨fixed, happly, -⟩ := exists_fixedAtOnce hclean.pattern_isSome
    have hnone : fixed.applied = [] := by
      by_contra hne
      have hmodified : fixed.modified := by simpa [Fixed.modified] using hne
      cases (linted?_of_apply hkeep happly hmodified).symm.trans h
    refine List.eq_nil_iff_forall_not_mem.2 fun d hd => ?_
    have hmem := (hfixes content rfl hkeep).1 fixed happly d hd
    rw [hnone] at hmem
    cases hmem
  · obtain ⟨hall, hedges⟩ := hfixes content rfl hkeep
    exact hall.check_eq_nil happly hedges hclean hsaves

namespace RuleEngine

variable {options : TaskOptions} {root : Path} {w : World RuleEngine} {set : FileSet}

/-- The rules that a run loads for its files put texts in place of matches in which none of them
    matches anything, and in each file all that they find is fixed and nothing is found at the edges
    then. -/
def RunsCleanly (options : TaskOptions) (root : Path) (set : FileSet) (w : World RuleEngine) :
    Prop :=
  ∀ run ∈ folderRuns set.files, ∀ first ∈ run.head?, ∀ c, (Ruleset.load w.engine.registry w.disk
      (Engine.sourceFor options root first)).result = .ok c →
    c.RewritesCleanly w.engine.registry ∧ ∀ file ∈ run, ∀ content,
      textToLint w.disk set.project file = .ok (some content) →
        c.config.excludes file = false → c.AppliesAll w.engine.registry file content ∧
          c.LeavesEdges w.engine.registry file content

theorem RunsCleanly.runsPatternRules (h : RunsCleanly options root set w) :
    RunsPatternRules options root set.files w :=
  fun run hrun first hfirst c hc => (h run hrun first hfirst c hc).1.pattern_isSome

/-- What is settled by such rules is that no failure is left. -/
theorem Settled.failures_eq_nil {rules : Path → Ruleset} {result : Path → Linted}
    (h : Settled options root set.project set.files (ruleEngine.prepared options root w) rules
      result)
    (hloaded : LoadedFirst options root (ruleEngine.prepared options root w) rules
      (folderRuns set.files))
    (hclean : RunsCleanly options root set w) :
    ∀ file ∈ set.files, (result file).failures = [] := by
  intro file hfile
  obtain ⟨text, htext, hlinted⟩ := becomes?_eq_some_iff.1 (h.becomes file hfile)
  obtain ⟨run, hrun, first, hfirst, hfile⟩ := exists_folderRun hfile
  have hload := hloaded run hrun first hfirst file hfile
  obtain ⟨hrewrites, hfixes⟩ := hclean run hrun first hfirst _ hload
  refine Ruleset.failures_eq_nil hrewrites (Ruleset.savesGroups_of_load hload) ?_ hlinted
  rintro content rfl hkeep
  exact hfixes file hfile content htext hkeep

/-- Rules that rewrite cleanly leave files clean: if all that they find is fixed and nothing is
    found at the edges then, a run records no failure, and a second one, by a fresh engine, lints
    the same files, writes nothing, and records no fix and no failure. The files have to be at
    places of their own, none of them read as a configuration or as the project; no text that has
    been written may start with a byte-order mark; and where there is a project, the path of each
    file has to lead where its normal form leads. -/
theorem run_leaves_clean {n : ℕ} (hfresh : w.engine.failures = [] ∧ w.engine.fixes = [])
    (hset : (FileSet.resolve w.disk options root).result = .ok set)
    (hplaces : AtPlaces set.files w.disk)
    (hread : ReadsNone w.disk (ruleEngine.logged.lintAll options root set.project set.files
      (ruleEngine.prepared options root w).logging).2.engine.2 set.files)
    (hproject : ∀ p, options.compilerConfigPath = some p → ∀ file ∈ set.files,
      ∀ place, w.disk.At file place → ¬w.disk.At (root.join p) place)
    (hnormal : set.project.isSome → ∀ file ∈ set.files,
      w.disk.stat file.normalize = w.disk.stat file)
    (hclean : RunsCleanly options root set w)
    (hall : (ruleEngine.lintAll options root set.project set.files
      (ruleEngine.prepared options root w)).1 = .ok n)
    (hunmarked : Unmarked w (ruleEngine.run options root w).2) :
    let first := ruleEngine.run options root w
    let second := ruleEngine.run options root { w with disk := first.2.disk }
    (∃ set', (FileSet.resolve first.2.disk options root).result = .ok set' ∧
        set'.files = set.files) ∧
      first.2.engine.failures = [] ∧ second.2.disk = first.2.disk ∧
      second.2.engine.result = ⟨[], []⟩ ∧ first.1 = outcomeFor options ⟨[], []⟩ ∧
      second.1 = outcomeFor options ⟨[], []⟩ := by
  obtain ⟨rules, result, hsettled, hloaded, -⟩ :=
    exists_settled (ruleEngine.prepared options root w) hplaces hread hall
  obtain ⟨hdone, houtcome⟩ := run_of_settled hset hsettled
  generalize ruleEngine.run options root w = ran at *
  obtain ⟨outcome, after⟩ := ran
  dsimp only at hdone houtcome hunmarked ⊢
  -- What had been found is fixed in every file, and nothing is found in it after that.
  have hfailures : after.engine.failures = [] := by
    rw [hdone.engine_eq]
    exact List.append_eq_nil_iff.2
      ⟨hfresh.1, List.flatMap_eq_nil_iff.2 (hsettled.failures_eq_nil hloaded hclean)⟩
  obtain ⟨set', hset', hfiles, hsettled'⟩ :=
    hsettled.exists_again hdone hloaded hset hproject hnormal hclean.runsPatternRules
      (hfailures ▸ List.forall_mem_nil _) hunmarked
  obtain ⟨hdisk, hfixes, hsame, houtcome'⟩ :=
    hsettled'.run_again_eq hdone hfresh.2 hset' hfiles
  rw [hfailures] at hsame
  have hresult : (ruleEngine.run options root
      { w with disk := after.disk }).2.engine.result = ⟨[], []⟩ :=
    congrArg₂ LintResult.mk hsame hfixes
  have hcount : after.engine.result.errorCount = LintResult.errorCount ⟨[], []⟩ := by
    rw [LintResult.errorCount, RuleEngine.result, hfailures]
    rfl
  rw [hresult] at houtcome'
  exact ⟨⟨set', hset', hfiles⟩, hfailures, hdisk, hresult,
    houtcome.trans (outcomeFor_congr hcount), houtcome'⟩

theorem runsCleanly_letters :
    RunsCleanly lettersTask ⟨"/"⟩ ⟨[⟨"/a.ts"⟩, ⟨"/c.ts"⟩], none⟩ letters := by
  have hruns : folderRuns [⟨"/a.ts"⟩, ⟨"/c.ts"⟩] = [[⟨"/a.ts"⟩, ⟨"/c.ts"⟩]] := by decide
  have hclean : lettersRules.RewritesCleanly [] := by
    refine List.forall_mem_singleton.2
      ⟨_, "b", "b", rfl, rfl, Regex.Template.writes_self (by decide), fun path => ?_⟩
    cbv
  have hfound : lettersRules.check [] ⟨"/a.ts"⟩ "a" = [letterFound ⟨"/a.ts"⟩] := by cbv
  have happly : Fixing.apply "a" [letterFound ⟨"/a.ts"⟩] =
      some ⟨"b", [letterFound ⟨"/a.ts"⟩]⟩ := by cbv
  have hleft : lettersRules.check [] ⟨"/a.ts"⟩ "b" = [] := by cbv
  have hfound' : lettersRules.check [] ⟨"/c.ts"⟩ "c" = [] := by cbv
  have happly' : Fixing.apply "c" [] = some ⟨"c", []⟩ := by cbv
  intro run hrun first hfirst c hc
  rw [hruns] at hrun
  obtain rfl := List.mem_singleton.1 hrun
  obtain rfl := Option.some.inj hfirst
  obtain rfl := Except.ok.inj (hc.symm.trans load_letters)
  refine ⟨hclean, ?_⟩
  simp only [List.forall_mem_cons]
  refine ⟨fun content hcontent _ => ?_, fun content hcontent _ => ?_, List.forall_mem_nil _⟩
  · obtain rfl := Option.some.inj (Except.ok.inj hcontent.symm)
    rw [← hfound] at happly
    refine ⟨(Ruleset.appliesAll_iff happly).2 ?_, (Ruleset.leavesEdges_iff happly).2 ?_⟩
    · rw [hfound]
      exact fun _ => id
    · rw [hleft]
      exact List.forall_mem_nil _
  · obtain rfl := Option.some.inj (Except.ok.inj hcontent.symm)
    rw [← hfound'] at happly'
    refine ⟨(Ruleset.appliesAll_iff happly').2 ?_, (Ruleset.leavesEdges_iff happly').2 ?_⟩
    · rw [hfound']
      exact List.forall_mem_nil _
    · rw [hfound']
      exact List.forall_mem_nil _

theorem run_leaves_clean_letters :
    let set : FileSet := ⟨[⟨"/a.ts"⟩, ⟨"/c.ts"⟩], none⟩
    ((letters.engine.failures = [] ∧ letters.engine.fixes = []) ∧
      (FileSet.resolve letters.disk lettersTask ⟨"/"⟩).result = .ok set ∧
      AtPlaces set.files letters.disk ∧
      ReadsNone letters.disk (ruleEngine.logged.lintAll lettersTask ⟨"/"⟩ set.project set.files
        (ruleEngine.prepared lettersTask ⟨"/"⟩ letters).logging).2.engine.2 set.files ∧
      lettersTask.compilerConfigPath = none ∧
      RunsCleanly lettersTask ⟨"/"⟩ set letters ∧
      (ruleEngine.lintAll lettersTask ⟨"/"⟩ set.project set.files
        (ruleEngine.prepared lettersTask ⟨"/"⟩ letters)).1 = .ok 1 ∧
      Unmarked letters (ruleEngine.run lettersTask ⟨"/"⟩ letters).2) ∧
    let first := ruleEngine.run lettersTask ⟨"/"⟩ letters
    let second := ruleEngine.run lettersTask ⟨"/"⟩ { letters with disk := first.2.disk }
    (∃ set', (FileSet.resolve first.2.disk lettersTask ⟨"/"⟩).result = .ok set' ∧
        set'.files = set.files) ∧
      first.2.engine.failures = [] ∧ second.2.disk = first.2.disk ∧
      second.2.engine.result = ⟨[], []⟩ ∧ first.1 = outcomeFor lettersTask ⟨[], []⟩ ∧
      second.1 = outcomeFor lettersTask ⟨[], []⟩ := by
  have hread := LintsOnce.readsNone (w := ruleEngine.prepared lettersTask ⟨"/"⟩ letters)
    lintsOnce_letters
  obtain ⟨w', hall, hdisk, hengine⟩ := lintAll_letters_both lettersTask none
    (w := ruleEngine.prepared lettersTask ⟨"/"⟩ letters) rfl rfl rfl rfl rfl rfl
  obtain ⟨hdisk', hengine', -⟩ := run_of_lintAll resolve_letters hall
  have hunmarked := unmarked_letters (hdisk'.trans hdisk) (by rw [hengine', hengine]; rfl)
  have hdone := congrArg Prod.fst hall
  have hclean := run_leaves_clean ⟨rfl, rfl⟩ resolve_letters lintsOnce_letters.places hread
    (fun p hp => by cases hp) (fun hsome => by cases hsome) runsCleanly_letters hdone hunmarked
  exact ⟨⟨⟨rfl, rfl⟩, resolve_letters, lintsOnce_letters.places, hread, rfl, runsCleanly_letters,
    hdone, hunmarked⟩, hclean⟩

/-! ### Files in which something is found again -/

/-- An expression that takes one character. -/
def oneChar (c : Char) : Regex.Expr := .set (Unicode.CodeSet.single c)

/-- A rule that replaces what an expression matches. -/
def rewriteRule (name pattern replacement : String) (e : Regex.Expr) : ConfiguredRule where
  name := name
  severity := .error
  options := .object [("pattern", .string pattern), ("replacement", .string replacement)]
  pattern := some ⟨name, ⟨.ofExpr e, 0, []⟩, some replacement,
    s!"Matches forbidden pattern /{pattern}/"⟩

/-- The settings that turn rules on. -/
def settingsOf (active : List ConfiguredRule) : List (String × RuleSetting) :=
  active.map fun a => (a.name, .options a.options)

/-- The rules that `aloneDisk` loads from a configuration of their settings. -/
def rulesOf (active : List ConfiguredRule) : Ruleset :=
  ⟨.inheriting { rules := settingsOf active } ⟨"/lintfix.json"⟩ [], active⟩

/-- The configuration of `joinedRules`. -/
def joinedConfig : String :=
  "\x7b\"rules\": \x7b\"no-ab\": \x7b\"pattern\": \"ab\", \"replacement\": \"\"\x7d\x7d\x7d"

/-- The rule that drops `ab`. -/
def joinedRules : Ruleset :=
  rulesOf [rewriteRule "no-ab" "ab" "" (.seq (oneChar 'a') (oneChar 'b'))]

theorem ofText_joinedConfig :
    LintConfig.ofText joinedConfig = .ok { rules := settingsOf joinedRules.active } := by cbv

/-- The configuration of `overlappingRules`. -/
def overlappingConfig : String :=
  "\x7b\"rules\": \x7b\"long\": \x7b\"pattern\": \"abc|a\", \"replacement\": \"x\"\x7d, " ++
    "\"short\": \x7b\"pattern\": \"c\", \"replacement\": \"z\"\x7d\x7d\x7d"

/-- Two rules that both take the `c` of `abc`. Without it, the first one takes `a`. -/
def overlappingRules : Ruleset :=
  rulesOf [rewriteRule "long" "abc|a" "x"
      (.alt (.seq (oneChar 'a') (.seq (oneChar 'b') (oneChar 'c'))) (oneChar 'a')),
    rewriteRule "short" "c" "z" (oneChar 'c')]

theorem ofText_overlappingConfig :
    LintConfig.ofText overlappingConfig = .ok { rules := settingsOf overlappingRules.active } := by
  cbv

/-- The configuration of `markedRules`. -/
def markedConfig : String :=
  "\x7b\"rules\": \x7b\"mark\": \x7b\"pattern\": \"ab\", \"replacement\": \"\\ufeff\"\x7d, " ++
    "\"start\": \x7b\"pattern\": \"^x\", \"replacement\": \"\"\x7d\x7d\x7d"

/-- A rule that puts a byte-order mark in place of `ab`, and one that drops the `x` that a text
    starts with. -/
def markedRules : Ruleset :=
  rulesOf [rewriteRule "mark" "ab" "\ufeff" (.seq (oneChar 'a') (oneChar 'b')),
    rewriteRule "start" "^x" "" (.seq (.look .lineStart) (oneChar 'x'))]

theorem ofText_markedConfig :
    LintConfig.ofText markedConfig = .ok { rules := settingsOf markedRules.active } := by cbv

/-- What a rule of these finds in the first line of the file. -/
def rewriteFound (name pattern : String) (start stop : ℕ) (text : String) : Diagnostic :=
  ⟨⟨"/a.ts"⟩, name, s!"Matches forbidden pattern /{pattern}/", ⟨start, stop⟩,
    some ⟨⟨1, start⟩, ⟨1, stop⟩⟩, .error, some ⟨⟨start, stop⟩, text⟩⟩

/-- Rules that rewrite cleanly come to the end of a file, and a second run finds something to fix in
    it. -/
structure FoundAgain (config text : String) (c : Ruleset) : Prop where
  load : (Ruleset.load [] (aloneDisk config text) (.nearest ⟨"/a.ts"⟩)).result = .ok c
  clean : c.RewritesCleanly []
  finishes : ruleEngine.Finishes aloneTask ⟨"/"⟩ { disk := aloneDisk config text, engine := {} }
  fixes_ne_nil :
    let first := ruleEngine.run aloneTask ⟨"/"⟩ { disk := aloneDisk config text, engine := {} }
    (ruleEngine.run aloneTask ⟨"/"⟩ { disk := first.2.disk, engine := {} }).2.engine.fixes ≠ []

section

variable {config text content : String} {active : List ConfiguredRule} {c : Ruleset}
  {fixed fixed' : Fixed}

theorem load_rulesOf (hown : LintConfig.ofText config = .ok { rules := settingsOf active })
    (hon : (rulesOf active).config.rulesOn = settingsOf active)
    (hpick : (Ruleset.pick [] (settingsOf active)).result = .ok active) (text : String) :
    (Ruleset.load [] (aloneDisk config text) (.nearest ⟨"/a.ts"⟩)).result = .ok (rulesOf active) :=
  load_alone text hown rfl rfl (hon ▸ hpick)

theorem FoundAgain.of_apply (hload : ∀ text, (Ruleset.load [] (aloneDisk config text)
      (.nearest ⟨"/a.ts"⟩)).result = .ok c) (hclean : c.RewritesCleanly [])
    (hkeep : c.config.excludes ⟨"/a.ts"⟩ = false)
    (htext : textToLint (aloneDisk config text) none ⟨"/a.ts"⟩ = .ok (some text))
    (happly : Fixing.apply text (c.check [] ⟨"/a.ts"⟩ text) = some fixed)
    (hmodified : fixed.modified)
    (htext' : textToLint (aloneDisk config fixed.content) none ⟨"/a.ts"⟩ = .ok (some content))
    (happly' : Fixing.apply content (c.check [] ⟨"/a.ts"⟩ content) = some fixed')
    (hmodified' : fixed'.modified) : FoundAgain config text c := by
  obtain ⟨hfinishes, -, -, hdisk⟩ := run_alone (e := {}) rfl (hload text) htext
    (Ruleset.linted?_of_apply hkeep happly hmodified)
  obtain ⟨-, -, hengine, -⟩ := run_alone (e := {}) rfl (hload fixed.content) htext'
    (Ruleset.linted?_of_apply hkeep happly' hmodified')
  refine ⟨hload text, hclean, hfinishes, ?_⟩
  rw [Option.getD_some] at hdisk
  dsimp only
  rw [hdisk, hengine]
  simpa [recorded, Fixed.modified] using hmodified'

/-- No text with a mark has been written to the file. -/
theorem unmarked_alone (hload : ∀ text, (Ruleset.load [] (aloneDisk config text)
      (.nearest ⟨"/a.ts"⟩)).result = .ok c)
    (hkeep : c.config.excludes ⟨"/a.ts"⟩ = false)
    (htext : textToLint (aloneDisk config text) none ⟨"/a.ts"⟩ = .ok (some text))
    (happly : Fixing.apply text (c.check [] ⟨"/a.ts"⟩ text) = some fixed)
    (hmodified : fixed.modified)
    (hunmarked : fixed.content.toList.head? ≠ some SourceText.byteOrderMark) :
    Unmarked { disk := aloneDisk config text, engine := {} } (ruleEngine.run aloneTask ⟨"/"⟩
      { disk := aloneDisk config text, engine := {} }).2 := by
  have hlinted := Ruleset.linted?_of_apply hkeep happly hmodified
  obtain ⟨-, -, hengine, hdisk⟩ := run_alone (e := {}) rfl (hload text) htext hlinted
  rw [Option.getD_some] at hdisk
  intro x hx s hs
  rw [fixesSince, hengine] at hx
  rw [(Ruleset.path_of_linted? hlinted).2 x hx, hdisk] at hs
  have hread : (aloneDisk config fixed.content).readText ⟨"/a.ts"⟩ = .ok fixed.content := rfl
  obtain rfl := Except.ok.inj (hread.symm.trans hs)
  exact hunmarked

end

/-- What stands on both sides of a replacement makes a match. -/
theorem foundAgain_joined : FoundAgain joinedConfig "aabb" joinedRules ∧
    joinedRules.AppliesAll [] ⟨"/a.ts"⟩ "aabb" ∧
    Unmarked { disk := aloneDisk joinedConfig "aabb", engine := {} } (ruleEngine.run aloneTask
      ⟨"/"⟩ { disk := aloneDisk joinedConfig "aabb", engine := {} }).2 := by
  have hload := load_rulesOf ofText_joinedConfig rfl (by cbv)
  have hclean : joinedRules.RewritesCleanly [] := by
    refine List.forall_mem_singleton.2
      ⟨_, "", "", rfl, rfl, Regex.Template.writes_self (by decide), fun path => ?_⟩
    cbv
  have hfound : joinedRules.check [] ⟨"/a.ts"⟩ "aabb" = [rewriteFound "no-ab" "ab" 1 3 ""] := by cbv
  have happly : Fixing.apply "aabb" (joinedRules.check [] ⟨"/a.ts"⟩ "aabb") =
      some ⟨"ab", [rewriteFound "no-ab" "ab" 1 3 ""]⟩ := by
    rw [hfound]
    cbv
  have happly' : Fixing.apply "ab" (joinedRules.check [] ⟨"/a.ts"⟩ "ab") =
      some ⟨"", [rewriteFound "no-ab" "ab" 0 2 ""]⟩ := by cbv
  refine ⟨.of_apply hload hclean rfl rfl happly rfl rfl happly' rfl,
    (Ruleset.appliesAll_iff happly).2 ?_, unmarked_alone hload rfl rfl happly rfl (by decide)⟩
  rw [hfound]
  exact fun _ => id

/-- What has been left out for overlapping something else is there afterwards. -/
theorem foundAgain_overlapping : FoundAgain overlappingConfig "abc" overlappingRules ∧
    overlappingRules.LeavesEdges [] ⟨"/a.ts"⟩ "abc" ∧
    Unmarked { disk := aloneDisk overlappingConfig "abc", engine := {} } (ruleEngine.run aloneTask
      ⟨"/"⟩ { disk := aloneDisk overlappingConfig "abc", engine := {} }).2 := by
  have hload := load_rulesOf ofText_overlappingConfig rfl (by cbv)
  have hclean : overlappingRules.RewritesCleanly [] := by
    refine List.forall_mem_cons.2 ⟨⟨_, "x", "x", rfl, rfl, Regex.Template.writes_self (by decide),
      fun path => ?_⟩, List.forall_mem_singleton.2
        ⟨_, "z", "z", rfl, rfl, Regex.Template.writes_self (by decide), fun path => ?_⟩⟩ <;> cbv
  have hfound : overlappingRules.check [] ⟨"/a.ts"⟩ "abc" =
      [rewriteFound "long" "abc|a" 0 3 "x", rewriteFound "short" "c" 2 3 "z"] := by cbv
  have happly : Fixing.apply "abc" (overlappingRules.check [] ⟨"/a.ts"⟩ "abc") =
      some ⟨"abz", [rewriteFound "short" "c" 2 3 "z"]⟩ := by
    rw [hfound]
    cbv
  have hfound' : overlappingRules.check [] ⟨"/a.ts"⟩ "abz" =
      [rewriteFound "long" "abc|a" 0 1 "x"] := by cbv
  have happly' : Fixing.apply "abz" (overlappingRules.check [] ⟨"/a.ts"⟩ "abz") =
      some ⟨"xbz", [rewriteFound "long" "abc|a" 0 1 "x"]⟩ := by
    rw [hfound']
    cbv
  refine ⟨.of_apply hload hclean rfl rfl happly rfl rfl happly' rfl,
    (Ruleset.leavesEdges_iff happly).2 ?_, unmarked_alone hload rfl rfl happly rfl (by decide)⟩
  rw [hfound']
  decide

/-- The mark that a text starts with after fixing is not read again. -/
theorem foundAgain_marked : FoundAgain markedConfig "abx" markedRules ∧
    markedRules.AppliesAll [] ⟨"/a.ts"⟩ "abx" ∧ markedRules.LeavesEdges [] ⟨"/a.ts"⟩ "abx" := by
  have hload := load_rulesOf ofText_markedConfig rfl (by cbv)
  have hclean : markedRules.RewritesCleanly [] := by
    refine List.forall_mem_cons.2 ⟨⟨_, "\ufeff", "\ufeff", rfl, rfl,
      Regex.Template.writes_self (by decide), fun path => ?_⟩, List.forall_mem_singleton.2
        ⟨_, "", "", rfl, rfl, Regex.Template.writes_self (by decide), fun path => ?_⟩⟩ <;> cbv
  have hfound : markedRules.check [] ⟨"/a.ts"⟩ "abx" = [rewriteFound "mark" "ab" 0 2 "\ufeff"] := by
    cbv
  have happly : Fixing.apply "abx" (markedRules.check [] ⟨"/a.ts"⟩ "abx") =
      some ⟨"\ufeffx", [rewriteFound "mark" "ab" 0 2 "\ufeff"]⟩ := by
    rw [hfound]
    cbv
  have hleft : markedRules.check [] ⟨"/a.ts"⟩ "\ufeffx" = [] := by cbv
  have happly' : Fixing.apply "x" (markedRules.check [] ⟨"/a.ts"⟩ "x") =
      some ⟨"", [rewriteFound "start" "^x" 0 1 ""]⟩ := by cbv
  refine ⟨.of_apply hload hclean rfl rfl happly rfl rfl happly' rfl,
    (Ruleset.appliesAll_iff happly).2 ?_, (Ruleset.leavesEdges_iff happly).2 ?_⟩
  · rw [hfound]
    exact fun _ => id
  · rw [hleft]
    exact List.forall_mem_nil _

/-- None of the conditions can be left out: rules that rewrite cleanly find something again where
    all that they find is fixed, but something is found at an edge; where nothing is found at the
    edges, but something has been left out of fixing; and where neither is so, but the text starts
    with a mark. -/
theorem found_again :
    (FoundAgain joinedConfig "aabb" joinedRules ∧
      joinedRules.AppliesAll [] ⟨"/a.ts"⟩ "aabb" ∧
      Unmarked { disk := aloneDisk joinedConfig "aabb", engine := {} } (ruleEngine.run aloneTask
        ⟨"/"⟩ { disk := aloneDisk joinedConfig "aabb", engine := {} }).2) ∧
    (FoundAgain overlappingConfig "abc" overlappingRules ∧
      overlappingRules.LeavesEdges [] ⟨"/a.ts"⟩ "abc" ∧
      Unmarked { disk := aloneDisk overlappingConfig "abc", engine := {} } (ruleEngine.run aloneTask
        ⟨"/"⟩ { disk := aloneDisk overlappingConfig "abc", engine := {} }).2) ∧
    FoundAgain markedConfig "abx" markedRules ∧
      markedRules.AppliesAll [] ⟨"/a.ts"⟩ "abx" ∧ markedRules.LeavesEdges [] ⟨"/a.ts"⟩ "abx" :=
  ⟨foundAgain_joined, foundAgain_overlapping, foundAgain_marked⟩

end RuleEngine

end Autofix
