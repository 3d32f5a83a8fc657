import Autofix.Proofs.Fixing
import Autofix.Proofs.Fixing.Edges
import Autofix.Proofs.Run.Steps

/-!
# Texts that change

A text counts as modified when any fix has been applied to it, whether or not it is another text
then. A file is written, and fixes are recorded, for a modified text only. What is certain is one
direction: a text that has changed is modified, and some fix puts another text in the place of what
stands there (`Fixing.Alters`). The other direction fails in two ways (`Fixing.modified_unchanged`):

* a fix may put there what stands there already;
* fixes may cancel one another, when one lengthens what it replaces and another one shortens it.
  Replacements that do not go both ways change the text if one of them alters it
  (`Fixing.ne_iff_of_oneWay`), as those of pattern rules do (`Fixing.alters_of_mem_check`).
-/

namespace Autofix

namespace Fixing

variable {content : String} {text out : List Char}
  {ds : List Diagnostic} {fixed : Fixed} {f : Fix} {fs : List Fix} {cs : List Fixable}

/-! ### Replacements that alter nothing -/

theorem replace?_of_not_alters (h : ¬Alters text f) : replace? text f = some text := by
  obtain ⟨before, after, htext, hstart, hstop⟩ := Text.slice?_eq_some_iff.1 (not_not.1 h)
  exact replace?_eq_some_iff.2 ⟨before, _, after, htext, hstart, hstop, htext⟩

theorem replaceEach_of_not_alters (h : ∀ c ∈ cs, ¬Alters text c.fix) :
    replaceEach text cs = some text := by
  induction cs with
  | nil => rfl
  | cons c cs ih =>
    obtain ⟨hc, hcs⟩ := List.forall_mem_cons.1 h
    rw [replaceEach, replace?_of_not_alters hc, Option.bind_some, ih hcs]

/-! ### Sizes -/

/-- Replacing at once changes the size of a text by as much as the replaced parts change theirs. -/
theorem size_of_splice?_eq (before after : List Char) (hfits : ∀ f ∈ fs, f.fits (before ++ after))
    (h : splice? (before ++ after) (Text.size before) fs = some out) :
    Text.size out + (fs.map fun f => f.span.stop - f.span.start).sum =
      Text.size after + (fs.map fun f => Text.size f.text.toList).sum := by
  induction fs generalizing before after out with
  | nil =>
    rw [splice?, Text.slice?_end, Option.some.injEq] at h
    simp [h]
  | cons f fs ih =>
    obtain ⟨hfit, hfits⟩ := List.forall_mem_cons.1 hfits
    simp only [splice?, Option.bind_eq_bind, Option.bind_eq_some_iff, Option.pure_def,
      Option.some.injEq] at h
    obtain ⟨kept, hkept, rest, hrest, rfl⟩ := h
    obtain ⟨gone, after, rfl, hstart, hstop⟩ := exists_cut hfit hkept
    rw [hstop] at hrest
    have hsizes := ih (before ++ kept ++ gone) after (by simpa using hfits)
      (by simpa using hrest)
    simp only [List.map_cons, List.sum_cons, hstart, hstop, Text.size_append]
    omega

/-- Where every replacement has the size of what it replaces, and the text comes out as it was, each
    of them is what it replaces. -/
theorem not_alters_of_splice?_eq (before after : List Char) (hfits : ∀ f ∈ fs, f.fits (before ++ after))
    (hsizes : ∀ f ∈ fs, f.span.stop - f.span.start = Text.size f.text.toList)
    (h : splice? (before ++ after) (Text.size before) fs = some after) :
    ∀ f ∈ fs, ¬Alters (before ++ after) f := by
  induction fs generalizing before after with
  | nil => exact List.forall_mem_nil _
  | cons f fs ih =>
    obtain ⟨hfit, hfits⟩ := List.forall_mem_cons.1 hfits
    obtain ⟨hsize, hsizes⟩ := List.forall_mem_cons.1 hsizes
    simp only [splice?, Option.bind_eq_bind, Option.bind_eq_some_iff, Option.pure_def,
      Option.some.injEq] at h
    obtain ⟨kept, hkept, rest, hrest, heq⟩ := h
    obtain ⟨gone, after, rfl, hstart, hstop⟩ := exists_cut hfit hkept
    rw [List.append_assoc] at heq
    have hnew : Text.size f.text.toList = Text.size gone := by
      rw [← hsize, hstart, hstop, Text.size_append _ gone, Nat.add_sub_cancel_left]
    obtain ⟨hsame, rfl⟩ := Text.append_inj_of_size (List.append_cancel_left heq) hnew
    rw [hstop] at hrest
    refine List.forall_mem_cons.2 ⟨not_not.2 (Text.slice?_eq_some_iff.2
      ⟨before ++ kept, rest, by simp [hsame], hstart.symm, ?_⟩), ?_⟩
    · rw [hstop, hsame, Text.size_append _ gone]
    · simpa using ih (before ++ kept ++ gone) rest (by simpa using hfits) hsizes
        (by simpa using hrest)

/-- Replacements that do not go both ways: none of them lengthens what it replaces, or none of them
    shortens it. -/
def OneWay (fs : List Fix) : Prop :=
  (∀ f ∈ fs, Text.size f.text.toList ≤ f.span.stop - f.span.start) ∨
    ∀ f ∈ fs, f.span.stop - f.span.start ≤ Text.size f.text.toList

theorem eq_of_sum_map_eq {g h : Fix → Nat} (hle : ∀ f ∈ fs, g f ≤ h f)
    (hsum : (fs.map g).sum = (fs.map h).sum) : ∀ f ∈ fs, g f = h f := by
  by_contra! ⟨f, hf, hne⟩
  exact (List.sum_lt_sum g h hle ⟨f, hf, lt_of_le_of_ne (hle f hf) hne⟩).ne hsum

/-- Replacements that do not go both ways alter nothing if, made at once, they leave the text as it
    is. -/
theorem not_alters_of_oneWay (honeWay : OneWay fs) (hfits : ∀ f ∈ fs, f.fits text)
    (h : splice? text 0 fs = some text) : ∀ f ∈ fs, ¬Alters text f := by
  have hsum := size_of_splice?_eq [] text hfits h
  refine not_alters_of_splice?_eq [] text hfits ?_ h
  rcases honeWay with hle | hle
  · exact fun f hf => (eq_of_sum_map_eq hle (Nat.add_left_cancel hsum).symm f hf).symm
  · exact eq_of_sum_map_eq hle (Nat.add_left_cancel hsum)

/-! ### What has been modified -/

/-- The fixes of the applied diagnostics are the accepted ones, in the order of the text. -/
theorem filterMap_fix_applied (h : apply content ds = some fixed) :
    fixed.applied.filterMap (·.fix) =
      ((accept (candidates content.toList ds)).map (·.fix)).reverse := by
  obtain ⟨text, -, rfl⟩ := Option.map_eq_some_iff.1 h
  rw [List.filterMap_reverse, List.filterMap_map, List.reverse_inj]
  have hfix : ∀ a ∈ accept (candidates content.toList ds),
      ((·.fix) ∘ (·.diagnostic) : Fixable → Option Fix) a = some a.fix :=
    fun a ha => (fix_of_mem_accept ha).1
  rw [List.filterMap_congr hfix]
  exact congrFun List.filterMap_eq_map _

theorem modified_of_mem_fixes (hf : f ∈ fixed.applied.filterMap (·.fix)) : fixed.modified := by
  obtain ⟨d, hd, -⟩ := List.mem_filterMap.1 hf
  simpa [Fixed.modified] using List.ne_nil_of_mem hd

/-- Some fix is applied exactly if some fix fits the text. -/
theorem modified_iff (h : apply content ds = some fixed) :
    fixed.modified ↔ fitting content.toList ds ≠ [] := by
  obtain ⟨text, -, rfl⟩ := Option.map_eq_some_iff.1 h
  have haccept : accept (candidates content.toList ds) = [] ↔ candidates content.toList ds = [] := by
    cases candidates content.toList ds <;> simp [accept, acceptAfter]
  have hlength := (map_fix_candidates_perm content.toList ds).length_eq
  rw [List.length_map] at hlength
  simp [Fixed.modified, haccept, ← List.length_eq_zero_iff, hlength]

/-- A text that fixing changes is changed by a fix that alters what stands in its place. -/
theorem exists_alters_of_ne (h : apply content ds = some fixed) (hne : fixed.content ≠ content) :
    ∃ f ∈ fixed.applied.filterMap (·.fix), Alters content.toList f := by
  by_contra! hnone
  simp only [filterMap_fix_applied h, List.mem_reverse, List.forall_mem_map] at hnone
  obtain ⟨text, htext, rfl⟩ := Option.map_eq_some_iff.1 h
  rw [replaceEach_of_not_alters hnone, Option.some.injEq] at htext
  exact hne (by rw [← htext, String.ofList_toList])

/-- Where insertions come last, applied fixes that do not go both ways change the text exactly if one
    of them alters what stands in its place. -/
theorem ne_iff_of_oneWay (h : apply content ds = some fixed)
    (hlast : InsertionsLast (fitting content.toList ds))
    (honeWay : OneWay (fixed.applied.filterMap (·.fix))) :
    fixed.content ≠ content ↔ ∃ f ∈ fixed.applied.filterMap (·.fix), Alters content.toList f := by
  refine ⟨exists_alters_of_ne h, fun ⟨f, hf, halters⟩ hcontent => ?_⟩
  obtain ⟨fixed', happly, ⟨fs, hfs, hfits, -, hsplice⟩, -⟩ := exists_isAtOnce hlast
  obtain rfl : fixed = fixed' := Option.some.inj (h.symm.trans happly)
  rw [filterMap_fix_eq hfs] at hf honeWay
  rw [hcontent] at hsplice
  exact not_alters_of_oneWay honeWay hfits hsplice f hf halters

/-- What pattern rules find has a fix only if it alters the text. -/
theorem alters_of_mem_check {registry : Registry} {c : Ruleset} {path : Path} {d : Diagnostic}
    (hpattern : ∀ a ∈ c.active, a.pattern.isSome) (hd : d ∈ c.check registry path content)
    (hfix : d.fix = some f) : Alters content.toList f := by
  obtain ⟨a, -, r, -, m, -, -, rfl⟩ := Ruleset.exists_match_of_mem_check hpattern hd
  simp only [Ruleset.diagnostic, PatternRule.failure, Option.bind_eq_some_iff] at hfix
  obtain ⟨template, -, hfix⟩ := hfix
  split_ifs at hfix with hsame
  obtain rfl := Option.some.inj hfix
  rw [Alters, String.toList_ofList]
  exact Ne.symm hsame

/-- Where all rules are pattern rules, and the applied fixes do not go both ways, a text is modified
    exactly if it changes. -/
theorem modified_iff_ne_of_check {registry : Registry} {c : Ruleset} {path : Path}
    (hpattern : ∀ a ∈ c.active, a.pattern.isSome)
    (h : apply content (c.check registry path content) = some fixed)
    (honeWay : OneWay (fixed.applied.filterMap (·.fix))) :
    fixed.modified ↔ fixed.content ≠ content := by
  rw [ne_iff_of_oneWay h (Ruleset.insertionsLast_check hpattern) honeWay]
  constructor
  · intro hmodified
    obtain ⟨d, hd⟩ := List.exists_mem_of_ne_nil fixed.applied
      (by simpa [Fixed.modified] using hmodified)
    obtain ⟨hcheck, hfix⟩ := mem_of_mem_applied h hd
    obtain ⟨f, hfix⟩ := Option.isSome_iff_exists.1 hfix
    exact ⟨f, List.mem_filterMap.2 ⟨d, hd, hfix⟩, alters_of_mem_check hpattern hcheck hfix⟩
  · rintro ⟨f, hf, -⟩
    exact modified_of_mem_fixes hf

/-- A text counts as modified exactly if some fix fits it, and a file is written, and fixes recorded,
    for a modified text only. A text that changes is modified, and some applied fix alters what
    stands in its place. Where no applied fix lengthens what it replaces, or none shortens it, such a
    fix changes the text if insertions come last; and what pattern rules modify changes. -/
theorem changed_iff_alters (h : apply content ds = some fixed) :
    let fixes := fixed.applied.filterMap (·.fix)
    (fixed.modified ↔ fitting content.toList ds ≠ []) ∧
    (fixed.content ≠ content → fixed.modified ∧ ∃ f ∈ fixes, Alters content.toList f) ∧
    (InsertionsLast (fitting content.toList ds) → OneWay fixes →
      (fixed.content ≠ content ↔ ∃ f ∈ fixes, Alters content.toList f)) ∧
    ∀ (path : Path) (c : Ruleset) (w : World RuleEngine),
      c.check w.engine.registry path content = ds →
      ((∀ a ∈ c.active, a.pattern.isSome) → OneWay fixes →
        (fixed.modified ↔ fixed.content ≠ content)) ∧
      let after := (RuleEngine.lint path content c w).2
      (after.disk = w.disk ∧ after.engine.fixes = w.engine.fixes) ∨
        (fixed.modified ∧ w.disk.writeText path fixed.content = .ok after.disk ∧
          after.engine.fixes = w.engine.fixes ++ fixed.applied) := by
  refine ⟨modified_iff h, fun hne => ?_, ne_iff_of_oneWay h, fun path c w hcheck => ?_⟩
  · obtain ⟨f, hf, halters⟩ := exists_alters_of_ne h hne
    exact ⟨modified_of_mem_fixes hf, f, hf, halters⟩
  · subst hcheck
    refine ⟨fun hpattern honeWay => modified_iff_ne_of_check hpattern h honeWay, ?_⟩
    have hlint := RuleEngine.lint_lintsTo path content c w
    generalize RuleEngine.lint path content c w = linted at hlint ⊢
    obtain ⟨outcome, after⟩ := linted
    dsimp only at hlint ⊢
    generalize after.disk = disk at hlint ⊢
    generalize after.engine = engine at hlint ⊢
    cases hlint with
    | leftOut | failed => exact .inl ⟨rfl, rfl⟩
    | kept => exact .inl ⟨rfl, List.append_nil _⟩
    | fixed hkeep happly hmodified hwrite =>
      obtain rfl := Option.some.inj (h.symm.trans happly)
      exact .inr ⟨hmodified, hwrite, rfl⟩

/-- A finding with a fix for its span. -/
private def suggestion (start stop : Nat) (text : String) : Diagnostic where
  path := ⟨"a.ts"⟩
  ruleId := "r"
  message := "m"
  span := ⟨start, stop⟩
  loc := none
  severity := .error
  fix := some ⟨⟨start, stop⟩, text⟩

/-- One fix puts back what it takes away, and the other one does not. -/
theorem changed_iff_alters_half :
    let ds := [suggestion 0 1 "a", suggestion 1 2 "c"]
    apply "ab" ds = some ⟨"ac", ds⟩ ∧
    let fixes := ds.filterMap (·.fix)
    ((⟨"ac", ds⟩ : Fixed).modified ↔ fitting "ab".toList ds ≠ []) ∧
    ("ac" ≠ "ab" → (⟨"ac", ds⟩ : Fixed).modified ∧ ∃ f ∈ fixes, Alters "ab".toList f) ∧
    (InsertionsLast (fitting "ab".toList ds) → OneWay fixes →
      ("ac" ≠ "ab" ↔ ∃ f ∈ fixes, Alters "ab".toList f)) ∧
    ∀ (path : Path) (c : Ruleset) (w : World RuleEngine),
      c.check w.engine.registry path "ab" = ds →
      ((∀ a ∈ c.active, a.pattern.isSome) → OneWay fixes →
        ((⟨"ac", ds⟩ : Fixed).modified ↔ "ac" ≠ "ab")) ∧
      let after := (RuleEngine.lint path "ab" c w).2
      (after.disk = w.disk ∧ after.engine.fixes = w.engine.fixes) ∨
        ((⟨"ac", ds⟩ : Fixed).modified ∧ w.disk.writeText path "ac" = .ok after.disk ∧
          after.engine.fixes = w.engine.fixes ++ ds) := by
  intro ds
  have happly : apply "ab" ds = some ⟨"ac", ds⟩ := by cbv
  exact ⟨happly, changed_iff_alters happly⟩

/-- A text may be modified and not change: when the fix puts back what it takes away, and when one
    fix takes away what another one adds. -/
theorem modified_unchanged :
    (∃ fixed, apply "a" [suggestion 0 1 "a"] = some fixed ∧ fixed.modified ∧
      fixed.content = "a") ∧
    ∃ fixed, apply "aab" [suggestion 0 2 "a", suggestion 2 3 "ab"] = some fixed ∧ fixed.modified ∧
      fixed.content = "aab" := by
  have hsame : apply "a" [suggestion 0 1 "a"] = some ⟨"a", [suggestion 0 1 "a"]⟩ := by cbv
  have hcancel : apply "aab" [suggestion 0 2 "a", suggestion 2 3 "ab"] =
      some ⟨"aab", [suggestion 0 2 "a", suggestion 2 3 "ab"]⟩ := by cbv
  exact ⟨⟨_, hsame, rfl, rfl⟩, _, hcancel, rfl, rfl⟩

end Fixing

end Autofix
