import Autofix.Proofs.Config.Alike
import Autofix.Proofs.Fixing.Edges
import Autofix.Proofs.Linting
import Autofix.Proofs.Regex.Local
import Autofix.Proofs.Regex.Numbered

/-!
# What fixing leaves behind

Where everything that pattern rules find is fixed, and they find nothing in the texts they put in
its place, all that they find afterwards touches an edge of a replacement
(`Ruleset.exists_edge_of_mem_check`): away from the edges, a match would have been found before, or
in the text of a replacement. So nothing is found any more if the edges are left alone
(`Ruleset.AppliesAll.check_eq_nil`).
-/

namespace Autofix

namespace Regex.Template

/-- The template refers to no group and stands for a text. -/
def Writes (template new : String) : Prop := pieces template = new.toList.map .text

theorem Writes.expand {template new : String} (h : Writes template new) (names : List (String × ℕ))
    (text : List Char) (m : Match) : expand template names text m = new.toList := by
  rw [Template.expand, h, List.flatMap_map]
  exact List.flatMap_singleton' _

/-- A template without any `$` stands for itself. -/
theorem writes_self {template : String} (h : '$' ∉ template.toList) : Writes template template := by
  have hpieces : ∀ (fuel : ℕ) (cs : List Char), cs.length < fuel → '$' ∉ cs →
      piecesFrom fuel cs = cs.map .text := by
    intro fuel cs hfuel hcs
    induction cs generalizing fuel with
    | nil => cases fuel <;> rfl
    | cons c cs ih =>
      obtain ⟨hc, hcs⟩ := not_or.1 (mt List.mem_cons.2 hcs)
      cases fuel with
      | zero => cases hfuel
      | succ fuel =>
        rw [piecesFrom, ih fuel (Nat.lt_of_succ_lt_succ hfuel) hcs, List.map_cons]
        · exact hc ∘ Eq.symm
  exact hpieces _ _ (Nat.lt_succ_self _) h

end Regex.Template

/-! ### Loaded rules -/

theorem PatternRule.savesGroups_of_ofOptions? {name : String} {options : Json} {r : PatternRule}
    (h : ofOptions? name options = .ok (some r)) : r.regex.program.SavesGroups := by
  rw [ofOptions?] at h
  split_ifs at h
  · cases h
  · obtain ⟨o, -, h⟩ := bind_eq_ok_iff.1 h
    obtain ⟨regex, hregex, h⟩ := bind_eq_ok_iff.1 h
    obtain rfl := Option.some.inj (Except.ok.inj h)
    exact Regex.savesGroups_of_read? (mapError_eq_ok_iff.1 hregex)

namespace Ruleset

variable {registry : Registry} {c : Ruleset} {path : Path} {content written : String}
  {d : Diagnostic} {fixes : List Diagnostic}

/-- The patterns of rules save places of their groups only. -/
def SavesGroups (c : Ruleset) : Prop :=
  ∀ a ∈ c.active, ∀ r, a.pattern = some r → r.regex.program.SavesGroups

theorem savesGroups_of_pick {settings : List (String × RuleSetting)}
    {active : List ConfiguredRule} (h : (pick registry settings).result = .ok active) :
    ∀ a ∈ active, ∀ r, a.pattern = some r → r.regex.program.SavesGroups := by
  induction settings generalizing active with
  | nil =>
    obtain rfl := Except.ok.inj h
    exact List.forall_mem_nil _
  | cons setting settings ih =>
    obtain ⟨name, setting⟩ := setting
    simp only [pick, Traced.bind_result, bind_eq_ok_iff, Traced.ofExcept] at h
    obtain ⟨pattern, hpattern, h⟩ := h
    split_ifs at h
    · simp only [Traced.bind_result, bind_eq_ok_iff] at h
      obtain ⟨-, -, h⟩ := h
      exact ih h
    · simp only [Traced.bind_result, bind_eq_ok_iff, Traced.pure_result, Except.ok.injEq] at h
      obtain ⟨more, hmore, rfl⟩ := h
      refine List.forall_mem_cons.2 ⟨fun r hr => ?_, ih hmore⟩
      obtain rfl : pattern = some r := hr
      exact PatternRule.savesGroups_of_ofOptions? (mapError_eq_ok_iff.1 hpattern)

/-- Rules that have been loaded have read their patterns. -/
theorem savesGroups_of_load {d : Disk} {source : ConfigSource}
    (h : (load registry d source).result = .ok c) : c.SavesGroups := by
  rw [load, Traced.bind_result, bind_eq_ok_iff] at h
  obtain ⟨config, -, h⟩ := h
  exact savesGroups_of_pick (ofConfig_eq_ok_iff.1 h).2

/-! ### Rewriting -/

/-- The rules put texts in place of what they match in which none of them matches anything: each is
    a pattern rule with a replacement, which refers to no group. -/
def RewritesCleanly (registry : Registry) (c : Ruleset) : Prop :=
  ∀ a ∈ c.active, ∃ r template new, a.pattern = some r ∧ r.replacement = some template ∧
    Regex.Template.Writes template new ∧ ∀ path, c.check registry path new = []

theorem RewritesCleanly.pattern_isSome (h : c.RewritesCleanly registry) :
    ∀ a ∈ c.active, a.pattern.isSome := by
  intro a ha
  obtain ⟨r, -, -, hr, -⟩ := h a ha
  exact Option.isSome_iff_exists.2 ⟨r, hr⟩

/-- In the texts that the rules put in place of matches, they find nothing. -/
theorem RewritesCleanly.check_text (h : c.RewritesCleanly registry) {text : List Char} {f : Fix}
    (hd : c.Replaces text d) (hf : d.fix = some f) (path : Path) :
    c.check registry path f.text = [] := by
  obtain ⟨a, ha, r, template, hr, htemplate, m, -, -, -, -, hfix⟩ := hd
  obtain ⟨r', template', new, hr', htemplate', hwrites, hnothing⟩ := h a ha
  obtain rfl := Option.some.inj (hr.symm.trans hr')
  obtain rfl := Option.some.inj (htemplate.symm.trans htemplate')
  obtain rfl := Option.some.inj (hf.symm.trans hfix)
  rw [Regex.expand, hwrites.expand, String.ofList_toList]
  exact hnothing path

theorem FixedAtOnce.fits (h : FixedAtOnce registry c path content written fixes) :
    ∀ f ∈ fixes.filterMap (·.fix), f.fits content.toList := by
  intro f hf
  obtain ⟨d, hd, hfix⟩ := List.mem_filterMap.1 hf
  obtain ⟨-, fix, hfix', -, hfits⟩ := (h.replaces d hd).fits
  rwa [Option.some.inj (hfix.symm.trans hfix')]

theorem FixedAtOnce.fixes_ascending (h : FixedAtOnce registry c path content written fixes) :
    (fixes.filterMap (·.fix)).Pairwise fun f g => f.span.stop ≤ g.span.start := by
  refine List.pairwise_filterMap.2 (h.ascending.imp_of_mem fun hd he hle f hf g hg => ?_)
  obtain ⟨-, fix, hfix, hspan, -⟩ := (h.replaces _ hd).fits
  obtain ⟨-, fix', hfix', hspan', -⟩ := (h.replaces _ he).fits
  rwa [Option.some.inj (hf.symm.trans hfix), Option.some.inj (hg.symm.trans hfix'), hspan, hspan']

/-- What is found after everything that had been found has been fixed touches an edge of a
    replacement. -/
theorem exists_edge_of_mem_check (hclean : c.RewritesCleanly registry) (hsaves : c.SavesGroups)
    (hfixed : FixedAtOnce registry c path content written fixes)
    (hall : ∀ d ∈ c.check registry path content, d ∈ fixes)
    (hd : d ∈ c.check registry path written) :
    ∃ edge ∈ Fixing.edges 0 0 (fixes.filterMap (·.fix)),
      d.span.start ≤ edge ∧ edge ≤ d.span.stop := by
  by_contra hedges
  obtain ⟨a, ha, r, hr, m, hm, hne, rfl⟩ := exists_match_of_mem_check hclean.pattern_isSome hd
  obtain ⟨pre, x, post, htext, hstart, hstop⟩ := Regex.exists_cut_of_mem_findAll hm
  have hx : x ≠ [] := by
    rintro rfl
    exact hne (hstart.trans hstop.symm)
  have hspan : (diagnostic path written.toList a (r.failure written.toList m)).span =
      ⟨Text.size pre, Text.size pre + Text.size x⟩ := congrArg₂ Span.mk hstart hstop
  have hsplice := hfixed.written_eq
  rw [htext] at hm hsplice
  rw [hspan] at hedges
  have hfound : ∀ {text : String} {pre' post' : List Char}, text.toList = pre' ++ (x ++ post') →
      pre'.getLast? = pre.getLast? → post'.head? = post.head? →
      ∃ d ∈ c.check registry path text, d.span.start ≤ Text.size pre' ∧
        Text.size pre' < d.span.stop := by
    intro text pre' post' htext' hlast hhead
    obtain ⟨m', hm', hle, hlt⟩ :=
      Regex.exists_mem_findAll (hsaves a ha r hr) hx hlast.symm hhead.symm hm hstart hstop
    rw [← htext'] at hm'
    exact ⟨_, diagnostic_mem_check ha hr hm' (by omega), hle, hlt⟩
  obtain ⟨f, hf, pre', post', htext', hlast, hhead⟩ |
      ⟨pre', post', htext', hlast, hhead, -, hspans⟩ :=
    Fixing.exists_source [] [] hx hfixed.fits hfixed.fixes_ascending hsplice
      (fun edge hedge htouch => hedges ⟨edge, hedge, htouch⟩) (.inr ⟨rfl, rfl⟩)
  · -- In the text of a replacement there is nothing to find.
    obtain ⟨e, he, hfix⟩ := List.mem_filterMap.1 hf
    obtain ⟨d, hd, -⟩ := hfound htext' hlast hhead
    rw [hclean.check_text (hfixed.replaces e he) hfix] at hd
    cases hd
  · obtain ⟨d, hd, hle, hlt⟩ := hfound htext' hlast hhead
    obtain ⟨-, fix, hfix, hspan', -⟩ := (hfixed.replaces d (hall d hd)).fits
    have := hspans fix (List.mem_filterMap.2 ⟨d, hall d hd, hfix⟩) (by rw [hspan']; exact hle)
    rw [hspan'] at this
    omega

/-- All that is found in a text is fixed: what is found has a fix, as its replacement differs from
    it, and no fix is left out because it overlaps another one. -/
def AppliesAll (registry : Registry) (c : Ruleset) (path : Path) (content : String) : Prop :=
  ∀ fixed, Fixing.apply content (c.check registry path content) = some fixed →
    ∀ d ∈ c.check registry path content, d ∈ fixed.applied

/-- Nothing that is found after fixing touches an edge of a replacement. -/
def LeavesEdges (registry : Registry) (c : Ruleset) (path : Path) (content : String) : Prop :=
  ∀ fixed, Fixing.apply content (c.check registry path content) = some fixed →
    ∀ d ∈ c.check registry path fixed.content,
      ∀ edge ∈ Fixing.edges 0 0 (fixed.applied.filterMap (·.fix)),
        ¬(d.span.start ≤ edge ∧ edge ≤ d.span.stop)

section

variable {fixed : Fixed}
  (happly : Fixing.apply content (c.check registry path content) = some fixed)

include happly

theorem appliesAll_iff : c.AppliesAll registry path content ↔
    ∀ d ∈ c.check registry path content, d ∈ fixed.applied := by
  simp [AppliesAll, happly]

theorem leavesEdges_iff : c.LeavesEdges registry path content ↔
    ∀ d ∈ c.check registry path fixed.content,
      ∀ edge ∈ Fixing.edges 0 0 (fixed.applied.filterMap (·.fix)),
        ¬(d.span.start ≤ edge ∧ edge ≤ d.span.stop) := by
  simp only [LeavesEdges, happly, Option.some.injEq, forall_eq']

/-- Where all that is found has been fixed and the edges are left alone, nothing is found. -/
theorem AppliesAll.check_eq_nil (hall : c.AppliesAll registry path content)
    (hedges : c.LeavesEdges registry path content) (hclean : c.RewritesCleanly registry)
    (hsaves : c.SavesGroups) : c.check registry path fixed.content = [] := by
  obtain ⟨fixed', happly', hfixed⟩ := exists_fixedAtOnce hclean.pattern_isSome
  obtain rfl := Option.some.inj (happly'.symm.trans happly)
  refine List.eq_nil_iff_forall_not_mem.2 fun d hd => ?_
  obtain ⟨edge, hedge, htouch⟩ :=
    exists_edge_of_mem_check hclean hsaves hfixed ((appliesAll_iff happly).1 hall) hd
  exact (leavesEdges_iff happly).1 hedges d hd edge hedge htouch

end

end Ruleset

end Autofix
