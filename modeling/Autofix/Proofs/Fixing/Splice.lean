import Autofix.Fixing
import Mathlib.Data.List.Basic

/-!
# Replacing at once

What fixing is to come to: all spans replaced at once, with the parts between them kept as they
are. `splice?` writes such a text down from the fixes in the order of the text, without any text in
between.

* `exists_splice?`: replacing one after the other, from the last span to the first, is replacing at
  once, as long as each span ends before the one replaced before it;
* `exists_keep`: replacements keep what lies before all of their spans;
* `isSome_replaceEach_iff`: all replacements can be made exactly if each span lies in the text as
  the replacements before it leave it (`EachInPlace`).
-/

namespace Autofix.Fixing

/-- The rest of a text from `pos` on, with the spans of fixes replaced at once. There is none when a
    part between two spans is not a part of the text. -/
def splice? (text : List Char) (pos : Nat) : List Fix → Option (List Char)
  | [] => Text.slice? text pos (Text.size text)
  | f :: fs => do
    let kept ← Text.slice? text pos f.span.start
    let rest ← splice? text f.span.stop fs
    return kept ++ f.text.toList ++ rest

/-- A fix puts another text in the place of what stands there. -/
def Alters (text : List Char) (f : Fix) : Prop :=
  Text.slice? text f.span.start f.span.stop ≠ some f.text.toList

instance (text : List Char) (f : Fix) : Decidable (Alters text f) :=
  inferInstanceAs (Decidable (_ ≠ _))

/-- Every replacement finds its span in the text as the ones before it have left it. -/
def EachInPlace (text : List Char) (cs : List Fixable) : Prop :=
  ∀ done c rest, cs = done ++ c :: rest →
    ∃ now, replaceEach text done = some now ∧ c.fix.fits now

/-! ### Replacing from the end -/

/-- A fix that ends before the rest of a text lies in the part before it. -/
theorem fits_append_left {before after : List Char} {f : Fix} (hf : f.fits (before ++ after))
    (hstop : f.span.stop ≤ Text.size before) : f.fits before := by
  obtain ⟨as, mid, bs, hcut, hs, he⟩ := Fix.fits_iff.1 hf
  obtain ⟨bs', rfl, -⟩ := Text.exists_middle hcut.symm (by rw [Text.size_append]; omega)
  exact Fix.fits_iff.2 ⟨as, mid, bs', rfl, hs, he⟩

/-- The last one of the fixes only changes what follows the others. -/
theorem splice?_concat (before mid after : List Char) {f : Fix}
    (hstart : Text.size before = f.span.start)
    (hstop : Text.size before + Text.size mid = f.span.stop) {fs : List Fix}
    (hfs : ∀ g ∈ fs, g.span.start ≤ Text.size before) (pos : Nat) :
    splice? (before ++ mid ++ after) pos (fs ++ [f]) =
      (splice? before pos fs).map (· ++ (f.text.toList ++ after)) := by
  induction fs generalizing pos with
  | nil =>
    have hkept : Text.slice? (before ++ mid ++ after) pos f.span.start =
        Text.slice? before pos (Text.size before) := by
      rw [List.append_assoc, ← hstart, Text.slice?_append_left _ (Nat.le_refl _)]
    have hrest : Text.slice? (before ++ mid ++ after) f.span.stop
        (Text.size (before ++ mid ++ after)) = some after := by
      rw [← hstop, ← Text.size_append, Text.slice?_end]
    simp only [List.nil_append, splice?, hkept, hrest]
    cases Text.slice? before pos (Text.size before) <;> simp
  | cons g fs ih =>
    -- What stands before a fix other than the last one is cut from `before`.
    have hkept : Text.slice? (before ++ mid ++ after) pos g.span.start =
        Text.slice? before pos g.span.start := by
      rw [List.append_assoc, Text.slice?_append_left _ (hfs g List.mem_cons_self)]
    have hrest := ih (fun e he => hfs e (List.mem_cons_of_mem _ he)) g.span.stop
    simp only [List.cons_append, splice?, hkept, hrest]
    cases Text.slice? before pos g.span.start <;>
      cases splice? before g.span.stop fs <;> simp

/-- Replacements from the last span to the first one, each span ending before the one replaced
    before it, come to replacing them at once. What follows the text is kept. -/
theorem exists_splice? {kept : List Char} {cs : List Fixable} (hfits : ∀ c ∈ cs, c.fix.fits kept)
    (hdesc : cs.Pairwise fun a b => b.fix.span.stop ≤ a.fix.span.start) :
    ∃ out, splice? kept 0 (cs.map (·.fix)).reverse = some out ∧
      ∀ tail, replaceEach (kept ++ tail) cs = some (out ++ tail) := by
  induction cs generalizing kept with
  | nil => exact ⟨kept, Text.slice?_self kept, fun _ => rfl⟩
  | cons c cs ih =>
    rw [List.pairwise_cons] at hdesc
    obtain ⟨before, mid, after, rfl, hstart, hstop⟩ :=
      Fix.fits_iff.1 (hfits c List.mem_cons_self)
    -- The other fixes lie in what stands before `c`, and `after` is a tail to them.
    have hbefore : ∀ d ∈ cs, d.fix.fits before := fun d hd => by
      have hd' := hfits d (List.mem_cons_of_mem _ hd)
      rw [List.append_assoc] at hd'
      exact fits_append_left hd' (by have := hdesc.1 d hd; omega)
    obtain ⟨out, hout, hreplace⟩ := ih hbefore hdesc.2
    refine ⟨out ++ (c.fix.text.toList ++ after), ?_, fun tail => ?_⟩
    · rw [List.map_cons, List.reverse_cons, splice?_concat before mid after hstart hstop, hout]
      · rfl
      · intro g hg
        obtain ⟨d, hd, rfl⟩ := List.mem_map.1 (List.mem_reverse.1 hg)
        obtain ⟨as, mid', bs, rfl, hs, he⟩ := Fix.fits_iff.1 (hbefore d hd)
        simp only [Text.size_append]
        omega
    · have hstep : replace? (before ++ mid ++ after ++ tail) c.fix =
          some (before ++ (c.fix.text.toList ++ after ++ tail)) :=
        replace?_eq_some_iff.2 ⟨before, mid, after ++ tail, by simp, hstart, hstop, by simp⟩
      rw [replaceEach, hstep, Option.bind_some, hreplace]
      simp

/-! ### Replacing in any order -/

theorem replaceEach_append (text : List Char) (cs ds : List Fixable) :
    replaceEach text (cs ++ ds) = (replaceEach text cs).bind fun now => replaceEach now ds := by
  induction cs generalizing text with
  | nil => rfl
  | cons c cs ih => cases h : replace? text c.fix <;> simp [replaceEach, h, ih]

/-- Replacements keep what lies before all of their spans. -/
theorem exists_keep {before after now : List Char} {cs : List Fixable}
    (hcs : ∀ c ∈ cs, Text.size before ≤ c.fix.span.start)
    (h : replaceEach (before ++ after) cs = some now) : ∃ tail, now = before ++ tail := by
  induction cs generalizing after with
  | nil => exact ⟨after, by simpa [replaceEach] using h.symm⟩
  | cons c cs ih =>
    rw [replaceEach, Option.bind_eq_some_iff] at h
    obtain ⟨text, hreplace, h⟩ := h
    obtain ⟨as, mid, bs, hcut, hstart, -, rfl⟩ := replace?_eq_some_iff.1 hreplace
    rw [List.append_assoc] at hcut
    obtain ⟨mid', rfl, -⟩ := Text.exists_middle hcut (by have := hcs c List.mem_cons_self; omega)
    rw [List.append_assoc, List.append_assoc] at h
    exact ih (fun d hd => hcs d (List.mem_cons_of_mem _ hd)) h

/-- A fix keeps its place under replacements behind its end. -/
theorem fits_of_replaceEach {text now : List Char} {cs : List Fixable} {f : Fix}
    (hf : f.fits text) (hcs : ∀ c ∈ cs, f.span.stop ≤ c.fix.span.start)
    (h : replaceEach text cs = some now) : f.fits now := by
  obtain ⟨before, mid, after, rfl, hstart, hstop⟩ := Fix.fits_iff.1 hf
  have hsize : Text.size (before ++ mid) = f.span.stop := by rw [Text.size_append, hstop]
  obtain ⟨tail, rfl⟩ := exists_keep (fun c hc => hsize ▸ hcs c hc) h
  exact Fix.fits_iff.2 ⟨before, mid, tail, rfl, hstart, hstop⟩

/-- All replacements can be made exactly if each of them finds its span. -/
theorem isSome_replaceEach_iff {text : List Char} {cs : List Fixable} :
    (replaceEach text cs).isSome ↔ EachInPlace text cs := by
  constructor
  · rintro h done c rest rfl
    obtain ⟨out, hout⟩ := Option.isSome_iff_exists.1 h
    rw [replaceEach_append, Option.bind_eq_some_iff] at hout
    obtain ⟨now, hnow, hrest⟩ := hout
    rw [replaceEach, Option.bind_eq_some_iff] at hrest
    obtain ⟨text, hreplace, -⟩ := hrest
    exact ⟨now, hnow, isSome_replace?_iff.1 (Option.isSome_iff_exists.2 ⟨text, hreplace⟩)⟩
  · -- If the last replacement can be made, so can all those before it.
    intro h
    rcases List.eq_nil_or_concat cs with rfl | ⟨done, c, rfl⟩
    · rfl
    · rw [List.concat_eq_append] at h ⊢
      obtain ⟨now, hnow, hfits⟩ := h done c [] rfl
      obtain ⟨text, hreplace⟩ := Option.isSome_iff_exists.1 (isSome_replace?_iff.2 hfits)
      rw [replaceEach_append, hnow, Option.bind_some, replaceEach, hreplace]
      rfl

end Autofix.Fixing
