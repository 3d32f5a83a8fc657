import Autofix.Diagnostic
import Autofix.Trace

/-!
# Applying fixes

A text is fixed by those diagnostics whose fix lies in it (`Fix.fits`). They are taken from the end
of the text to its start, so that the offsets of the ones to come stay valid, and a fix that
overlaps the one accepted just before it is left for another pass. Each replacement is made in the
text that the ones before it have left; where its span does not lie in that text, fixing breaks off.

* `candidates` are the diagnostics with a fix that fits, later starts first;
* `accept` leaves out the overlapping ones;
* `replaceEach` makes replacements one after the other;
* `Fixing.apply` is the text after fixing, if there is one, and `Fixing.trace` tells about it.
-/

namespace Autofix

/-- Whether the span of a fix lies in a text, with both ends at boundaries of characters. -/
def Fix.fits (content : List Char) (f : Fix) : Bool :=
  f.span.start ≤ f.span.stop && Text.isBoundary content f.span.start
    && Text.isBoundary content f.span.stop

theorem Fix.fits_iff {content : List Char} {f : Fix} :
    f.fits content ↔ ∃ before mid after, content = before ++ mid ++ after ∧
      Text.size before = f.span.start ∧ Text.size before + Text.size mid = f.span.stop := by
  simp only [fits, Bool.and_eq_true, decide_eq_true_eq, Text.isBoundary_iff]
  constructor
  · rintro ⟨⟨hle, as, rest, rfl, hstart⟩, as', after, hcut, hstop⟩
    obtain ⟨mid, rfl, rfl⟩ := Text.exists_middle hcut (by omega)
    exact ⟨as, mid, after, by simp, hstart, by rw [← Text.size_append]; exact hstop⟩
  · rintro ⟨before, mid, after, rfl, hstart, hstop⟩
    exact ⟨⟨by omega, before, mid ++ after, by simp, hstart⟩,
      before ++ mid, after, rfl, by rw [Text.size_append]; exact hstop⟩

/-- A diagnostic together with its fix. -/
structure Fixable where
  diagnostic : Diagnostic
  fix : Fix
  deriving DecidableEq, Repr

def Diagnostic.fixable? (d : Diagnostic) : Option Fixable := d.fix.map fun fix => ⟨d, fix⟩

theorem Diagnostic.fixable?_eq_some_iff {d : Diagnostic} {c : Fixable} :
    d.fixable? = some c ↔ c.diagnostic = d ∧ d.fix = some c.fix := by
  obtain ⟨diagnostic, fix⟩ := c
  simp only [fixable?, Option.map_eq_some_iff, Fixable.mk.injEq]
  constructor
  · rintro ⟨fix, hfix, rfl, rfl⟩
    exact ⟨rfl, hfix⟩
  · rintro ⟨rfl, hfix⟩
    exact ⟨fix, hfix, rfl, rfl⟩

namespace Fixing

/-- The diagnostics whose fix fits, later starts first; those of one start keep their order. -/
def candidates (content : List Char) (ds : List Diagnostic) : List Fixable :=
  ((ds.filterMap Diagnostic.fixable?).filter fun c => c.fix.fits content).mergeSort
    fun a b => b.fix.span.start ≤ a.fix.span.start

/-- Leaves out every fix that overlaps the one accepted last, which is `last?` at the beginning. -/
def acceptAfter (last? : Option Span) : List Fixable → List Fixable
  | [] => []
  | c :: cs =>
    if last?.any fun last => last.overlaps c.fix.span then acceptAfter last? cs
    else c :: acceptAfter (some c.fix.span) cs

def accept (cs : List Fixable) : List Fixable := acceptAfter none cs

/-- The fixes that are left out because of an overlap. -/
def skippedAfter (last? : Option Span) : List Fixable → List Fixable
  | [] => []
  | c :: cs =>
    if last?.any fun last => last.overlaps c.fix.span then c :: skippedAfter last? cs
    else skippedAfter (some c.fix.span) cs

/-- Makes one replacement, if its span lies in the text. -/
def replace? (text : List Char) (f : Fix) : Option (List Char) :=
  Text.replace? text f.span.start f.span.stop f.text.toList

theorem replace?_eq_some_iff {text out : List Char} {f : Fix} :
    replace? text f = some out ↔ ∃ before mid after, text = before ++ mid ++ after ∧
      Text.size before = f.span.start ∧ Text.size before + Text.size mid = f.span.stop ∧
      out = before ++ f.text.toList ++ after :=
  Text.replace?_eq_some_iff

/-- A replacement can be made exactly where its span lies in the text. -/
theorem isSome_replace?_iff {text : List Char} {f : Fix} :
    (replace? text f).isSome ↔ f.fits text := by
  rw [Option.isSome_iff_exists, Fix.fits_iff]
  constructor
  · rintro ⟨out, h⟩
    obtain ⟨before, mid, after, htext, hstart, hstop, -⟩ := replace?_eq_some_iff.1 h
    exact ⟨before, mid, after, htext, hstart, hstop⟩
  · rintro ⟨before, mid, after, htext, hstart, hstop⟩
    exact ⟨_, replace?_eq_some_iff.2 ⟨before, mid, after, htext, hstart, hstop, rfl⟩⟩

/-- Makes replacements one after the other, each in the text that the one before has left. -/
def replaceEach : List Char → List Fixable → Option (List Char)
  | text, [] => some text
  | text, c :: cs => (replace? text c.fix).bind fun text => replaceEach text cs

/-- The fixes that are tried: all of them, or those up to the first one that does not lie in the
    text at its turn. -/
def tried : List Char → List Fixable → List Fixable
  | _, [] => []
  | text, c :: cs => c :: ((replace? text c.fix).elim [] fun text => tried text cs)

end Fixing

/-- A text after fixing, and the diagnostics whose fix was applied, in the order of the text. -/
structure Fixed where
  content : String
  applied : List Diagnostic
  deriving DecidableEq, Repr

/-- Whether any fix was applied. -/
def Fixed.modified (f : Fixed) : Bool := !f.applied.isEmpty

namespace Fixing

/-- Applies the fixes of diagnostics to a text. There is no result when one of the replacements
    cannot be made. -/
def apply (content : String) (ds : List Diagnostic) : Option Fixed :=
  let cs := content.toList
  let accepted := accept (candidates cs ds)
  (replaceEach cs accepted).map fun text =>
    { content := String.ofList text, applied := (accepted.map (·.diagnostic)).reverse }

/-- What applying the fixes of diagnostics says: which spans do not fit, which fixes are left out
    because of an overlap, and which ones are tried. -/
def trace (content : String) (ds : List Diagnostic) : Trace :=
  let cs := content.toList
  let misfits := (ds.filterMap Diagnostic.fixable?).filter fun c => !c.fix.fits cs
  let sorted := candidates cs ds
  misfits.map (fun c =>
    let (start, stop) := (c.fix.span.start, c.fix.span.stop)
    .warn s!"Invalid fix span: start={start}, end={stop}, content_len={Text.size cs}")
  ++ (skippedAfter none sorted).map (fun c =>
    .warn s!"Skipping overlapping fix at [{c.fix.span.start}, {c.fix.span.stop}]")
  ++ (tried cs (accept sorted)).map (fun c =>
    let (start, stop) := (c.fix.span.start, c.fix.span.stop)
    .debug s!"Applying fix: replace [{start}..{stop}] with '{c.fix.text}'")

end Fixing

end Autofix
