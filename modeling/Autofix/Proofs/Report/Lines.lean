import Autofix.Proofs.Diagnostic.Grouping
import Autofix.Report.Format
import Mathlib.Algebra.Ring.Nat

/-!
# The lines of a report

The formats `prose`, `verbose` and `stylish` write a report line by line. What a line tells is a
`Report.Line`: a listing of them (`Report.listing`, `Report.tabling`) says which lines a report has,
and a format shows each as a text.

* `Report.render_listing`, `Report.render_tabling`: a report is its listing, line by line;
* `Report.readLines_written`: lines that tell nothing with a line feed in it are read back;
* `Report.render_accounts`: no failure and no fix is lost, told twice or moved to another file, the
  numbers of fixed errors add up to that of the fixes, and there is no line besides.
-/

namespace Autofix

/-! ### Lines -/

/-- The lines of a text. A line feed ends each of them; behind the last one there is another line
    only if there is anything. -/
def Text.lines : List Char → List (List Char)
  | [] => []
  | c :: cs =>
    if c = '\n' then [] :: lines cs
    else match lines cs with
      | [] => [[c]]
      | line :: rest => (c :: line) :: rest

theorem Text.lines_append {line : List Char} (h : '\n' ∉ line) (rest : List Char) :
    lines (line ++ '\n' :: rest) = line :: lines rest := by
  induction line with
  | nil => simp [lines]
  | cons c line ih =>
    have hc : c ≠ '\n' := fun heq => h (heq ▸ List.mem_cons_self)
    rw [List.cons_append, lines, if_neg hc, ih fun hmem => h (List.mem_cons_of_mem c hmem)]

/-- A single line in a report: none of its texts has a line feed. -/
def Diagnostic.OneLine (d : Diagnostic) : Prop :=
  '\n' ∉ d.path.text.toList ∧ '\n' ∉ d.ruleId.toList ∧ '\n' ∉ d.message.toList

instance (d : Diagnostic) : Decidable d.OneLine := inferInstanceAs (Decidable (_ ∧ _))

namespace Report

open Diagnostic

/-- What a line of a report tells. -/
inductive Line where
  /-- How many errors of a file have been fixed. -/
  | fixed (count : Nat) (path : Path)
  /-- A fix. -/
  | fix (d : Diagnostic)
  /-- A file that has failures. -/
  | file (path : Path)
  /-- A failure. -/
  | failure (d : Diagnostic)
  /-- Nothing: a block is over. -/
  | blank
  deriving DecidableEq

namespace Line

def count? : Line → Option Nat
  | .fixed count _ => some count
  | _ => none

def fix? : Line → Option Diagnostic
  | .fix d => some d
  | _ => none

def failure? : Line → Option Diagnostic
  | .failure d => some d
  | _ => none

/-- No text that the line shows has a line feed. -/
def Single : Line → Prop
  | .fixed _ path | .file path => '\n' ∉ path.text.toList
  | .fix d | .failure d => d.OneLine
  | .blank => True

end Line

variable {f : Format} {ds failures fixes : List Diagnostic} {l : Line}

/-- A failure as the formats show it: with its severity, file, place and message, and, except in
    `prose`, with its rule. -/
def shown : Format → Diagnostic → String
  | .prose, d =>
    let (line, column) := d.shownAt
    s!"{d.severity.label}: {d.path.text}[{line}, {column}]: {d.message}"
  | .verbose, d =>
    let (line, column) := d.shownAt
    s!"{d.severity.label}: ({d.ruleId}) {d.path.text}[{line}, {column}]: {d.message}"
  | .json, d => d.toJson.compact
  | .stylish, d =>
    let (line, column) := d.shownAt
    let place := alignRight 5 (toString line) ++ ":" ++ alignLeft 4 (toString column)
    s!"{place} {alignLeft 7 d.severity.name}  {d.message}  {d.ruleId}"

def Line.text (f : Format) : Line → String
  | .fixed count path => s!"Fixed {count} error(s) in {path.text}"
  | .fix d => s!"\t{d.ruleId}: {d.message}"
  | .file path => path.text
  | .failure d => shown f d
  | .blank => ""

/-- Lines one below the other. -/
def written (f : Format) (lines : List Line) : String :=
  String.join (lines.map fun l => l.text f ++ "\n")

/-- The lines that are read in a text. -/
def readLines (s : String) : List String := (Text.lines s.toList).map String.ofList

/-- The number in a line that says how many errors have been fixed. -/
def countIn? (line : String) : Option Nat :=
  match line.toList with
  | 'F' :: 'i' :: 'x' :: 'e' :: 'd' :: ' ' :: rest =>
    some (Nat.ofDigitChars 10 (rest.takeWhile Char.isDigit) 0)
  | _ => none

/-- For each path a heading, its diagnostics and an empty line. -/
def blocks (heading : Path × List Diagnostic → Line) (tell : Diagnostic → Line)
    (ds : List Diagnostic) : List Line :=
  (byPath ds).flatMap fun g => heading g :: g.2.map tell ++ [.blank]

/-- The lines in the formats `prose` and `verbose`: the fixes of each file with their number, then
    the failures. -/
def listing (failures fixes : List Diagnostic) : List Line :=
  blocks (fun (path, group) => .fixed group.length path) .fix fixes ++ failures.map .failure

/-- The lines in the format `stylish`: the failures of each file. -/
def tabling (failures : List Diagnostic) : List Line :=
  blocks (fun (path, _) => .file path) .failure failures

/-! ### Reading lines -/

theorem newline_not_mem_toDigits (n : Nat) : '\n' ∉ Nat.toDigits 10 n := fun h =>
  absurd (Nat.isDigit_of_mem_toDigits (by decide) (by decide) h) (by decide)

theorem newline_mem_alignRight {width : Nat} {s : String} :
    '\n' ∈ (alignRight width s).toList ↔ '\n' ∈ s.toList := by
  simp [alignRight]

theorem newline_mem_alignLeft {width : Nat} {s : String} :
    '\n' ∈ (alignLeft width s).toList ↔ '\n' ∈ s.toList := by
  simp [alignLeft]

theorem newline_not_mem_label (s : Severity) : '\n' ∉ s.label.toList := by
  cases s <;> decide

theorem newline_not_mem_name (s : Severity) : '\n' ∉ s.name.toList := by
  cases s <;> decide

/-- A text in a message stands for itself. -/
theorem toString_string (s : String) : toString s = s := rfl

theorem newline_not_mem_shown (hf : f ≠ .json) {d : Diagnostic} (h : d.OneLine) :
    '\n' ∉ (shown f d).toList := by
  obtain ⟨hpath, hrule, hmessage⟩ := h
  cases f with
  | prose | verbose =>
    simp [shown, toString_string, newline_not_mem_label, newline_not_mem_toDigits, hpath, hrule,
      hmessage]
  | stylish =>
    simp [shown, toString_string, newline_mem_alignRight, newline_mem_alignLeft,
      newline_not_mem_toDigits, newline_not_mem_name, hrule, hmessage]
  | json => exact absurd rfl hf

/-- Without line feeds in what it tells, a line is a single one. -/
theorem Line.Single.newline_not_mem (hl : l.Single) (hf : f ≠ .json) :
    '\n' ∉ (l.text f).toList := by
  cases l with
  | fixed count path =>
    have hpath : '\n' ∉ path.text.toList := hl
    simp [text, toString_string, newline_not_mem_toDigits, hpath]
  | fix d => simpa [text, toString_string] using hl.2
  | file path => exact hl
  | failure d => exact newline_not_mem_shown hf hl
  | blank => exact List.not_mem_nil

theorem readLines_written {lines : List Line} (hf : f ≠ .json) (h : ∀ l ∈ lines, l.Single) :
    readLines (written f lines) = lines.map (·.text f) := by
  induction lines with
  | nil => rfl
  | cons l lines ih =>
    obtain ⟨hl, hlines⟩ := List.forall_mem_cons.1 h
    have htext : (written f (l :: lines)).toList =
        (l.text f).toList ++ '\n' :: (written f lines).toList := by
      simp [written, String.toList_append]
    rw [readLines, htext, Text.lines_append (hl.newline_not_mem hf), List.map_cons,
      String.ofList_toList, ← readLines, ih hlines, List.map_cons]

/-! ### What is told -/

variable {heading : Path × List Diagnostic → Line} {tell : Diagnostic → Line}

/-- A block for each path has two lines besides those of its diagnostics. -/
theorem length_blocks (heading : Path × List Diagnostic → Line) (tell : Diagnostic → Line)
    (ds : List Diagnostic) : (blocks heading tell ds).length = 2 * pathCount ds + ds.length := by
  have hperm := (flatMap_byPath_perm ds).length_eq
  rw [← hperm, ← length_byPath, blocks]
  induction byPath ds with
  | nil => rfl
  | cons g groups ih =>
    simp only [List.flatMap_cons, List.length_append, ih, List.length_cons, List.length_map,
      List.length_nil]
    omega

/-- What is told in blocks, in their headings and of the diagnostics below them. -/
theorem filterMap_blocks {α : Type} {read : Line → Option α} (hblank : read .blank = none)
    (heading : Path × List Diagnostic → Line) (tell : Diagnostic → Line) (ds : List Diagnostic) :
    (blocks heading tell ds).filterMap read = (byPath ds).flatMap fun g =>
      (read (heading g)).toList ++ g.2.filterMap fun d => read (tell d) := by
  rw [blocks, List.filterMap_flatMap]
  refine congrArg (List.flatMap · (byPath ds)) (funext fun g => ?_)
  rw [List.cons_append, List.filterMap_cons, List.filterMap_append, List.filterMap_map,
    List.filterMap_cons_none hblank, List.filterMap_nil, List.append_nil]
  cases read (heading g) <;> rfl

theorem mem_blocks_iff : l ∈ blocks heading tell ds ↔
    ∃ g ∈ byPath ds, l = heading g ∨ (∃ d ∈ g.2, tell d = l) ∨ l = .blank := by
  simp [blocks]

theorem single_of_mem_blocks (hl : l ∈ blocks heading tell ds) (h : ∀ d ∈ ds, d.OneLine)
    (hheading : ∀ g, '\n' ∉ g.1.text.toList → (heading g).Single)
    (htell : ∀ d, d.OneLine → (tell d).Single) : l.Single := by
  obtain ⟨g, hg, rfl | ⟨d, hd, rfl⟩ | rfl⟩ := mem_blocks_iff.1 hl
  · obtain ⟨d, hd, hpath⟩ := exists_path_eq_of_mem_byPath hg
    exact hheading g (hpath ▸ (h d hd).1)
  · exact htell d (h d (mem_of_mem_byPath hg hd))
  · trivial

/-! ### Listings -/

theorem length_listing (failures fixes : List Diagnostic) :
    (listing failures fixes).length = 2 * pathCount fixes + fixes.length + failures.length := by
  rw [listing, List.length_append, length_blocks, List.length_map]

theorem length_tabling (failures : List Diagnostic) :
    (tabling failures).length = 2 * pathCount failures + failures.length :=
  length_blocks _ _ failures

/-- The numbers of fixed errors add up to that of the fixes. -/
theorem sum_count_listing (failures fixes : List Diagnostic) :
    ((listing failures fixes).filterMap Line.count?).sum = fixes.length := by
  have hfailures : (failures.map Line.failure).filterMap Line.count? = [] := by
    rw [List.filterMap_map]
    exact List.filterMap_eq_nil_iff.2 fun _ _ => rfl
  rw [← (flatMap_byPath_perm fixes).length_eq, List.length_flatMap, listing, List.filterMap_append,
    hfailures, List.append_nil, filterMap_blocks rfl]
  simp [Line.count?, List.map_eq_flatMap]

theorem countIn?_fixed (f : Format) (count : Nat) (path : Path) :
    countIn? ((Line.fixed count path).text f) = some count := by
  have htext : ((Line.fixed count path).text f).toList = 'F' :: 'i' :: 'x' :: 'e' :: 'd' :: ' ' ::
      (Nat.toDigits 10 count ++ ' ' :: ("error(s) in ".toList ++ path.text.toList)) := by
    simp [Line.text, toString_string]
  have hdigits : ∀ c ∈ Nat.toDigits 10 count, c.isDigit := fun c =>
    Nat.isDigit_of_mem_toDigits (by decide) (by decide)
  have hcount : (Nat.toDigits 10 count ++ ' ' :: ("error(s) in ".toList ++
      path.text.toList)).takeWhile Char.isDigit = Nat.toDigits 10 count := by
    rw [List.takeWhile_append_of_pos hdigits, List.takeWhile_cons_of_neg (by decide),
      List.append_nil]
  simp only [countIn?, htext, hcount]
  rw [Nat.ofDigitChars_toDigits (by decide) (by decide)]

/-- The line of a failure starts with its severity and tells no number of fixed errors. -/
theorem countIn?_shown (hf : f = .prose ∨ f = .verbose) (d : Diagnostic) :
    countIn? (shown f d) = none := by
  rcases hf with rfl | rfl <;> cases hseverity : d.severity <;>
    simp [countIn?, shown, toString_string, hseverity, Severity.label]

/-- The numbers that are read in the lines are those of the listing. -/
theorem countIn?_text (hf : f = .prose ∨ f = .verbose) (hl : l ∈ listing failures fixes) :
    countIn? (l.text f) = l.count? := by
  rcases List.mem_append.1 hl with hl | hl
  · -- The line of a fix starts with a tab, so that it is not taken for a heading.
    obtain ⟨g, -, rfl | ⟨d, -, rfl⟩ | rfl⟩ := mem_blocks_iff.1 hl
    · exact countIn?_fixed f g.2.length g.1
    · simp [countIn?, Line.text, Line.count?, toString_string]
    · rfl
  · obtain ⟨d, -, rfl⟩ := List.mem_map.1 hl
    exact countIn?_shown hf d

theorem failures_listing (failures fixes : List Diagnostic) :
    (listing failures fixes).filterMap Line.failure? = failures := by
  rw [listing, List.filterMap_append, filterMap_blocks rfl, List.filterMap_map]
  simp [Line.failure?, Function.comp_def]

theorem fixes_listing_perm (failures fixes : List Diagnostic) :
    ((listing failures fixes).filterMap Line.fix?).Perm fixes := by
  rw [listing, List.filterMap_append, filterMap_blocks rfl, List.filterMap_map]
  simpa [Line.fix?, Function.comp_def] using flatMap_byPath_perm fixes

theorem failures_tabling_perm (failures : List Diagnostic) :
    ((tabling failures).filterMap Line.failure?).Perm failures := by
  rw [tabling, filterMap_blocks rfl]
  simpa [Line.failure?] using flatMap_byPath_perm failures

theorem single_of_mem_listing (h : ∀ d ∈ failures ++ fixes, d.OneLine)
    (hl : l ∈ listing failures fixes) : l.Single := by
  rw [List.forall_mem_append] at h
  rcases List.mem_append.1 hl with hl | hl
  · exact single_of_mem_blocks hl h.2 (fun _ hpath => hpath) fun _ hd => hd
  · obtain ⟨d, hd, rfl⟩ := List.mem_map.1 hl
    exact h.1 d hd

theorem single_of_mem_tabling (h : ∀ d ∈ failures, d.OneLine) (hl : l ∈ tabling failures) :
    l.Single :=
  single_of_mem_blocks hl h (fun _ hpath => hpath) fun _ hd => hd

/-! ### Reports -/

/-- Texts with line feeds between them, and one behind the last. -/
theorem intercalate_append {ss : List String} (hne : ss ≠ []) :
    "\n".intercalate ss ++ "\n" = String.join (ss.map (· ++ "\n")) := by
  induction ss with
  | nil => exact absurd rfl hne
  | cons s ss ih =>
    cases ss with
    | nil => simp
    | cons next ss =>
      rw [String.intercalate_cons_of_ne_nil (by simp), String.append_assoc, ih (by simp)]
      simp

theorem failureLine_prose : failureLine (fun _ => "") = shown .prose := by
  funext d
  simp [failureLine, shown, toString_string]

theorem failureLine_verbose : failureLine (fun d => s!"({d.ruleId}) ") = shown .verbose := by
  funext d
  simp [← String.toList_inj, failureLine, shown, toString_string]

theorem lines_eq_written {origin : Diagnostic → String} (h : failureLine origin = shown f)
    (failures fixes : List Diagnostic) :
    lines origin failures fixes = written f (listing failures fixes) := by
  have htexts : fixBlocks fixes ++ failures.map (failureLine origin) =
      (listing failures fixes).map (·.text f) := by
    simp [fixBlocks, listing, blocks, List.map_flatMap, Line.text, h, Function.comp_def]
  rw [lines]
  split_ifs with hnothing
  · obtain ⟨rfl, rfl⟩ := hnothing
    rfl
  · -- A listing of no lines is one of no failures and no fixes.
    have hne : (listing failures fixes).map (·.text f) ≠ [] := fun hnil => hnothing <| by
      have hlength := length_listing failures fixes
      rw [List.map_eq_nil_iff.1 hnil, List.length_nil] at hlength
      exact ⟨List.eq_nil_of_length_eq_zero (by omega), List.eq_nil_of_length_eq_zero (by omega)⟩
    rw [htexts, intercalate_append hne, List.map_map]
    rfl

theorem render_listing (hf : f = .prose ∨ f = .verbose) (failures fixes : List Diagnostic) :
    f.render failures fixes = written f (listing failures fixes) := by
  rcases hf with rfl | rfl
  · exact lines_eq_written failureLine_prose failures fixes
  · exact lines_eq_written failureLine_verbose failures fixes

theorem render_tabling (failures fixes : List Diagnostic) :
    Format.stylish.render failures fixes = written .stylish (tabling failures) := by
  have hrow : ∀ d, failureRow d = shown .stylish d ++ "\n" := fun d => rfl
  rw [Format.render, tables, ← String.toList_inj]
  simp [written, tabling, blocks, hrow, List.map_flatMap, List.flatMap_map, Line.text,
    List.flatMap_assoc, Function.comp_def]

/-- Reports account for all that they are made of. Diagnostics are grouped by their paths, without
    loss, repetition or change of order. In `prose` and `verbose`, the fixes are told file by file,
    with numbers that add up to that of the fixes, and then the failures, one after the other; in
    `stylish`, the failures file by file. Where no text has a line feed, these are the lines that are
    read in the report: two for each path in blocks, and one for each fix and for each failure. -/
theorem render_accounts (failures fixes : List Diagnostic) :
    (∀ ds, IsGrouping ds (byPath ds)) ∧
    (∀ f, f = .prose ∨ f = .verbose →
      f.render failures fixes = written f (listing failures fixes) ∧
      ((listing failures fixes).filterMap Line.count?).sum = fixes.length ∧
      ((listing failures fixes).filterMap Line.fix?).Perm fixes ∧
      (listing failures fixes).filterMap Line.failure? = failures ∧
      ((∀ d ∈ failures ++ fixes, d.OneLine) →
        readLines (f.render failures fixes) = (listing failures fixes).map (·.text f) ∧
        ((readLines (f.render failures fixes)).filterMap countIn?).sum = fixes.length ∧
        (readLines (f.render failures fixes)).length =
          2 * pathCount fixes + fixes.length + failures.length)) ∧
    Format.stylish.render failures fixes = written .stylish (tabling failures) ∧
    ((tabling failures).filterMap Line.failure?).Perm failures ∧
    ((∀ d ∈ failures, d.OneLine) →
      readLines (Format.stylish.render failures fixes) = (tabling failures).map (·.text .stylish) ∧
      (readLines (Format.stylish.render failures fixes)).length =
        2 * pathCount failures + failures.length) := by
  refine ⟨isGrouping_byPath, fun f hf => ?_, render_tabling failures fixes,
    failures_tabling_perm failures, fun h => ?_⟩
  · refine ⟨render_listing hf failures fixes, sum_count_listing failures fixes,
      fixes_listing_perm failures fixes, failures_listing failures fixes, fun h => ?_⟩
    have hjson : f ≠ .json := by rcases hf with rfl | rfl <;> decide
    have hread := readLines_written hjson fun _ => single_of_mem_listing h
    have hcounts : ((listing failures fixes).map (·.text f)).filterMap countIn? =
        (listing failures fixes).filterMap Line.count? := by
      rw [List.filterMap_map]
      exact List.filterMap_congr fun _ => countIn?_text hf
    rw [render_listing hf, hread, hcounts, List.length_map, length_listing]
    exact ⟨rfl, sum_count_listing failures fixes, rfl⟩
  · have hread := readLines_written (f := .stylish) (by decide) fun _ => single_of_mem_tabling h
    rw [render_tabling, hread, List.length_map, length_tabling]
    exact ⟨rfl, rfl⟩

/-- Findings in two files, in turn, one of them under two spellings. -/
def scattered : List Diagnostic :=
  ["a.ts", "src/b.ts", "a.ts", "src//b.ts"].map fun path =>
    ⟨⟨path⟩, "no-tab", "Write blanks", ⟨0, 1⟩, none, .warning, none⟩

theorem render_accounts_scattered :
    (∀ d ∈ scattered ++ scattered, d.OneLine) ∧ (∀ d ∈ scattered, d.OneLine) ∧
    ((readLines (Format.verbose.render scattered scattered)).filterMap countIn?).sum = 4 ∧
    (readLines (Format.verbose.render scattered scattered)).length = 12 ∧
    readLines (Format.verbose.render scattered []) =
      ["WARNING: (no-tab) a.ts[1, 1]: Write blanks",
        "WARNING: (no-tab) src/b.ts[1, 1]: Write blanks",
        "WARNING: (no-tab) a.ts[1, 1]: Write blanks",
        "WARNING: (no-tab) src//b.ts[1, 1]: Write blanks"] ∧
    (readLines (Format.stylish.render scattered [])).length = 8 := by
  have hpaths : pathCount scattered = 2 := by decide
  have hboth : ∀ d ∈ scattered ++ scattered, d.OneLine := by decide
  have hfailures : ∀ d ∈ scattered, d.OneLine := by decide
  obtain ⟨-, hlines, -⟩ := render_accounts scattered scattered
  obtain ⟨-, -, -, -, hverbose⟩ := hlines .verbose (.inr rfl)
  obtain ⟨-, hsum, hlength⟩ := hverbose hboth
  obtain ⟨-, halone, -, -, hstylish⟩ := render_accounts scattered []
  obtain ⟨-, -, -, -, hverbose'⟩ := halone .verbose (.inr rfl)
  refine ⟨hboth, hfailures, hsum, ?_, ?_, ?_⟩
  · rw [hlength, hpaths]
    rfl
  · exact (hverbose' (by rwa [List.append_nil])).1.trans (by cbv)
  · rw [(hstylish hfailures).2, hpaths]
    rfl

end Report

end Autofix
