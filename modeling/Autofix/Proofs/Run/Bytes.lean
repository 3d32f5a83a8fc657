import Autofix.Proofs.Run.Linted

/-!
# The bytes of a linted file

What linting does to the bytes of a file on the disk. The rules see its text without the byte-order
mark, so that the spans of their fixes count from behind the mark, and what is written is what they
see with the fixes made. Hence a file without a fix keeps its bytes, and a file with one keeps every
byte that is neither in the span of a recorded fix nor part of the mark: the mark goes with the first
fix. If what the rules see with the fixes made cannot be written, no fix is recorded
(`RuleEngine.bytes_of_lintFile`).

`Fixing.spliceBytes` replaces spans in bytes, where `Fixing.splice?` does it in a text; the two are
compared in `Fixing.spliceBytes_of_splice?`.
-/

namespace Autofix

/-! ### Replacing bytes -/

theorem Text.size_utf8Encode (cs : List Char) : cs.utf8Encode.size = size cs := by
  induction cs with
  | nil => rfl
  | cons c cs ih =>
    rw [List.utf8Encode_cons, ByteArray.size_append, ih, List.utf8Encode_singleton,
      List.size_toByteArray, String.length_utf8EncodeChar, size]

/-- The bytes between two boundaries of a text are those of the part between them. -/
theorem Text.extract_of_slice? {cs part : List Char} {start stop : Nat}
    (h : slice? cs start stop = some part) : cs.utf8Encode.extract start stop = part.utf8Encode := by
  obtain ⟨before, after, rfl, rfl, rfl⟩ := slice?_eq_some_iff.1 h
  rw [List.utf8Encode_append, List.utf8Encode_append, ByteArray.append_assoc, ← size_utf8Encode,
    ← size_utf8Encode part]
  exact (ByteArray.extract_append_size_add (i := 0)).trans (ByteArray.extract_append_eq_left rfl)

/-- A fix for a text that comes behind some bytes. -/
def Fix.shift (n : Nat) (f : Fix) : Fix := ⟨⟨n + f.span.start, n + f.span.stop⟩, f.text⟩

namespace Fixing

/-- The rest of some bytes from `pos` on, with the spans of fixes replaced. -/
def spliceBytes (bytes : ByteArray) (pos : Nat) : List Fix → ByteArray
  | [] => bytes.extract pos bytes.size
  | f :: fs => bytes.extract pos f.span.start ++ f.text.toByteArray ++ spliceBytes bytes f.span.stop fs

/-- Replacing spans in a text, and in its bytes behind others, comes to the same. -/
theorem spliceBytes_of_splice? (front : ByteArray) {text out : List Char} {pos : Nat} {fs : List Fix}
    (h : splice? text pos fs = some out) :
    spliceBytes (front ++ text.utf8Encode) (front.size + pos) (fs.map (·.shift front.size)) =
      out.utf8Encode := by
  induction fs generalizing pos out with
  | nil =>
    rw [List.map_nil, spliceBytes, ByteArray.size_append, ByteArray.extract_append_size_add,
      Text.size_utf8Encode]
    exact Text.extract_of_slice? h
  | cons f fs ih =>
    simp only [splice?, Option.bind_eq_bind, Option.bind_eq_some_iff, Option.pure_def,
      Option.some.injEq] at h
    obtain ⟨kept, hkept, rest, hrest, rfl⟩ := h
    rw [List.map_cons, spliceBytes, List.utf8Encode_append, List.utf8Encode_append, ← ih hrest,
      ← Text.extract_of_slice? hkept, String.utf8Encode_toList, Fix.shift,
      ByteArray.extract_append_size_add]

end Fixing

namespace SourceText

/-- The number of bytes of the mark at the front of a text, if there is one. -/
def markSize (s : String) : Nat :=
  if s.toList.head? = some byteOrderMark then byteOrderMark.utf8Size else 0

/-- The bytes of a text are those of its mark, and those behind it. -/
theorem exists_front (s : String) : ∃ front : ByteArray, front.size = markSize s ∧
    s.toByteArray = front ++ (withoutMark s).toByteArray := by
  by_cases hmark : s.toList.head? = some byteOrderMark
  · obtain ⟨rest, hrest⟩ := List.head?_eq_some_iff.1 hmark
    refine ⟨[byteOrderMark].utf8Encode, ?_, ?_⟩
    · rw [Text.size_utf8Encode, markSize, if_pos hmark]
      rfl
    · rw [← String.utf8Encode_toList, hrest, List.utf8Encode_cons, withoutMark, hrest]
      dsimp only
      rw [if_pos rfl, String.toByteArray_ofList]
  · rw [markSize, if_neg hmark, withoutMark_eq hmark]
    exact ⟨.empty, rfl, ByteArray.empty_append.symm⟩

end SourceText

/-- Where all replacements can be made, linting a file writes the fixed text and records the applied
    fixes, or writes and records nothing, which with fixing on happens to a text that is not left out
    only if no fix is applied to it. -/
theorem Ruleset.exists_linted?_of_apply {registry : Registry} {c : Ruleset} {path : Path}
    {content : String} {fixed : Fixed}
    (happly : Fixing.apply content (c.check registry path content) = some fixed) (fix : Bool) :
    ∃ l, c.linted? registry fix path (if content = "" then none else some content) = some l ∧
      ((l.written = none ∧ l.fixes = [] ∧
          (fix → c.config.excludes path = false → content ≠ "" → fixed.applied = [])) ∨
        (l.written = some fixed.content ∧ l.fixes = fixed.applied ∧ fixed.applied ≠ [])) := by
  by_cases hempty : content = ""
  · rw [if_pos hempty]
    exact ⟨{}, rfl, .inl ⟨rfl, rfl, fun _ _ hne => absurd hempty hne⟩⟩
  rw [if_neg hempty, linted?]
  by_cases hexcluded : c.config.excludes path
  · rw [if_pos hexcluded]
    exact ⟨{}, rfl, .inl ⟨rfl, rfl, fun _ hkeep => absurd hexcluded (by simp [hkeep])⟩⟩
  rw [if_neg hexcluded, lintedText?, happly]
  by_cases hmodified : fixed.modified
  · have hany := Fixing.any_of_modified happly hmodified
    cases fix with
    | false => exact ⟨_, rfl, .inl ⟨rfl, rfl, fun hfix => absurd hfix Bool.false_ne_true⟩⟩
    | true =>
      simp only [hany, Bool.and_self, if_true, Option.map_some, hmodified]
      exact ⟨_, rfl, .inr ⟨rfl, rfl, by simpa [Fixed.modified] using hmodified⟩⟩
  · have hnil : fixed.applied = [] := by simpa [Fixed.modified] using hmodified
    simp only [Option.map_some, if_neg hmodified, ite_self]
    exact ⟨_, rfl, .inl ⟨rfl, rfl, fun _ _ _ => hnil⟩⟩

namespace RuleEngine

variable {c : Ruleset} {file : Path} {s : String} {w : World RuleEngine}

/-- Linting a file by rules whose valid fixes all take something away makes the fixes that can be
    applied to the text behind the byte-order mark, if there is something to lint. A file in which
    nothing is fixed keeps its bytes. Otherwise the spans of the fixes are replaced in what stands
    behind the mark, and the mark, if there is one, goes. The fixes are recorded and the file has
    these bytes, unless they cannot be written: then the run ends and nothing is recorded. -/
theorem bytes_of_lintFile (hread : w.disk.readText file = .ok s)
    (hne : ∀ f ∈ Fixing.fitting (SourceText.withoutMark s).toList
      (c.check w.engine.registry file (SourceText.withoutMark s)), ¬f.span.isEmpty) :
    let (outcome, after) := ruleEngine.lintFile none c file w
    ∃ (fixes : List Diagnostic) (fs : List Fix) (written : String),
      (w.engine.options.fix → c.config.excludes file = false → SourceText.withoutMark s ≠ "" →
        ∃ fixed, Fixing.apply (SourceText.withoutMark s)
          (c.check w.engine.registry file (SourceText.withoutMark s)) = some fixed ∧
          fixes = fixed.applied) ∧
      fixes.map (·.fix) = fs.map some ∧ (∀ f ∈ fs, f.fits (SourceText.withoutMark s).toList) ∧
      fs.IsChain (fun f g => f.span.stop ≤ g.span.start) ∧
      written.toByteArray =
        (if fs = [] then s.toByteArray
        else Fixing.spliceBytes s.toByteArray (SourceText.markSize s)
          (fs.map (·.shift (SourceText.markSize s)))) ∧
      ((outcome = .ok () ∧ after.engine.fixes = w.engine.fixes ++ fixes ∧
          after.disk.readText file = .ok written) ∨
        (fixes ≠ [] ∧ ∃ e, w.disk.writeText file written = .error e ∧
          outcome = .error (.io e) ∧ after.engine = w.engine)) := by
  set content := SourceText.withoutMark s with hcontent
  have hfile := Disk.isFile_of_readText hread
  have hsource : SourceText.read w.disk file = .ok content := by rw [SourceText.read, hread]; rfl
  have htext := textToLint_none_eq_ok_iff.2 ⟨content, hsource, rfl⟩
  obtain ⟨fixed, happly, ⟨fs, hfs, hfits, hchain, hsplice⟩, -⟩ :=
    Fixing.exists_isAtOnce (Fixing.insertionsLast_of_not_isEmpty hne)
  obtain ⟨l, hl, hcases⟩ := Ruleset.exists_linted?_of_apply happly w.engine.options.fix
  have hlint : ruleEngine.lintFile none c file w = _ :=
    Engine.lintFile_of_logs ruleEngine.logs_self c file w []
  rw [hlint]
  have hlinted := fileTranscript_cases_of_linted htext hl
  rcases hcases with ⟨hwritten, hfixes, hnone⟩ | ⟨hwritten, hfixes, happlied⟩
  · refine ⟨[], [], s,
      fun hfix hkeep hempty => ⟨fixed, happly, (hnone hfix hkeep hempty).symm⟩, rfl,
      List.forall_mem_nil _, .nil, (if_pos rfl).symm, ?_⟩
    rcases hlinted with ⟨hok, hengine, hstores⟩ | ⟨text, e, htext, -⟩
    · rw [hwritten] at hstores
      refine .inl ⟨hok, by rw [hengine, hfixes]; rfl, ?_⟩
      rw [show _ = w.disk from hstores, hread]
    · cases hwritten.symm.trans htext
  · have hne' : fs ≠ [] := by
      rintro rfl
      exact happlied (List.map_eq_nil_iff.1 hfs)
    refine ⟨fixed.applied, fs, fixed.content, fun _ _ _ => ⟨fixed, happly, rfl⟩, hfs, hfits,
      hchain, ?_, ?_⟩
    · -- The bytes of the text that the rules see stand behind those of the mark.
      obtain ⟨front, hfront, hbytes⟩ := SourceText.exists_front s
      rw [if_neg hne', hbytes, ← hfront, ← hcontent, ← String.utf8Encode_toList (b := content),
        ← String.utf8Encode_toList (b := fixed.content)]
      exact (Fixing.spliceBytes_of_splice? front hsplice).symm
    · rcases hlinted with ⟨hok, hengine, hstores⟩ | ⟨text, e, htext, hwrite, hout, hsame⟩
      · rw [hwritten] at hstores
        exact .inl ⟨hok, by rw [hengine, hfixes]; rfl, Disk.readText_of_writeText hfile hstores⟩
      · obtain rfl := Option.some.inj (hwritten.symm.trans htext)
        exact .inr ⟨happlied, e, hwrite, hout, hsame⟩

/-- A world in which the file `a.ts` is alone on the disk and starts with a byte-order mark. -/
def markedFile : World RuleEngine :=
  { disk := ⟨.folder [("a.ts", .file (.text "\uFEFFa"))], [], none⟩, engine := {} }

theorem readText_markedFile : markedFile.disk.readText ⟨"a.ts"⟩ = .ok "\uFEFFa" := by cbv

theorem withoutMark_markedFile : SourceText.withoutMark "\uFEFFa" = "a" := by cbv

theorem check_letterRules_markedFile :
    letterRules.check [] ⟨"a.ts"⟩ "a" = [letterFound ⟨"a.ts"⟩] := by cbv

theorem bytes_of_lintFile_marked :
    (markedFile.disk.readText ⟨"a.ts"⟩ = .ok "\uFEFFa" ∧
      ∀ f ∈ Fixing.fitting (SourceText.withoutMark "\uFEFFa").toList
        (letterRules.check [] ⟨"a.ts"⟩ (SourceText.withoutMark "\uFEFFa")), ¬f.span.isEmpty) ∧
    let (outcome, after) := ruleEngine.lintFile none letterRules ⟨"a.ts"⟩ markedFile
    outcome = .ok () ∧ after.engine.fixes = [letterFound ⟨"a.ts"⟩] ∧
      after.disk.readText ⟨"a.ts"⟩ = .ok "b" ∧
      "b".toByteArray = Fixing.spliceBytes "\uFEFFa".toByteArray 3 [⟨⟨3, 4⟩, "b"⟩] := by
  have hne : ∀ f ∈ Fixing.fitting (SourceText.withoutMark "\uFEFFa").toList
      (letterRules.check [] ⟨"a.ts"⟩ (SourceText.withoutMark "\uFEFFa")), ¬f.span.isEmpty := by
    rw [withoutMark_markedFile, check_letterRules_markedFile]
    decide
  have hkeep : letterRules.config.excludes ⟨"a.ts"⟩ = false := by cbv
  have happly : Fixing.apply "a" [letterFound ⟨"a.ts"⟩] =
      some ⟨"b", [letterFound ⟨"a.ts"⟩]⟩ := by cbv
  have hmark : SourceText.markSize "\uFEFFa" = 3 := by cbv
  have hlint := bytes_of_lintFile (w := markedFile) (c := letterRules) readText_markedFile hne
  generalize ruleEngine.lintFile none letterRules ⟨"a.ts"⟩ markedFile = ran at hlint ⊢
  obtain ⟨outcome, after⟩ := ran
  obtain ⟨fixes, fs, written, hfixes, hfs, -, -, hbytes, hran⟩ := hlint
  obtain ⟨fixed, hfixed, rfl⟩ := hfixes rfl hkeep (by rw [withoutMark_markedFile]; decide)
  have hfound : letterRules.check markedFile.engine.registry ⟨"a.ts"⟩ "a" =
      [letterFound ⟨"a.ts"⟩] := check_letterRules_markedFile
  rw [withoutMark_markedFile, hfound, happly] at hfixed
  obtain rfl := Option.some.inj hfixed
  obtain rfl : [⟨⟨0, 1⟩, "b"⟩] = fs := List.map_injective_iff.2 (fun _ _ => Option.some.inj) hfs
  rw [if_neg (List.cons_ne_nil _ _), hmark] at hbytes
  have hb : "b".toByteArray = Fixing.spliceBytes "\uFEFFa".toByteArray 3 [⟨⟨3, 4⟩, "b"⟩] := by
    decide
  obtain rfl : written = "b" := String.toByteArray_inj.1 (hbytes.trans hb.symm)
  refine ⟨⟨readText_markedFile, hne⟩, ?_⟩
  rcases hran with ⟨hok, hrecorded, hafter⟩ | ⟨-, e, hwrite, -⟩
  · exact ⟨hok, hrecorded, hafter, hb⟩
  · obtain ⟨d, hd⟩ := Disk.exists_writeText (Disk.isFile_of_readText readText_markedFile) "b"
    cases hwrite.symm.trans hd

/-- The mark is not put back: with the recorded fix made behind the mark, the file would start with
    it. -/
theorem mark_not_written :
    let after := (ruleEngine.lintFile none letterRules ⟨"a.ts"⟩ markedFile).2
    after.engine.fixes = [letterFound ⟨"a.ts"⟩] ∧ after.disk.readText ⟨"a.ts"⟩ = .ok "b" ∧
      "b".toByteArray ≠ Fixing.spliceBytes "\uFEFFa".toByteArray 0
        (([letterFound ⟨"a.ts"⟩].filterMap (·.fix)).map (·.shift 3)) := by
  have hfile := Disk.isFile_of_readText readText_markedFile
  have htext : textToLint markedFile.disk none ⟨"a.ts"⟩ = .ok (some "a") := by cbv
  have happly : Fixing.apply "a" (letterRules.check [] ⟨"a.ts"⟩ "a") =
      some ⟨"b", [letterFound ⟨"a.ts"⟩]⟩ := by
    rw [check_letterRules_markedFile]
    cbv
  have hkeep : letterRules.config.excludes ⟨"a.ts"⟩ = false := by cbv
  have hlinted := Ruleset.linted?_of_apply hkeep happly rfl
  have hlint : ruleEngine.lintFile none letterRules ⟨"a.ts"⟩ markedFile = _ :=
    Engine.lintFile_of_logs ruleEngine.logs_self letterRules ⟨"a.ts"⟩ markedFile []
  obtain ⟨-, hengine, hstores⟩ :=
    fileTranscript_of_linted (w := markedFile) hfile htext hlinted
  intro after
  have hafter : after = (ruleEngine.fileTranscript none letterRules ⟨"a.ts"⟩ markedFile).world := by
    rw [show after = (ruleEngine.lintFile none letterRules ⟨"a.ts"⟩ markedFile).2 from rfl, hlint]
  rw [hafter]
  refine ⟨by rw [hengine]; rfl, Disk.readText_of_writeText hfile hstores, ?_⟩
  decide

end RuleEngine

end Autofix
