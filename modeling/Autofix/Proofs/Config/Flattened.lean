import Autofix.Proofs.Config.Alike
import Autofix.Proofs.Config.Allowed
import Autofix.Proofs.Disk.Written
import Autofix.Proofs.Json.Reading

/-!
# Configurations in one file

A configuration that has been loaded, with all that it extends, can be written to a single file. A
file of the same folder then comes to the same configuration, if its settings stand for what they
write (`LintConfig.exists_ofFile_flattened`). They do where no text is held in any of the files
(`LintConfig.Loads.stands`), but a rule may be on for a text that is held for it, and off for what
that text says (`LintConfig.rules_ne_of_held`).

Nothing that has been loaded is refused then when it is read again (`LintConfig.Rereadable`). As the
names in each object are in order already, the text that is written is read as what it was written
from (`LintConfig.ofText_compact_toJson`).
-/

namespace Autofix

theorem map_eq_ok_iff {α β ε : Type} {f : α → β} {x : Except ε α} {b : β} :
    x.map f = .ok b ↔ ∃ a, x = .ok a ∧ f a = b := by
  cases x with
  | error e => exact iff_of_false (fun h => by cases h) (fun ⟨_, h, _⟩ => by cases h)
  | ok a => simp [Except.map]

theorem Glob.text_of_ofText? {separate : Bool} {text : String} {g : Glob}
    (h : ofText? separate text = .ok g) : g.text = text := by
  unfold ofText? at h
  dsimp only at h
  split at h
  · cases h
  · split at h
    · rw [← Except.ok.inj h]
    · cases h

namespace RuleSetting

variable {s : RuleSetting} {v : Json}

/-- A setting is read from what the schema allows for a rule. -/
def IsRead (s : RuleSetting) : Prop :=
  ∃ v : Json, v.Ordered ∧ Schema.ruleSetting.allows v ∧ decode v = .ok s

/-- A setting stands for what it writes: it is a truth value, a word, or an object of options that
    the schema allows and in which no text is held. -/
inductive Stands : RuleSetting → Prop
  | enabled (on : Bool) : Stands (.enabled on)
  | severity (word : String) : Stands (.severity word)
  | options {entries : List (String × Json)} (h : Schema.ruleSetting.allows (.record entries))
      (hplain : (Json.record entries).Plain) : Stands (.options (.record entries))

theorem plain_of_stands (h : Stands s) : s.toJson.Plain := by
  cases h with
  | enabled on => exact .bool on
  | severity word => exact .string word
  | options _ hplain => exact hplain

/-- What is read has the names in each object in order, also if it has been held in a text. -/
theorem ordered_of_isRead (h : IsRead s) : s.toJson.Ordered := by
  obtain ⟨v, -, -, hs⟩ := h
  rw [decode.eq_def] at hs
  split at hs
  · exact Except.ok.inj hs ▸ .bool _
  · exact Except.ok.inj hs ▸ .string _
  · split at hs
    · rename_i w hw
      exact Except.ok.inj hs ▸ Json.ordered_of_unwrapped? hw
    · cases hs

/-- What is read and stands for what it writes is allowed again. -/
theorem allows_toJson (hread : IsRead s) (h : Stands s) : Schema.ruleSetting.allows s.toJson := by
  cases h with
  | enabled on => exact Schema.allows_ruleSetting_iff.2 (.inl ⟨on, rfl⟩)
  | options hallows _ => exact hallows
  | severity word =>
    -- A word can only be read from that word.
    obtain ⟨v, -, hallows, hs⟩ := hread
    rw [decode.eq_def] at hs
    split at hs
    · cases hs
    · cases hs
      exact hallows
    · split at hs
      · cases hs
      · cases hs

/-- What is read from a value in which no text is held stands for that value. -/
theorem stands_of_holds (hplain : v.Plain) (hallows : Schema.ruleSetting.allows v) (h : Holds v s) :
    Stands s := by
  cases h with
  | enabled on => exact .enabled on
  | severity word => exact .severity word
  | options entries => exact .options hallows hplain

theorem decode_toJson (hread : IsRead s) (h : Stands s) : decode s.toJson = .ok s := by
  obtain ⟨s', hs', hholds⟩ := exists_decode_of_plain (plain_of_stands h) (ordered_of_isRead hread)
    (allows_toJson hread h)
  rw [hs']
  cases h with
  | enabled on =>
    cases hholds
    rfl
  | severity word =>
    cases hholds
    rfl
  | options =>
    cases hholds
    rfl

end RuleSetting

namespace LintConfig

variable {d : Disk} {visiting : List Path} {p p' : Path} {c own : LintConfig} {text : String}

/-- What a configuration says comes of reading documents. -/
structure Rereadable (c : LintConfig) : Prop where
  ascending : c.rules.Ascending
  rules : ∀ a ∈ c.rules, a.2.IsRead
  exclude : ∀ g ∈ c.exclude, Glob.ofText? false g.text = .ok g
  set : Glob.setFlaw? c.exclude = none

/-! ### What has been loaded -/

/-- Globs are kept with their texts. -/
theorem globs_eq_ok_iff {texts : List String} {gs : List Glob} : globs texts = .ok gs ↔
    texts = gs.map Glob.text ∧ (∀ g ∈ gs, Glob.ofText? false g.text = .ok g) ∧
      Glob.setFlaw? gs = none := by
  have hread : ∀ hs : List Glob,
      List.Forall₂ (fun text g => Glob.ofText? false text = .ok g) texts hs ↔
        texts = hs.map Glob.text ∧ ∀ g ∈ hs, Glob.ofText? false g.text = .ok g := by
    intro hs
    constructor
    · intro h
      induction h with
      | nil => exact ⟨rfl, List.forall_mem_nil _⟩
      | cons hg _ ih =>
        obtain ⟨rfl, hgs⟩ := ih
        obtain rfl := Glob.text_of_ofText? hg
        exact ⟨rfl, List.forall_mem_cons.2 ⟨hg, hgs⟩⟩
    · rintro ⟨rfl, h⟩
      rw [List.forall₂_map_left_iff, List.forall₂_same]
      exact h
  simp only [globs, bind_eq_ok_iff, mapM_eq_ok_iff, mapError_eq_ok_iff, Glob.asSet_eq_ok_iff, hread]
  constructor
  · rintro ⟨hs, ⟨htexts, hhs⟩, hset, rfl⟩
    exact ⟨htexts, hhs, hset⟩
  · rintro ⟨htexts, hgs, hset⟩
    exact ⟨gs, ⟨htexts, hgs⟩, hset, rfl⟩

/-- A document that is taken is one that the schema allows. -/
theorem allows_of_ofJson {v : Json} (h : ofJson v = .ok c) : Schema.config.allows v := by
  unfold ofJson at h
  split at h
  · cases h
  · rename_i hvalid
    exact Option.isNone_iff_eq_none.2 hvalid

/-- A document that is taken has the rules and globs that are written in it. -/
theorem exists_of_ofJson {v : Json} (hv : v.Ordered) (h : ofJson v = .ok c) :
    List.Forall₂ Document.Reads (rulesIn v) c.rules ∧ ∃ texts, globs texts = .ok c.exclude := by
  have hallows := allows_of_ofJson h
  rcases decode_cases_of_allows hv hallows with ⟨document, hdocument, hholds⟩ | ⟨-, hfault⟩
  · rw [ofJson_of_decode hallows hdocument, map_eq_ok_iff] at h
    obtain ⟨gs, hgs, rfl⟩ := h
    exact ⟨hholds.rules, _, hgs⟩
  · rw [ofJson_eq_of_allows hallows, hfault] at h
    cases h

/-- What a document says on its own comes of reading it. -/
theorem rereadable_of_ofText (h : ofText text = .ok c) : c.Rereadable := by
  obtain ⟨v, hv, hc⟩ := exists_ofJson_of_ofText h
  obtain ⟨hrules, texts, hglobs⟩ := exists_of_ofJson hv hc
  refine ⟨ascending_of_ofText h, fun a ha => ?_, (globs_eq_ok_iff.1 hglobs).2.1,
    setFlaw?_of_ofText h⟩
  obtain ⟨b, hb, -, hread⟩ := exists_of_forall₂ hrules ha
  obtain ⟨hordered, hallows⟩ := allows_of_mem_rulesIn hv (allows_of_ofJson hc) hb
  exact ⟨b.2, hordered, hallows, hread⟩

/-- What has been loaded comes of reading documents. -/
theorem Loads.rereadable (h : Loads d visiting p c) : c.Rereadable where
  ascending := h.ascending
  rules a ha := by
    obtain ⟨q, own, -, hown, ha⟩ := h.exists_of_mem_rules ha
    obtain ⟨text, -, htext⟩ := readOwn_eq_ok_iff.1 hown
    exact (rereadable_of_ofText htext).rules a ha
  exclude g hg := by
    obtain ⟨q, own, -, hown, hg⟩ := h.exists_of_mem_exclude hg
    obtain ⟨text, -, htext⟩ := readOwn_eq_ok_iff.1 hown
    exact (rereadable_of_ofText htext).exclude g hg
  set := h.setFlaw?_eq_none

/-- Where no text is held for a rule of a document, its settings stand for what they write. -/
theorem stands_of_ofText (h : ofText text = .ok c)
    (hplain : ∀ v, Json.read? text = .ok (some v) → ∀ a ∈ rulesIn v, a.2.Plain) :
    ∀ a ∈ c.rules, a.2.Stands := by
  have hread : ∃ v : Json, v.Ordered ∧ ofJson v = .ok c ∧ ∀ a ∈ rulesIn v, a.2.Plain := by
    unfold ofText at h
    split at h
    · cases h
    · rename_i v hv
      cases v with
      | none =>
        exact ⟨_, Json.ordered_object (List.forall_mem_nil _), h, List.forall_mem_nil _⟩
      | some v => exact ⟨v, Json.ordered_of_read? hv, h, hplain v hv⟩
  obtain ⟨v, hv, hc, hplain⟩ := hread
  intro a ha
  obtain ⟨b, hb, -, hs⟩ := exists_of_forall₂ (exists_of_ofJson hv hc).1 ha
  obtain ⟨hordered, hallows⟩ := allows_of_mem_rulesIn hv (allows_of_ofJson hc) hb
  exact RuleSetting.stands_of_holds (hplain b hb) hallows
    (RuleSetting.holds_of_decode (hplain b hb) hordered hallows hs)

/-- Where no text is held for a rule in any of the files, all settings stand for what they write. -/
theorem Loads.stands (h : Loads d visiting p c)
    (hplain : ∀ q text v, Reaches d p q → d.readText q = .ok text →
      Json.read? text = .ok (some v) → ∀ a ∈ rulesIn v, a.2.Plain) :
    ∀ a ∈ c.rules, a.2.Stands := by
  intro a ha
  obtain ⟨q, own, hq, hown, ha⟩ := h.exists_of_mem_rules ha
  obtain ⟨text, hread, htext⟩ := readOwn_eq_ok_iff.1 hown
  exact stands_of_ofText htext (fun v hv => hplain q text v hq hread hv) a ha

/-- What a configuration extends is taken in when it is loaded. -/
theorem Loads.extending_eq (h : Loads d visiting p c) : c.extending = none := by
  cases h
  rfl

/-! ### Writing and reading again -/

/-- The fields of a configuration that extends nothing, in the order of their names. -/
def written (c : LintConfig) : Json :=
  .record [("exclude", .ofList .string (c.exclude.map Glob.text)),
    ("rules", .record (c.rules.map fun a => (a.1, a.2.toJson)))]

theorem ordered_written (hc : c.Rereadable) : c.written.Ordered := by
  have hnames : "exclude" < "rules" := by decide
  refine .record (List.pairwise_pair.2 hnames) (List.forall_mem_cons.2
    ⟨.array (List.forall_mem_map.2 fun text _ => .string text), List.forall_mem_singleton.2 ?_⟩)
  exact .record (hc.ascending.mapValues fun a => a.2.toJson)
    (List.forall_mem_map.2 fun a ha => RuleSetting.ordered_of_isRead (hc.rules a ha))

theorem allows_written (hc : c.Rereadable) (hstands : ∀ a ∈ c.rules, a.2.Stands) :
    Schema.config.allows c.written := by
  have hrules : ∀ a ∈ c.rules, Schema.ruleSetting.allows a.2.toJson := fun a ha =>
    RuleSetting.allows_toJson (hc.rules a ha) (hstands a ha)
  exact Schema.allows_config_iff.2 ⟨_, rfl, List.forall_mem_cons.2
    ⟨.exclude _, List.forall_mem_singleton.2 (.rules (List.forall_mem_map.2 hrules))⟩⟩

/-- The rules that are written are read as what they were written from. -/
theorem rules_eq_of_reads {rules : Dictionary RuleSetting} (hc : c.Rereadable)
    (hstands : ∀ a ∈ c.rules, a.2.Stands)
    (h : List.Forall₂ Document.Reads (rulesIn c.written) rules) : rules = c.rules := by
  have hwritten : rulesIn c.written = c.rules.map fun a => (a.1, a.2.toJson) := rfl
  rw [hwritten, List.forall₂_map_left_iff] at h
  symm
  rw [← List.forall₂_eq_eq_eq, List.forall₂_iff_zip]
  refine ⟨h.length_eq, fun {a b} hab => ?_⟩
  have ha := (List.of_mem_zip hab).1
  obtain ⟨hname, hs⟩ := (List.forall₂_iff_zip.1 h).2 hab
  rw [RuleSetting.decode_toJson (hc.rules a ha) (hstands a ha)] at hs
  exact Prod.ext hname.symm (Except.ok.inj hs)

theorem toJson_eq (hextending : c.extending = none) : c.toJson = .record
    [("rules", .record (c.rules.map fun a => (a.1, a.2.toJson))),
      ("exclude", .ofList .string (c.exclude.map Glob.text))] := by
  simp [toJson, hextending, Json.ofList, Function.comp_def]

theorem sorted_toJson (hc : c.Rereadable) (hextending : c.extending = none) :
    c.toJson.sorted = c.written := by
  rw [toJson_eq hextending]
  have hordered := ordered_written hc
  unfold written at hordered ⊢
  cases hordered with
  | record hnames hfields =>
    obtain ⟨hexclude, hrules⟩ := List.forall_mem_cons.1 hfields
    have hrules := List.forall_mem_singleton.1 hrules
    refine Json.sorted_record_of_perm hnames ?_
    rw [List.map_cons, List.map_singleton, hexclude.sorted_eq, hrules.sorted_eq]
    exact .swap _ _ _

theorem integral_toJson (hextending : c.extending = none)
    (hnumbers : ∀ a ∈ c.rules, a.2.toJson.Integral) : c.toJson.Integral := by
  rw [toJson_eq hextending]
  refine .record (List.forall_mem_cons.2 ⟨.record (List.forall_mem_map.2 hnumbers), ?_⟩)
  exact List.forall_mem_singleton.2 (.array (List.forall_mem_map.2 fun text _ => .string text))

/-- A configuration that extends nothing is read from its text as it is, without the schema that it
    may name, if its settings stand for what they write. -/
theorem ofText_compact_toJson (hc : c.Rereadable) (hstands : ∀ a ∈ c.rules, a.2.Stands)
    (hextending : c.extending = none) (hnumbers : ∀ a ∈ c.rules, a.2.toJson.Integral) :
    ofText c.toJson.compact = .ok { rules := c.rules, exclude := c.exclude } := by
  have hread := Json.read?_compact (integral_toJson hextending hnumbers)
  rw [sorted_toJson hc hextending] at hread
  rw [ofText, hread]
  dsimp only [Option.getD_some]
  have hallows := allows_written hc hstands
  rcases decode_cases_of_allows (ordered_written hc) hallows with
    ⟨document, hdocument, hholds⟩ | ⟨⟨a, ha, hheld⟩, -⟩
  · have hschema : document.schema = none := Option.map_eq_none_iff.1 hholds.schema
    have hextends : document.extending = none := Option.map_eq_none_iff.1 hholds.extending
    have hrules : document.rules = c.rules := rules_eq_of_reads hc hstands hholds.rules
    have hexclude : document.exclude = c.exclude.map Glob.text :=
      List.map_injective_iff.2 (fun _ _ => Json.string.inj) (Json.array.inj hholds.exclude)
    rw [ofJson_of_decode hallows hdocument, hschema, hextends, hrules, hexclude,
      globs_eq_ok_iff.2 ⟨rfl, hc.exclude, hc.set⟩]
    rfl
  · obtain ⟨b, hb, rfl⟩ := List.mem_map.1 ha
    exact absurd (RuleSetting.plain_of_stands (hstands b hb)) hheld

/-- What a configuration comes to in a single file of a folder. -/
def flattened (c : LintConfig) (dir : Path) : LintConfig :=
  { rules := c.rules, exclude := c.exclude, baseDir := some dir }

/-- A configuration that has been loaded and whose settings stand for what they write can be written
    to a file of the folder that it has been loaded from, and is the same when that file is loaded:
    it extends nothing any more, but has the same rules and leaves out the same files. -/
theorem exists_ofFile_flattened (hload : (ofFile d p).result = .ok c)
    (hstands : ∀ a ∈ c.rules, a.2.Stands) (hnumbers : ∀ a ∈ c.rules, a.2.toJson.Integral)
    (hfolder : p'.folder.components = p.folder.components) (hwritable : d.Writable p') :
    ∃ d' c', d.writeText p' c.toJson.compact = .ok d' ∧ (ofFile d' p').result = .ok c' ∧
      c'.extending = none ∧ c'.rules = c.rules ∧ c'.exclude = c.exclude ∧
      c'.baseDir.map Path.components = c.baseDir.map Path.components ∧
      (p'.folder = p.folder → c'.baseDir = c.baseDir) ∧ ∀ f, c'.excludes f = c.excludes f := by
  obtain ⟨d', hwrite⟩ := Disk.exists_writeText_iff.2 hwritable
  have hloads := ofFile_eq_ok_iff.1 hload
  have hbase := hloads.baseDir
  have hnone := hloads.extending_eq
  have hrereadable := hloads.rereadable
  have hown : readOwn d' p' = .ok { rules := c.rules, exclude := c.exclude } :=
    readOwn_eq_ok_iff.2 ⟨_, Disk.readText_eq_of_writeText hwrite,
      ofText_compact_toJson hrereadable hstands hnone hnumbers⟩
  have hagain : inheriting { rules := c.rules, exclude := c.exclude } p' [] =
      c.flattened p'.folder := inheriting_nil hrereadable.ascending rfl
  have hloads' : Loads d' [] p' (c.flattened p'.folder) :=
    hagain ▸ .leaf List.not_mem_nil hown rfl
  -- The schema that the first configuration names is not written.
  have halike : Alike { c with schema := none } (c.flattened p'.folder) :=
    ⟨by rw [flattened, ← hnone], by simp only [hbase, flattened, Option.map_some, hfolder]⟩
  refine ⟨d', _, hwrite, ofFile_eq_ok_iff.2 hloads', rfl, rfl, rfl, ?_, fun hsame => ?_,
    fun f => ?_⟩
  · exact halike.components_eq.symm
  · rw [hbase, flattened, hsame]
  · exact (halike.excludes_eq f).symm

/-! ### A configuration in two files -/

/-- A configuration with a rule that has a number among its options. -/
def longLines : LintConfig := { rules := [("max-len", .options (.record [("max", .nat 80)]))] }

/-- A disk with a configuration that extends this one, as it has been written. -/
def layered : Disk where
  root := .folder [("base.json", .file (.text longLines.toJson.compact)),
    ("lintfix.json", .file (.text "\x7b\"extends\": \"base.json\", \"exclude\": [\"dist\"]\x7d"))]
  current := []
  home := none

/-- What the configuration of `layered` comes to. -/
def layeredConfig : LintConfig where
  rules := longLines.rules
  exclude := [⟨"dist", "dist".toList.map .literal, false⟩]
  baseDir := some ⟨"/"⟩

theorem stands_longLines : ∀ a ∈ longLines.rules, a.2.Stands :=
  List.forall_mem_singleton.2 <|
    .options (by decide) (.record (by decide) (List.forall_mem_singleton.2 (.number _)))

theorem rereadable_longLines : longLines.Rereadable where
  ascending := List.pairwise_singleton _ _
  rules := List.forall_mem_singleton.2 ⟨.record [("max", .nat 80)],
    .record (List.pairwise_singleton _ _) (List.forall_mem_singleton.2 (.number _)), by decide, rfl⟩
  exclude _ hg := absurd hg List.not_mem_nil
  set := rfl

theorem integral_longLines : ∀ a ∈ longLines.rules, a.2.toJson.Integral :=
  List.forall_mem_singleton.2 <|
    .record (List.forall_mem_singleton.2 (.number (by decide) (by decide)))

theorem ofFile_layered : (ofFile layered ⟨"/lintfix.json"⟩).result = .ok layeredConfig := by
  have htop : ofText "\x7b\"extends\": \"base.json\", \"exclude\": [\"dist\"]\x7d" =
      .ok { extending := some (.one "base.json"), exclude := layeredConfig.exclude } := by cbv
  have hbase : ofText longLines.toJson.compact = .ok { rules := longLines.rules } :=
    ofText_compact_toJson rereadable_longLines stands_longLines rfl integral_longLines
  have hown : readOwn layered ⟨"/lintfix.json"⟩ = _ := readOwn_eq_ok_iff.2 ⟨_, rfl, htop⟩
  have hown' : readOwn layered ⟨"/base.json"⟩ = _ := readOwn_eq_ok_iff.2 ⟨_, rfl, hbase⟩
  have hloads : Loads layered [Path.normalize ⟨"/lintfix.json"⟩] ⟨"/base.json"⟩
      (inheriting { rules := longLines.rules } ⟨"/base.json"⟩ []) :=
    .leaf (by decide) hown' rfl
  have hall : Loads layered [] ⟨"/lintfix.json"⟩ (inheriting
      { extending := some (.one "base.json"), exclude := layeredConfig.exclude } ⟨"/lintfix.json"⟩
      [inheriting { rules := longLines.rules } ⟨"/base.json"⟩ []]) :=
    .of List.not_mem_nil hown rfl (fun x hx => List.mem_singleton.1 hx ▸ hloads) rfl
  exact ofFile_eq_ok_iff.2 hall

theorem exists_ofFile_flattened_layered :
    (ofFile layered ⟨"/lintfix.json"⟩).result = .ok layeredConfig ∧
    layered.Writable ⟨"/flat.json"⟩ ∧
    ∃ d' c', layered.writeText ⟨"/flat.json"⟩ layeredConfig.toJson.compact = .ok d' ∧
      (ofFile d' ⟨"/flat.json"⟩).result = .ok c' ∧ c'.rules = layeredConfig.rules ∧
      c'.exclude = layeredConfig.exclude ∧ c'.baseDir = layeredConfig.baseDir := by
  have hwritable : layered.Writable ⟨"/flat.json"⟩ := .inr ⟨["flat.json"], rfl⟩
  have hfolder : (Path.folder ⟨"/flat.json"⟩).components =
      (Path.folder ⟨"/lintfix.json"⟩).components := rfl
  obtain ⟨d', c', hwrite, hload, -, hrules, hexclude, -, hbase, -⟩ :=
    exists_ofFile_flattened ofFile_layered stands_longLines integral_longLines hfolder hwritable
  exact ⟨ofFile_layered, hwritable, d', c', hwrite, hload, hrules, hexclude, hbase rfl⟩

/-! ### A setting that is held -/

/-- A document with a rule for which `false` is held. -/
def heldFalse : Json :=
  .record [("rules", .record [("r", .record [(Json.heldName, .string "false")])])]

/-- A disk with this document. -/
def holding : Disk where
  root := .folder [("lintfix.json", .file (.text heldFalse.compact))]
  current := []
  home := none

/-- What it comes to: the rule has `false` for its options and is on. -/
def heldConfig : LintConfig where
  rules := [("r", .options (.bool false))]
  baseDir := some ⟨"/"⟩

theorem ofFile_holding : (ofFile holding ⟨"/lintfix.json"⟩).result = .ok heldConfig := by
  have hordered : heldFalse.Ordered := by
    refine .record (List.pairwise_singleton _ _) (List.forall_mem_singleton.2 ?_)
    refine .record (List.pairwise_singleton _ _) (List.forall_mem_singleton.2 ?_)
    exact .record (List.pairwise_singleton _ _) (List.forall_mem_singleton.2 (.string _))
  have hintegral : heldFalse.Integral := by
    refine .record (List.forall_mem_singleton.2 (.record (List.forall_mem_singleton.2 ?_)))
    exact .record (List.forall_mem_singleton.2 (.string _))
  have htext : ofText heldFalse.compact = .ok { rules := heldConfig.rules } :=
    (ofText_compact_of_ordered hordered hintegral).trans rfl
  have hown : readOwn holding ⟨"/lintfix.json"⟩ = .ok { rules := heldConfig.rules } :=
    readOwn_eq_ok_iff.2 ⟨_, rfl, htext⟩
  exact ofFile_eq_ok_iff.2 (.leaf List.not_mem_nil hown rfl)

/-- A configuration with the same rule switched off, which is written in the same way. -/
def ruleOff : LintConfig := { rules := [("r", .enabled false)] }

theorem rereadable_ruleOff : ruleOff.Rereadable where
  ascending := List.pairwise_singleton _ _
  rules := List.forall_mem_singleton.2 ⟨.bool false, .bool false, by decide, rfl⟩
  exclude _ hg := absurd hg List.not_mem_nil
  set := rfl

/-- A rule that is on for what is held for it is off where that is written itself. -/
theorem rules_ne_of_held :
    (ofFile holding ⟨"/lintfix.json"⟩).result = .ok heldConfig ∧
    (∀ a ∈ heldConfig.rules, a.2.toJson.Integral) ∧ holding.Writable ⟨"/flat.json"⟩ ∧
    ∃ d' c', holding.writeText ⟨"/flat.json"⟩ heldConfig.toJson.compact = .ok d' ∧
      (ofFile d' ⟨"/flat.json"⟩).result = .ok c' ∧ c'.rules ≠ heldConfig.rules ∧
      heldConfig.rulesOn.names = ["r"] ∧ c'.rulesOn = [] := by
  have hintegral : ∀ a ∈ heldConfig.rules, a.2.toJson.Integral :=
    List.forall_mem_singleton.2 (.bool false)
  have hwritable : holding.Writable ⟨"/flat.json"⟩ := .inr ⟨["flat.json"], rfl⟩
  obtain ⟨d', hwrite⟩ := (@Disk.exists_writeText_iff _ _ heldConfig.toJson.compact).2 hwritable
  have htext : ofText heldConfig.toJson.compact = .ok ruleOff :=
    ofText_compact_toJson rereadable_ruleOff (List.forall_mem_singleton.2 (.enabled false)) rfl
      (List.forall_mem_singleton.2 (.bool false))
  have hown : readOwn d' ⟨"/flat.json"⟩ = .ok ruleOff :=
    readOwn_eq_ok_iff.2 ⟨_, Disk.readText_eq_of_writeText hwrite, htext⟩
  have hload : (ofFile d' ⟨"/flat.json"⟩).result = .ok _ :=
    ofFile_eq_ok_iff.2 (.leaf List.not_mem_nil hown rfl)
  have hne : (ruleOff.inheriting ⟨"/flat.json"⟩ []).rules ≠ heldConfig.rules := fun h => by cases h
  exact ⟨ofFile_holding, hintegral, hwritable, d', _, hwrite, hload, hne, by decide, by decide⟩

end LintConfig

end Autofix
