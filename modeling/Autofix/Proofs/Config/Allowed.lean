import Autofix.Proofs.Config.Document
import Autofix.Proofs.Config.Schema
import Autofix.Proofs.TaskOptions
import Autofix.Rule.Pattern

/-!
# Configurations that the schema allows

The schema of configurations and those who read them agree, except on texts that are held in the
settings of rules. What the schema allows is decoded field by field as it is written, unless what is
held for a rule cannot be read (`Document.decode_of_allowedFields`). Where nothing is held for a
rule, it gets the setting that stands for it: it is off, has its severity and declares its pattern
as the document says, so that only the regular expression of a pattern can still be wrong
(`RuleSetting.Understood`, `decode_of_allows`).
-/

namespace Autofix

open Dictionary (Ascending get?)

theorem Json.field?_record (entries : List (String × Json)) (name : String) :
    (record entries).field? name = get? entries name := rfl

/-! ### Settings -/

namespace RuleSetting

variable {v : Json} {s : RuleSetting} {word name : String}

/-- A setting is the one that is written: a truth value, a word, or an object with options. -/
inductive Holds : Json → RuleSetting → Prop
  | enabled (on : Bool) : Holds (.bool on) (.enabled on)
  | severity (word : String) : Holds (.string word) (.severity word)
  | options (entries : List (String × Json)) :
      Holds (.record entries) (.options (.record entries))

/-- A word for the severity is written for a rule, as its setting or among its options. -/
inductive Says (word : String) : Json → Prop
  | setting : Says word (.string word)
  | option {entries : List (String × Json)} (h : get? entries "severity" = some (.string word)) :
      Says word (.record entries)

theorem toJson_eq (h : Holds v s) : s.toJson = v := by
  cases h <;> rfl

/-- What is written for a rule is decoded as it is written, if the schema allows it and nothing is
    held in it. -/
theorem exists_decode_of_plain (hplain : v.Plain) (hv : v.Ordered)
    (h : Schema.ruleSetting.allows v) : ∃ s, decode v = .ok s ∧ Holds v s := by
  rcases Schema.allows_ruleSetting_iff.1 h with ⟨on, rfl⟩ | ⟨word, -, rfl⟩ | ⟨entries, rfl, -⟩
  · exact ⟨_, rfl, .enabled on⟩
  · exact ⟨_, rfl, .severity word⟩
  · refine ⟨_, ?_, .options entries⟩
    rw [decode, Json.unwrapped?_of_plain hplain hv]
    · exact fun _ hbool => by cases hbool
    · exact fun _ hword => by cases hword

theorem holds_of_decode (hplain : v.Plain) (hv : v.Ordered) (h : Schema.ruleSetting.allows v)
    (hs : decode v = .ok s) : Holds v s := by
  obtain ⟨s', hs', hholds⟩ := exists_decode_of_plain hplain hv h
  rwa [Except.ok.inj (hs.symm.trans hs')]

/-- Only what is held can make decoding fail. -/
theorem not_plain_of_decode_eq_error {e : DecodeError} (hv : v.Ordered)
    (h : Schema.ruleSetting.allows v) (he : decode v = .error e) :
    ¬v.Plain ∧ e = .noVariant "RuleOption" := by
  refine ⟨fun hplain => ?_, ?_⟩
  · obtain ⟨s, hs, -⟩ := exists_decode_of_plain hplain hv h
    rw [hs] at he
    cases he
  · rw [decode.eq_def] at he
    split at he
    · cases he
    · cases he
    · split at he
      · cases he
      · exact (Except.error.inj he).symm

theorem word?_eq_some_iff (h : Holds v s) : s.word? = some word ↔ Says word v := by
  cases h with
  | enabled on => exact iff_of_false (fun hword => by cases hword) (fun hsaid => by cases hsaid)
  | severity w =>
    constructor
    · rintro ⟨⟩
      exact .setting
    · rintro ⟨⟩
      rfl
  | options entries =>
    have hfield : word? (.options (.record entries)) =
        (get? entries "severity").bind Json.asString? := rfl
    rw [hfield, Option.bind_eq_some_iff]
    constructor
    · rintro ⟨w, hw, htext⟩
      cases w <;> cases htext
      exact .option hw
    · rintro ⟨⟩
      rename_i hw
      exact ⟨_, hw, rfl⟩

/-- A rule is off if `false` is written for it, or the word `off`. -/
theorem isEnabled_eq_false_iff (h : Holds v s) :
    s.isEnabled = false ↔ v = .bool false ∨ Says "off" v := by
  rw [← word?_eq_some_iff h]
  cases h with
  | enabled on => simp [isEnabled, word?]
  | severity word => simp [isEnabled]
  | options entries => simp [isEnabled]

/-- Findings are warnings where a word for warnings is written. -/
theorem severityOf_eq_warning_iff (h : Holds v s) :
    s.severityOf = .warning ↔ Says "warning" v ∨ Says "warn" v := by
  rw [← word?_eq_some_iff h, ← word?_eq_some_iff h, severityOf]
  cases s.word? with
  | none => simp
  | some word =>
    simp only [Option.bind_some, Option.some.injEq, Severity.ofName?]
    split_ifs with herror hwarning
    · simp [herror]
    · simpa using hwarning
    · simpa using hwarning

/-- The word for the severity is one of those that the schema knows. -/
theorem mem_severityWords (h : Schema.ruleSetting.allows v) (hsaid : Says word v) :
    word ∈ Schema.severityWords := by
  rcases Schema.allows_ruleSetting_iff.1 h with ⟨on, rfl⟩ | ⟨w, hw, rfl⟩ | ⟨entries, rfl, hall⟩
  · cases hsaid
  · cases hsaid
    exact hw
  · cases hsaid with
    | option hfield =>
      obtain ⟨w, hw, heq⟩ := (hall _ (Dictionary.mem_of_get? hfield)).1 rfl
      exact Json.string.inj heq ▸ hw

/-- The word for the severity of a rule that is on names this severity. -/
theorem ofName?_eq_some (h : Schema.ruleSetting.allows v) (hs : Holds v s) (hon : s.isEnabled)
    (hsaid : Says word v) : Severity.ofName? word = some s.severityOf := by
  have hnamed : (Severity.ofName? word).isSome := by
    have hmem := mem_severityWords h hsaid
    simp only [Schema.severityWords, List.mem_cons, List.not_mem_nil, or_false] at hmem
    rcases hmem with rfl | rfl | rfl | rfl
    · rfl
    · rfl
    · rfl
    · rw [(isEnabled_eq_false_iff hs).2 (.inr hsaid)] at hon
      exact absurd hon Bool.false_ne_true
  obtain ⟨severity, hseverity⟩ := Option.isSome_iff_exists.1 hnamed
  rw [severityOf, (word?_eq_some_iff hs).2 hsaid, Option.bind_some, hseverity, Option.getD_some]

end RuleSetting

/-! ### Patterns -/

namespace PatternRule

variable {entries : List (String × Json)}

/-- An option is known as it is written. -/
def ShowsOption (o : Option String × Option String × Option String) (name : String)
    (written : Option Json) : Prop :=
  if name = "pattern" then o.1.map .string = written
  else if name = "replacement" then o.2.1.map .string = written
  else o.2.2.map .string = written

/-- Where the options that are looked at are texts, they are decoded as they are written, if there
    is a pattern among them. -/
theorem Options.exists_decode (hentries : Ascending entries)
    (htexts : ∀ a ∈ entries, a.1 ∈ Schema.textOptions → ∃ text, a.2 = .string text)
    {pattern : Json} (hpattern : get? entries "pattern" = some pattern) :
    ∃ o, Options.decode (.record entries) = .ok o ∧ pattern = .string o.pattern ∧
      o.replacement.map Json.string = get? entries "replacement" ∧
      o.message.map Json.string = get? entries "message" := by
  unfold Options.decode
  refine (decodeRecord_takesOver ShowsOption (fun _ _ => False) hentries
    (fun _ _ _ => rfl) (by simp [ShowsOption]) ?_ ?_).resolve_right (by simp)
  · rintro ⟨p, replacement, message⟩ ⟨name, w⟩ ha hname
    obtain ⟨text, rfl⟩ := htexts _ ha hname
    simp only [List.mem_cons, List.not_mem_nil, or_false] at hname
    rcases hname with rfl | rfl | rfl
    · exact .inl ⟨_, rfl, by simp [ShowsOption], by simp [ShowsOption]⟩
    · exact .inl ⟨_, rfl, by simp [ShowsOption], by simp [ShowsOption]⟩
    · exact .inl ⟨_, rfl, by simp [ShowsOption], by simp [ShowsOption]⟩
  · rintro ⟨p, replacement, message⟩ hshown
    have hp : p.map Json.string = some pattern := by
      simpa [ShowsOption, hpattern] using hshown "pattern" (by simp)
    have hreplacement : replacement.map Json.string = get? entries "replacement" := by
      simpa [ShowsOption] using hshown "replacement" (by simp)
    have hmessage : message.map Json.string = get? entries "message" := by
      simpa [ShowsOption] using hshown "message" (by simp)
    obtain ⟨text, rfl, rfl⟩ := Option.map_eq_some_iff.1 hp
    exact ⟨⟨text, replacement, message⟩, rfl, rfl, hreplacement, hmessage⟩

/-- A rule is the one that options declare for a pattern that reads as a regular expression. -/
structure Declares (entries : List (String × Json)) (name pattern : String) (regex : Regex)
    (rule : PatternRule) : Prop where
  name_eq : rule.name = name
  regex_eq : rule.regex = regex
  replacement_eq : rule.replacement.map Json.string = get? entries "replacement"
  message_eq : some (.string rule.message) = (get? entries "message").or
    (some (.string s!"Matches forbidden pattern /{pattern}/"))

/-- Options with a pattern declare a rule, if only the pattern reads as a regular expression. -/
theorem ofOptions?_of_texts (hentries : Ascending entries)
    (htexts : ∀ a ∈ entries, a.1 ∈ Schema.textOptions → ∃ text, a.2 = .string text)
    {written : Json} (hwritten : get? entries "pattern" = some written) (name : String) :
    ∃ pattern, written = .string pattern ∧
      (∀ flaw, Regex.ofText? pattern = .error flaw →
        ofOptions? name (.record entries) = .error (.rulePattern name flaw)) ∧
      ∀ regex, Regex.ofText? pattern = .ok regex → ∃ rule,
        ofOptions? name (.record entries) = .ok (some rule) ∧
        Declares entries name pattern regex rule := by
  obtain ⟨o, ho, hpattern, hreplacement, hmessage⟩ := Options.exists_decode hentries htexts hwritten
  refine ⟨o.pattern, hpattern, fun flaw hflaw => ?_, fun regex hregex => ?_⟩
  · simp [ofOptions?, Json.field?_record, hwritten, ho, hflaw, Except.mapError, bind, Except.bind]
  · refine ⟨⟨name, regex, o.replacement,
      o.message.getD s!"Matches forbidden pattern /{o.pattern}/"⟩, ?_, rfl, rfl, hreplacement, ?_⟩
    · simp [ofOptions?, Json.field?_record, hwritten, ho, hregex, Except.mapError, bind, Except.bind,
        pure, Except.pure]
    · rw [← hmessage]
      cases o.message <;> rfl

end PatternRule

/-! ### What is understood -/

namespace RuleSetting

variable {v : Json} {s : RuleSetting} {name : String}

/-- The setting of a rule is what stands for the rule in a document: the rule is off where this is
    written, and its findings have the severity that is written, or are errors. No word for the
    severity is unknown, and nothing but the regular expression of a pattern can be wrong. -/
structure Understood (name : String) (v : Json) (s : RuleSetting) : Prop where
  holds : Holds v s
  isEnabled_iff : s.isEnabled = false ↔ v = .bool false ∨ Says "off" v
  severity_iff : s.isEnabled →
    (s.severityOf = .warning ↔ Says "warning" v ∨ Says "warn" v) ∧
    (s.severityOf = .error ↔ ¬(Says "warning" v ∨ Says "warn" v))
  severity_known : s.isEnabled → ∀ word, Says word v → Severity.ofName? word = some s.severityOf
  pattern_of_options : ∀ entries written, v = .record entries →
    get? entries "pattern" = some written → ∃ pattern, written = .string pattern ∧
      (∀ flaw, Regex.ofText? pattern = .error flaw →
        PatternRule.ofOptions? name s.optionsOf = .error (.rulePattern name flaw)) ∧
      ∀ regex, Regex.ofText? pattern = .ok regex → ∃ rule,
        PatternRule.ofOptions? name s.optionsOf = .ok (some rule) ∧
        PatternRule.Declares entries name pattern regex rule

/-- What the schema allows to stand for a rule is understood, if nothing is held in it. -/
theorem understood_of_decode (hplain : v.Plain) (hv : v.Ordered)
    (h : Schema.ruleSetting.allows v) (hs : decode v = .ok s) (name : String) :
    Understood name v s where
  holds := holds_of_decode hplain hv h hs
  isEnabled_iff := isEnabled_eq_false_iff (holds_of_decode hplain hv h hs)
  severity_iff _ := by
    have hwarning := severityOf_eq_warning_iff (holds_of_decode hplain hv h hs)
    refine ⟨hwarning, ?_⟩
    rw [← hwarning]
    cases s.severityOf <;> simp
  severity_known hon word := ofName?_eq_some h (holds_of_decode hplain hv h hs) hon
  pattern_of_options := by
    rintro entries written rfl hwritten
    rcases Schema.allows_ruleSetting_iff.1 h with ⟨on, hbool⟩ | ⟨w, -, hword⟩ | ⟨fields, heq, hall⟩
    · cases hbool
    · cases hword
    · cases heq
      cases holds_of_decode hplain hv h hs with
      | options =>
        cases hv with
        | record hentries =>
          exact PatternRule.ofOptions?_of_texts hentries (fun a ha => (hall a ha).2) hwritten name

end RuleSetting

/-! ### Configurations -/

namespace LintConfig

variable {v : Json} {entries : List (String × Json)}

/-- What is written for rules, if this is the field for them. -/
def rulesOf : Option Json → List (String × Json)
  | some (.record rules) => rules
  | _ => []

/-- What is written for rules in a document. -/
def rulesIn (v : Json) : List (String × Json) := rulesOf (v.field? "rules")

namespace Document

/-- A document holds what is written in the fields of a value. -/
structure Holds (v : Json) (c : Document) : Prop where
  schema : c.schema.map .string = v.field? "$schema"
  extending : c.extending.map OneOrMany.toJson = v.field? "extends"
  rules : List.Forall₂ Reads (rulesIn v) c.rules
  exclude : Json.ofList .string c.exclude = (v.field? "exclude").getD (.array [])

/-- The field of a name holds what is written for it. -/
def Shows (c : Document) (name : String) (written : Option Json) : Prop :=
  if name = "$schema" then c.schema.map .string = written
  else if name = "extends" then c.extending.map OneOrMany.toJson = written
  else if name = "rules" then List.Forall₂ Reads (rulesOf written) c.rules
  else Json.ofList .string c.exclude = written.getD (.array [])

/-- For some rule of a field a text is held that cannot be read. -/
def Unreadable (field : String × Json) (e : DecodeError) : Prop :=
  field.1 = "rules" ∧ e = .noVariant "RuleOption" ∧ ∃ a ∈ rulesOf (some field.2), ¬a.2.Plain

/-- A field that the schema allows is taken over, unless what is held for a rule cannot be read. -/
theorem takeField_takesOver (c : Document) {a : String × Json} (hordered : a.2.Ordered)
    (h : Schema.AllowedField a) :
    (∃ c', takeField c a.1 a.2 = .ok c' ∧ TakesOver fieldNames Shows a c c') ∨
    ∃ e, takeField c a.1 a.2 = .error e ∧ Unreadable a e := by
  cases h with
  | schema text =>
    exact .inl ⟨{ c with schema := some text }, rfl, by simp [Shows], by simp [fieldNames, Shows]⟩
  | extendsOne parent =>
    exact .inl ⟨{ c with extending := some (.one parent) }, rfl, by simp [Shows, OneOrMany.toJson],
      by simp [fieldNames, Shows]⟩
  | extendsMany parents =>
    have hdecode := OneOrMany.decode_toJson (.many parents)
    rw [OneOrMany.toJson] at hdecode
    refine .inl ⟨{ c with extending := some (.many parents) }, ?_,
      by simp [Shows, OneOrMany.toJson], by simp [fieldNames, Shows]⟩
    simp [takeField, hdecode, bind, Except.bind, pure, Except.pure]
  | @rules rules hrules =>
    have htake : takeField c "rules" (.record rules) =
        (decodeRules (.record rules)).map fun rules => { c with rules } := rfl
    rw [htake]
    cases hread : decodeRules (.record rules) with
    | ok settings =>
      exact .inl ⟨{ c with rules := settings }, rfl,
        fun _ => by simpa [Shows, rulesOf] using decodeRules_eq_ok_iff.1 hread,
        by simp [fieldNames, Shows]⟩
    | error e =>
      obtain ⟨b, hb, he⟩ := exists_of_decodeRules_eq_error hread
      cases hordered with
      | record _ hfields =>
        obtain ⟨hnot, rfl⟩ :=
          RuleSetting.not_plain_of_decode_eq_error (hfields b hb) (hrules b hb) he
        exact .inr ⟨_, rfl, rfl, rfl, b, hb, hnot⟩
  | exclude globs =>
    refine .inl ⟨{ c with exclude := globs }, ?_, by simp [Shows], by simp [fieldNames, Shows]⟩
    simp [takeField, Decoder.list_string_ofList, bind, Except.bind, pure, Except.pure]

/-- Once all fields have been taken over, the document holds what is written. -/
theorem holds_of_shows {c : Document} (h : ∀ name ∈ fieldNames, Shows c name (get? entries name)) :
    Holds (.record entries) c where
  schema := by
    simpa [Shows, Json.field?_record] using h "$schema" (by simp [fieldNames])
  extending := by
    simpa [Shows, Json.field?_record] using h "extends" (by simp [fieldNames])
  rules := by
    simpa [Shows, rulesIn, Json.field?_record] using h "rules" (by simp [fieldNames])
  exclude := by
    simpa [Shows, Json.field?_record] using h "exclude" (by simp [fieldNames])

/-- Where the schema allows the fields of a document, they are decoded as they are written and each
    rule gets its setting, unless what is held for a rule cannot be read. -/
theorem decode_of_allowedFields (hv : (Json.record entries).Ordered)
    (h : ∀ a ∈ entries, Schema.AllowedField a) :
    (∃ c, decode (.record entries) = .ok c ∧ Holds (.record entries) c) ∨
    (∃ a ∈ rulesIn (.record entries), ¬a.2.Plain) ∧
      decode (.record entries) = .error (.noVariant "RuleOption") := by
  cases hv with
  | record hentries hordered =>
    have hdecode : (∃ c, decode (.record entries) = .ok c ∧ Holds (.record entries) c) ∨
        ∃ a ∈ entries, ∃ e, Unreadable a e ∧ decode (.record entries) = .error e := by
      unfold decode
      exact decodeRecord_takesOver Shows Unreadable hentries (fun _ _ _ => rfl)
        (by simp [fieldNames, Shows, rulesOf, Json.ofList])
        (fun c a ha _ => takeField_takesOver c (hordered a ha) (h a ha))
        fun c hc => ⟨c, rfl, holds_of_shows hc⟩
    refine hdecode.imp_right ?_
    rintro ⟨⟨name, w⟩, ha, e, ⟨rfl, rfl, b, hb, hnot⟩, he⟩
    refine ⟨⟨b, ?_, hnot⟩, he⟩
    rw [rulesIn, Json.field?_record, hentries.mem_iff_get?.1 ha]
    exact hb

end Document

/-- What is written for a rule in a document that the schema allows is allowed for rules. -/
theorem allows_of_mem_rulesIn (hv : v.Ordered) (h : Schema.config.allows v)
    {a : String × Json} (ha : a ∈ rulesIn v) :
    a.2.Ordered ∧ Schema.ruleSetting.allows a.2 := by
  obtain ⟨entries, rfl, hall⟩ := Schema.allows_config_iff.1 h
  rw [rulesIn, Json.field?_record] at ha
  cases hget : get? entries "rules" with
  | none =>
    rw [hget] at ha
    exact absurd ha List.not_mem_nil
  | some w =>
    have hmem := Dictionary.mem_of_get? hget
    rw [hget] at ha
    cases hv with
    | record hnames hfields =>
      obtain ⟨rules, rfl, hrules⟩ := (hall _ hmem).exists_rules
      cases hfields _ hmem with
      | record _ hordered => exact ⟨hordered a ha, hrules a ha⟩

/-- What is wrong with globs is no fault of the document. -/
theorem globs_ne_invalidConfig (texts : List String) (fault : DecodeError) :
    globs texts ≠ .error (.invalidConfig fault) := by
  intro h
  cases hread : texts.mapM fun text =>
      (Glob.ofText? false text).mapError Problem.invalidExclude with
  | error problem =>
    obtain ⟨text, -, htext⟩ := exists_of_mapM_eq_error hread
    rw [globs, hread] at h
    obtain rfl := Except.error.inj h
    cases hg : Glob.ofText? false text with
    | error flaw => simp [hg, Except.mapError] at htext
    | ok g => simp [hg, Except.mapError] at htext
  | ok gs =>
    rw [globs, hread] at h
    cases hset : Glob.asSet gs with
    | error flaw => simp [hset, Except.mapError, bind, Except.bind] at h
    | ok gs => simp [hset, Except.mapError, bind, Except.bind] at h

/-- A document that the schema allows is decoded, unless what is held for a rule cannot be read. -/
theorem decode_cases_of_allows (hv : v.Ordered) (h : Schema.config.allows v) :
    (∃ c, Document.decode v = .ok c ∧ Document.Holds v c) ∨
    (∃ a ∈ rulesIn v, ¬a.2.Plain) ∧ Document.decode v = .error (.noVariant "RuleOption") := by
  obtain ⟨entries, rfl, hall⟩ := Schema.allows_config_iff.1 h
  exact Document.decode_of_allowedFields hv hall

/-- What is made of a document that the schema allows. -/
theorem ofJson_eq_of_allows (h : Schema.config.allows v) : ofJson v =
    (do
      let c ← (Document.decode v).mapError .invalidConfig
      return { schema := c.schema, extending := c.extending, rules := c.rules,
               exclude := ← globs c.exclude }) := by
  have hvalid : Schema.config.violation? v = none := Option.isNone_iff_eq_none.1 h
  rw [ofJson, hvalid]

/-- A document whose names are in order is read from its text as it is. -/
theorem ofText_compact_of_ordered (hv : v.Ordered) (hnumbers : v.Integral) :
    ofText v.compact = ofJson v := by
  have hread := Json.read?_compact hnumbers
  rw [hv.sorted_eq] at hread
  rw [ofText, hread]
  rfl

theorem ofJson_of_decode {c : Document} (h : Schema.config.allows v)
    (hc : Document.decode v = .ok c) : ofJson v = (globs c.exclude).map fun exclude =>
      { schema := c.schema, extending := c.extending, rules := c.rules, exclude } := by
  rw [ofJson_eq_of_allows h, hc]
  rfl

/-- A document that the schema allows is decoded, and each rule keeps its name and what is written
    for it, and has a setting that means what is written, if no text is held in it. Then no problem
    with decoding is reported. Only where a text is held for some rule can decoding fail, and then
    no alternative of a setting fits. -/
theorem decode_of_allows (hv : v.Ordered) (h : Schema.config.allows v) :
    ((∃ c, Document.decode v = .ok c ∧
        List.Forall₂ (fun a b => b.1 = a.1 ∧ (a.2.Plain → RuleSetting.Understood a.1 a.2 b.2))
          (rulesIn v) c.rules ∧
        ofJson v = (globs c.exclude).map fun exclude =>
          { schema := c.schema, extending := c.extending, rules := c.rules, exclude }) ∧
      ∀ fault, ofJson v ≠ .error (.invalidConfig fault)) ∨
    (∃ a ∈ rulesIn v, ¬a.2.Plain) ∧ Document.decode v = .error (.noVariant "RuleOption") ∧
      ofJson v = .error (.invalidConfig (.noVariant "RuleOption")) := by
  rcases decode_cases_of_allows hv h with ⟨c, hc, hholds⟩ | ⟨hnot, hfault⟩
  · have hread := ofJson_of_decode h hc
    refine .inl ⟨⟨c, hc, ?_, hread⟩, fun fault hfault => ?_⟩
    · refine (List.forall₂_iff_zip.2 ⟨hholds.rules.length_eq, fun {a b} hab => ?_⟩)
      obtain ⟨hname, hs⟩ := (List.forall₂_iff_zip.1 hholds.rules).2 hab
      obtain ⟨hordered, hallows⟩ := allows_of_mem_rulesIn hv h (List.of_mem_zip hab).1
      exact ⟨hname, fun hplain => RuleSetting.understood_of_decode hplain hordered hallows hs a.1⟩
    · rw [hread] at hfault
      cases hglobs : globs c.exclude with
      | error problem =>
        rw [hglobs] at hfault
        exact globs_ne_invalidConfig _ fault (hglobs.trans (congrArg _ (Except.error.inj hfault)))
      | ok gs =>
        rw [hglobs] at hfault
        cases hfault
  · refine .inr ⟨hnot, hfault, ?_⟩
    rw [ofJson_eq_of_allows h, hfault]
    rfl

/-- A document with settings of each kind. -/
def severalRules : Json :=
  .record [("exclude", .array [.string "dist"]), ("rules", .record [
    ("eqeqeq", .string "warn"),
    ("no-console", .bool false),
    ("no-tabs", .record [("message", .string "No tabs."), ("pattern", .string "\t"),
      ("severity", .string "off")])])]

theorem plain_severalRules : ∀ a ∈ rulesIn severalRules, a.2.Plain :=
  List.forall_mem_cons.2 ⟨.string _, List.forall_mem_cons.2 ⟨.bool _, List.forall_mem_singleton.2 <|
    .record (by decide) (by simp [Json.Plain.string])⟩⟩

theorem decode_severalRules :
    severalRules.Ordered ∧ Schema.config.allows severalRules ∧
    ∃ c, Document.decode severalRules = .ok c ∧
      List.Forall₂ (fun a b => b.1 = a.1 ∧ RuleSetting.Understood a.1 a.2 b.2)
        (rulesIn severalRules) c.rules ∧
      (rulesIn severalRules).map (·.1) = ["eqeqeq", "no-console", "no-tabs"] := by
  have hordered : severalRules.Ordered := by
    refine .record (by unfold Ascending; decide) (List.forall_mem_cons.2
      ⟨.array (List.forall_mem_singleton.2 (.string _)), List.forall_mem_singleton.2 ?_⟩)
    refine .record (by unfold Ascending; decide) (List.forall_mem_cons.2 ⟨.string _,
      List.forall_mem_cons.2 ⟨.bool _, List.forall_mem_singleton.2 ?_⟩⟩)
    exact .record (by unfold Ascending; decide) (by simp [Json.Ordered.string])
  have hallows : Schema.config.allows severalRules := by decide
  rcases decode_of_allows hordered hallows with
    ⟨⟨c, hc, hrules, -⟩, -⟩ | ⟨⟨a, ha, hnot⟩, -⟩
  · refine ⟨hordered, hallows, c, hc, ?_, rfl⟩
    refine List.forall₂_iff_zip.2 ⟨hrules.length_eq, fun {a b} hab => ?_⟩
    obtain ⟨hname, hunderstood⟩ := (List.forall₂_iff_zip.1 hrules).2 hab
    exact ⟨hname, hunderstood (plain_severalRules a (List.of_mem_zip hab).1)⟩
  · exact absurd (plain_severalRules a ha) hnot

/-- A document with a rule for which a text is held that is no JSON. -/
def unreadableRule : Json :=
  .record [("rules", .record [("r", .record [(Json.heldName, .string "\x7b")])])]

/-- What the schema allows is not always decoded. -/
theorem decode_unreadableRule :
    unreadableRule.Ordered ∧ Schema.config.allows unreadableRule ∧
    Document.decode unreadableRule = .error (.noVariant "RuleOption") ∧
    ∃ fault, ofJson unreadableRule = .error (.invalidConfig fault) := by
  refine ⟨?_, by decide, rfl, _, rfl⟩
  refine .record (List.pairwise_singleton _ _) (List.forall_mem_singleton.2 ?_)
  refine .record (List.pairwise_singleton _ _) (List.forall_mem_singleton.2 ?_)
  exact .record (List.pairwise_singleton _ _) (List.forall_mem_singleton.2 (.string _))

end LintConfig

end Autofix
