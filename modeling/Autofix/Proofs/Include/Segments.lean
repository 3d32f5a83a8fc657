import Autofix.Proofs.Include.Meaning

/-!
# Include patterns, segment by segment

What an include pattern selects can be told without its expression: its segments are compared with
the names that a path is made up of, from the left (`covers`), and `*` stands for a run of
characters within a name (`fits`). For paths whose names are not empty and hold no line break, that
is what matching the expression comes to (`isMatch_iff_covers`).

A path is at the start of a name whenever the next segment's turn comes. That is what the induction
over the segments is on: a text which `Spells` some names is left by the pieces of a segment as one
that spells the last of these names.
-/

namespace Autofix.Include

variable {c : Char} {p name tail text rest mid : List Char} {ps names left : List (List Char)}

/-! ### Segments and names -/

/-- Whether a segment of a pattern stands for a name: `*` for any run of characters, every other
    character for itself. -/
def fits : List Char → List Char → Bool
  | [], name => name.isEmpty
  | c :: p, name =>
    if c = '*' then name.tails.any (fits p) else name.head? = some c && fits p name.tail

/-- Whether the segments of a pattern stand for the names that a path starts with. A `**` skips any
    number of names, and as the last segment of all needs one to be left. Where a segment goes on
    after it, what follows stands for an end of the next name. -/
def covers : List (List Char) → List (List Char) → Bool
  | [], _ => true
  | p :: ps, names =>
    match p with
    | ['*', '*'] => if ps = [] then names ≠ [] else names.tails.any (covers ps)
    | '*' :: '*' :: p => names.tails.any fun left =>
        left.head?.any (fun name => name.tails.any (fits p)) && covers ps left.tail
    | p => names.head?.any (fits p) && covers ps names.tail

/-- Segments are plain, or start with `**`. -/
theorem segment_cases (p : List Char) : p = ['*', '*'] ∨
    (∃ more, more ≠ [] ∧ p = '*' :: '*' :: more) ∨ ∀ more, p ≠ '*' :: '*' :: more := by
  by_cases h : ∃ more, p = '*' :: '*' :: more
  · obtain ⟨_ | ⟨c, more⟩, rfl⟩ := h
    · exact .inl rfl
    · exact .inr (.inl ⟨_, List.cons_ne_nil _ _, rfl⟩)
  · exact .inr (.inr fun more hp => h ⟨more, hp⟩)

theorem covers_last : covers [['*', '*']] names ↔ names ≠ [] := by simp [covers]

theorem covers_folders (hps : ps ≠ []) :
    covers (['*', '*'] :: ps) names ↔ ∃ left, left <:+ names ∧ covers ps left := by
  simp [covers, hps]

theorem covers_reach (hp : p ≠ []) : covers (('*' :: '*' :: p) :: ps) names ↔
    ∃ name left, name :: left <:+ names ∧ (∃ tail, tail <:+ name ∧ fits p tail) ∧
      covers ps left := by
  obtain ⟨c, p, rfl⟩ := List.exists_cons_of_ne_nil hp
  simp only [covers, List.any_eq_true, Bool.and_eq_true, Option.any_eq_true, List.mem_tails]
  constructor
  · rintro ⟨left, hleft, ⟨name, hname, hfits⟩, hcovers⟩
    obtain ⟨left, rfl⟩ := List.head?_eq_some_iff.1 hname
    exact ⟨name, left, hleft, hfits, hcovers⟩
  · rintro ⟨name, left, hleft, hfits, hcovers⟩
    exact ⟨name :: left, hleft, ⟨name, rfl, hfits⟩, hcovers⟩

theorem covers_plain (hp : ∀ more, p ≠ '*' :: '*' :: more) : covers (p :: ps) names ↔
    ∃ name left, names = name :: left ∧ fits p name ∧ covers ps left := by
  rw [covers]
  · cases names <;> simp
  · exact fun h => hp [] h
  · exact hp

/-- Only the empty pattern covers nothing. -/
theorem not_covers_nil (hps : ps ≠ []) : ¬covers ps [] := by
  induction ps with
  | nil => exact absurd rfl hps
  | cons p ps ih =>
    obtain rfl | ⟨more, hmore, rfl⟩ | hplain := segment_cases p
    · by_cases h : ps = []
      · simp [h, covers_last]
      · simpa [covers_folders h] using ih h
    · simp [covers_reach hmore]
    · simp [covers_plain hplain]

/-! ### Pieces -/

/-- The pieces after those of a segment. -/
def onward (ps : List (List Char)) : List Piece :=
  if ps = [] then [] else .separator :: segmentPieces ps

theorem segmentPieces_folders (hps : ps ≠ []) :
    segmentPieces (['*', '*'] :: ps) = .folders :: segmentPieces ps := by
  cases ps with
  | nil => exact absurd rfl hps
  | cons => rfl

theorem segmentPieces_reach (hp : p ≠ []) :
    segmentPieces (('*' :: '*' :: p) :: ps) = .reach :: (plain p ++ onward ps) := by
  obtain ⟨c, p, rfl⟩ := List.exists_cons_of_ne_nil hp
  cases ps <;> simp [segmentPieces, onward]

theorem segmentPieces_plain (hp : ∀ more, p ≠ '*' :: '*' :: more) :
    segmentPieces (p :: ps) = plain p ++ onward ps := by
  cases ps with
  | nil =>
    rw [segmentPieces]
    · simp [onward]
    · exact hp []
    · exact fun h _ => hp [] h
    · exact hp
  | cons q ps =>
    rw [segmentPieces]
    · simp [onward]
    · exact fun h _ => hp [] h
    · exact hp []
    · exact nofun
    · exact hp

theorem takesAll_append {qs rs : List Piece} :
    TakesAll (qs ++ rs) text rest ↔ ∃ mid, TakesAll qs text mid ∧ TakesAll rs mid rest := by
  induction qs generalizing text with
  | nil => simp [TakesAll]
  | cons q qs ih =>
    simp only [List.cons_append, TakesAll, ih]
    constructor
    · rintro ⟨first, hq, mid, hqs, hrs⟩
      exact ⟨mid, ⟨first, hq, hqs⟩, hrs⟩
    · rintro ⟨mid, ⟨first, hq, hqs⟩, hrs⟩
      exact ⟨first, hq, mid, hqs, hrs⟩

/-- A plain segment takes a name that it stands for. -/
theorem takesAll_plain (hp : ∀ c ∈ p, ¬isSeparator c) : TakesAll (plain p) text rest ↔
    ∃ name, (∀ c ∈ name, ¬isSeparator c) ∧ fits p name ∧ text = name ++ rest := by
  induction p generalizing text with
  | nil => simp [plain, TakesAll, fits]
  | cons c p ih =>
    obtain ⟨hc, hp⟩ := List.forall_mem_cons.1 hp
    have hplain : plain (c :: p) = (if c = '*' then .run else .literal c) :: plain p := rfl
    simp only [hplain, TakesAll, ih hp, fits]
    split_ifs with hstar
    · -- What a star takes is a first part of the name.
      simp only [List.any_eq_true, List.mem_tails]
      constructor
      · rintro ⟨_, ⟨run, hrun, rfl⟩, name, hname, hfits, rfl⟩
        exact ⟨run ++ name, List.forall_mem_append.2 ⟨hrun, hname⟩,
          ⟨name, List.suffix_append _ _, hfits⟩, (List.append_assoc _ _ _).symm⟩
      · rintro ⟨_, hname, ⟨name, ⟨run, rfl⟩, hfits⟩, rfl⟩
        obtain ⟨hrun, hname⟩ := List.forall_mem_append.1 hname
        exact ⟨name ++ rest, ⟨run, hrun, List.append_assoc _ _ _⟩, name, hname, hfits, rfl⟩
    · -- A literal character takes the first one of the name.
      simp only [Bool.and_eq_true, decide_eq_true_eq]
      constructor
      · rintro ⟨_, rfl, name, hname, hfits, rfl⟩
        exact ⟨c :: name, List.forall_mem_cons.2 ⟨hc, hname⟩, ⟨rfl, hfits⟩, rfl⟩
      · rintro ⟨name, hname, ⟨hhead, hfits⟩, rfl⟩
        obtain ⟨name, rfl⟩ := List.head?_eq_some_iff.1 hhead
        exact ⟨name ++ rest, rfl, name, (List.forall_mem_cons.1 hname).2, hfits, rfl⟩

/-! ### Names in a text -/

/-- A text that is made up of names, with a separator between each name and the next. -/
inductive Spells : List (List Char) → List Char → Prop
  | last {name : List Char} (hname : ∀ c ∈ name, ¬isSeparator c) : Spells [name] name
  | more {name : List Char} {names : List (List Char)} {c : Char} {text : List Char}
    (hname : ∀ c ∈ name, ¬isSeparator c) (hc : isSeparator c) (h : Spells names text) :
    Spells (name :: names) (name ++ c :: text)

theorem spells_splitOnP (text : List Char) : Spells (text.splitOnP isSeparator) text := by
  induction text with
  | nil => exact .last (List.forall_mem_nil _)
  | cons c text ih =>
    rw [List.splitOnP_cons_eq_if_modifyHead]
    generalize text.splitOnP isSeparator = names at ih ⊢
    split_ifs with hc
    · exact .more (List.forall_mem_nil _) hc ih
    · cases ih with
      | last hname => exact .last (List.forall_mem_cons.2 ⟨hc, hname⟩)
      | more hname hd h => exact .more (List.forall_mem_cons.2 ⟨hc, hname⟩) hd h

/-- What is left of a text after a name: nothing, or a separator and the names to come. -/
def Ends (names : List (List Char)) (rest : List Char) : Prop :=
  names = [] ∧ rest = [] ∨ ∃ c text, isSeparator c ∧ rest = c :: text ∧ Spells names text

theorem Ends.closed (h : Ends names rest) : Closed rest := by
  obtain ⟨-, hrest⟩ | ⟨c, text, hc, hrest, -⟩ := h
  · exact .inl hrest
  · exact .inr ⟨c, text, hc, hrest⟩

theorem spells_cons_iff : Spells (name :: names) text ↔
    (∀ c ∈ name, ¬isSeparator c) ∧ ∃ rest, text = name ++ rest ∧ Ends names rest := by
  constructor
  · rintro (hname | ⟨hname, hc, h⟩)
    · exact ⟨hname, [], (List.append_nil _).symm, .inl ⟨rfl, rfl⟩⟩
    · exact ⟨hname, _, rfl, .inr ⟨_, _, hc, rfl, h⟩⟩
  · rintro ⟨hname, rest, rfl, ⟨rfl, rfl⟩ | ⟨c, text, hc, rfl, h⟩⟩
    · rw [List.append_nil]
      exact .last hname
    · exact .more hname hc h

/-- A name ends where a separator follows or nothing does. -/
theorem append_inj_of_closed {run : List Char} (hrun : ∀ c ∈ run, ¬isSeparator c)
    (hname : ∀ c ∈ name, ¬isSeparator c) (hmid : Closed mid) (hrest : Closed rest)
    (h : run ++ mid = name ++ rest) : run = name ∧ mid = rest := by
  have hfirst : ∀ {c cs}, Closed (c :: cs) → isSeparator c := by
    rintro c cs (h | ⟨d, ds, hd, h⟩)
    · cases h
    · cases h
      exact hd
  -- If one name went on behind the other, its next character would be a separator.
  induction run generalizing name with
  | nil =>
    cases name with
    | nil => exact ⟨rfl, h⟩
    | cons d name =>
      rw [List.nil_append] at h
      exact absurd (hfirst (h ▸ hmid)) (hname d List.mem_cons_self)
  | cons c run ih =>
    cases name with
    | nil =>
      rw [List.nil_append] at h
      exact absurd (hfirst (h ▸ hrest)) (hrun c List.mem_cons_self)
    | cons d name =>
      simp only [List.cons_append, List.cons.injEq] at h
      obtain ⟨rfl, h⟩ := h
      obtain ⟨rfl, rfl⟩ := ih (List.forall_mem_cons.1 hrun).2 (List.forall_mem_cons.1 hname).2 h
      exact ⟨rfl, rfl⟩

/-- An end of a text is made up of an end of one of its names and of the names after that. -/
theorem Spells.exists_of_suffix (h : Spells names text) (hmid : mid <:+ text) :
    ∃ name left tail, name :: left <:+ names ∧ tail <:+ name ∧ Spells (tail :: left) mid := by
  induction h with
  | @last name hname =>
    exact ⟨name, [], mid, List.suffix_rfl, hmid, .last fun c hc => hname c (hmid.subset hc)⟩
  | @more name names c text hname hc h ih =>
    obtain ⟨run, hrun⟩ := hmid
    -- The end starts in the first name, at the separator behind it, or further on.
    obtain ⟨tail, rfl, rfl⟩ | ⟨skipped, rfl, hskipped⟩ := List.append_eq_append_iff.1 hrun
    · exact ⟨_, names, tail, List.suffix_rfl, List.suffix_append _ _,
        .more (List.forall_mem_append.1 hname).2 hc h⟩
    · obtain _ | ⟨_, skipped⟩ := skipped
      · obtain rfl : c :: text = mid := hskipped
        exact ⟨name, names, [], List.suffix_rfl, List.nil_suffix,
          .more (List.forall_mem_nil _) hc h⟩
      · obtain ⟨rfl, rfl⟩ := List.cons_eq_cons.1 hskipped
        obtain ⟨n, left, tail, hleft, htail, hspells⟩ := ih (List.suffix_append _ _)
        exact ⟨n, left, tail, hleft.trans (List.suffix_cons _ _), htail, hspells⟩

theorem Spells.exists_suffix (h : Spells names text) (hleft : name :: left <:+ names)
    (htail : tail <:+ name) : ∃ mid, mid <:+ text ∧ Spells (tail :: left) mid := by
  have hplain : (∀ c ∈ name, ¬isSeparator c) → ∀ c ∈ tail, ¬isSeparator c :=
    fun hname c hc => hname c (htail.subset hc)
  induction h with
  | last hname =>
    obtain hall | hnone := List.suffix_cons_iff.1 hleft
    · obtain ⟨rfl, rfl⟩ := List.cons_eq_cons.1 hall
      exact ⟨tail, htail, .last (hplain hname)⟩
    · cases List.suffix_nil.1 hnone
  | @more first names c text hname hc h ih =>
    obtain hall | hlater := List.suffix_cons_iff.1 hleft
    · obtain ⟨rfl, rfl⟩ := List.cons_eq_cons.1 hall
      obtain ⟨run, rfl⟩ := htail
      exact ⟨tail ++ c :: text, ⟨run, by simp⟩, .more (hplain hname) hc h⟩
    · obtain ⟨mid, hmid, hspells⟩ := ih hlater
      exact ⟨mid, hmid.trans ((List.suffix_cons _ _).trans (List.suffix_append _ _)), hspells⟩

/-- The names of paths that the selection is told for. -/
def Proper (names : List (List Char)) : Prop := ∀ name ∈ names, name ≠ [] ∧ '\n' ∉ name

theorem Proper.of_suffix (h : Proper names) (hleft : left <:+ names) : Proper left :=
  fun name hname => h name (hleft.subset hname)

theorem Spells.ne_newline (h : Spells names text) (hproper : Proper names) :
    ∀ c ∈ text, c ≠ '\n' := by
  induction h with
  | last =>
    rintro c hc rfl
    exact (hproper _ List.mem_cons_self).2 hc
  | more hname hc h ih =>
    obtain ⟨hfirst, hmore⟩ := List.forall_mem_cons.1 hproper
    simp only [List.forall_mem_append, List.forall_mem_cons]
    refine ⟨fun c hc h => hfirst.2 (h ▸ hc), ?_, ih hmore⟩
    rintro rfl
    revert hc
    decide

/-! ### Selection -/

/-- Whether pieces take off a part of a text that the text or a name in it ends with. -/
def Selects (qs : List Piece) (text : List Char) : Prop :=
  ∃ rest, TakesAll qs text rest ∧ Closed rest

theorem selects_cons {q : Piece} {qs : List Piece} :
    Selects (q :: qs) text ↔ ∃ mid, q.Takes text mid ∧ Selects qs mid := by
  simp only [Selects, TakesAll]
  constructor
  · rintro ⟨rest, ⟨mid, hq, hqs⟩, hrest⟩
    exact ⟨mid, hq, rest, hqs, hrest⟩
  · rintro ⟨mid, hq, rest, hqs, hrest⟩
    exact ⟨rest, ⟨mid, hq, hqs⟩, hrest⟩

theorem selects_append {qs rs : List Piece} :
    Selects (qs ++ rs) text ↔ ∃ mid, TakesAll qs text mid ∧ Selects rs mid := by
  simp only [Selects, takesAll_append]
  constructor
  · rintro ⟨rest, ⟨mid, hqs, hrs⟩, hrest⟩
    exact ⟨mid, hqs, rest, hrs, hrest⟩
  · rintro ⟨mid, hqs, rest, hrs, hrest⟩
    exact ⟨rest, ⟨mid, hqs, hrs⟩, hrest⟩

theorem selects_nil : Selects [] text ↔ Closed text := by simp [Selects, TakesAll]

/-- The segments of a pattern select the texts whose names they cover. -/
def Covering (ps : List (List Char)) : Prop :=
  ∀ names text, Spells names text → Proper names →
    (Selects (segmentPieces ps) text ↔ covers ps names)

theorem closed_of_selects_onward (h : Selects (onward ps) text) : Closed text := by
  rw [onward] at h
  split_ifs at h
  · exact selects_nil.1 h
  · obtain ⟨mid, ⟨c, hc, rfl⟩, -⟩ := selects_cons.1 h
    exact .inr ⟨c, mid, hc, rfl⟩

theorem selects_onward (ih : ps ≠ [] → Covering ps) (hproper : Proper names) (h : Ends names rest) :
    Selects (onward ps) rest ↔ covers ps names := by
  rw [onward]
  split_ifs with hps
  · simp [hps, covers, selects_nil, h.closed]
  · obtain ⟨rfl, rfl⟩ | ⟨c, text, hc, rfl, hspells⟩ := h
    · simp [selects_cons, Piece.Takes, not_covers_nil hps]
    · rw [selects_cons, ← ih hps names text hspells hproper]
      simp [Piece.Takes, hc]

/-- A plain segment takes the first name of a text if it stands for that. -/
theorem selects_plain (hp : ∀ c ∈ p, ¬isSeparator c) (ih : ps ≠ [] → Covering ps)
    (hproper : Proper left) (h : Spells (name :: left) text) :
    Selects (plain p ++ onward ps) text ↔ fits p name ∧ covers ps left := by
  obtain ⟨hname, rest, rfl, hends⟩ := spells_cons_iff.1 h
  rw [selects_append, ← selects_onward ih hproper hends]
  constructor
  · rintro ⟨mid, htakes, honward⟩
    -- What the segment takes cannot be less than the name, as the rest is closed.
    obtain ⟨run, hrun, hfits, htext⟩ := (takesAll_plain hp).1 htakes
    obtain ⟨rfl, rfl⟩ := append_inj_of_closed hrun hname (closed_of_selects_onward honward)
      hends.closed htext.symm
    exact ⟨hfits, honward⟩
  · rintro ⟨hfits, honward⟩
    exact ⟨rest, (takesAll_plain hp).2 ⟨name, hname, hfits, rfl⟩, honward⟩

theorem takes_reach (h : ∀ c ∈ text, c ≠ '\n') : Piece.reach.Takes text mid ↔ mid <:+ text := by
  constructor
  · rintro ⟨run, -, rfl⟩
    exact List.suffix_append _ _
  · rintro ⟨run, rfl⟩
    exact ⟨run, (List.forall_mem_append.1 h).1, rfl⟩

/-- Folders are taken up to the start of a name. -/
theorem takes_folders (h : Spells names text)
    (htakes : Piece.folders.Takes text mid) : ∃ left, left <:+ names ∧ Spells left mid := by
  obtain rfl | ⟨run, c, -, -, hc, rfl⟩ := htakes
  · exact ⟨names, List.suffix_rfl, h⟩
  · obtain ⟨name, left, tail, hleft, -, hspells⟩ := h.exists_of_suffix (List.suffix_append run _)
    obtain ⟨htail, rest, hrest, hends⟩ := spells_cons_iff.1 hspells
    obtain ⟨rfl, rfl⟩ := append_inj_of_closed (List.forall_mem_nil _) htail
      (.inr ⟨c, mid, hc, rfl⟩) hends.closed hrest
    obtain ⟨-, hnone⟩ | ⟨_, _, -, hmore, hspells⟩ := hends
    · cases hnone
    · cases hmore
      exact ⟨left, (List.suffix_cons _ _).trans hleft, hspells⟩

/-- Folders are taken up to the start of any name. -/
theorem exists_takes_folders (h : Spells names text) (hproper : Proper names)
    (hleft : left <:+ names) (hne : left ≠ []) :
    ∃ mid, Piece.folders.Takes text mid ∧ Spells left mid := by
  obtain ⟨skipped, rfl⟩ := hleft
  obtain rfl | ⟨skipped, name, rfl⟩ := List.eq_nil_or_concat skipped
  · exact ⟨text, .inl rfl, h⟩
  · have hbefore : name :: left <:+ skipped.concat name ++ left := ⟨skipped, by simp⟩
    obtain ⟨mid, ⟨run, rfl⟩, hspells⟩ := h.exists_suffix hbefore List.suffix_rfl
    obtain ⟨-, rest, rfl, hends⟩ := spells_cons_iff.1 hspells
    obtain ⟨rfl, -⟩ | ⟨c, mid, hc, rfl, hleft⟩ := hends
    · exact absurd rfl hne
    · -- The names before `left` make up the run, which must not be empty.
      have hname : name ≠ [] := (hproper name (by simp)).1
      refine ⟨mid, .inr ⟨run ++ name, c, ?_, fun d hd => ?_, hc, by simp⟩, hleft⟩
      · exact List.append_ne_nil_of_right_ne_nil _ hname
      · exact h.ne_newline hproper d (by simp only [List.mem_append] at hd ⊢; tauto)

theorem covering_last : Covering [['*', '*']] := by
  intro names text h hproper
  have htakes : Piece.reach.Takes text [] :=
    (takes_reach (h.ne_newline hproper)).2 List.nil_suffix
  have hnames : names ≠ [] := by cases h <;> exact List.cons_ne_nil _ _
  rw [covers_last]
  exact iff_of_true (selects_cons.2 ⟨[], htakes, selects_nil.2 (.inl rfl)⟩) hnames

theorem covering_folders (hps : ps ≠ []) (ih : Covering ps) : Covering (['*', '*'] :: ps) := by
  intro names text h hproper
  rw [segmentPieces_folders hps, covers_folders hps, selects_cons]
  constructor
  · rintro ⟨mid, htakes, hselects⟩
    obtain ⟨left, hleft, hspells⟩ := takes_folders h htakes
    exact ⟨left, hleft, (ih left mid hspells (hproper.of_suffix hleft)).1 hselects⟩
  · rintro ⟨left, hleft, hcovers⟩
    have hne : left ≠ [] := by
      rintro rfl
      exact not_covers_nil hps hcovers
    obtain ⟨mid, htakes, hspells⟩ := exists_takes_folders h hproper hleft hne
    exact ⟨mid, htakes, (ih left mid hspells (hproper.of_suffix hleft)).2 hcovers⟩

theorem covering_reach (hne : p ≠ []) (hp : ∀ c ∈ p, ¬isSeparator c)
    (ih : ps ≠ [] → Covering ps) : Covering (('*' :: '*' :: p) :: ps) := by
  intro names text h hproper
  have hleft : ∀ {name left}, name :: left <:+ names → Proper left := fun hleft =>
    hproper.of_suffix ((List.suffix_cons _ _).trans hleft)
  rw [segmentPieces_reach hne, covers_reach hne, selects_cons]
  simp only [takes_reach (h.ne_newline hproper)]
  constructor
  · rintro ⟨mid, hmid, hselects⟩
    obtain ⟨name, left, tail, hname, htail, hspells⟩ := h.exists_of_suffix hmid
    obtain ⟨hfits, hcovers⟩ := (selects_plain hp ih (hleft hname) hspells).1 hselects
    exact ⟨name, left, hname, ⟨tail, htail, hfits⟩, hcovers⟩
  · rintro ⟨name, left, hname, ⟨tail, htail, hfits⟩, hcovers⟩
    obtain ⟨mid, hmid, hspells⟩ := h.exists_suffix hname htail
    exact ⟨mid, hmid, (selects_plain hp ih (hleft hname) hspells).2 ⟨hfits, hcovers⟩⟩

theorem covering_plain (hplain : ∀ more, p ≠ '*' :: '*' :: more) (hp : ∀ c ∈ p, ¬isSeparator c)
    (ih : ps ≠ [] → Covering ps) : Covering (p :: ps) := by
  intro names text h hproper
  obtain ⟨name, left, rfl⟩ : ∃ name left, names = name :: left := by
    cases h <;> exact ⟨_, _, rfl⟩
  have hleft : Proper left := hproper.of_suffix (List.suffix_cons _ _)
  rw [segmentPieces_plain hplain, covers_plain hplain, selects_plain hp ih hleft h]
  simp

/-- The segments of a pattern, one of them at least, select the texts whose names they cover. -/
theorem covering (hsegments : ∀ p ∈ ps, ∀ c ∈ p, ¬isSeparator c) (hne : ps ≠ []) :
    Covering ps := by
  induction ps with
  | nil => exact absurd rfl hne
  | cons p ps ih =>
    obtain ⟨hp, hps⟩ := List.forall_mem_cons.1 hsegments
    obtain rfl | ⟨more, hmore, rfl⟩ | hplain := segment_cases p
    · by_cases hlast : ps = []
      · rw [hlast]
        exact covering_last
      · exact covering_folders hlast (ih hps hlast)
    · exact covering_reach hmore (fun c hc => hp c (by simp [hc])) (ih hps)
    · exact covering_plain hplain hp (ih hps)

/-! ### Patterns -/

theorem segments_eq_splitOnP (text : List Char) : segments text = text.splitOnP isSeparator := by
  induction text with
  | nil => rfl
  | cons c text ih =>
    rw [List.splitOnP_cons_eq_if_modifyHead, segments, ih]
    split
    · exact absurd ‹_› (List.splitOnP_ne_nil _ _)
    · rename_i heq
      rw [heq]
      rfl

theorem not_isSeparator_of_mem_splitOnP (text : List Char) :
    ∀ p ∈ text.splitOnP isSeparator, ∀ c ∈ p, ¬isSeparator c := by
  have h := spells_splitOnP text
  generalize text.splitOnP isSeparator = names at h
  induction h with
  | last hname => exact List.forall_mem_singleton.2 hname
  | more hname hc h ih => exact List.forall_mem_cons.2 ⟨hname, ih⟩

/-- Patterns are read, unless their expression is too large. They select a path if the segments of
    one of them cover its names. -/
theorem isMatch_iff_covers {patterns : List String} (hne : patterns ≠ [])
    (hsize : Regex.read? {} (source patterns) ≠ .error .tooLarge) :
    ∃ m, Matcher.ofPatterns? patterns = .ok m ∧ ∀ path : String,
      (∀ name ∈ path.toList.splitOnP isSeparator, name ≠ [] ∧ '\n' ∉ name) →
      (m.isMatch path ↔ ∃ pattern ∈ patterns,
        covers (pattern.toList.splitOnP isSeparator) (path.toList.splitOnP isSeparator)) := by
  obtain ⟨r, hr, hmatch⟩ := exists_read?_source hne hsize
  refine ⟨⟨source patterns, r⟩, by simp only [Matcher.ofPatterns?, hr], fun path hproper => ?_⟩
  rw [Matcher.isMatch, hmatch]
  refine exists_congr fun pattern => and_congr_right fun _ => ?_
  have hcovering := covering (not_isSeparator_of_mem_splitOnP pattern.toList)
    (List.splitOnP_ne_nil _ _)
  rw [pieces, segments_eq_splitOnP]
  exact hcovering _ _ (spells_splitOnP path.toList) hproper

theorem isMatch_iff_covers_sources : ∃ m,
    Matcher.ofPatterns? ["src/**/*.ts", "**.md"] = .ok m ∧ m.isMatch "src\\deep/a.ts" ∧
      m.isMatch "docs/a.md/b" ∧ ¬m.isMatch "src/a.tsx" := by
  have hsize : Regex.read? {} (source ["src/**/*.ts", "**.md"]) ≠ .error .tooLarge := by
    obtain ⟨e, hmeaning, hweight⟩ :
        ∃ e, (sourceTree ["src/**/*.ts", "**.md"]).meaning {} = .ok (e, {}) ∧
          e.weight ≤ Regex.sizeLimit := by
      refine ⟨?e, ?meaning, ?weight⟩
      case meaning =>
        cbv
        rfl
      case weight => decide
    rw [read?_source (List.cons_ne_nil _ _) hmeaning, if_neg (Nat.not_lt.2 hweight)]
    intro h
    cases h
  obtain ⟨m, hm, h⟩ := isMatch_iff_covers (List.cons_ne_nil _ _) hsize
  exact ⟨m, hm, (h _ (by decide)).2 (by decide), (h _ (by decide)).2 (by decide),
    mt (h _ (by decide)).1 (by decide)⟩

end Autofix.Include
