import Autofix.Path
import Mathlib.Data.List.Basic
import Mathlib.Data.List.DropRight

/-!
# The parts of a path

The text of a path and its start with its parts tell the same: `Path.split` takes a path apart and
`Path.ofParts` puts it together again (`split_eq_iff`). What a path says is decided by its start and
by those of its parts that are not blank (`components_eq_iff`).

* `join_eq` tells the parts of a path below another one;
* `components_of_stripBase?` and `stripBase?_isSome_iff`: the upper part of a path comes off exactly
  if its components are the first ones, and leaves the other ones.
-/

namespace Autofix

theorem Text.fields_eq_splitOn (sep : Char) (cs : List Char) : fields sep cs = cs.splitOn sep := by
  induction cs with
  | nil => rfl
  | cons c cs ih =>
    rw [fields, ih, List.splitOn_cons_eq_if_modifyHead]
    obtain ⟨f, fs, hfs⟩ := List.exists_cons_of_ne_nil (List.splitOn_ne_nil sep cs)
    simp only [hfs, beq_iff_eq, List.modifyHead_cons]

namespace Path

variable {p q base r : Path} {lead : Lead} {parts front tail : List (List Char)}

/-! ### Separators -/

theorem joinParts_eq_intercalate (parts : List (List Char)) :
    joinParts parts = ['/'].intercalate parts := by
  induction parts with
  | nil => rfl
  | cons part parts ih =>
    cases parts with
    | nil => simp [joinParts]
    | cons next parts => simp [joinParts, ih, List.intercalate_cons_cons]

theorem fields_joinParts (hne : parts ≠ []) (h : ∀ part ∈ parts, '/' ∉ part) :
    Text.fields '/' (joinParts parts) = parts := by
  rw [Text.fields_eq_splitOn, joinParts_eq_intercalate, List.splitOn_intercalate '/' h hne]

theorem joinParts_fields (cs : List Char) : joinParts (Text.fields '/' cs) = cs := by
  rw [Text.fields_eq_splitOn, joinParts_eq_intercalate, List.intercalate_splitOn]

theorem fields_ne_nil (cs : List Char) : Text.fields '/' cs ≠ [] := by
  rw [Text.fields_eq_splitOn]
  exact List.splitOn_ne_nil '/' cs

theorem not_mem_of_mem_fields {cs part : List Char} (h : part ∈ Text.fields '/' cs) :
    '/' ∉ part := by
  induction cs generalizing part with
  | nil => simp_all [Text.fields]
  | cons c cs ih =>
    obtain ⟨f, fs, hfs⟩ := List.exists_cons_of_ne_nil (fields_ne_nil cs)
    rw [Text.fields, hfs] at h
    rw [hfs] at ih
    dsimp only at h
    split_ifs at h with hc
    · rcases List.mem_cons.1 h with rfl | h
      · exact List.not_mem_nil
      · exact ih h
    · rcases List.mem_cons.1 h with rfl | h
      · rw [List.mem_cons, not_or]
        exact ⟨fun heq => hc heq.symm, ih List.mem_cons_self⟩
      · exact ih (List.mem_cons_of_mem _ h)

theorem joinParts_append (front : List (List Char)) (htail : tail ≠ []) :
    joinParts (front ++ tail) = (front.flatMap fun part => part ++ ['/']) ++ joinParts tail := by
  induction front with
  | nil => rfl
  | cons part front ih =>
    have hne : front ++ tail ≠ [] := List.append_ne_nil_of_right_ne_nil front htail
    rw [List.cons_append, joinParts.eq_3 _ _ hne, ih]
    simp

/-! ### The parts as they are written -/

/-- The parts of a path, the ones at its start and blank ones included. -/
def written (p : Path) : List (List Char) := Text.fields '/' p.text.toList

theorem written_ne_nil (p : Path) : p.written ≠ [] := fields_ne_nil _

theorem not_mem_of_mem_written {part : List Char} (h : part ∈ p.written) : '/' ∉ part :=
  not_mem_of_mem_fields h

theorem mk_joinParts_written (p : Path) : (⟨String.ofList (joinParts p.written)⟩ : Path) = p := by
  rw [written, joinParts_fields, String.ofList_toList]

theorem written_joinParts (hne : parts ≠ []) (h : ∀ part ∈ parts, '/' ∉ part) :
    written ⟨String.ofList (joinParts parts)⟩ = parts := by
  rw [written, String.toList_ofList, fields_joinParts hne h]

/-- A name is the only part of the path that consists of it. -/
theorem written_name {name : String} (h : '/' ∉ name.toList) :
    (⟨name⟩ : Path).written = [name.toList] := by
  have hjoin : (⟨String.ofList (joinParts [name.toList])⟩ : Path).written = [name.toList] :=
    written_joinParts (by simp) (by simpa using h)
  rwa [joinParts, String.ofList_toList] at hjoin

theorem isAbsolute_name {name : String} (h : '/' ∉ name.toList) :
    (⟨name⟩ : Path).isAbsolute = false := by
  rw [Bool.eq_false_iff, ne_eq, isAbsolute, decide_eq_true_iff]
  exact fun hhead => h (List.mem_of_mem_head? hhead)

theorem written_injective : Function.Injective written := by
  intro p q h
  rw [← mk_joinParts_written p, h, mk_joinParts_written]

/-- Tells the start apart from the parts that follow it. -/
def splitWritten : List (List Char) → Lead × List (List Char)
  | [] :: part :: rest => (.root, part :: rest)
  | [['.']] => (.here, [])
  | ['.'] :: part :: rest => (.here, [] :: part :: rest)
  | parts => (.none, parts)

theorem blank_cases (part : List Char) : part = [] ∨ part = ['.'] ∨ isBlank part = false := by
  by_cases hempty : part = []
  · exact .inl hempty
  · by_cases hdot : part = ['.']
    · exact .inr (.inl hdot)
    · exact .inr (.inr (by simp [isBlank, hempty, hdot]))

theorem splitWritten_cons {part : List Char} (h : isBlank part = false)
    (rest : List (List Char)) : splitWritten (part :: rest) = (.none, part :: rest) := by
  unfold splitWritten
  split <;> simp_all [isBlank]

theorem split_eq (p : Path) : p.split = splitWritten p.written := by
  unfold split written
  generalize p.text.toList = cs
  split
  · rename_i rest
    obtain ⟨part, parts, hfields⟩ := List.exists_cons_of_ne_nil (fields_ne_nil rest)
    simp [Text.fields, hfields, splitWritten]
  · rfl
  · rename_i rest
    obtain ⟨part, parts, hfields⟩ := List.exists_cons_of_ne_nil (fields_ne_nil rest)
    simp [Text.fields, hfields, splitWritten]
  · rename_i hroot hdot hhere
    cases cs with
    | nil => rfl
    | cons c cs =>
      -- The first part starts with the first character, so it is neither empty nor a dot alone.
      have hc : c ≠ '/' := fun heq => hroot cs (by rw [heq])
      obtain ⟨f, fs, hfields⟩ := List.exists_cons_of_ne_nil (fields_ne_nil cs)
      have hcons : Text.fields '/' (c :: cs) = (c :: f) :: fs := by
        simp [Text.fields, hfields, hc]
      have hcs : joinParts (f :: fs) = cs := hfields ▸ joinParts_fields cs
      rw [hcons]
      unfold splitWritten
      split
      · rename_i heq
        simp at heq
      · rename_i heq
        obtain ⟨⟨rfl, rfl⟩, rfl⟩ : (c = '.' ∧ f = []) ∧ fs = [] := by simpa using heq
        exact absurd (by rw [← hcs]; rfl) hdot
      · rename_i part rest heq
        obtain ⟨⟨rfl, rfl⟩, rfl⟩ : (c = '.' ∧ f = []) ∧ fs = part :: rest := by simpa using heq
        exact absurd (by rw [← hcs]; rfl) (hhere (joinParts (part :: rest)))
      · rfl

/-- A path is made up of its start and the parts behind it. -/
theorem ofParts_split (p : Path) : ofParts p.split.1 p.split.2 = p := by
  have hparts : ofParts p.split.1 p.split.2 = ⟨String.ofList (joinParts p.written)⟩ := by
    rw [split_eq]
    generalize p.written = parts
    unfold splitWritten
    split <;> rfl
  rw [hparts, mk_joinParts_written]

theorem isAbsolute_iff : p.isAbsolute ↔ p.split.1 = .root := by
  unfold isAbsolute split
  generalize p.text.toList = cs
  split
  · simp
  · simp
  · simp
  · rename_i hroot _ _
    cases cs with
    | nil => simp
    | cons c cs =>
      have hc : c ≠ '/' := fun heq => hroot cs (by rw [heq])
      simp [hc]

theorem not_mem_of_mem_split {part : List Char} (h : part ∈ p.split.2) : '/' ∉ part := by
  rw [split_eq] at h
  have hwritten : ∀ part ∈ p.written, '/' ∉ part := fun _ => not_mem_of_mem_written
  generalize p.written = parts at *
  unfold splitWritten at h
  split at h
  · exact hwritten part (List.mem_cons_of_mem _ h)
  · exact absurd h List.not_mem_nil
  · rcases List.mem_cons.1 h with rfl | h
    · exact List.not_mem_nil
    · exact hwritten part (List.mem_cons_of_mem _ h)
  · exact hwritten part h

/-! ### What a path says -/

theorem isBlank_iff {part : List Char} : isBlank part ↔ part = [] ∨ part = ['.'] := by
  simp [isBlank]

/-- The parts that say something. -/
def saying (parts : List (List Char)) : List (List Char) := parts.filter fun part => !isBlank part

@[simp] theorem saying_nil : saying [] = [] := rfl

@[simp] theorem saying_append (front tail : List (List Char)) :
    saying (front ++ tail) = saying front ++ saying tail := List.filter_append ..

theorem saying_cons {part : List Char} (h : isBlank part = false) (rest : List (List Char)) :
    saying (part :: rest) = part :: saying rest := by
  simp [saying, h]

theorem saying_eq_nil_iff : saying parts = [] ↔ ∀ part ∈ parts, isBlank part := by
  simp [saying, List.filter_eq_nil_iff]

theorem isBlank_of_mem_saying {part : List Char} (h : part ∈ saying parts) :
    isBlank part = false := by
  simpa using (List.mem_filter.1 h).2

theorem saying_takeWhile (parts : List (List Char)) : saying (parts.takeWhile isBlank) = [] :=
  saying_eq_nil_iff.2 fun _ h => List.mem_takeWhile_imp h

@[simp] theorem saying_dropWhile (parts : List (List Char)) :
    saying (parts.dropWhile isBlank) = saying parts := by
  conv_rhs => rw [← List.takeWhile_append_dropWhile (p := isBlank) (l := parts)]
  rw [saying_append, saying_takeWhile, List.nil_append]

@[simp] theorem saying_reverse (parts : List (List Char)) :
    saying parts.reverse = (saying parts).reverse := List.filter_reverse

@[simp] theorem saying_rdropWhile (parts : List (List Char)) :
    saying (parts.rdropWhile isBlank) = saying parts := by
  simp [List.rdropWhile]

theorem saying_splitWritten (parts : List (List Char)) :
    saying (splitWritten parts).2 = saying parts := by
  unfold splitWritten
  split <;> simp [saying, isBlank]

theorem saying_split (p : Path) : saying p.split.2 = saying p.written := by
  rw [split_eq, saying_splitWritten]

theorem components_eq (p : Path) :
    p.components = p.split.1.components ++ (saying p.written).map partComponent := by
  rw [← saying_split]
  rfl

theorem partComponent_injective : Function.Injective partComponent := by
  intro part part' h
  unfold partComponent at h
  split_ifs at h with hup hup'
  · rw [hup, hup']
  · exact String.ofList_injective (Component.name.inj h)

theorem partComponent_ne (part : List Char) :
    partComponent part ≠ .root ∧ partComponent part ≠ .here := by
  unfold partComponent
  split_ifs <;> simp

/-- Only an absolute path says that it starts at the root. -/
theorem isAbsolute_iff_mem : p.isAbsolute ↔ .root ∈ p.components := by
  rw [isAbsolute_iff, components_eq, List.mem_append]
  have hparts : Component.root ∉ (saying p.written).map partComponent := fun hmem => by
    obtain ⟨part, -, hpart⟩ := List.mem_map.1 hmem
    exact (partComponent_ne part).1 hpart
  cases p.split.1 <;> simp [Lead.components, hparts]

/-- Only the empty path says nothing. -/
theorem eq_empty_iff : p = ⟨""⟩ ↔ p.split.1 = .none ∧ saying p.written = [] := by
  constructor
  · rintro rfl
    exact ⟨rfl, rfl⟩
  · rintro ⟨hlead, hnames⟩
    refine written_injective ?_
    have hne := p.written_ne_nil
    rw [split_eq] at hlead
    generalize p.written = parts at *
    rcases parts with _ | ⟨part, _ | ⟨next, rest⟩⟩
    · exact absurd rfl hne
    · rcases blank_cases part with rfl | rfl | hpart
      · rfl
      · simp [splitWritten] at hlead
      · simp [saying, hpart] at hnames
    · rcases blank_cases part with rfl | rfl | hpart
      · simp [splitWritten] at hlead
      · simp [splitWritten] at hlead
      · simp [saying, hpart] at hnames

/-- The components of one path come first in those of another one exactly if both start in the same
    way and the parts come first, blank ones aside. -/
theorem components_prefix_iff : base.components <+: p.components ↔
    base = ⟨""⟩ ∨ base.split.1 = p.split.1 ∧ saying base.written <+: saying p.written := by
  have hmap : ∀ {names parts : List (List Char)},
      names.map partComponent <+: parts.map partComponent ↔ names <+: parts :=
    List.prefix_map_iff_of_injective partComponent_injective
  -- What stands at the start is no part further on.
  have hlead : ∀ {c : Component} {cs : List Component} (parts : List (List Char)),
      c = .root ∨ c = .here → ¬c :: cs <+: parts.map partComponent := by
    rintro c cs (_ | ⟨part, parts⟩) hc h
    · simp at h
    · have heq := (List.cons_prefix_cons.1 h).1
      rcases hc with rfl | rfl
      exacts [(partComponent_ne part).1 heq.symm, (partComponent_ne part).2 heq.symm]
  have hnames : ∀ {c : Component} {cs : List Component} (names : List (List Char)),
      c = .root ∨ c = .here → (names.map partComponent <+: c :: cs ↔ names = []) := by
    rintro c cs (_ | ⟨part, names⟩) hc
    · simp
    · simp only [List.map_cons, List.cons_prefix_cons, reduceCtorEq, iff_false, not_and]
      intro heq
      rcases hc with rfl | rfl
      exacts [absurd heq (partComponent_ne part).1, absurd heq (partComponent_ne part).2]
  rw [components_eq, components_eq, eq_empty_iff]
  cases base.split.1 <;> cases p.split.1 <;>
    simp [Lead.components, List.cons_prefix_cons, hmap, hlead, hnames]
  intro hnil
  simp [hnil]

theorem components_eq_iff :
    p.components = q.components ↔ p.split.1 = q.split.1 ∧ saying p.written = saying q.written := by
  constructor
  · -- Each list of components is a prefix of the other one.
    intro h
    have hpq : p.components <+: q.components := h ▸ List.prefix_refl _
    have hqp : q.components <+: p.components := h ▸ List.prefix_refl _
    rcases components_prefix_iff.1 hpq with rfl | ⟨hlead, hpq⟩
    · rcases components_prefix_iff.1 hqp with rfl | ⟨hlead, hqp⟩
      · exact ⟨rfl, rfl⟩
      · exact ⟨hlead.symm, (List.prefix_nil.1 hqp).symm⟩
    · rcases components_prefix_iff.1 hqp with rfl | ⟨-, hqp⟩
      · exact ⟨hlead, List.prefix_nil.1 hpq⟩
      · exact ⟨hlead, hpq.eq_of_length (le_antisymm hpq.length_le hqp.length_le)⟩
  · rintro ⟨hlead, hnames⟩
    rw [components_eq, components_eq, hlead, hnames]

theorem same_iff : p.same q ↔ p.components = q.components := by
  rw [same, decide_eq_true_eq]

theorem components_eq_nil_iff : p.components = [] ↔ p = ⟨""⟩ := by
  rw [eq_empty_iff]
  exact components_eq_iff (q := ⟨""⟩)

/-! ### Blank parts at the end -/

theorem rdropWhile_cons {part : List Char} (h : isBlank part = false ∨ saying parts ≠ []) :
    (part :: parts).rdropWhile isBlank = part :: parts.rdropWhile isBlank := by
  simp only [List.rdropWhile, List.reverse_cons, List.dropWhile_append, List.isEmpty_iff]
  split_ifs with hnil
  · have hblank : saying parts = [] := by
      rw [← List.reverse_eq_nil_iff, ← saying_reverse, ← saying_dropWhile, hnil, saying_nil]
    simp [hnil, h.resolve_right (not_not_intro hblank)]
  · simp

/-- Parts that may stand behind a start. -/
def Follows : Lead → List (List Char) → Prop
  | .root, _ => True
  | .here, parts => parts = [] ∨ ∃ rest, parts = [] :: rest
  | .none, parts => saying parts = [] ∨ ∃ part rest, parts = part :: rest ∧ isBlank part = false

theorem follows_split (p : Path) : Follows p.split.1 p.split.2 := by
  rw [split_eq]
  have hne := p.written_ne_nil
  generalize p.written = parts at hne
  unfold splitWritten
  split
  · trivial
  · exact .inl rfl
  · exact .inr ⟨_, rfl⟩
  · rename_i hroot hdot hhere
    obtain ⟨part, rest, rfl⟩ := List.exists_cons_of_ne_nil hne
    rcases blank_cases part with rfl | rfl | hpart
    · cases rest with
      | nil => exact .inl rfl
      | cons next rest => exact absurd rfl (hroot next rest)
    · cases rest with
      | nil => exact absurd rfl hdot
      | cons next rest => exact absurd rfl (hhere next rest)
    · exact .inr ⟨part, rest, rfl, hpart⟩

theorem Follows.of_append (h : Follows lead (front ++ tail)) : Follows lead front := by
  rcases front with _ | ⟨part, front⟩
  · cases lead with
    | root => trivial
    | here => exact .inl rfl
    | none => exact .inl rfl
  · cases lead with
    | root => trivial
    | here =>
      rcases h with h | ⟨rest, h⟩
      · simp at h
      · exact .inr ⟨front, by rw [(List.cons.inj h).1]⟩
    | none =>
      rcases h with h | ⟨part', rest, h, hpart⟩
      · rw [saying_append] at h
        exact .inl (List.append_eq_nil_iff.1 h).1
      · exact .inr ⟨part, front, rfl, (List.cons.inj h).1 ▸ hpart⟩

/-- A start with parts behind it, without the blank ones at the end, is split into just these. -/
theorem split_ofParts_rdropWhile (h : Follows lead parts) (hslash : ∀ part ∈ parts, '/' ∉ part)
    (hsaying : saying parts ≠ []) :
    (ofParts lead (parts.rdropWhile isBlank)).split = (lead, parts.rdropWhile isBlank) := by
  have hkept : ∀ {parts : List (List Char)}, saying parts ≠ [] →
      ∃ part rest, parts.rdropWhile isBlank = part :: rest := fun {parts} hne => by
    refine List.exists_cons_of_ne_nil fun hnil => hne ?_
    rw [← saying_rdropWhile, hnil, saying_nil]
  have hslash' : ∀ part ∈ parts.rdropWhile isBlank, '/' ∉ part := fun part hpart =>
    hslash part ((List.rdropWhile_prefix _ _).subset hpart)
  -- It is enough to find the parts as they are written.
  suffices ∃ written, written ≠ [] ∧ (∀ part ∈ written, '/' ∉ part) ∧
      ofParts lead (parts.rdropWhile isBlank) = ⟨String.ofList (joinParts written)⟩ ∧
      splitWritten written = (lead, parts.rdropWhile isBlank) by
    obtain ⟨written, hne, hwritten, hpath, hsplit⟩ := this
    rw [hpath, split_eq, written_joinParts hne hwritten, hsplit]
  cases lead with
  | root =>
    obtain ⟨part, rest, hparts⟩ := hkept hsaying
    rw [hparts] at hslash' ⊢
    exact ⟨[] :: part :: rest, by simp, by simpa using hslash', rfl, rfl⟩
  | here =>
    rcases h with rfl | ⟨rest, rfl⟩
    · exact absurd rfl hsaying
    · have hrest : saying rest ≠ [] := by simpa [saying, isBlank] using hsaying
      obtain ⟨next, more, hparts⟩ := hkept hrest
      rw [rdropWhile_cons (.inr hrest), hparts] at hslash' ⊢
      exact ⟨['.'] :: next :: more, by simp, by simpa using hslash', rfl, rfl⟩
  | none =>
    rcases h with h | ⟨part, rest, rfl, hpart⟩
    · exact absurd h hsaying
    · rw [rdropWhile_cons (.inl hpart)] at hslash' ⊢
      exact ⟨_, by simp, hslash', rfl, splitWritten_cons hpart _⟩

theorem components_ofParts_rdropWhile (h : Follows lead parts)
    (hslash : ∀ part ∈ parts, '/' ∉ part) :
    (ofParts lead (parts.rdropWhile isBlank)).components =
      lead.components ++ (saying parts).map partComponent := by
  by_cases hsaying : saying parts = []
  · have hblank : parts.rdropWhile isBlank = [] := by
      rw [List.rdropWhile_eq_nil_iff, ← saying_eq_nil_iff, hsaying]
    rw [hblank, hsaying]
    cases lead <;> rfl
  · rw [components_eq, ← saying_split, split_ofParts_rdropWhile h hslash hsaying,
      saying_rdropWhile]

/-! ### Taking the upper part off -/

/-- Parts without blank ones at their ends. -/
def trim (parts : List (List Char)) : List (List Char) :=
  (parts.dropWhile isBlank).rdropWhile isBlank

theorem trim_append_of_blank (h : saying front = []) (tail : List (List Char)) :
    trim (front ++ tail) = trim tail := by
  rw [trim, List.dropWhile_append_of_pos (saying_eq_nil_iff.1 h), trim]

theorem mem_of_mem_trim {part : List Char} (h : part ∈ trim parts) : part ∈ parts :=
  (List.dropWhile_sublist _).subset ((List.rdropWhile_prefix _ _).subset h)

theorem components_ofParts_trim (h : ∀ part ∈ parts, '/' ∉ part) :
    (ofParts .none (trim parts)).components = (saying parts).map partComponent := by
  have hfollows : Follows .none (parts.dropWhile isBlank) := by
    cases hdrop : parts.dropWhile isBlank with
    | nil => exact .inl rfl
    | cons part rest =>
      have hhead := List.head?_dropWhile_not isBlank parts
      rw [hdrop] at hhead
      exact .inr ⟨part, rest, rfl, hhead⟩
  have hslash : ∀ part ∈ parts.dropWhile isBlank, '/' ∉ part := fun part hpart =>
    h part ((List.dropWhile_sublist _).subset hpart)
  rw [trim, components_ofParts_rdropWhile hfollows hslash, saying_dropWhile]
  rfl

theorem exists_of_stripParts? {names rest : List (List Char)}
    (hnames : ∀ name ∈ names, isBlank name = false) (h : stripParts? names parts = some rest) :
    ∃ front, parts = front ++ rest ∧ saying front = names := by
  induction names generalizing parts with
  | nil => exact ⟨[], by simpa [stripParts?] using h, rfl⟩
  | cons name names ih =>
    rw [stripParts?] at h
    cases hdrop : parts.dropWhile isBlank with
    | nil => simp [hdrop] at h
    | cons part left =>
      simp only [hdrop] at h
      split_ifs at h with hpart
      obtain ⟨front, rfl, hfront⟩ := ih (fun n hn => hnames n (List.mem_cons_of_mem _ hn)) h
      refine ⟨parts.takeWhile isBlank ++ name :: front, ?_, ?_⟩
      · rw [List.append_assoc, List.cons_append, ← hpart, ← hdrop,
          List.takeWhile_append_dropWhile]
      · rw [saying_append, saying_takeWhile, List.nil_append, ← hfront]
        simp [saying, hnames name List.mem_cons_self]

theorem stripParts?_append (front tail : List (List Char)) :
    ∃ blanks, saying blanks = [] ∧
      stripParts? (saying front) (front ++ tail) = some (blanks ++ tail) := by
  induction front with
  | nil => exact ⟨[], rfl, rfl⟩
  | cons part front ih =>
    obtain ⟨blanks, hblanks, hstrip⟩ := ih
    cases hpart : isBlank part with
    | false => exact ⟨blanks, hblanks, by simp [saying, stripParts?, hpart] at hstrip ⊢; exact hstrip⟩
    | true =>
      have hsaying : saying (part :: front) = saying front := by simp [saying, hpart]
      rw [hsaying]
      cases hnames : saying front with
      | nil =>
        refine ⟨part :: front, hsaying.trans hnames, rfl⟩
      | cons name names =>
        refine ⟨blanks, hblanks, ?_⟩
        rw [← hstrip, hnames]
        simp [stripParts?, hpart]

theorem stripBase?_empty (p : Path) :
    p.stripBase? ⟨""⟩ = some (ofParts p.split.1 (p.split.2.rdropWhile isBlank)) := rfl

/-- What is taken off may be written in any way that says the same. -/
theorem stripBase?_congr {base' : Path} (h : base.components = base'.components) (p : Path) :
    p.stripBase? base = p.stripBase? base' := by
  obtain ⟨hlead, hsaying⟩ := components_eq_iff.1 h
  rw [← saying_split, ← saying_split] at hsaying
  change (if base.split.1 = .none ∧ saying base.split.2 = [] then _
    else if p.split.1 = base.split.1 then (stripParts? (saying base.split.2) p.split.2).map _
    else none) = _
  rw [hlead, hsaying]
  rfl

theorem stripBase?_eq_some_iff (hbase : base ≠ ⟨""⟩) : p.stripBase? base = some r ↔
    ∃ front tail, p.split = (base.split.1, front ++ tail) ∧
      saying front = saying base.written ∧ r = ofParts .none (trim tail) := by
  have hnot : ¬(base.split.1 = .none ∧ saying base.split.2 = []) := fun h =>
    hbase (eq_empty_iff.2 (saying_split base ▸ h))
  have hunfold : p.stripBase? base = if p.split.1 = base.split.1 then
      (stripParts? (saying base.split.2) p.split.2).map fun rest => ofParts .none (trim rest)
    else none := if_neg hnot
  rw [hunfold, saying_split]
  constructor
  · intro h
    split_ifs at h with hlead
    obtain ⟨rest, hrest, rfl⟩ := Option.map_eq_some_iff.1 h
    obtain ⟨front, hparts, hfront⟩ :=
      exists_of_stripParts? (fun _ => isBlank_of_mem_saying) hrest
    exact ⟨front, rest, Prod.ext hlead hparts, hfront, rfl⟩
  · rintro ⟨front, tail, hsplit, hfront, rfl⟩
    obtain ⟨blanks, hblanks, hstrip⟩ := stripParts?_append front tail
    rw [hsplit, if_pos rfl, ← hfront, hstrip, Option.map_some, trim_append_of_blank hblanks]

/-- The upper part of a path comes off if its components are the first ones. -/
theorem stripBase?_isSome_iff :
    (p.stripBase? base).isSome ↔ base.components <+: p.components := by
  rw [components_prefix_iff]
  rcases eq_or_ne base ⟨""⟩ with rfl | hbase
  · simp [stripBase?_empty]
  · rw [Option.isSome_iff_exists, or_iff_right hbase]
    constructor
    · rintro ⟨r, hr⟩
      obtain ⟨front, tail, hsplit, hfront, -⟩ := (stripBase?_eq_some_iff hbase).1 hr
      refine ⟨by rw [hsplit], ?_⟩
      rw [← hfront, ← saying_split p, hsplit, saying_append]
      exact List.prefix_append _ _
    · rintro ⟨hlead, more, hmore⟩
      rw [← saying_split p] at hmore
      obtain ⟨front, tail, hparts, hfront, -⟩ := List.filter_eq_append_iff.1 hmore.symm
      exact ⟨_, (stripBase?_eq_some_iff hbase).2
        ⟨front, tail, Prod.ext hlead.symm hparts, hfront, rfl⟩⟩

/-- What is left says the other components. -/
theorem components_of_stripBase? (h : p.stripBase? base = some r) :
    p.components = base.components ++ r.components := by
  rcases eq_or_ne base ⟨""⟩ with rfl | hbase
  · obtain rfl := Option.some.inj ((stripBase?_empty p).symm.trans h)
    rw [components_ofParts_rdropWhile (follows_split p) fun _ => not_mem_of_mem_split,
      components_eq p, ← saying_split p]
    rfl
  · obtain ⟨front, tail, hsplit, hfront, rfl⟩ := (stripBase?_eq_some_iff hbase).1 h
    have htail : ∀ part ∈ tail, '/' ∉ part := fun part hpart => by
      refine not_mem_of_mem_split (p := p) ?_
      rw [hsplit]
      exact List.mem_append_right _ hpart
    rw [components_ofParts_trim htail, components_eq, components_eq, ← hfront, ← saying_split,
      hsplit]
    simp

/-! ### Paths below others -/

theorem join_of_isAbsolute (h : q.isAbsolute) : p.join q = q := if_pos h

theorem empty_join (q : Path) : (⟨""⟩ : Path).join q = q := by
  cases h : q.isAbsolute <;> simp [join, h]

/-- Whatever follows the first part, the start of a path is the same. -/
theorem splitWritten_append_fst (hfront : front ≠ []) {tail tail' : List (List Char)}
    (htail : tail ≠ []) (htail' : tail' ≠ []) :
    (splitWritten (front ++ tail)).1 = (splitWritten (front ++ tail')).1 := by
  obtain ⟨part, front, rfl⟩ := List.exists_cons_of_ne_nil hfront
  obtain ⟨a, as, htail⟩ : ∃ a as, front ++ tail = a :: as :=
    List.exists_cons_of_ne_nil (List.append_ne_nil_of_right_ne_nil front htail)
  obtain ⟨b, bs, htail'⟩ : ∃ b bs, front ++ tail' = b :: bs :=
    List.exists_cons_of_ne_nil (List.append_ne_nil_of_right_ne_nil front htail')
  rw [List.cons_append, List.cons_append, htail, htail']
  rcases blank_cases part with rfl | rfl | hpart
  · rfl
  · rfl
  · rw [splitWritten_cons hpart, splitWritten_cons hpart]

theorem splitWritten_append_fst_self (hfront : front ≠ []) (hne : front ≠ [[]])
    (htail : tail ≠ []) : (splitWritten (front ++ tail)).1 = (splitWritten front).1 := by
  obtain ⟨part, rest, rfl⟩ := List.exists_cons_of_ne_nil hfront
  cases rest with
  | nil =>
    obtain ⟨a, as, rfl⟩ := List.exists_cons_of_ne_nil htail
    rcases blank_cases part with rfl | rfl | hpart
    · exact absurd rfl hne
    · rfl
    · rw [List.singleton_append, splitWritten_cons hpart, splitWritten_cons hpart]
  | cons next rest =>
    have htail' : next :: rest ++ tail ≠ [] := by simp
    exact splitWritten_append_fst (List.cons_ne_nil part []) htail' (List.cons_ne_nil next rest)

/-- Below a path that is not empty, the parts of another one follow its own ones. -/
theorem exists_written_join (hp : p ≠ ⟨""⟩) : ∃ front, front ≠ [] ∧
    saying front = saying p.written ∧ ∀ q, q.isAbsolute = false →
      (p.join q).written = front ++ q.written ∧ (p.join q).split.1 = p.split.1 := by
  have hfields : ∀ cs cs', Text.fields '/' (cs ++ '/' :: cs') =
      Text.fields '/' cs ++ Text.fields '/' cs' := fun cs cs' => by
    simp only [Text.fields_eq_splitOn, List.splitOn_append_cons_self]
  obtain ⟨cs, c, hcs⟩ : ∃ cs c, p.text.toList = cs ++ [c] := by
    rcases List.eq_nil_or_concat' p.text.toList with hnil | h
    · refine absurd ?_ hp
      cases p
      rw [Path.mk.injEq]
      simpa using hnil
    · exact h
  by_cases hc : c = '/'
  · -- A separator at the end is the one between the two paths.
    have hwritten : p.written = Text.fields '/' cs ++ [[]] := by
      rw [written, hcs, hc, hfields]
      rfl
    refine ⟨Text.fields '/' cs, fields_ne_nil cs, by simp [hwritten, saying, isBlank],
      fun q hq => ?_⟩
    have hjoin : (p.join q).written = Text.fields '/' cs ++ q.written := by
      simp [join, hq, hcs, hc, written, hfields]
    refine ⟨hjoin, ?_⟩
    rw [split_eq, split_eq, hjoin, hwritten]
    exact splitWritten_append_fst (fields_ne_nil cs) q.written_ne_nil (by simp)
  · refine ⟨p.written, p.written_ne_nil, rfl, fun q hq => ?_⟩
    have hjoin : (p.join q).written = p.written ++ q.written := by
      simp [join, hq, hcs, hc, written, ← hfields]
    refine ⟨hjoin, ?_⟩
    rw [split_eq, split_eq, hjoin]
    exact splitWritten_append_fst_self p.written_ne_nil (fun h => hp (written_injective h))
      q.written_ne_nil

/-- Below paths that say the same, a path says the same. -/
theorem components_join_congr (h : p.components = q.components) (r : Path) :
    (p.join r).components = (q.join r).components := by
  cases hr : r.isAbsolute with
  | true => rw [join_of_isAbsolute hr, join_of_isAbsolute hr]
  | false =>
    obtain ⟨hlead, hsaying⟩ := components_eq_iff.1 h
    by_cases hp : p = ⟨""⟩
    · have hq : q = ⟨""⟩ := eq_empty_iff.2 (hlead ▸ hsaying ▸ eq_empty_iff.1 hp)
      rw [hp, hq]
    · have hq : q ≠ ⟨""⟩ := fun hq => hp (eq_empty_iff.2 (hlead ▸ hsaying ▸ eq_empty_iff.1 hq))
      obtain ⟨front, -, hfront, hjoin⟩ := exists_written_join hp
      obtain ⟨front', -, hfront', hjoin'⟩ := exists_written_join hq
      rw [components_eq_iff, (hjoin r hr).1, (hjoin r hr).2, (hjoin' r hr).1, (hjoin' r hr).2,
        saying_append, saying_append, hfront, hfront', hsaying]
      exact ⟨hlead, rfl⟩

/-- A name below a path comes after its components. -/
theorem components_join_name {name : List Char} (hslash : '/' ∉ name)
    (hname : isBlank name = false) (p : Path) :
    (p.join ⟨String.ofList name⟩).components = p.components ++ [partComponent name] := by
  rw [← String.toList_ofList (l := name)] at hslash
  have hq := written_name hslash
  have habsolute := isAbsolute_name hslash
  rw [String.toList_ofList] at hq
  have hsaying : saying [name] = [name] := by simp [saying, hname]
  rcases eq_or_ne p ⟨""⟩ with rfl | hp
  · rw [empty_join, components_eq, hq, split_eq, hq, splitWritten_cons hname, hsaying]
    rfl
  · obtain ⟨front, -, hfront, hjoin⟩ := exists_written_join hp
    rw [components_eq, (hjoin _ habsolute).1, (hjoin _ habsolute).2, saying_append, hfront, hq,
      hsaying, components_eq]
    simp

end Path

end Autofix
