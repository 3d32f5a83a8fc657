import Autofix.Proofs.Path.Parts

/-!
# Paths seen from a folder

A path is seen from a folder without the folder, if it starts with it, and as it is otherwise
(`Path.seenFrom`).

* `stripBase?_eq_ofNames_iff`: what is left of a path are given names exactly if the path is the
  folder, in some spelling, with the names behind it (`Path.WrittenBelow`);
* `exists_seenFrom_ne`: from folders that do not say the same, some path is seen differently.
-/

namespace Autofix.Path

variable {p q base base' : Path} {parts front tail rest : List (List Char)} {part : List Char}

/-! ### Parts behind others -/

/-- Blank parts at the end are dropped with those before them. -/
theorem rdropWhile_append_of_blank (front : List (List Char)) (h : saying tail = []) :
    (front ++ tail).rdropWhile isBlank = front.rdropWhile isBlank := by
  rw [List.rdropWhile, List.reverse_append, List.dropWhile_append_of_pos, List.rdropWhile]
  intro part hpart
  exact saying_eq_nil_iff.1 h part (List.mem_reverse.1 hpart)

theorem rdropWhile_of_saying (h : saying parts = parts) : parts.rdropWhile isBlank = parts := by
  rw [List.rdropWhile_eq_self_iff]
  intro hne
  have hlast : parts.getLast hne ∈ saying parts := h.symm ▸ List.getLast_mem hne
  simp [isBlank_of_mem_saying hlast]

theorem trim_append_of_saying (h : saying parts = parts) (htail : saying tail = []) :
    trim (parts ++ tail) = parts := by
  rw [trim]
  rcases parts with _ | ⟨part, rest⟩
  · rw [List.nil_append, List.dropWhile_eq_nil_iff.2 (saying_eq_nil_iff.1 htail)]
    rfl
  · have hpart : isBlank part = false := isBlank_of_mem_saying (h.symm ▸ List.mem_cons_self)
    rw [List.cons_append, List.dropWhile_cons_of_neg (by simp [hpart]), ← List.cons_append,
      rdropWhile_append_of_blank _ htail, rdropWhile_of_saying h]

/-- Trimming takes blank parts off. -/
theorem exists_eq_append_trim (parts : List (List Char)) : ∃ before after, saying before = [] ∧
    saying after = [] ∧ parts = before ++ (trim parts ++ after) := by
  refine ⟨parts.takeWhile isBlank, (parts.dropWhile isBlank).rtakeWhile isBlank,
    saying_takeWhile parts, ?_, ?_⟩
  · rw [saying_eq_nil_iff]
    exact fun part hpart => List.mem_rtakeWhile_imp hpart
  · rw [trim, List.rdropWhile_append_rtakeWhile, List.takeWhile_append_dropWhile]

/-- Parts from one on that says something follow the start of a path in the same way. -/
theorem exists_splitWritten_eq_append (hpart : isBlank part = false) (front : List (List Char)) :
    ∃ front', (splitWritten (front ++ part :: rest)).2 = front' ++ part :: rest ∧
      saying front' = saying front := by
  rcases front with _ | ⟨first, front⟩
  · exact ⟨[], by simp [splitWritten_cons hpart], rfl⟩
  · obtain ⟨next, more, hmore⟩ : ∃ next more, front ++ part :: rest = next :: more :=
      List.exists_cons_of_ne_nil (by simp)
    rw [List.cons_append, hmore]
    rcases blank_cases first with rfl | rfl | hfirst
    · exact ⟨front, hmore.symm, by simp [saying, isBlank]⟩
    · exact ⟨[] :: front, by simp [splitWritten, hmore], by simp [saying, isBlank]⟩
    · exact ⟨first :: front, by simp [splitWritten_cons hfirst, hmore], rfl⟩

theorem exists_eq_append_of_splitWritten (hpart : isBlank part = false)
    (h : (splitWritten parts).2 = front ++ part :: rest) :
    ∃ front', parts = front' ++ part :: rest ∧ saying front' = saying front := by
  unfold splitWritten at h
  split at h
  · exact ⟨[] :: front, congrArg ([] :: ·) h, by simp [saying, isBlank]⟩
  · simp at h
  · rcases front with _ | ⟨first, front⟩
    · obtain ⟨rfl, -⟩ := List.cons.inj h
      simp [isBlank] at hpart
    · obtain ⟨rfl, hrest⟩ := List.cons.inj h
      exact ⟨['.'] :: front, by rw [hrest]; rfl, by simp [saying, isBlank]⟩
  · exact ⟨front, h, rfl⟩

/-! ### Names below a folder -/

/-- Names one below the other. -/
def ofNames (names : List (List Char)) : Path := ofParts .none names

/-- Names as they stand in paths. -/
def AreNames (names : List (List Char)) : Prop :=
  ∀ name ∈ names, '/' ∉ name ∧ isBlank name = false

/-- A path is the folder in some spelling, with the names behind it. -/
def WrittenBelow (base p : Path) (names : List (List Char)) : Prop :=
  ∃ dir tail, same dir base ∧ saying tail = [] ∧ p = dir.join (ofNames (names ++ tail))

variable {names : List (List Char)}

theorem AreNames.saying_eq (h : AreNames names) : saying names = names :=
  List.filter_eq_self.2 fun name hname => by simp [(h name hname).2]

theorem written_ofNames (hnames : AreNames names) (hne : names ≠ []) (htail : saying tail = []) :
    (ofNames (names ++ tail)).written = names ++ tail := by
  refine written_joinParts (List.append_ne_nil_of_left_ne_nil hne tail) fun part hpart => ?_
  rcases List.mem_append.1 hpart with hpart | hpart
  · exact (hnames part hpart).1
  · rcases isBlank_iff.1 (saying_eq_nil_iff.1 htail part hpart) with rfl | rfl <;> decide

theorem split_ofNames (hnames : AreNames names) (hne : names ≠ []) (htail : saying tail = []) :
    (ofNames (names ++ tail)).split = (.none, names ++ tail) := by
  obtain ⟨name, rest, rfl⟩ := List.exists_cons_of_ne_nil hne
  rw [split_eq, written_ofNames hnames hne htail, List.cons_append,
    splitWritten_cons (hnames name List.mem_cons_self).2]

theorem written_ofNames_self (hnames : AreNames names) (hne : names ≠ []) :
    (ofNames names).written = names := by
  simpa using written_ofNames hnames hne saying_nil

theorem split_ofNames_self (hnames : AreNames names) (hne : names ≠ []) :
    (ofNames names).split = (.none, names) := by
  simpa using split_ofNames hnames hne saying_nil

theorem isAbsolute_ofNames (hnames : AreNames names) (hne : names ≠ []) (htail : saying tail = []) :
    (ofNames (names ++ tail)).isAbsolute = false := by
  rw [Bool.eq_false_iff, ne_eq, isAbsolute_iff, split_ofNames hnames hne htail]
  intro hlead
  cases hlead

/-- Parts with a separator behind the last one. -/
def asFolder (parts : List (List Char)) : Path := ⟨String.ofList (joinParts (parts ++ [[]]))⟩

theorem written_asFolder (h : ∀ part ∈ parts, '/' ∉ part) :
    (asFolder parts).written = parts ++ [[]] := by
  refine written_joinParts (by simp) fun part hpart => ?_
  rcases List.mem_append.1 hpart with hpart | hpart
  · exact h part hpart
  · exact List.mem_singleton.1 hpart ▸ List.not_mem_nil

theorem asFolder_join (parts : List (List Char)) (h : q.isAbsolute = false) :
    (asFolder parts).join q = ⟨String.ofList (joinParts (parts ++ q.written))⟩ := by
  rw [asFolder]
  rcases List.eq_nil_or_concat' parts with rfl | ⟨init, last, rfl⟩
  · rw [List.nil_append, List.nil_append, mk_joinParts_written]
    exact empty_join q
  · have hq : joinParts q.written = q.text.toList := joinParts_fields _
    rw [joinParts_append _ (List.cons_ne_nil [] []), joinParts_append _ q.written_ne_nil, hq]
    simp [join, h, joinParts, String.append_assoc]

/-- Names are read off the path that they make. -/
theorem eq_of_ofParts_eq_ofNames (hnames : AreNames names) (hne : names ≠ [])
    (hslash : ∀ part ∈ parts, '/' ∉ part) (h : ofParts .none parts = ofNames names) :
    parts = names := by
  have hwritten := congrArg written h
  rw [written_ofNames_self hnames hne] at hwritten
  rcases eq_or_ne parts [] with rfl | hparts
  · have hmem : [] ∈ names := hwritten ▸ List.mem_cons_self
    exact absurd (hnames [] hmem).2 (by decide)
  · exact (written_joinParts hparts hslash).symm.trans hwritten

theorem writtenBelow_of_stripBase?_empty (hnames : AreNames names) (hne : names ≠ [])
    (h : p.stripBase? ⟨""⟩ = some (ofNames names)) : WrittenBelow ⟨""⟩ p names := by
  -- Without a folder, only blank parts at the end are taken off.
  have hpath := Option.some.inj ((stripBase?_empty p).symm.trans h)
  have hsaid : saying p.split.2 ≠ [] := fun hnil => by
    have hempty : p.split.2.rdropWhile isBlank = [] := by
      rw [List.rdropWhile_eq_nil_iff, ← saying_eq_nil_iff, hnil]
    have hstart : ∀ lead, ∃ part ∈ (ofParts lead []).written, isBlank part := by
      rintro (_ | _ | _) <;> exact ⟨_, List.mem_cons_self, rfl⟩
    obtain ⟨part, hpart, hblank⟩ := hstart p.split.1
    rw [hempty] at hpath
    rw [hpath, written_ofNames_self hnames hne] at hpart
    simp [(hnames part hpart).2] at hblank
  have hsplit := split_ofParts_rdropWhile (follows_split p) (fun _ => not_mem_of_mem_split) hsaid
  rw [hpath, split_ofNames_self hnames hne] at hsplit
  obtain ⟨hlead, hkept⟩ := Prod.mk.inj hsplit
  refine ⟨⟨""⟩, p.split.2.rtakeWhile isBlank, by decide, ?_, ?_⟩
  · exact saying_eq_nil_iff.2 fun part hpart => List.mem_rtakeWhile_imp hpart
  · rw [empty_join, hkept, List.rdropWhile_append_rtakeWhile, ofNames, hlead, ofParts_split]

theorem writtenBelow_of_stripBase? (hnames : AreNames names) (hne : names ≠ [])
    (hbase : base ≠ ⟨""⟩) (h : p.stripBase? base = some (ofNames names)) :
    WrittenBelow base p names := by
  obtain ⟨front, rest, hsplit, hfront, hrest⟩ := (stripBase?_eq_some_iff hbase).1 h
  obtain ⟨before, after, hbefore, hafter, happend⟩ := exists_eq_append_trim rest
  have htrim : trim rest = names := by
    refine eq_of_ofParts_eq_ofNames hnames hne (fun part hpart => ?_) hrest.symm
    refine not_mem_of_mem_split (p := p) ?_
    rw [hsplit]
    exact List.mem_append_right _ (mem_of_mem_trim hpart)
  obtain ⟨name, more, rfl⟩ := List.exists_cons_of_ne_nil hne
  have hname : isBlank name = false := (hnames name List.mem_cons_self).2
  have hparts : (splitWritten p.written).2 = (front ++ before) ++ name :: (more ++ after) := by
    rw [← split_eq, hsplit, happend, htrim]
    simp
  -- The parts in front of the names, as they are written, are the folder in another spelling.
  obtain ⟨front', hp, hfront'⟩ := exists_eq_append_of_splitWritten hname hparts
  have hdir := written_asFolder fun part hpart =>
    not_mem_of_mem_written (hp ▸ List.mem_append_left (name :: (more ++ after)) hpart)
  have hsaid : saying front' = saying base.written := by
    rw [hfront', saying_append, hbefore, List.append_nil, hfront]
  have hlead : base.split.1 = (splitWritten (front' ++ name :: (more ++ after))).1 := by
    rw [← hp, ← split_eq, hsplit]
  have hstart : front' ≠ [] := by
    rintro rfl
    rw [List.nil_append, splitWritten_cons hname] at hlead
    exact hbase (eq_empty_iff.2 ⟨hlead, hsaid.symm⟩)
  refine ⟨asFolder front', after, ?_, hafter, ?_⟩
  · rw [same_iff, components_eq_iff, split_eq, hdir, hlead, saying_append, hsaid]
    exact ⟨splitWritten_append_fst hstart (by simp) (by simp), List.append_nil _⟩
  · rw [asFolder_join _ (isAbsolute_ofNames hnames hne hafter),
      written_ofNames hnames hne hafter, List.cons_append, ← hp, mk_joinParts_written]

theorem WrittenBelow.stripBase?_eq (h : WrittenBelow base p names) (hnames : AreNames names)
    (hne : names ≠ []) : p.stripBase? base = some (ofNames names) := by
  obtain ⟨dir, tail, hdir, htail, rfl⟩ := h
  have habsolute := isAbsolute_ofNames hnames hne htail
  have hdir : dir.components = base.components := same_iff.1 hdir
  rcases eq_or_ne base ⟨""⟩ with rfl | hbase
  · rw [components_eq_nil_iff.1 (hdir.trans rfl), empty_join, stripBase?_empty,
      split_ofNames hnames hne htail, rdropWhile_append_of_blank _ htail,
      rdropWhile_of_saying hnames.saying_eq, ofNames]
  · have hdir' : dir ≠ ⟨""⟩ := fun heq =>
      hbase (components_eq_nil_iff.1 (hdir ▸ components_eq_nil_iff.2 heq))
    obtain ⟨hlead, hsame⟩ := components_eq_iff.1 hdir
    obtain ⟨front, -, hfront, hjoin⟩ := exists_written_join hdir'
    obtain ⟨hjoined, hstart⟩ := hjoin _ habsolute
    obtain ⟨name, more, rfl⟩ := List.exists_cons_of_ne_nil hne
    -- The path is split behind its start, which lies in the folder and not in the names.
    obtain ⟨front', hsplit, hfront'⟩ :=
      exists_splitWritten_eq_append (hnames name List.mem_cons_self).2 front
    rw [stripBase?_eq_some_iff hbase]
    refine ⟨front', (name :: more) ++ tail, Prod.ext (hstart.trans hlead) ?_, ?_, ?_⟩
    · rw [split_eq, hjoined, written_ofNames hnames hne htail]
      exact hsplit
    · rw [hfront', hfront, hsame]
    · rw [trim_append_of_saying hnames.saying_eq htail]
      rfl

/-- What is left of a path without the folder are given names exactly if it is written as the folder
    with the names behind it. -/
theorem stripBase?_eq_ofNames_iff (hnames : AreNames names) (hne : names ≠ []) :
    p.stripBase? base = some (ofNames names) ↔ WrittenBelow base p names := by
  refine ⟨fun h => ?_, fun h => h.stripBase?_eq hnames hne⟩
  rcases eq_or_ne base ⟨""⟩ with rfl | hbase
  · exact writtenBelow_of_stripBase?_empty hnames hne h
  · exact writtenBelow_of_stripBase? hnames hne hbase h

/-- The names that a path says stand as names in paths. -/
theorem areNames_of_forall (h : ∀ name ∈ names, .name (String.ofList name) ∈ p.components) :
    AreNames names := by
  intro name hname
  have hmem := h name hname
  rw [components_eq, List.mem_append] at hmem
  rcases hmem with hlead | hparts
  · cases hstart : p.split.1 <;> simp [hstart, Lead.components] at hlead
  · obtain ⟨part, hpart, heq⟩ := List.mem_map.1 hparts
    unfold partComponent at heq
    split_ifs at heq
    obtain rfl := String.ofList_injective (Component.name.inj heq)
    exact ⟨not_mem_of_mem_written (List.mem_of_mem_filter hpart), isBlank_of_mem_saying hpart⟩

/-! ### What is seen -/

/-- A path as it is seen from a folder, if it starts with it. -/
def seenFrom (p base : Path) : Path := (p.stripBase? base).getD p

/-- What is seen of a path are given names exactly if it is written as the folder with the names
    behind it, or if it is nothing but the names and does not start with the folder. -/
theorem seenFrom_eq_ofNames_iff (hnames : AreNames names) (hne : names ≠ []) :
    p.seenFrom base = ofNames names ↔
      WrittenBelow base p names ∨ p = ofNames names ∧ ¬base.components <+: p.components := by
  rw [← stripBase?_eq_ofNames_iff hnames hne, ← stripBase?_isSome_iff, seenFrom]
  cases p.stripBase? base <;> simp

theorem seenFrom_congr (h : base.same base') (p : Path) : p.seenFrom base = p.seenFrom base' := by
  rw [seenFrom, seenFrom, stripBase?_congr (same_iff.1 h)]

/-- A name in a folder is seen under another path from any folder that does not say the same. -/
theorem seenFrom_join_ne (hbase : base ≠ ⟨""⟩) (h : ¬base.same base') :
    (base.join ⟨"x"⟩).seenFrom base ≠ (base.join ⟨"x"⟩).seenFrom base' := by
  have hjoin : (base.join ⟨"x"⟩).components = base.components ++ [.name "x"] :=
    components_join_name (by decide : '/' ∉ ['x']) (by decide) base
  obtain ⟨r, hr⟩ : ∃ r, (base.join ⟨"x"⟩).stripBase? base = some r := by
    rw [← Option.isSome_iff_exists, stripBase?_isSome_iff, hjoin]
    exact List.prefix_append _ _
  have hseen : ((base.join ⟨"x"⟩).seenFrom base).components = [.name "x"] := by
    have hcomponents := components_of_stripBase? hr
    rw [hjoin, List.append_cancel_left_eq] at hcomponents
    rw [seenFrom, hr, Option.getD_some, hcomponents]
  intro heq
  -- Seen in the same way from `base'`, the path starts with `base'` or is the name alone.
  rw [heq, seenFrom] at hseen
  cases hr' : (base.join ⟨"x"⟩).stripBase? base' with
  | none =>
    rw [hr', Option.getD_none, hjoin] at hseen
    have hnil : base.components = [] := List.append_left_eq_self.1 hseen
    exact hbase (components_eq_nil_iff.1 hnil)
  | some r' =>
    rw [hr', Option.getD_some] at hseen
    have hcomponents := components_of_stripBase? hr'
    rw [hjoin, hseen, List.append_cancel_right_eq] at hcomponents
    exact h (same_iff.2 hcomponents)

/-- From folders that do not say the same, some path is seen differently. -/
theorem exists_seenFrom_ne (h : ¬base.same base') :
    ∃ p : Path, p.seenFrom base ≠ p.seenFrom base' := by
  rcases eq_or_ne base ⟨""⟩ with hbase | hbase
  · have hbase' : base' ≠ ⟨""⟩ := by
      rintro rfl
      exact h (by rw [hbase]; decide)
    have hsymm : ¬base'.same base := fun hsame =>
      h (same_iff.2 (same_iff.1 hsame).symm)
    exact ⟨_, (seenFrom_join_ne hbase' hsymm).symm⟩
  · exact ⟨_, seenFrom_join_ne hbase h⟩

end Autofix.Path
