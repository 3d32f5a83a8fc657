import Autofix.Config
import Autofix.Proofs.Disk.Unlinked
import Mathlib.Data.List.Find

/-!
# Which folders are searched for a configuration

The configuration of a linted file is looked for in the places that the folders in front of the file
tell by their texts (`LintConfig.findNearest_isFirst`). These are the folders that the file is in, up
to where its path starts, unless the path goes up somewhere. A path that goes up may be given the
configuration of a folder that it is not in (`LintConfig.findNearest_beside`).
-/

namespace Autofix.LintConfig

open Disk (Place Tree)
open Autofix.Path (Component)

variable {d : Disk} {start dir : Path} {place folder : Place} {t : Tree} {name : String}
  {content : Disk.Content}

/-! ### Folders and their configuration files -/

/-- The paths of the folders that are searched, the nearest one first. -/
def searched (d : Disk) (start : Path) : List Path :=
  (if d.isFile start then start.parent? else some start).elim [] Path.ancestors

/-- The place of the folder that a path leads to. The empty path stands for the folder that relative
    paths start from. -/
def folderAt? (d : Disk) (dir : Path) : Option Place :=
  match d.stat (if dir = ⟨""⟩ then ⟨"."⟩ else dir) with
  | .ok (place, .folder _) => some place
  | _ => none

/-- The place of the configuration file in a folder. -/
def configAt? (d : Disk) (folder : Place) : Option Place :=
  (fileNames.find? fun name => (d.root.get? (folder ++ [name])).any Tree.isFile).map fun name =>
    folder ++ [name]

/-- What has been found is the configuration file of the first folder that has one, or else the one
    in the home directory. -/
def IsFirst (d : Disk) (folders : List Place) (found : Option Path) : Prop :=
  match folders.findSome? (configAt? d) with
  | some place => ∃ p t, found = some p ∧ d.stat p = .ok (place, t)
  | none => found = d.home.bind (findIn d)

/-- A folder and the ones above it, up to a base. -/
def foldersUpTo (base folder : Place) : List Place :=
  folder.inits.reverse.filter base.isPrefixOf

/-! ### Looking into folders -/

theorem folderAt?_eq_some_iff (hlinks : d.root.LinkFree) : folderAt? d dir = some folder ↔
    ('\x00' ∉ dir.text.toList ∧ dir.isShort) ∧ ∃ entries,
      d.root.LeadsTo (if dir.isAbsolute then [] else d.current) (Disk.saying (Disk.parts dir.text))
        folder (.folder entries) := by
  have hstat : folderAt? d dir = some folder ↔ ∃ entries,
      d.stat (if dir = ⟨""⟩ then ⟨"."⟩ else dir) = .ok (folder, .folder entries) := by
    rw [folderAt?]
    split
    · rename_i place entries heq
      simp [heq]
    · rename_i hnot
      simp only [reduceCtorEq, false_iff, not_exists]
      exact fun entries heq => hnot folder entries heq
  rw [hstat]
  by_cases hempty : dir = ⟨""⟩
  · -- Neither the empty path nor `.` says anything on the way from the current folder.
    subst hempty
    have hlook : Disk.CanLookUp ⟨"."⟩ := ⟨by decide, by decide, by decide⟩
    have hwhole : '\x00' ∉ (⟨""⟩ : Path).text.toList ∧ (⟨""⟩ : Path).isShort := by decide
    rw [if_pos rfl, and_iff_right hwhole]
    refine exists_congr fun entries => ?_
    rw [Disk.stat_eq_ok_iff_leadsTo hlinks, and_iff_right hlook, ← Tree.LeadsTo.saying_iff rfl]
    rfl
  · rw [if_neg hempty]
    simp only [Disk.stat_eq_ok_iff_leadsTo hlinks, Disk.CanLookUp, ne_eq, hempty, not_false_eq_true,
      true_and, exists_and_left, Tree.LeadsTo.saying_iff (t := .folder _) rfl]

/-- A folder that is found lies where its path says. -/
theorem place_eq_of_folderAt? (hlinks : d.root.LinkFree) (h : folderAt? d dir = some folder) :
    folder = d.placeOf dir := by
  obtain ⟨-, entries, hleads⟩ := (folderAt?_eq_some_iff hlinks).1 h
  have hplace := ((Tree.LeadsTo.saying_iff rfl).1 hleads).place_eq
  rw [hplace, Disk.placeOf, Disk.components_eq_componentOf, Disk.placeFrom_append,
    Disk.placeFrom_start]

/-- How a name below a folder is written. -/
theorem written_join_name (hslash : '/' ∉ name.toList) (dir : Path) : ∃ front, Path.saying front = Path.saying dir.written ∧
      (dir.join ⟨name⟩).written = front ++ [name.toList] ∧
      (dir.join ⟨name⟩).isAbsolute = dir.isAbsolute := by
  have hname := Path.written_name hslash
  have habsolute := Path.isAbsolute_name hslash
  by_cases hempty : dir = ⟨""⟩
  · subst hempty
    rw [Path.empty_join]
    exact ⟨[], rfl, hname, habsolute⟩
  · obtain ⟨front, -, hfront, hjoin⟩ := Path.exists_written_join hempty
    obtain ⟨hwritten, hlead⟩ := hjoin _ habsolute
    refine ⟨front, hfront, hname ▸ hwritten, ?_⟩
    rw [Bool.eq_iff_iff, Path.isAbsolute_iff, Path.isAbsolute_iff, hlead]

theorem isShort_of_join (hrelative : (⟨name⟩ : Path).isAbsolute = false)
    (h : (dir.join ⟨name⟩).isShort) : dir.isShort := by
  have hsize : dir.text.utf8ByteSize ≤ (dir.join ⟨name⟩).text.utf8ByteSize := by
    rw [Path.join, hrelative, if_neg Bool.false_ne_true]
    split
    · rename_i hnone
      have hempty : dir.text = "" := by
        rwa [List.getLast?_eq_none_iff, String.toList_eq_nil_iff] at hnone
      simp [hempty]
    · split_ifs
      · simp [String.utf8ByteSize_append]
      · simp [String.utf8ByteSize_append, Nat.add_assoc]
  rw [Path.isShort, decide_eq_true_eq] at h ⊢
  exact Nat.lt_of_le_of_lt hsize h

theorem forall_fileNames : ∀ name ∈ fileNames, '/' ∉ name.toList ∧
    Path.isBlank name.toList = false ∧ name ≠ ".." ∧ name.utf8ByteSize ≤ 255 ∧
    '\x00' ∉ name.toList ∧ (⟨name⟩ : Path).isAbsolute = false := by
  decide

/-- There is a configuration file below a path if it is in the folder that the path leads to. -/
theorem stat_join_eq_ok_iff (hlinks : d.root.LinkFree) (hname : name ∈ fileNames)
    (hshort : (dir.join ⟨name⟩).isShort) : d.stat (dir.join ⟨name⟩) = .ok (place, .file content) ↔
      ∃ folder, folderAt? d dir = some folder ∧ place = folder ++ [name] ∧
        d.root.get? place = some (.file content) := by
  obtain ⟨hslash, hblank, hup, hsize, hnul, hrelative⟩ := forall_fileNames name hname
  obtain ⟨front, hfront, hwritten, habsolute⟩ := written_join_name hslash dir
  have hdir : dir.isShort := isShort_of_join hrelative hshort
  -- The name of the file adds to the folder no reason not to look the path up.
  have hzero : '\x00' ∈ (dir.join ⟨name⟩).text.toList ↔ '\x00' ∈ dir.text.toList := by
    rw [Disk.mem_text_iff (by decide) (by decide), Disk.mem_text_iff (by decide) (by decide),
      hwritten, Path.saying_append, hfront, Path.saying_cons hblank]
    simp [hnul]
  have hne : dir.join ⟨name⟩ ≠ ⟨""⟩ := fun heq => by
    rw [heq] at hwritten
    have hlast := congrArg List.getLast? hwritten
    rw [List.getLast?_concat] at hlast
    rw [← Option.some.inj hlast] at hblank
    cases hblank
  -- In parts, the path is the folder but for blank ones, and then the name.
  have hparts : Disk.parts (dir.join ⟨name⟩).text = front.map String.ofList ++ [name] := by
    rw [Disk.parts_text, hwritten, List.map_append, List.map_singleton, String.ofList_toList]
  have hsaying : Disk.saying (front.map String.ofList) = Disk.saying (Disk.parts dir.text) := by
    rw [Disk.parts_text, Disk.saying_map_ofList, Disk.saying_map_ofList, hfront]
  rw [Disk.isBlank_toList] at hblank
  simp only [Disk.stat_eq_ok_iff_leadsTo hlinks, folderAt?_eq_some_iff hlinks, Disk.CanLookUp, hzero,
    hshort, hdir, habsolute, hparts, Tree.LeadsTo.concat_iff hblank hup hsize, ← hsaying,
    Tree.LeadsTo.saying_iff (t := .folder _) rfl]
  constructor
  · rintro ⟨⟨hnul, -⟩, folder, entries, hleads, rfl, hget⟩
    exact ⟨folder, ⟨⟨hnul, trivial⟩, entries, hleads⟩, rfl, hget⟩
  · rintro ⟨folder, ⟨⟨hnul, -⟩, entries, hleads⟩, rfl, hget⟩
    exact ⟨⟨hnul, hne, trivial⟩, folder, entries, hleads, rfl, hget⟩

theorem any_isFile_iff : (d.root.get? place).any Tree.isFile ↔
    ∃ content, d.root.get? place = some (.file content) := by
  rcases d.root.get? place with _ | (_ | _ | _) <;> simp [Tree.isFile]

theorem isFile_join (hlinks : d.root.LinkFree) (hname : name ∈ fileNames)
    (hshort : (dir.join ⟨name⟩).isShort) : d.isFile (dir.join ⟨name⟩) =
      (folderAt? d dir).any fun folder => (d.root.get? (folder ++ [name])).any Tree.isFile := by
  rw [Bool.eq_iff_iff, Disk.isFile_iff, Option.any_eq_true_iff_get]
  simp only [stat_join_eq_ok_iff hlinks hname hshort, any_isFile_iff]
  constructor
  · rintro ⟨place, content, folder, hfolder, rfl, hget⟩
    exact ⟨by simp [hfolder], content, by simpa [hfolder] using hget⟩
  · rintro ⟨hsome, content, hget⟩
    exact ⟨_, content, _, (Option.some_get hsome).symm, rfl, hget⟩

/-- A path leads to a node at a place. -/
def Leads (d : Disk) (p : Path) (place : Place) : Prop := ∃ t, d.stat p = .ok (place, t)

/-- The configuration file that is found below a path is the one in the folder that the path leads
    to. -/
theorem findIn_rel (hlinks : d.root.LinkFree)
    (hshort : ∀ name ∈ fileNames, (dir.join ⟨name⟩).isShort) :
    Option.Rel (Leads d) (findIn d dir) ((folderAt? d dir).bind (configAt? d)) := by
  have hsame : findIn d dir = (fileNames.find? fun name => (folderAt? d dir).any fun folder =>
      (d.root.get? (folder ++ [name])).any Tree.isFile).map fun name => dir.join ⟨name⟩ := by
    rw [findIn, List.find?_map]
    exact congrArg _ (List.find?_congr fun name hname =>
      isFile_join hlinks hname (hshort name hname))
  rw [hsame]
  cases hfolder : folderAt? d dir with
  | none => exact .none
  | some folder =>
    rw [Option.bind_some, configAt?]
    simp only [Option.any_some]
    cases hfind : fileNames.find? fun name => (d.root.get? (folder ++ [name])).any Tree.isFile with
    | none => exact .none
    | some name =>
      have hname := List.mem_of_find?_eq_some hfind
      have hfile := List.find?_some (p := fun name => (d.root.get? (folder ++ [name])).any _) hfind
      obtain ⟨content, hget⟩ := any_isFile_iff.1 hfile
      exact .some ⟨_, (stat_join_eq_ok_iff hlinks hname (hshort name hname)).2
        ⟨folder, hfolder, rfl, hget⟩⟩

theorem findSome?_filterMap {α β γ : Type} (f : α → Option β) (g : β → Option γ) (as : List α) :
    (as.filterMap f).findSome? g = as.findSome? fun a => (f a).bind g := by
  induction as with
  | nil => rfl
  | cons a as ih => cases hf : f a <;> simp [hf, ih, List.findSome?_cons]

/-- Lists are searched alike if their elements give what is related. -/
theorem findSome?_rel {α β γ : Type} {r : β → γ → Prop} {f : α → Option β} {g : α → Option γ}
    {as : List α} (h : ∀ a ∈ as, Option.Rel r (f a) (g a)) :
    Option.Rel r (as.findSome? f) (as.findSome? g) := by
  induction as with
  | nil => exact .none
  | cons a as ih =>
    obtain ⟨ha, has⟩ := List.forall_mem_cons.1 h
    rw [List.findSome?_cons, List.findSome?_cons]
    generalize f a = b, g a = c at ha
    cases ha with
    | none => exact ih has
    | some hr => exact .some hr

/-- What is found is the configuration of the first one of the folders that the searched paths lead
    to. -/
theorem isFirst_filterMap (hlinks : d.root.LinkFree)
    (hshort : ∀ dir ∈ searched d start, ∀ name ∈ fileNames, (dir.join ⟨name⟩).isShort) :
    IsFirst d ((searched d start).filterMap (folderAt? d)) (findNearest d start) := by
  have hrel := findSome?_rel (f := findIn d) fun dir hdir => findIn_rel hlinks (hshort dir hdir)
  have hnearest : findNearest d start =
      ((searched d start).findSome? (findIn d)).or (d.home.bind (findIn d)) := rfl
  rw [IsFirst, findSome?_filterMap, hnearest]
  generalize (searched d start).findSome? (findIn d) = found,
    ((searched d start).findSome? fun dir => (folderAt? d dir).bind (configAt? d)) = place at hrel
  cases hrel with
  | none => rfl
  | some hleads => exact ⟨_, hleads.choose, rfl, hleads.choose_spec⟩

/-! ### Folders on the way to a file -/

theorem exists_folder_start (hcurrent : ∃ entries, d.root.get? d.current = some (.folder entries))
    (start : Path) : ∃ entries, d.root.get? (if start.isAbsolute then [] else d.current) =
      some (.folder entries) :=
  Tree.exists_folder_above (by split_ifs <;> simp) hcurrent

/-- What is in front of a path that leads to something leads to the folder that it tells. -/
theorem folderAt?_eq_placeOf (hlinks : d.root.LinkFree)
    (hcurrent : ∃ entries, d.root.get? d.current = some (.folder entries))
    (hstat : d.stat start = .ok (place, t)) (hshort : dir.isShort)
    (hpre : dir.components <+: start.components) (habsolute : dir.isAbsolute = start.isAbsolute)
    (hend : Path.saying dir.written ≠ Path.saying start.written ∨ t.isFolder) :
    folderAt? d dir = some (d.placeOf dir) := by
  obtain ⟨⟨hnul, -, -⟩, hleads⟩ := (Disk.stat_eq_ok_iff_leadsTo hlinks).1 hstat
  obtain ⟨tail, htail⟩ : Path.saying dir.written <+: Path.saying start.written := by
    rcases Path.components_prefix_iff.1 hpre with rfl | ⟨-, hsaying⟩
    · exact List.nil_prefix
    · exact hsaying
  have hzero : '\x00' ∉ dir.text.toList := fun hmem => by
    obtain ⟨part, hpart, hc⟩ := (Disk.mem_text_iff (by decide) (by decide) _).1 hmem
    exact hnul ((Disk.mem_text_iff (by decide) (by decide) _).2
      ⟨part, htail ▸ List.mem_append_left _ hpart, hc⟩)
  have hparts := hleads.saying
  rw [Disk.parts_text, Disk.saying_map_ofList, ← htail, List.map_append] at hparts
  obtain ⟨folder, entries, hfolder⟩ := hparts.exists_folder (exists_folder_start hcurrent start) <|
    hend.imp_left fun hne hnil => by
      rw [← htail, List.map_eq_nil_iff.1 hnil, List.append_nil] at hne
      exact hne rfl
  have hat : folderAt? d dir = some folder := (folderAt?_eq_some_iff hlinks).2
    ⟨⟨hzero, hshort⟩, entries, by rwa [habsolute, Disk.parts_text, Disk.saying_map_ofList]⟩
  rw [hat, place_eq_of_folderAt? hlinks hat]

/-- What is in front of the folder of a path says less than the path, if this one says something. -/
theorem saying_ne_of_mem_ancestors {file : Path} (hparent : file.parent? = some start)
    (hsay : Path.saying file.written ≠ []) (hmem : dir ∈ start.ancestors) :
    Path.saying dir.written ≠ Path.saying file.written := by
  intro heq
  have hpre := (Path.prefix_of_mem_ancestors hmem).1
  have hlt := Path.length_components_parent? hparent
  rcases Path.components_prefix_iff.1 (hpre.trans
    (Path.prefix_of_mem_ancestors (Path.mem_ancestors_of_parent? hparent)).1) with rfl | ⟨hlead, -⟩
  · exact hsay heq.symm
  · rw [← Path.components_eq_iff.2 ⟨hlead, heq⟩] at hlt
    exact absurd hpre.length_le (Nat.not_le.2 hlt)

/-- The path of a file says something, since it does not start at a file. -/
theorem saying_ne_nil_of_stat (hlinks : d.root.LinkFree)
    (hcurrent : ∃ entries, d.root.get? d.current = some (.folder entries))
    (hstat : d.stat start = .ok (place, .file content)) : Path.saying start.written ≠ [] := by
  intro hnil
  have hleads := ((Disk.stat_eq_ok_iff_leadsTo hlinks).1 hstat).2.saying
  rw [Disk.parts_text, Disk.saying_map_ofList, hnil] at hleads
  obtain ⟨entries, hfolder⟩ := exists_folder_start hcurrent start
  cases hleads with
  | arrived hget => cases hget.symm.trans hfolder

/-- The folder that a search starts from, which is that of a file. -/
theorem searched_eq (hlinks : d.root.LinkFree)
    (hcurrent : ∃ entries, d.root.get? d.current = some (.folder entries))
    (hstat : d.stat start = .ok (place, t)) :
    (t.isFolder ∧ searched d start = start.ancestors) ∨
    ∃ content dir, t = .file content ∧ start.parent? = some dir ∧
      searched d start = dir.ancestors := by
  cases t with
  | link target => exact absurd (Disk.get?_of_stat hstat) (hlinks _ _)
  | folder entries =>
    have hfile : d.isFile start = false := by simp [Disk.isFile, hstat, Tree.isFile]
    exact .inl ⟨rfl, by rw [searched, hfile]; rfl⟩
  | file content =>
    have hfile : d.isFile start := Disk.isFile_iff.2 ⟨_, _, hstat⟩
    have hsay := saying_ne_nil_of_stat hlinks hcurrent hstat
    have hparent := Path.components_parent? start
    rw [if_neg] at hparent
    · obtain ⟨dir, hdir, -⟩ := Option.map_eq_some_iff.1 hparent
      exact .inr ⟨content, dir, rfl, hdir, by rw [searched, if_pos hfile, hdir]; rfl⟩
    · rintro (hnil | hroot)
      · exact hsay (Path.eq_empty_iff.1 (Path.components_eq_nil_iff.1 hnil)).2
      · exact hsay (Path.components_eq_iff (q := ⟨"/"⟩)|>.1 hroot).2

/-- All paths that are searched lead to the folders that they tell, if the start leads to
    something. -/
theorem filterMap_searched (hlinks : d.root.LinkFree)
    (hcurrent : ∃ entries, d.root.get? d.current = some (.folder entries))
    (hstat : d.stat start = .ok (place, t)) (hshort : ∀ dir ∈ searched d start, dir.isShort) :
    (searched d start).filterMap (folderAt? d) = (searched d start).map d.placeOf := by
  rw [List.filterMap_eq_map_iff_forall_eq_some]
  intro dir hdir
  have hdirshort := hshort dir hdir
  rcases searched_eq hlinks hcurrent hstat with ⟨hfolder, heq⟩ | ⟨content, q, rfl, hparent, heq⟩
  · rw [heq] at hdir
    obtain ⟨hpre, habsolute⟩ := Path.prefix_of_mem_ancestors hdir
    exact folderAt?_eq_placeOf hlinks hcurrent hstat hdirshort hpre habsolute (.inr hfolder)
  · rw [heq] at hdir
    obtain ⟨hpre, habsolute⟩ := Path.prefix_of_mem_ancestors hdir
    obtain ⟨hpre', habsolute'⟩ :=
      Path.prefix_of_mem_ancestors (Path.mem_ancestors_of_parent? hparent)
    have hne := saying_ne_of_mem_ancestors hparent (saying_ne_nil_of_stat hlinks hcurrent hstat) hdir
    exact folderAt?_eq_placeOf hlinks hcurrent hstat hdirshort (hpre.trans hpre')
      (habsolute.trans habsolute') (.inl hne)

/-! ### Paths that do not go up -/

theorem foldersUpTo_append (base : Place) (names : List String) :
    foldersUpTo base (base ++ names) = (names.inits.map (base ++ ·)).reverse := by
  have hconcat : ∀ {α : Type} (as : List α) (a : α), (as ++ [a]).inits = as.inits ++ [as ++ [a]] := by
    intro α as a
    rw [List.inits_append]
    rfl
  induction names using List.reverseRecOn with
  | nil =>
    rw [List.append_nil]
    rcases List.eq_nil_or_concat' base with rfl | ⟨front, last, rfl⟩
    · rfl
    · -- Of the folders above the base, only the base itself begins with it.
      have hlonger : ∀ above ∈ front.inits, ¬(front ++ [last]).isPrefixOf above := by
        intro above habove hpre
        have hle := ((List.mem_inits _ _).1 habove).length_le
        have hge := (List.isPrefixOf_iff_prefix.1 hpre).length_le
        rw [List.length_append, List.length_singleton] at hge
        omega
      have hnone : front.inits.reverse.filter (front ++ [last]).isPrefixOf = [] :=
        List.filter_eq_nil_iff.2 fun above habove => hlonger above (List.mem_reverse.1 habove)
      rw [foldersUpTo, hconcat, List.reverse_append, List.reverse_singleton, List.singleton_append,
        List.filter_cons_of_pos (by simp), hnone]
      simp
  | append_singleton names name ih =>
    -- One name more makes one folder more, the deepest, which comes first.
    rw [foldersUpTo] at ih ⊢
    rw [← List.append_assoc, hconcat, hconcat, List.reverse_append, List.reverse_singleton,
      List.singleton_append, List.filter_cons_of_pos (by simp), ih, List.map_append,
      List.reverse_append]
    simp

/-- Behind the start of a path that does not go up, there are names only. -/
theorem components_eq_of_up_not_mem (hup : .up ∉ dir.components) : dir.components =
    dir.split.1.components ++ ((Path.saying dir.written).map String.ofList).map .name := by
  rw [Path.components_eq] at hup ⊢
  rw [List.map_map]
  congr 1
  refine List.map_congr_left fun part hpart => ?_
  have hne : Path.partComponent part ≠ .up := fun heq =>
    hup (List.mem_append_right _ (heq ▸ List.mem_map_of_mem hpart))
  rw [Path.partComponent] at hne ⊢
  split_ifs at hne ⊢ with hdots
  · exact absurd rfl hne
  · rfl

/-- Of names behind a start, the longest ones are searched first. A start at `.` is searched twice,
    the second time for nothing. -/
theorem findSome?_map_placeFrom_upwards {α : Type} (lead : Path.Lead) (names : List String)
    (here : Place) (f : Place → Option α) :
    ((Path.upwards (lead.components ++ names.map .name)).map (Disk.placeFrom here)).findSome? f =
      (names.inits.map ((if lead = .root then [] else here) ++ ·)).reverse.findSome? f := by
  have hplaces : ∀ base : Place, (names.map Component.name).inits.map (Disk.placeFrom base) =
      names.inits.map (base ++ ·) := by
    intro base
    rw [List.map_inits, List.map_map]
    exact List.map_congr_left fun above _ => Disk.placeFrom_map_name base above
  cases lead with
  | root =>
    have hroot : (Path.upwards ([.root] ++ names.map .name)).map (Disk.placeFrom here) =
        ((names.map Component.name).inits.map (Disk.placeFrom [])).reverse := by
      simp only [Path.upwards, List.singleton_append, List.head?_cons, if_true, List.inits_cons,
        List.tail_cons, List.map_reverse, List.map_map]
      rfl
    rw [Path.Lead.components, hroot, hplaces, if_pos rfl]
  | none =>
    have hnone : (names.map Component.name).head? ≠ some .root := by
      cases names <;> simp
    rw [Path.Lead.components, List.nil_append, Path.upwards, if_neg hnone, List.map_reverse, hplaces,
      if_neg (by decide)]
  | here =>
    have hhere : (Path.upwards ([.here] ++ names.map .name)).map (Disk.placeFrom here) =
        ((names.map Component.name).inits.map (Disk.placeFrom here)).reverse ++ [here] := by
      simp only [Path.upwards, List.singleton_append, List.head?_cons, List.inits_cons,
        Option.some.injEq, reduceCtorEq, if_false, List.reverse_cons, List.map_append,
        List.map_reverse, List.map_map]
      rfl
    -- The place that comes twice has been searched before its second turn.
    have hmem : here ∈ (names.inits.map (here ++ ·)).reverse := by
      rw [List.mem_reverse, List.mem_map]
      exact ⟨[], by simp, List.append_nil _⟩
    rw [Path.Lead.components, hhere, hplaces, if_neg (by decide), List.findSome?_append,
      List.findSome?_singleton]
    cases hfind : (names.inits.map fun above => here ++ above).reverse.findSome? f with
    | some a => rfl
    | none => rw [List.findSome?_eq_none_iff.1 hfind _ hmem, Option.none_or]

/-- A path that does not go up is searched from its folder up to where it starts. -/
theorem findSome?_map_placeOf {α : Type} (hup : .up ∉ dir.components) (f : Place → Option α) :
    (dir.ancestors.map d.placeOf).findSome? f =
      (foldersUpTo (if dir.isAbsolute then [] else d.current) (d.placeOf dir)).findSome? f := by
  obtain ⟨names, hnames⟩ : ∃ names : List String, dir.components = _ ++ names.map .name :=
    ⟨_, components_eq_of_up_not_mem hup⟩
  have hmap : dir.ancestors.map d.placeOf =
      (Path.upwards dir.components).map (Disk.placeFrom d.current) := by
    rw [← Path.map_components_ancestors, List.map_map]
    rfl
  have hplace : d.placeOf dir = (if dir.isAbsolute then [] else d.current) ++ names := by
    rw [Disk.placeOf, hnames, Disk.placeFrom_append, Disk.placeFrom_start, Disk.placeFrom_map_name]
  rw [hmap, hplace, foldersUpTo_append, hnames, findSome?_map_placeFrom_upwards]
  simp only [Path.isAbsolute_iff]

/-- The folder of a path that does not go up is the one above what the path tells. -/
theorem placeOf_parent? (hparent : start.parent? = some dir) (hup : .up ∉ start.components)
    (hsay : Path.saying start.written ≠ []) : d.placeOf dir = (d.placeOf start).dropLast := by
  have hcomponents := components_eq_of_up_not_mem hup
  obtain ⟨above, last, hlast⟩ := (List.eq_nil_or_concat' _).resolve_left hsay
  rw [hlast, List.map_append, List.map_append, ← List.append_assoc] at hcomponents
  have hstart : d.placeOf start = d.placeOf dir ++ [String.ofList last] := by
    rw [Disk.placeOf, Disk.placeOf, (Path.components_of_parent? hparent).2, hcomponents,
      Disk.placeFrom_append _ (_ ++ _), List.map_singleton, List.map_singleton, List.dropLast_concat]
    rfl
  rw [hstart, List.dropLast_concat]

/-- What is found is the configuration of the first one of the folders that the searched paths lead
    to. If the start leads to something, these are the places that the searched paths tell. They are
    the folder of the start and the ones above it, up to where its path starts, if the path does not
    go up. -/
theorem findNearest_isFirst (hlinks : d.root.LinkFree)
    (hcurrent : ∃ entries, d.root.get? d.current = some (.folder entries))
    (hshort : ∀ dir ∈ searched d start, ∀ name ∈ fileNames, (dir.join ⟨name⟩).isShort) :
    IsFirst d ((searched d start).filterMap (folderAt? d)) (findNearest d start) ∧
    ∀ place t, d.stat start = .ok (place, t) →
      IsFirst d ((searched d start).map d.placeOf) (findNearest d start) ∧
      (.up ∉ start.components →
        IsFirst d (foldersUpTo (if start.isAbsolute then [] else d.current)
          (if t.isFolder then place else place.dropLast)) (findNearest d start)) := by
  have hfirst := isFirst_filterMap hlinks hshort
  refine ⟨hfirst, fun place t hstat => ?_⟩
  have hrelative : (⟨"lintfix.json"⟩ : Path).isAbsolute = false := by decide
  have hdirshort : ∀ dir ∈ searched d start, dir.isShort := fun dir hdir =>
    isShort_of_join hrelative (hshort dir hdir _ (by decide))
  rw [filterMap_searched hlinks hcurrent hstat hdirshort] at hfirst
  refine ⟨hfirst, fun hup => ?_⟩
  have hplace := Disk.place_eq_of_stat hlinks hstat
  rw [IsFirst] at hfirst ⊢
  rcases searched_eq hlinks hcurrent hstat with ⟨hfolder, heq⟩ | ⟨content, dir, rfl, hparent, heq⟩
  · rw [if_pos hfolder, hplace, ← findSome?_map_placeOf hup, ← heq]
    exact hfirst
  · obtain ⟨hpre, habsolute⟩ :=
      Path.prefix_of_mem_ancestors (Path.mem_ancestors_of_parent? hparent)
    have hdropLast : d.placeOf dir = place.dropLast := by
      rw [hplace]
      exact placeOf_parent? hparent hup (saying_ne_nil_of_stat hlinks hcurrent hstat)
    have hfile : ¬(Tree.file content).isFolder := Bool.false_ne_true
    rw [if_neg hfile, ← hdropLast, ← habsolute,
      ← findSome?_map_placeOf fun hmem => hup (hpre.subset hmem), ← heq]
    exact hfirst

/-- A disk with two folders side by side, one of which has a configuration file. Paths start in this
    one. -/
def sideBySide : Disk where
  root := .folder [("sub", .folder [("lintfix.json", .file (.text "{}"))]),
    ("proj", .folder [("a.ts", .file (.text "x"))])]
  current := ["sub"]
  home := none

theorem linkFree_sideBySide : sideBySide.root.LinkFree :=
  Tree.linkFree_folder <| List.forall_mem_cons.2
    ⟨Tree.linkFree_folder <| List.forall_mem_singleton.2 <| Tree.linkFree_file _,
      List.forall_mem_singleton.2 <| Tree.linkFree_folder <|
        List.forall_mem_singleton.2 <| Tree.linkFree_file _⟩

/-- A file beside the folder that paths start from, under its absolute path, has no configuration. -/
theorem findNearest_sideBySide :
    (sideBySide.root.LinkFree ∧
      (∃ entries, sideBySide.root.get? sideBySide.current = some (.folder entries)) ∧
      (∀ dir ∈ searched sideBySide ⟨"/proj/a.ts"⟩, ∀ name ∈ fileNames, (dir.join ⟨name⟩).isShort) ∧
      sideBySide.stat ⟨"/proj/a.ts"⟩ = .ok (["proj", "a.ts"], .file (.text "x")) ∧
      .up ∉ (⟨"/proj/a.ts"⟩ : Path).components) ∧
    findNearest sideBySide ⟨"/proj/a.ts"⟩ = none := by
  have hcurrent : ∃ entries,
      sideBySide.root.get? sideBySide.current = some (.folder entries) := ⟨_, rfl⟩
  have hshort : ∀ dir ∈ searched sideBySide ⟨"/proj/a.ts"⟩, ∀ name ∈ fileNames,
      (dir.join ⟨name⟩).isShort := by decide
  have hstat : sideBySide.stat ⟨"/proj/a.ts"⟩ = .ok (["proj", "a.ts"], .file (.text "x")) := rfl
  have hup : .up ∉ (⟨"/proj/a.ts"⟩ : Path).components := by decide
  exact ⟨⟨linkFree_sideBySide, hcurrent, hshort, hstat, hup⟩,
    ((findNearest_isFirst linkFree_sideBySide hcurrent hshort).2 _ _ hstat).2 hup⟩

/-- Under a path that goes up, the same file is given the configuration of a folder that it is not
    in. -/
theorem findNearest_beside :
    sideBySide.root.LinkFree ∧
    sideBySide.stat ⟨"../proj/a.ts"⟩ = .ok (["proj", "a.ts"], .file (.text "x")) ∧
    findNearest sideBySide ⟨"../proj/a.ts"⟩ = some ⟨"lintfix.json"⟩ ∧
    sideBySide.stat ⟨"lintfix.json"⟩ = .ok (["sub", "lintfix.json"], .file (.text "{}")) ∧
    ¬IsFirst sideBySide (foldersUpTo [] ["proj"]) (findNearest sideBySide ⟨"../proj/a.ts"⟩) := by
  have hfound : findNearest sideBySide ⟨"../proj/a.ts"⟩ = some ⟨"lintfix.json"⟩ := by
    decide +kernel
  refine ⟨linkFree_sideBySide, rfl, hfound, rfl, fun hfirst => ?_⟩
  have hnone : (foldersUpTo [] ["proj"]).findSome? (configAt? sideBySide) = none := by decide
  rw [IsFirst, hnone, hfound] at hfirst
  cases hfirst

end Autofix.LintConfig
