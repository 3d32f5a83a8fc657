import Autofix.Proofs.Disk.Lookup
import Autofix.Proofs.Path.Below
import Autofix.Proofs.Path.Folder

/-!
# Paths with more separators

Separators after the first one say nothing, but they make a path longer. A path with any number of
them in front of its names says what it says without them (`components_spelled`) and leads to the
same (`Disk.find_spelled`), unless it is too long to be looked up. The folder of such a path has
them, too (`folder_spelled`), and so have the paths in this folder (`spelled_join`).
-/

namespace Autofix

namespace Path

variable {names : List (List Char)} {name : List Char}

/-- The path of names below the root, with more separators in front of them than needed. -/
def spelled (more : ℕ) (names : List (List Char)) : Path :=
  ⟨String.ofList (joinParts (List.replicate (more + 1) [] ++ names))⟩

variable (more : ℕ)

theorem written_spelled (h : AreNames names) :
    (spelled more names).written = List.replicate (more + 1) [] ++ names := by
  refine written_joinParts (by simp) fun part hpart => ?_
  rcases List.mem_append.1 hpart with hpart | hpart
  · rw [List.eq_of_mem_replicate hpart]
    exact List.not_mem_nil
  · exact (h part hpart).1

theorem split_spelled (h : AreNames names) (hne : names ≠ []) :
    (spelled more names).split = (.root, List.replicate more [] ++ names) := by
  obtain ⟨part, rest, hrest⟩ : ∃ part rest, List.replicate more [] ++ names = part :: rest :=
    List.exists_cons_of_ne_nil (List.append_ne_nil_of_right_ne_nil _ hne)
  rw [split_eq, written_spelled more h, List.replicate_succ, List.cons_append, hrest, splitWritten]

theorem saying_replicate (n : ℕ) : saying (List.replicate n []) = [] :=
  saying_eq_nil_iff.2 fun _ hpart => List.eq_of_mem_replicate hpart ▸ rfl

theorem components_spelled (h : AreNames names) (hne : names ≠ []) :
    (spelled more names).components = .root :: names.map partComponent := by
  rw [components_eq, split_spelled more h hne, written_spelled more h, saying_append,
    saying_replicate, h.saying_eq]
  rfl

/-- Each separator is a byte of the path. -/
theorem size_spelled (hne : names ≠ []) :
    (spelled more names).text.utf8ByteSize = more + 1 + Text.size (joinParts names) := by
  have hsize : ∀ n, Text.size ((List.replicate n []).flatMap fun part => part ++ ['/']) = n := by
    intro n
    induction n with
    | zero => rfl
    | succ n ih =>
      rw [List.replicate_succ, List.flatMap_cons, Text.size_append, ih, Nat.add_comm]
      rfl
  rw [← Text.size_toList, spelled, String.toList_ofList, joinParts_append _ hne, Text.size_append,
    hsize]

theorem folder_spelled (h : AreNames (names ++ [name])) (hne : names ≠ []) :
    (spelled more (names ++ [name])).folder = spelled more names := by
  obtain ⟨front, last, rfl⟩ := (List.eq_nil_or_concat' names).resolve_left hne
  have hname : isBlank name = false := (h name (by simp)).2
  have hlast : isBlank last = false := (h last (by simp)).2
  have hparent : (spelled more (front ++ [last] ++ [name])).parent? =
      some (ofParts .root (List.replicate more [] ++ (front ++ [last]))) := by
    rw [parent?, split_spelled more h (by simp)]
    simp [hname, hlast]
  have hparts : List.replicate more [] ++ (front ++ [last]) ≠ [] := by simp
  rw [folder, hparent, Option.getD_some, spelled, List.replicate_succ, List.cons_append,
    joinParts.eq_3 _ _ hparts]
  rfl

theorem joinParts_concat {parts : List (List Char)} (hne : parts ≠ []) (part : List Char) :
    joinParts (parts ++ [part]) = joinParts parts ++ '/' :: part := by
  obtain ⟨front, last, rfl⟩ := (List.eq_nil_or_concat' parts).resolve_left hne
  rw [List.append_assoc, joinParts_append front (by simp), joinParts_append front (by simp)]
  simp [joinParts]

theorem spelled_join (h : AreNames (names ++ [name])) (hne : names ≠ []) :
    (spelled more names).join ⟨String.ofList name⟩ = spelled more (names ++ [name]) := by
  have hconcat : joinParts (List.replicate (more + 1) [] ++ (names ++ [name])) =
      joinParts (List.replicate (more + 1) [] ++ names) ++ '/' :: name := by
    rw [← List.append_assoc, joinParts_concat (by simp)]
  obtain ⟨front, last, rfl⟩ := (List.eq_nil_or_concat' names).resolve_left hne
  obtain ⟨hname, -⟩ := h name (by simp)
  obtain ⟨hslash, hlast⟩ := h last (by simp)
  have habsolute : (⟨String.ofList name⟩ : Path).isAbsolute = false :=
    isAbsolute_name (by rwa [String.toList_ofList])
  obtain ⟨cs, c, rfl⟩ := (List.eq_nil_or_concat' last).resolve_left fun hnil => by
    rw [hnil] at hlast
    cases hlast
  have hc : c ≠ '/' := fun heq => hslash (heq ▸ List.mem_append_right _ List.mem_cons_self)
  have hend : (joinParts (List.replicate (more + 1) [] ++ (front ++ [cs ++ [c]]))).getLast? =
      some c := by
    rw [← List.append_assoc, joinParts_append _ (by simp)]
    simp [joinParts]
  rw [join, habsolute, spelled, String.toList_ofList, hend, spelled, hconcat]
  simp only [Bool.false_eq_true, if_false, hc]
  rw [Path.mk.injEq, ← String.toList_inj]
  simp

/-- Above a name there is only the root. -/
theorem parent?_spelled (h : AreNames [name]) : (spelled more [name]).parent? = some ⟨"/"⟩ := by
  have hname : isBlank name = false := (h name (by simp)).2
  have hblank : (List.replicate more ([] : List Char)).dropWhile isBlank = [] := by
    rw [List.dropWhile_eq_nil_iff]
    exact fun _ hpart => List.eq_of_mem_replicate hpart ▸ rfl
  rw [parent?, split_spelled more h (by simp)]
  simp [hname, hblank]
  rfl

theorem ancestors_spelled (h : AreNames [name]) :
    (spelled more [name]).ancestors = [spelled more [name], ⟨"/"⟩] := by
  obtain ⟨n, hn⟩ : ∃ n, (spelled more [name]).text.length = n + 1 := by
    have hle := length_components_le (spelled more [name])
    rw [components_spelled more h (by simp)] at hle
    exact Nat.exists_eq_add_one_of_ne_zero (Nat.ne_of_gt (Nat.lt_of_lt_of_le (by simp) hle))
  have hroot : parent? ⟨"/"⟩ = none := by decide
  rw [ancestors, hn, ancestors.go, parent?_spelled more h]
  simp [ancestors.go, hroot]

end Path

/-- A path with more separators leads to the same, unless it is too long. -/
theorem Disk.find_spelled {names : List (List Char)} (h : Path.AreNames names) (hne : names ≠ [])
    {more more' : ℕ} (hshort : (Path.spelled more names).isShort)
    (hshort' : (Path.spelled more' names).isShort) (d : Disk) (last : Bool) :
    d.find last (Path.spelled more names) = d.find last (Path.spelled more' names) := by
  have hcomponents :
      (Path.spelled more names).components = (Path.spelled more' names).components := by
    rw [Path.components_spelled more h hne, Path.components_spelled more' h hne]
  refine find_congr hcomponents ⟨(List.replicate (more + 1) []).map String.ofList,
    (List.replicate (more' + 1) []).map String.ofList, names.map String.ofList,
    by simpa using hne, ?_, ?_, ?_⟩ hshort hshort' d last
  · rw [saying_map_ofList, saying_map_ofList, Path.saying_replicate, Path.saying_replicate]
  · rw [parts_text, Path.written_spelled more h, List.map_append]
  · rw [parts_text, Path.written_spelled more' h, List.map_append]

end Autofix
