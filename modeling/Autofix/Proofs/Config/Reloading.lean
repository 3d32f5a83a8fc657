import Autofix.Proofs.Config.Extending
import Autofix.Proofs.Disk.Lookup
import Autofix.Proofs.Disk.Rewriting
import Autofix.Proofs.Path.Folder

/-!
# Loading a configuration again

A configuration that has been loaded once comes out the same when it is loaded again, although files
have been written since that loading does not read, and although the folder is written in another
way (`Loads.again`). Of the folder only its components matter, as long as the paths that are looked
up are short; the configuration then has the folder in its new spelling.

What loading reads is told by `Reads`, also for a loading that fails. If none of it is written to,
then what can be loaded afterwards could be loaded before (`Loads.of_rewritten`).
-/

namespace Autofix

namespace LintConfig

variable {d d' : Disk} {places : Disk.Place → Prop} {visiting : List Path} {p p' q : Path}
  {c own : LintConfig}

/-! ### What loading reads -/

/-- Loading the file `p` on the way from those of `visiting` reads the file `q`. What a file extends
    is loaded in order, each one only if the ones before could be loaded. -/
inductive Reads (d : Disk) : List Path → Path → Path → Prop
  | self {visiting : List Path} {p : Path} (hnew : p.normalize ∉ visiting) : Reads d visiting p p
  | parent {visiting before after : List Path} {p parent q : Path} {own : LintConfig}
      (hnew : p.normalize ∉ visiting) (hown : readOwn d p = .ok own)
      (hparents : own.parents p = before ++ parent :: after)
      (hbefore : ∀ r ∈ before, ∃ c, Loads d (p.normalize :: visiting) r c)
      (hq : Reads d (p.normalize :: visiting) parent q) : Reads d visiting p q

/-- Nothing that loading reads is at any of the places. -/
def Apart (d : Disk) (places : Disk.Place → Prop) (visiting : List Path) (p : Path) : Prop :=
  ∀ q, Reads d visiting p q → ∀ place, d.At q place → ¬places place

/-- A file that extends nothing is all that is read for it. -/
theorem eq_of_reads (h : ∀ own, readOwn d p = .ok own → own.parents p = [])
    (hq : Reads d visiting p q) : q = p := by
  cases hq with
  | self => rfl
  | parent _ hown hparents =>
    rw [h _ hown] at hparents
    simp at hparents

namespace Apart

theorem of_parents (h : ∀ own, readOwn d p = .ok own → own.parents p = [])
    (hp : ∀ place, d.At p place → ¬places place) : Apart d places visiting p := by
  intro q hq
  obtain rfl := eq_of_reads h hq
  exact hp

theorem readText_eq (hp : Apart d places visiting p) (hnew : p.normalize ∉ visiting)
    (h : d.Rewrites places d') : d'.readText p = d.readText p :=
  h.readText_eq (hp p (.self hnew))

theorem readOwn_eq (hp : Apart d places visiting p) (hnew : p.normalize ∉ visiting)
    (h : d.Rewrites places d') : readOwn d' p = readOwn d p := by
  rw [readOwn, readOwn, hp.readText_eq hnew h]

theorem of_parent {before after : List Path} (hp : Apart d places visiting p)
    (hnew : p.normalize ∉ visiting) (hown : readOwn d p = .ok own)
    (hparents : own.parents p = before ++ q :: after)
    (hbefore : ∀ r ∈ before, ∃ c, Loads d (p.normalize :: visiting) r c) :
    Apart d places (p.normalize :: visiting) q :=
  fun r hr => hp r (.parent hnew hown hparents hbefore hr)

end Apart

/-- What can be loaded after files have been written could be loaded before, if loading it then
    would not have read any of these files. -/
theorem Loads.of_rewritten (hload : Loads d' visiting p c) (hp : Apart d places visiting p)
    (h : d.Rewrites places d') : Loads d visiting p c := by
  induction hload with
  | @of visiting p own cs hnew hown hlength hcs hset ih =>
    rw [hp.readOwn_eq hnew h] at hown
    -- By induction from the front, as the first of what is extended is read first.
    have hbefore : ∀ before after, own.parents p = before ++ after →
        ∀ q ∈ before, ∃ c, Loads d (p.normalize :: visiting) q c := by
      intro before
      induction before using List.reverseRecOn with
      | nil => exact fun _ _ _ hq => absurd hq List.not_mem_nil
      | append_singleton before r ih' =>
        intro after hparents q hq
        rw [List.append_assoc, List.singleton_append] at hparents
        have hloads := ih' _ hparents
        rcases List.mem_append.1 hq with hq | hq
        · exact hloads q hq
        · obtain rfl := List.mem_singleton.1 hq
          have hmem : q ∈ own.parents p := hparents ▸ List.mem_append_right _ List.mem_cons_self
          obtain ⟨c, hc⟩ := exists_mem_zip hlength hmem
          exact ⟨c, ih _ hc (hp.of_parent hnew hown hparents hloads)⟩
    refine .of hnew hown hlength (fun x hx => ih x hx ?_) hset
    obtain ⟨before, after, hparents⟩ := List.append_of_mem (List.of_mem_zip hx).1
    exact hp.of_parent hnew hown hparents (hbefore _ _ hparents)

/-! ### In another spelling -/

/-- The configuration as that of another folder. -/
def inFolder (c : LintConfig) (dir : Path) : LintConfig := { c with baseDir := some dir }

theorem extendedBy_inFolder (c other : LintConfig) (dir : Path) :
    c.extendedBy (other.inFolder dir) = c.extendedBy other := rfl

/-- For the configuration that extends them, the folders of the others do not matter. -/
theorem foldl_extendedBy_inFolder (c : LintConfig) {cs : List LintConfig} {ps : List Path}
    (hlength : cs.length = ps.length) :
    (List.zipWith (fun q c => inFolder c q.folder) ps cs).foldl extendedBy c =
      cs.foldl extendedBy c := by
  induction cs generalizing c ps with
  | nil => rw [List.zipWith_nil_right]
  | cons b cs ih =>
    obtain ⟨q, ps, rfl⟩ := List.exists_cons_of_length_eq_add_one hlength.symm
    rw [List.zipWith_cons_cons, List.foldl_cons, List.foldl_cons, extendedBy_inFolder,
      ih _ (Nat.succ.inj hlength)]

theorem length_parents (own : LintConfig) (p p' : Path) :
    (own.parents p).length = (own.parents p').length := by
  simp [parents]

theorem respells_parents (own : LintConfig) (h : p.components = p'.components) {i : ℕ}
    (hi : i < (own.parents p).length) (hi' : i < (own.parents p').length) :
    (own.parents p)[i].Respells (own.parents p')[i] := by
  have hlt : i < (own.extending.elim [] OneOrMany.toList).length := by simpa [parents] using hi
  refine ⟨p.folder, p'.folder, ⟨(own.extending.elim [] OneOrMany.toList)[i]⟩, ?_, ?_, ?_⟩
  · rw [Path.components_folder, Path.components_folder, h]
  · simp [parents]
  · simp [parents]

/-- All that has been read on loading a file is short. -/
theorem Loads.isShort_of_reaches (h : Loads d visiting p c) (hq : Reaches d p q) : q.isShort := by
  obtain ⟨met, c', -, hc', -⟩ := h.of_reaches hq
  cases hc' with
  | of hnew hown hlength hcs hset => exact isShort_of_readOwn hown

/-- Loading comes to the same in another spelling of the folder in front of the path, as long as all
    paths are short, and after files have been written that loading does not read. -/
theorem Loads.again (hload : Loads d visiting p c) (hp : Apart d places visiting p)
    (h : d.Rewrites places d') (hp' : p.Respells p')
    (hshort : ∀ q, Reaches d p' q → q.isShort) :
    Loads d' visiting p' (c.inFolder p'.folder) := by
  induction hload generalizing p' with
  | @of visiting p own cs hnew hown hlength hcs hset ih =>
    -- The same text is read under the other spelling, before and after the writing.
    obtain ⟨text, hread, htext⟩ := readOwn_eq_ok_iff.1 hown
    have hp'short := hshort p' .refl
    have hpshort := isShort_of_readOwn hown
    have hown' : readOwn d p' = .ok own :=
      readOwn_eq_ok_iff.2 ⟨text, hp'.readText_eq hpshort hp'short d ▸ hread, htext⟩
    have hown'' : readOwn d' p' = .ok own := by
      refine readOwn_eq_ok_iff.2 ⟨text, ?_, htext⟩
      rw [← hp'.readText_eq hpshort hp'short, hp.readText_eq hnew h, hread]
    have hlength' := hlength.trans (own.length_parents p p')
    have heq : (own.inheriting p cs).inFolder p'.folder = own.inheriting p'
        (List.zipWith (fun q c => inFolder c q.folder) (own.parents p') cs) := by
      simp only [inheriting, foldl_extendedBy_inFolder _ hlength']
      rfl
    have hnormalize := Path.normalize_congr hp'.components_eq
    rw [heq]
    refine .of (hnormalize ▸ hnew) hown'' ?_ (fun x hx => ?_) (heq ▸ hset)
    · rw [List.length_zipWith, hlength', Nat.min_self]
    · -- Place by place, what is extended stands behind either spelling of the folder.
      obtain ⟨i, hi, rfl⟩ := List.mem_iff_getElem.1 hx
      rw [List.length_zip, List.length_zipWith] at hi
      have hi' : i < (own.parents p').length := by omega
      have hics : i < cs.length := by omega
      have hip : i < (own.parents p).length := by omega
      have hmem : ((own.parents p)[i], cs[i]) ∈ (own.parents p).zip cs :=
        getElem_mem_zip hip hics
      obtain ⟨before, after, hparents⟩ := List.append_of_mem (List.of_mem_zip hmem).1
      have hapart : Apart d places (p.normalize :: visiting) (own.parents p)[i] := by
        refine hp.of_parent hnew hown hparents fun r hr => ?_
        obtain ⟨b, hb⟩ := exists_mem_zip hlength (hparents ▸ List.mem_append_left _ hr)
        exact ⟨b, hcs _ hb⟩
      have hext : Extends d p' (own.parents p')[i] := ⟨own, hown', List.getElem_mem hi'⟩
      rw [List.getElem_zip, List.getElem_zipWith, ← hnormalize]
      exact ih _ hmem hapart (own.respells_parents hp'.components_eq hip hi') fun q hq =>
        hshort q (.head hext hq)

end LintConfig

end Autofix
