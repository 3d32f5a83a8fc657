import Autofix.Proofs.Path.Normal

/-!
# What the order of paths says of folders

In the order of paths, what is below two names of a folder stands in the order of the names
(`compare_of_prefix`), a path stands in front of what is below it
(`compareComponents_ne_lt_of_prefix`), and between two paths that start alike there are only paths
that start like them (`prefix_of_between`). So among files in this order no two folders alternate
(`dropLast_eq_of_alternating`).
-/

namespace Autofix.Path

variable {cs ds es front : List Component}

/-- What two lists have in front does not count in their order. -/
theorem compareComponents_append (front cs ds : List Component) :
    compareComponents (front ++ cs) (front ++ ds) = compareComponents cs ds := by
  induction front with
  | nil => rfl
  | cons c front ih =>
    have hself : c.compare c = .eq := Std.ReflCmp.compare_self
    rw [List.cons_append, List.cons_append, compareComponents, hself]
    exact ih

/-- What is below two names of a folder stands in the order of the names. -/
theorem compare_of_prefix {p q base : Path} {name other : String} (hlt : name < other)
    (hp : base.components ++ [.name name] <+: p.components)
    (hq : base.components ++ [.name other] <+: q.components) : p.compare q = .lt := by
  obtain ⟨cs, hcs⟩ := hp
  obtain ⟨ds, hds⟩ := hq
  have hname : Ord.compare name other = .lt := compareOfLessAndEq_eq_lt.2 hlt
  rw [compare, ← hcs, ← hds, List.append_assoc, List.append_assoc, compareComponents_append,
    List.singleton_append, List.singleton_append, compareComponents, Component.compare, hname]
  rfl

/-- What lies between lists that start alike starts like them. -/
theorem prefix_of_between (hcs : front <+: cs) (hes : front <+: es)
    (hlt : compareComponents cs ds = .lt) (hlt' : compareComponents ds es = .lt) : front <+: ds := by
  induction front generalizing cs ds es with
  | nil => exact List.nil_prefix
  | cons c front ih =>
    obtain ⟨cs', rfl, hcs'⟩ := List.cons_prefix_iff.1 hcs
    obtain ⟨es', rfl, hes'⟩ := List.cons_prefix_iff.1 hes
    cases ds with
    | nil => cases hlt
    | cons d ds =>
      rw [compareComponents] at hlt hlt'
      have hswap : d.compare c = (c.compare d).swap := Std.OrientedCmp.eq_swap
      rw [hswap] at hlt'
      cases hcd : c.compare d with
      | lt => simp [hcd] at hlt'
      | gt => simp [hcd] at hlt
      | eq =>
        obtain rfl := Std.LawfulEqCmp.eq_of_compare hcd
        rw [hcd] at hlt hlt'
        exact List.cons_prefix_cons.2 ⟨rfl, ih hcs' hes' hlt hlt'⟩

/-- Nothing comes before what it starts with. -/
theorem compareComponents_ne_lt_of_prefix (h : ds <+: cs) : compareComponents cs ds ≠ .lt := by
  induction ds generalizing cs with
  | nil => cases cs <;> exact nofun
  | cons d ds ih =>
    obtain ⟨cs', rfl, h'⟩ := List.cons_prefix_iff.1 h
    have hself : d.compare d = .eq := Std.ReflCmp.compare_self
    rw [compareComponents, hself]
    exact ih h'

/-- A list that another one starts with is the whole of it, or is there without its last element. -/
theorem eq_or_prefix_dropLast (h : front <+: cs) : front = cs ∨ front <+: cs.dropLast := by
  rcases cs.eq_nil_or_concat' with rfl | ⟨init, last, rfl⟩
  · exact .inl (List.prefix_nil.1 h)
  · rw [List.dropLast_concat]
    exact List.prefix_concat_iff.1 h

/-- Of four files in order, the first and the third in one folder and the second and the fourth in
    one, all lie in the same folder. -/
theorem dropLast_eq_of_alternating {fs gs : List Component} (hlt : compareComponents cs ds = .lt)
    (hlt' : compareComponents ds fs = .lt) (hlt'' : compareComponents fs gs = .lt)
    (hfirst : cs.dropLast = fs.dropLast) (hsecond : ds.dropLast = gs.dropLast) :
    cs.dropLast = ds.dropLast := by
  have hcs : cs.dropLast <+: ds := prefix_of_between (List.dropLast_prefix cs)
    (hfirst ▸ List.dropLast_prefix fs) hlt hlt'
  have hds : ds.dropLast <+: fs := prefix_of_between (List.dropLast_prefix ds)
    (hsecond ▸ List.dropLast_prefix gs) hlt' hlt''
  -- The folder of the first file is not the second file, which would stand in front of the first
  -- one; and the folder of the second file is not the third one.
  have hcs' : cs.dropLast <+: ds.dropLast := (eq_or_prefix_dropLast hcs).resolve_left fun heq =>
    compareComponents_ne_lt_of_prefix (heq ▸ List.dropLast_prefix cs) hlt
  have hds' : ds.dropLast <+: fs.dropLast := (eq_or_prefix_dropLast hds).resolve_left fun heq =>
    compareComponents_ne_lt_of_prefix (heq ▸ List.dropLast_prefix ds) hlt'
  exact hcs'.eq_of_length_le (hfirst ▸ hds'.length_le)

end Autofix.Path
