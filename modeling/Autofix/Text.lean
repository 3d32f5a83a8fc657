/-!
# Texts and byte offsets

A text is a list of characters; places in it are counted in bytes of its UTF-8 form. An offset is a
*boundary* of a text when it falls between two characters, or at an end.

* `Text.split?` cuts a text at a boundary, and only there (`split?_eq_some_iff`);
* `Text.slice?` is the part between two boundaries, and `Text.replace?` puts another text there
  (`slice?_eq_some_iff`, `replace?_eq_some_iff`).
-/

namespace Autofix.Text

/-- The number of bytes of a text. -/
def size : List Char → Nat
  | [] => 0
  | c :: cs => c.utf8Size + size cs

/-- Cuts a text at a byte offset; there is no cut inside a character or past the end. -/
def split? : List Char → Nat → Option (List Char × List Char)
  | cs, 0 => some ([], cs)
  | [], _ + 1 => none
  | c :: cs, n + 1 =>
    if c.utf8Size ≤ n + 1 then
      (split? cs (n + 1 - c.utf8Size)).map fun (before, after) => (c :: before, after)
    else none

/-- Whether an offset falls between two characters, or at an end. -/
def isBoundary (cs : List Char) (n : Nat) : Bool := (split? cs n).isSome

/-- The part of a text from one boundary to a later one. -/
def slice? (cs : List Char) (start stop : Nat) : Option (List Char) :=
  if start ≤ stop then do
    let (_, rest) ← split? cs start
    let (part, _) ← split? rest (stop - start)
    return part
  else none

/-- The text with the part from one boundary to a later one replaced. -/
def replace? (cs : List Char) (start stop : Nat) (new : List Char) : Option (List Char) :=
  if start ≤ stop then do
    let (before, rest) ← split? cs start
    let (_, after) ← split? rest (stop - start)
    return before ++ new ++ after
  else none

/-- Cuts a text at every occurrence of `sep`. -/
def fields (sep : Char) : List Char → List (List Char)
  | [] => [[]]
  | c :: rest =>
    match fields sep rest with
    | [] => [[c]]
    | f :: fs => if c = sep then [] :: f :: fs else (c :: f) :: fs

/-! ### Cutting a text -/

theorem size_append (as bs : List Char) : size (as ++ bs) = size as + size bs := by
  induction as with
  | nil => simp [size]
  | cons a as ih => simp [size, ih, Nat.add_assoc]

theorem split?_zero (cs : List Char) : split? cs 0 = some ([], cs) := by
  cases cs <;> rfl

/-- The cut lies after any first part, at the size of that part. -/
theorem split?_append (as bs : List Char) : split? (as ++ bs) (size as) = some (as, bs) := by
  induction as with
  | nil => exact split?_zero bs
  | cons a as ih =>
    have pos := a.utf8Size_pos
    obtain ⟨n, hn⟩ : ∃ n, a.utf8Size + size as = n + 1 := ⟨a.utf8Size + size as - 1, by omega⟩
    have le : a.utf8Size ≤ n + 1 := by omega
    have rest : n + 1 - a.utf8Size = size as := by omega
    simp [size, hn, split?, le, rest, ih]

/-- A cut loses nothing, and its first part has the size that was asked for. -/
theorem eq_append_of_split? {cs as bs : List Char} {n : Nat} (h : split? cs n = some (as, bs)) :
    cs = as ++ bs ∧ size as = n := by
  induction cs generalizing n as bs with
  | nil =>
    cases n with
    | zero => simp_all [split?, size]
    | succ n => simp [split?] at h
  | cons c cs ih =>
    cases n with
    | zero => simp_all [split?, size]
    | succ n =>
      simp only [split?] at h
      split at h
      · obtain ⟨⟨as', bs'⟩, h', eq⟩ := Option.map_eq_some_iff.1 h
        obtain ⟨rfl, rfl⟩ := Prod.mk.inj eq
        obtain ⟨rfl, size_eq⟩ := ih h'
        exact ⟨rfl, by simp only [size]; omega⟩
      · exact absurd h (by simp)

theorem split?_eq_some_iff {cs as bs : List Char} {n : Nat} :
    split? cs n = some (as, bs) ↔ cs = as ++ bs ∧ size as = n :=
  ⟨eq_append_of_split?, fun ⟨h, hn⟩ => h ▸ hn ▸ split?_append as bs⟩

theorem isBoundary_iff {cs : List Char} {n : Nat} :
    isBoundary cs n ↔ ∃ as bs, cs = as ++ bs ∧ size as = n := by
  simp [isBoundary, Option.isSome_iff_exists, split?_eq_some_iff]

theorem eq_nil_of_size_eq_zero {cs : List Char} (h : size cs = 0) : cs = [] := by
  cases cs with
  | nil => rfl
  | cons c cs =>
    have pos := c.utf8Size_pos
    simp only [size] at h
    omega

/-- Of two cuts of a text, the part before the earlier one is a beginning of the part before the
    later one. -/
theorem exists_middle {as bs as' bs' : List Char} (h : as ++ bs = as' ++ bs')
    (hle : size as ≤ size as') : ∃ mid, as' = as ++ mid ∧ bs = mid ++ bs' := by
  rcases List.append_eq_append_iff.1 h with ⟨mid, rfl, rfl⟩ | ⟨mid, rfl, rfl⟩
  · exact ⟨mid, rfl, rfl⟩
  · rw [size_append] at hle
    obtain rfl : mid = [] := eq_nil_of_size_eq_zero (by omega)
    exact ⟨[], by simp, by simp⟩

/-- Two cuts of a text at one offset are the same. -/
theorem append_inj_of_size {as bs as' bs' : List Char} (h : as ++ bs = as' ++ bs')
    (hsize : size as = size as') : as = as' ∧ bs = bs' := by
  obtain ⟨mid, rfl, rfl⟩ := exists_middle h (Nat.le_of_eq hsize)
  rw [size_append] at hsize
  obtain rfl : mid = [] := eq_nil_of_size_eq_zero (by omega)
  exact ⟨(List.append_nil as).symm, List.nil_append bs'⟩

/-- A slice is what lies between two boundaries. -/
theorem slice?_eq_some_iff {cs part : List Char} {start stop : Nat} :
    slice? cs start stop = some part ↔
      ∃ before after, cs = before ++ part ++ after ∧ size before = start ∧
        size before + size part = stop := by
  constructor
  · intro h
    unfold slice? at h
    split at h
    · simp only [Option.bind_eq_bind, Option.bind_eq_some_iff] at h
      obtain ⟨⟨before, rest⟩, hbefore, ⟨part', after⟩, hafter, hpart⟩ := h
      obtain ⟨rfl, rfl⟩ := eq_append_of_split? hbefore
      obtain ⟨rfl, hsize⟩ := eq_append_of_split? hafter
      obtain rfl : part' = part := by simpa using hpart
      exact ⟨before, after, by simp, rfl, by omega⟩
    · exact absurd h (by simp)
  · rintro ⟨before, after, rfl, rfl, rfl⟩
    have left := split?_append before (part ++ after)
    simp [slice?, List.append_assoc, left, split?_append]

/-- A replacement keeps what lies before and after the part that it takes away. -/
theorem replace?_eq_some_iff {cs new out : List Char} {start stop : Nat} :
    replace? cs start stop new = some out ↔
      ∃ before mid after, cs = before ++ mid ++ after ∧ size before = start ∧
        size before + size mid = stop ∧ out = before ++ new ++ after := by
  constructor
  · intro h
    unfold replace? at h
    split at h
    · simp only [Option.bind_eq_bind, Option.bind_eq_some_iff] at h
      obtain ⟨⟨before, rest⟩, hbefore, ⟨mid, after⟩, hafter, hout⟩ := h
      obtain ⟨rfl, rfl⟩ := eq_append_of_split? hbefore
      obtain ⟨rfl, hsize⟩ := eq_append_of_split? hafter
      obtain rfl : before ++ (new ++ after) = out := by simpa using hout
      exact ⟨before, mid, after, by simp, rfl, by omega, by simp⟩
    · exact absurd h (by simp)
  · rintro ⟨before, mid, after, rfl, rfl, rfl, rfl⟩
    have left := split?_append before (mid ++ after)
    simp [replace?, List.append_assoc, left, split?_append]

/-- What is put behind a text is in no slice of the text. -/
theorem slice?_append_left {as : List Char} {start stop : Nat} (bs : List Char)
    (h : stop ≤ size as) : slice? (as ++ bs) start stop = slice? as start stop := by
  ext part
  rw [slice?_eq_some_iff, slice?_eq_some_iff]
  constructor
  · rintro ⟨before, after, hcut, rfl, rfl⟩
    obtain ⟨mid, rfl, -⟩ := exists_middle hcut.symm (by rw [size_append]; exact h)
    exact ⟨before, mid, by simp, rfl, rfl⟩
  · rintro ⟨before, after, rfl, rfl, rfl⟩
    exact ⟨before, after ++ bs, by simp, rfl, rfl⟩

/-- Between two boundaries lies a part of the text. -/
theorem exists_slice? {cs : List Char} {start stop : Nat} (hstart : isBoundary cs start)
    (hstop : isBoundary cs stop) (hle : start ≤ stop) :
    ∃ part, slice? cs start stop = some part := by
  obtain ⟨before, rest, rfl, rfl⟩ := isBoundary_iff.1 hstart
  obtain ⟨before', after, hcut, rfl⟩ := isBoundary_iff.1 hstop
  obtain ⟨part, rfl, rfl⟩ := exists_middle hcut hle
  exact ⟨part, slice?_eq_some_iff.2 ⟨before, after, by simp, rfl, (size_append _ _).symm⟩⟩

/-- Two parts of a text that touch make up one. -/
theorem slice?_append {cs part next : List Char} {start mid stop : Nat}
    (h : slice? cs start mid = some part) (h' : slice? cs mid stop = some next) :
    slice? cs start stop = some (part ++ next) := by
  obtain ⟨before, rest, rfl, rfl, rfl⟩ := slice?_eq_some_iff.1 h
  obtain ⟨before', after, hcut, hsize, rfl⟩ := slice?_eq_some_iff.1 h'
  rw [List.append_assoc before'] at hcut
  obtain ⟨rfl, rfl⟩ := append_inj_of_size hcut (by rw [size_append]; exact hsize.symm)
  refine slice?_eq_some_iff.2 ⟨before, after, by simp, rfl, ?_⟩
  simp only [size_append]
  omega

/-- The slice of everything. -/
theorem slice?_self (cs : List Char) : slice? cs 0 (size cs) = some cs :=
  slice?_eq_some_iff.2 ⟨[], [], by simp, rfl, by simp [size]⟩

/-- The slice from a cut to the end. -/
theorem slice?_end (as bs : List Char) :
    slice? (as ++ bs) (size as) (size (as ++ bs)) = some bs :=
  slice?_eq_some_iff.2 ⟨as, [], by simp, rfl, (size_append as bs).symm⟩

end Autofix.Text
