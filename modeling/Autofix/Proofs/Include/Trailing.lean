import Autofix.Proofs.Include.Segments

/-!
# Patterns that end in a separator

A pattern that takes the whole path of a directory selects everything below it, as a match may end
before a separator. With a separator at its own end, the pattern has one more segment, an empty one,
and what it takes of a path ends in a separator (`endsApart_of_takesAll`). A match must end there,
too, so that an empty name follows: the pattern selects the path of the directory with a separator
behind it, and nothing that is made up of names only (`isMatch_trailing`).
-/

namespace Autofix.Include

variable {c : Char} {ps : List (List Char)} {qs : List Piece} {text rest tail : List Char}
  {pattern path : String}

/-! ### What pieces leave -/

theorem Piece.Takes.suffix {q : Piece} (h : q.Takes text rest) : rest <:+ text := by
  cases q with
  | literal c =>
    obtain rfl : text = c :: rest := h
    exact List.suffix_cons _ _
  | run | reach =>
    obtain ⟨run, -, rfl⟩ := h
    exact List.suffix_append _ _
  | folders =>
    rcases h with rfl | ⟨run, c, -, -, -, rfl⟩
    · exact List.suffix_rfl
    · exact (List.suffix_cons _ _).trans (List.suffix_append _ _)
  | separator =>
    obtain ⟨c, -, rfl⟩ := h
    exact List.suffix_cons _ _

theorem TakesAll.suffix (h : TakesAll qs text rest) : rest <:+ text := by
  induction qs generalizing text with
  | nil =>
    obtain rfl : text = rest := h
    exact List.suffix_rfl
  | cons q qs ih =>
    obtain ⟨mid, hq, hqs⟩ := h
    exact (ih hqs).trans hq.suffix

/-- What pieces take does not depend on what stands behind the rest. -/
theorem Piece.Takes.append {q : Piece} (h : q.Takes text rest) (tail : List Char) :
    q.Takes (text ++ tail) (rest ++ tail) := by
  cases q with
  | literal c =>
    obtain rfl : text = c :: rest := h
    exact List.cons_append
  | run | reach =>
    obtain ⟨run, hrun, rfl⟩ := h
    exact ⟨run, hrun, List.append_assoc _ _ _⟩
  | folders =>
    rcases h with rfl | ⟨run, c, hne, hrun, hc, rfl⟩
    · exact .inl rfl
    · exact .inr ⟨run, c, hne, hrun, hc, by rw [List.append_assoc, List.cons_append]⟩
  | separator =>
    obtain ⟨c, hc, rfl⟩ := h
    exact ⟨c, hc, List.cons_append⟩

theorem TakesAll.append (h : TakesAll qs text rest) (tail : List Char) :
    TakesAll qs (text ++ tail) (rest ++ tail) := by
  induction qs generalizing text with
  | nil =>
    obtain rfl : text = rest := h
    rfl
  | cons q qs ih =>
    obtain ⟨mid, hq, hqs⟩ := h
    exact ⟨mid ++ tail, hq.append tail, ih hqs⟩

/-! ### One more segment -/

/-- The pieces of a pattern that has an empty segment behind the given ones. -/
def trailed (ps : List (List Char)) : List Piece := segmentPieces (ps ++ [[]])

theorem onward_trailed (ps : List (List Char)) : onward (ps ++ [[]]) = .separator :: trailed ps :=
  if_neg (List.append_ne_nil_of_right_ne_nil _ (List.cons_ne_nil _ _))

theorem trailed_folders (ps : List (List Char)) :
    trailed (['*', '*'] :: ps) = .folders :: trailed ps :=
  segmentPieces_folders (List.append_ne_nil_of_right_ne_nil _ (List.cons_ne_nil _ _))

theorem pieces_append_slash (pattern : String) :
    pieces (pattern ++ "/") = trailed (segments pattern.toList) := by
  have hsegments : (pattern.toList ++ ['/']).splitOnP isSeparator =
      pattern.toList.splitOnP isSeparator ++ [[]] := List.splitOnP_append_cons _ [] (by decide)
  rw [pieces, trailed, String.toList_append, segments_eq_splitOnP, segments_eq_splitOnP]
  exact congrArg segmentPieces hsegments

/-- Nothing has been taken of a text, or something that ends in a separator. -/
def EndsApart (text rest : List Char) : Prop :=
  text = rest ∨ ∃ before c, isSeparator c ∧ text = before ++ c :: rest

theorem EndsApart.behind (h : EndsApart text rest) (hc : isSeparator c) (run : List Char) :
    EndsApart (run ++ c :: text) rest := by
  rcases h with rfl | ⟨before, d, hd, rfl⟩
  · exact .inr ⟨run, c, hc, rfl⟩
  · exact .inr ⟨run ++ c :: before, d, hd, by simp⟩

/-- With an empty segment at its end, a pattern takes what ends in a separator. -/
theorem endsApart_of_takesAll (h : TakesAll (trailed ps) text rest) : EndsApart text rest := by
  induction ps generalizing text with
  | nil => exact .inl h
  | cons p ps ih =>
    have honward : ∀ {qs : List Piece} {text},
        TakesAll (qs ++ onward (ps ++ [[]])) text rest → EndsApart text rest := by
      intro qs text h
      rw [onward_trailed, takesAll_append] at h
      obtain ⟨_, hqs, mid, ⟨c, hc, rfl⟩, hmid⟩ := h
      obtain ⟨run, rfl⟩ := hqs.suffix
      exact (ih hmid).behind hc run
    rcases segment_cases p with rfl | ⟨more, hmore, rfl⟩ | hplain
    · rw [trailed_folders] at h
      obtain ⟨mid, hfolders, hmid⟩ := h
      rcases hfolders with rfl | ⟨run, c, -, -, hc, rfl⟩
      · exact ih hmid
      · exact (ih hmid).behind hc run
    · rw [trailed, List.cons_append, segmentPieces_reach hmore, ← List.cons_append] at h
      exact honward h
    · rw [trailed, List.cons_append, segmentPieces_plain hplain] at h
      exact honward h

/-- A pattern that takes a text up to a separator, behind which a name is empty, still selects the
    text with an empty segment at its end. -/
theorem selects_trailed (hne : ps ≠ []) (hc : isSeparator c) (hrest : Closed rest)
    (h : TakesAll (segmentPieces ps) text (c :: rest)) : Selects (trailed ps) text := by
  induction ps generalizing text with
  | nil => exact absurd rfl hne
  | cons p ps ih =>
    have honward : ∀ {qs : List Piece} {text},
        TakesAll (qs ++ onward ps) text (c :: rest) → Selects (qs ++ onward (ps ++ [[]])) text := by
      intro qs text h
      obtain ⟨mid, hqs, hmid⟩ := takesAll_append.1 h
      refine selects_append.2 ⟨mid, hqs, ?_⟩
      rw [onward] at hmid
      rw [onward_trailed, selects_cons]
      split_ifs at hmid with hps
      · obtain rfl : mid = c :: rest := hmid
        exact ⟨rest, ⟨c, hc, rfl⟩, hps ▸ selects_nil.2 hrest⟩
      · obtain ⟨next, hseparator, hnext⟩ := hmid
        exact ⟨next, hseparator, ih hps hnext⟩
    rcases segment_cases p with rfl | ⟨more, hmore, rfl⟩ | hplain
    · rw [trailed_folders, selects_cons]
      by_cases hps : ps = []
      · subst hps
        obtain ⟨mid, ⟨run, hrun, rfl⟩, hmid⟩ := h
        obtain rfl : mid = c :: rest := hmid
        -- Folders are a run and the separator behind it; where the run is empty, there are none.
        by_cases hempty : run = []
        · exact ⟨_, .inl rfl, selects_nil.2 (.inr ⟨c, rest, hc, by rw [hempty]; rfl⟩)⟩
        · exact ⟨rest, .inr ⟨run, c, hempty, hrun, hc, rfl⟩, selects_nil.2 hrest⟩
      · rw [segmentPieces_folders hps] at h
        obtain ⟨mid, hfolders, hmid⟩ := h
        exact ⟨mid, hfolders, ih hps hmid⟩
    · rw [segmentPieces_reach hmore, ← List.cons_append] at h
      rw [trailed, List.cons_append, segmentPieces_reach hmore, ← List.cons_append]
      exact honward h
    · rw [segmentPieces_plain hplain] at h
      rw [trailed, List.cons_append, segmentPieces_plain hplain]
      exact honward h

/-! ### What is below a directory -/

/-- A pattern takes a path from its start to its end. -/
def TakesWhole (pattern path : String) : Prop := TakesAll (pieces pattern) path.toList []

/-- A path is made up of names, none of which is empty. -/
def Named (path : String) : Prop := ∀ name ∈ path.toList.splitOnP isSeparator, name ≠ []

instance (path : String) : Decidable (Named path) :=
  inferInstanceAs (Decidable (∀ name ∈ path.toList.splitOnP isSeparator, _))

theorem Named.below {d r : String} (hd : Named d) (hr : Named r) : Named (d ++ "/" ++ r) := by
  have hsegments : (d ++ "/" ++ r).toList.splitOnP isSeparator =
      d.toList.splitOnP isSeparator ++ r.toList.splitOnP isSeparator := by
    have htext : (d ++ "/" ++ r).toList = d.toList ++ '/' :: r.toList := by simp
    rw [htext, List.splitOnP_append_cons _ _ (by decide)]
  rw [Named, hsegments]
  exact List.forall_mem_append.2 ⟨hd, hr⟩

/-- Where a match ends right behind a separator, or where nothing is matched, a name is empty. -/
theorem nil_mem_of_endsApart (h : EndsApart text rest) (hrest : Closed rest) :
    [] ∈ text.splitOnP isSeparator := by
  have hclosed : [] ∈ rest.splitOnP isSeparator := by
    rcases hrest with rfl | ⟨c, cs, hc, rfl⟩
    · exact List.mem_singleton_self []
    · rw [List.splitOnP_cons_eq_if_modifyHead, if_pos hc]
      exact List.mem_cons_self
  rcases h with rfl | ⟨before, c, hc, rfl⟩
  · exact hclosed
  · rw [List.splitOnP_append_cons _ _ hc]
    exact List.mem_append_right _ hclosed

theorem Named.not_selects_trailed (h : Named path) : ¬Selects (trailed ps) path.toList := by
  rintro ⟨rest, htakes, hrest⟩
  exact h [] (nil_mem_of_endsApart (endsApart_of_takesAll htakes) hrest) rfl

/-- A single pattern is read, unless its expression is too large, and selects what its pieces do. -/
theorem exists_matcher (hsize : Regex.read? {} (source [pattern]) ≠ .error .tooLarge) :
    ∃ m, Matcher.ofPatterns? [pattern] = .ok m ∧
      ∀ path : String, m.isMatch path ↔ Selects (pieces pattern) path.toList := by
  obtain ⟨r, hr, hmatch⟩ := exists_read?_source (List.cons_ne_nil _ _) hsize
  refine ⟨⟨source [pattern], r⟩, by simp only [Matcher.ofPatterns?, hr], fun path => ?_⟩
  rw [Matcher.isMatch, hmatch]
  simp only [List.mem_singleton, exists_eq_left, Selects]

/-- Below a path that it takes as a whole a pattern selects everything. With a separator at its end
    it selects that path with a separator behind it, but nothing that is made up of names; so it
    selects what is below such paths only if there are none. -/
theorem isMatch_trailing (hsize : Regex.read? {} (source [pattern]) ≠ .error .tooLarge)
    (hsize' : Regex.read? {} (source [pattern ++ "/"]) ≠ .error .tooLarge) :
    ∃ m m', Matcher.ofPatterns? [pattern] = .ok m ∧ Matcher.ofPatterns? [pattern ++ "/"] = .ok m' ∧
      (∀ d r, TakesWhole pattern d → m.isMatch (d ++ "/" ++ r) ∧ m'.isMatch (d ++ "/")) ∧
      (∀ path, Named path → ¬m'.isMatch path) ∧
      ((∀ d r, Named d → Named r → TakesWhole pattern d → m'.isMatch (d ++ "/" ++ r)) ↔
        ∀ d, Named d → ¬TakesWhole pattern d) := by
  obtain ⟨m, hm, hmatch⟩ := exists_matcher hsize
  obtain ⟨m', hm', hmatch'⟩ := exists_matcher hsize'
  rw [pieces_append_slash] at hmatch'
  have hnone : ∀ path, Named path → ¬m'.isMatch path := fun path hpath h =>
    hpath.not_selects_trailed ((hmatch' path).1 h)
  refine ⟨m, m', hm, hm', ?_, hnone, ?_⟩
  · intro d r hd
    have hbehind := fun cs => hd.append ('/' :: cs)
    constructor
    · refine (hmatch _).2 ⟨'/' :: r.toList, ?_, .inr ⟨'/', _, by decide, rfl⟩⟩
      simpa using hbehind r.toList
    · have hsegments : segments pattern.toList ≠ [] := by
        rw [segments_eq_splitOnP]
        exact List.splitOnP_ne_nil _ _
      rw [hmatch', String.toList_append]
      exact selects_trailed hsegments (by decide : isSeparator '/') (.inl rfl) (hbehind [])
  · constructor
    · intro hall d hd htakes
      -- Below any path that the pattern takes, already the name `a` is not selected.
      have hnamed : Named "a" := by decide
      exact hnone _ (hd.below hnamed) (hall d "a" hd hnamed htakes)
    · intro hnever d r hd _ htakes
      exact absurd htakes (hnever d hd)

/-! ### A directory with a separator behind it -/

theorem read?_source_src : Regex.read? {} (source ["src"]) ≠ .error .tooLarge :=
  read?_source_ne_tooLarge (List.cons_ne_nil _ _) (by cbv)

theorem read?_source_src_slash : Regex.read? {} (source ["src" ++ "/"]) ≠ .error .tooLarge :=
  read?_source_ne_tooLarge (List.cons_ne_nil _ _) (by cbv)

theorem takesWhole_src : TakesWhole "src" "src" :=
  ⟨_, rfl, _, rfl, _, rfl, rfl⟩

theorem isMatch_trailing_src : ∃ m m',
    Matcher.ofPatterns? ["src"] = .ok m ∧ Matcher.ofPatterns? ["src" ++ "/"] = .ok m' ∧
      m.isMatch ("src" ++ "/" ++ "a.ts") ∧ m'.isMatch ("src" ++ "/") ∧
      ¬m'.isMatch ("src" ++ "/" ++ "a.ts") := by
  obtain ⟨m, m', hm, hm', hbelow, hnamed, -⟩ :=
    isMatch_trailing read?_source_src read?_source_src_slash
  obtain ⟨hselected, htrailed⟩ := hbelow "src" "a.ts" takesWhole_src
  exact ⟨m, m', hm, hm', hselected, htrailed, hnamed _ (by decide)⟩

/-- With a separator behind it, the name of a directory selects nothing in the directory. -/
theorem not_isMatch_below_src : Named "src" ∧ Named "a.ts" ∧ TakesWhole "src" "src" ∧
    ∃ m, Matcher.ofPatterns? ["src" ++ "/"] = .ok m ∧ ¬m.isMatch ("src" ++ "/" ++ "a.ts") := by
  obtain ⟨m, hm, hmatch⟩ := exists_matcher read?_source_src_slash
  rw [pieces_append_slash] at hmatch
  have hbelow : Named ("src" ++ "/" ++ "a.ts") := by decide
  exact ⟨by decide, by decide, takesWhole_src, m, hm, (hmatch _).not.2 hbelow.not_selects_trailed⟩

end Autofix.Include
