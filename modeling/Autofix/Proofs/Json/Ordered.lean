import Autofix.Json.Decode
import Autofix.Json.Reader
import Autofix.Proofs.Dictionary
import Autofix.Traced

/-!
# The order of the fields that are read

In a value read from a text, the fields of each object stand in the order of their names, and no
name stands twice (`Json.ordered_of_read?`). A record is decoded field by field from such values:
what each field keeps holds in the end (`invariant_of_decodeRecord`), and where each field is taken
over as it is written, so is the record (`decodeRecord_takesOver`).
-/

namespace Autofix

namespace Json

/-- In each object in a value the names ascend. -/
inductive Ordered : Json → Prop
  | null : Ordered .null
  | bool (b : Bool) : Ordered (.bool b)
  | number (n : Number) : Ordered (.number n)
  | string (s : String) : Ordered (.string s)
  | array {items : List Json} (h : ∀ v ∈ items, Ordered v) : Ordered (.array items)
  | record {fields : List (String × Json)} (hnames : Dictionary.Ascending fields)
      (h : ∀ a ∈ fields, Ordered a.2) : Ordered (.record fields)

theorem ordered_object {fields : List (String × Json)} (h : ∀ a ∈ fields, Ordered a.2) :
    Ordered (object fields) := by
  refine .record (Dictionary.ascending_ofList fields) fun a ha => ?_
  rcases Dictionary.mem_merge ha with ha | ha
  · exact absurd ha List.not_mem_nil
  · exact h a ha

theorem ordered_ofNumberText (text : String) : Ordered (ofNumberText text) := by
  have hdecimal : ∀ negative body, Ordered (ofNumberText.decimal negative body text) := by
    intro negative body
    rw [ofNumberText.decimal]
    grind [Ordered]
  rw [ofNumberText]
  grind [Ordered]

theorem atEnd_ne_ok {α : Type} (tail : Tail) (fault : Nat → Bad) (a : α) :
    atEnd tail fault ≠ .ok a := by
  cases tail <;> simp [atEnd]

section

variable {tail : Tail} {missing : Nat → Bad} {fuel start : Nat} {ts rest : List (Nat × Token)}

theorem ordered_of_value_succ
    (hfields : ∀ start ts fs rest, fields tail start fuel ts = .ok (fs, rest) →
      ∀ a ∈ fs, Ordered a.2)
    (hitems : ∀ start ts vs rest, items tail start fuel ts = .ok (vs, rest) → ∀ v ∈ vs, Ordered v)
    {v : Json} (h : value tail missing (fuel + 1) ts = .ok (v, rest)) : Ordered v := by
  rcases ts with _ | ⟨⟨place, t⟩, ts⟩
  · exact absurd h (atEnd_ne_ok _ _ _)
  cases t with
  | openBrace =>
    obtain ⟨⟨fs, _⟩, hread, h⟩ := bind_eq_ok_iff.1 h
    obtain ⟨rfl, -⟩ := Prod.mk.inj (Except.ok.inj h)
    exact ordered_object (hfields _ _ _ _ hread)
  | openBracket =>
    obtain ⟨⟨vs, _⟩, hread, h⟩ := bind_eq_ok_iff.1 h
    obtain ⟨rfl, -⟩ := Prod.mk.inj (Except.ok.inj h)
    exact .array (hitems _ _ _ _ hread)
  | string s =>
    obtain ⟨rfl, -⟩ := Prod.mk.inj (Except.ok.inj h)
    exact .string s
  | number s =>
    obtain ⟨rfl, -⟩ := Prod.mk.inj (Except.ok.inj h)
    exact ordered_ofNumberText s
  | bool b =>
    obtain ⟨rfl, -⟩ := Prod.mk.inj (Except.ok.inj h)
    exact .bool b
  | null =>
    obtain ⟨rfl, -⟩ := Prod.mk.inj (Except.ok.inj h)
    exact .null
  | closeBracket | closeBrace | comma | colon | word => cases h

theorem ordered_of_fields_succ
    (hvalue : ∀ missing ts v rest, value tail missing fuel ts = .ok (v, rest) → Ordered v)
    (hfields : ∀ start ts fs rest, fields tail start fuel ts = .ok (fs, rest) →
      ∀ a ∈ fs, Ordered a.2)
    {fs : List (String × Json)} (h : fields tail start (fuel + 1) ts = .ok (fs, rest)) :
    ∀ a ∈ fs, Ordered a.2 := by
  rcases ts with _ | ⟨⟨place, t⟩, ts⟩
  · exact absurd h (atEnd_ne_ok _ _ _)
  unfold fields at h
  dsimp only at h
  split at h
  · obtain ⟨rfl, -⟩ := Prod.mk.inj (Except.ok.inj h)
    exact fun a ha => absurd ha List.not_mem_nil
  any_goals cases h
  -- The name may be a string, a bare word or a number; what follows is the same.
  all_goals
    split at h
    · exact absurd h (atEnd_ne_ok _ _ _)
    · obtain ⟨⟨v, _⟩, hv, h⟩ := bind_eq_ok_iff.1 h
      obtain ⟨⟨more, _⟩, hmore, h⟩ := bind_eq_ok_iff.1 h
      obtain ⟨rfl, -⟩ := Prod.mk.inj (Except.ok.inj h)
      exact List.forall_mem_cons.2 ⟨hvalue _ _ _ _ hv, hfields _ _ _ _ hmore⟩
    · cases h

theorem ordered_of_items_succ
    (hvalue : ∀ missing ts v rest, value tail missing fuel ts = .ok (v, rest) → Ordered v)
    (hitems : ∀ start ts vs rest, items tail start fuel ts = .ok (vs, rest) → ∀ v ∈ vs, Ordered v)
    {vs : List Json} (h : items tail start (fuel + 1) ts = .ok (vs, rest)) :
    ∀ v ∈ vs, Ordered v := by
  rcases ts with _ | ⟨⟨place, t⟩, ts⟩
  · exact absurd h (atEnd_ne_ok _ _ _)
  unfold items at h
  split at h
  · obtain ⟨rfl, -⟩ := Prod.mk.inj (Except.ok.inj h)
    exact fun v hv => absurd hv List.not_mem_nil
  · obtain ⟨⟨v, _⟩, hv, h⟩ := bind_eq_ok_iff.1 h
    obtain ⟨⟨more, _⟩, hmore, h⟩ := bind_eq_ok_iff.1 h
    obtain ⟨rfl, -⟩ := Prod.mk.inj (Except.ok.inj h)
    exact List.forall_mem_cons.2 ⟨hvalue _ _ _ _ hv, hitems _ _ _ _ hmore⟩

end

/-- Whatever is read with some fuel is ordered: values, fields and items. -/
theorem ordered_of_fuel (tail : Tail) (fuel : Nat) :
    (∀ missing ts v rest, value tail missing fuel ts = .ok (v, rest) → Ordered v) ∧
    (∀ start ts fs rest, fields tail start fuel ts = .ok (fs, rest) → ∀ a ∈ fs, Ordered a.2) ∧
    (∀ start ts vs rest, items tail start fuel ts = .ok (vs, rest) → ∀ v ∈ vs, Ordered v) := by
  induction fuel with
  | zero =>
    refine ⟨fun _ _ _ _ h => absurd h (atEnd_ne_ok _ _ _), fun _ _ _ _ h => ?_, fun _ _ _ _ h => ?_⟩
    · cases h
    · cases h
  | succ fuel ih =>
    obtain ⟨hvalue, hfields, hitems⟩ := ih
    exact ⟨fun _ _ _ _ => ordered_of_value_succ hfields hitems,
      fun _ _ _ _ => ordered_of_fields_succ hvalue hfields,
      fun _ _ _ _ => ordered_of_items_succ hvalue hitems⟩

/-- In a value read from a text the fields of each object stand in the order of their names. -/
theorem ordered_of_read? {text : String} {v : Json} (h : read? text = .ok (some v)) :
    Ordered v := by
  have hread : readTokens (tokens text.toList) = .ok (some v) := by
    unfold read? at h
    dsimp only at h
    split at h
    · rename_i read hread
      rw [hread, Except.ok.inj h]
    · cases h
  unfold readTokens at hread
  split at hread
  · cases hread
  · cases hread
  · obtain ⟨⟨v', left⟩, hvalue, hread⟩ := bind_eq_ok_iff.1 hread
    dsimp only at hread
    split at hread
    · cases hread
    · cases hread
    · obtain rfl := Option.some.inj (Except.ok.inj hread)
      exact (ordered_of_fuel _ _).1 _ _ _ _ hvalue

end Json

/-! ### Records -/

/-- What each step over a list keeps, all steps together keep. -/
theorem invariant_of_foldlM {σ α ε : Type} {P : σ → Prop} {f : σ → α → Except ε σ} {l : List α}
    {s t : σ} (hs : P s) (hstep : ∀ s, ∀ a ∈ l, ∀ t, P s → f s a = .ok t → P t)
    (h : l.foldlM f s = .ok t) : P t := by
  induction l generalizing s with
  | nil => exact Except.ok.inj h ▸ hs
  | cons a l ih =>
    obtain ⟨u, hu, h⟩ := bind_eq_ok_iff.1 (List.foldlM_cons.symm.trans h)
    exact ih (hstep s a List.mem_cons_self u hs hu)
      (fun s b hb => hstep s b (List.mem_cons_of_mem _ hb)) h

/-- What the fields of a record keep, each read from an ordered value, holds in the end. -/
theorem invariant_of_decodeRecord {σ α : Type} {type : String} {names : List String} {start : σ}
    {take : σ → String → Json → Except DecodeError σ} {other : String → Except DecodeError Unit}
    {finish : Shape → σ → Except DecodeError α} {v : Json} {a : α} {P : σ → Prop} {Q : α → Prop}
    (hstart : P start) (htake : ∀ s name w t, P s → w.Ordered → take s name w = .ok t → P t)
    (hfinish : ∀ shape s a, P s → finish shape s = .ok a → Q a) (hv : v.Ordered)
    (h : decodeRecord type names start take other finish v = .ok a) : Q a := by
  cases hv with
  | record _ hfields =>
    obtain ⟨known, hknown, h⟩ := bind_eq_ok_iff.1 h
    refine hfinish _ _ _ (invariant_of_foldlM hstart (fun s b hb t hs hstep => ?_) hknown) h
    obtain ⟨name, w⟩ := b
    by_cases hname : names.contains name
    · exact htake s name w t hs (hfields _ hb) (by simpa only [hname, if_true] using hstep)
    · simp only [hname] at hstep
      obtain ⟨-, -, hstep⟩ := bind_eq_ok_iff.1 hstep
      exact Except.ok.inj hstep ▸ hs
  | array hitems =>
    obtain ⟨known, hknown, h⟩ := bind_eq_ok_iff.1 h
    obtain ⟨b, hb, h⟩ := bind_eq_ok_iff.1 h
    split at h
    · cases h
    · obtain rfl := Except.ok.inj h
      refine hfinish _ _ _ (invariant_of_foldlM hstart (fun s b hb t hs hstep => ?_) hknown) hb
      exact htake s b.1 b.2 t hs (hitems b.2 (List.of_mem_zip hb).2) hstep
  | null | bool | number | string => cases h

/-- A step takes a field over: from then on it is shown as it is written, and the others are shown
    as they were. `shows` says of a state what is known of the field of a name. -/
structure TakesOver {σ : Type} (names : List String) (shows : σ → String → Option Json → Prop)
    (field : String × Json) (s t : σ) : Prop where
  shown : field.1 ∈ names → shows t field.1 (some field.2)
  others : ∀ name ∈ names, name ≠ field.1 → ∀ w, shows s name w → shows t name w

section

variable {σ α ε : Type} {names : List String} {shows : σ → String → Option Json → Prop}
  {entries : List (String × Json)}

/-- Where each step takes a field of an object over, all of them are shown in the end, on top of
    what has been `seen` before. A step may also fail, and then that is what comes out. -/
theorem foldlM_takesOver {f : σ → String × Json → Except ε σ} {Bad : String × Json → ε → Prop}
    (hentries : Dictionary.Ascending entries)
    (hstep : ∀ s, ∀ a ∈ entries, (∃ t, f s a = .ok t ∧ TakesOver names shows a s t) ∨
      ∃ e, f s a = .error e ∧ Bad a e)
    {seen : String → Option Json} {s : σ} (hs : ∀ name ∈ names, shows s name (seen name)) :
    (∃ t, entries.foldlM f s = .ok t ∧
      ∀ name ∈ names, shows t name ((Dictionary.get? entries name).or (seen name))) ∨
    ∃ a ∈ entries, ∃ e, Bad a e ∧ entries.foldlM f s = .error e := by
  induction entries generalizing s seen with
  | nil => exact .inl ⟨s, rfl, hs⟩
  | cons a entries ih =>
    rw [List.foldlM_cons]
    rcases hstep s a List.mem_cons_self with ⟨t, ht, htakes⟩ | ⟨e, he, hbad⟩
    · have hseen : ∀ name ∈ names, shows t name (if name = a.1 then some a.2 else seen name) := by
        intro name hname
        split_ifs with heq
        · subst heq
          exact htakes.shown hname
        · exact htakes.others name hname heq _ (hs name hname)
      rw [ht]
      have hstep' := fun s b hb => hstep s b (List.mem_cons_of_mem _ hb)
      refine (ih hentries.tail hstep' hseen).imp ?_ ?_
      · rintro ⟨u, hu, hshown⟩
        refine ⟨u, hu, fun name hname => ?_⟩
        rw [Dictionary.get?_cons]
        have hshown := hshown name hname
        split_ifs at hshown ⊢ with heq
        · -- No other field has this name.
          rwa [heq, Dictionary.get?_eq_none_of_forall_lt (List.pairwise_cons.1 hentries).1,
            Option.none_or, ← heq] at hshown
        · exact hshown
      · rintro ⟨b, hb, e, hbad, he⟩
        exact ⟨b, List.mem_cons_of_mem _ hb, e, hbad, he⟩
    · rw [he]
      exact .inr ⟨a, List.mem_cons_self, e, hbad, rfl⟩

variable (shows) in
/-- A record is decoded from an object whose fields are all taken over, or fails with what goes
    wrong for one of them. -/
theorem decodeRecord_takesOver (Bad : String × Json → DecodeError → Prop) {type : String}
    {start : σ} {take : σ → String → Json → Except DecodeError σ}
    {other : String → Except DecodeError Unit} {finish : Shape → σ → Except DecodeError α}
    {Q : α → Prop} (hentries : Dictionary.Ascending entries)
    (hother : ∀ a ∈ entries, a.1 ∉ names → other a.1 = .ok ())
    (hstart : ∀ name ∈ names, shows start name none)
    (htake : ∀ s, ∀ a ∈ entries, a.1 ∈ names →
      (∃ t, take s a.1 a.2 = .ok t ∧ TakesOver names shows a s t) ∨
      ∃ e, take s a.1 a.2 = .error e ∧ Bad a e)
    (hfinish : ∀ s, (∀ name ∈ names, shows s name (Dictionary.get? entries name)) →
      ∃ b, finish .object s = .ok b ∧ Q b) :
    (∃ b, decodeRecord type names start take other finish (.record entries) = .ok b ∧ Q b) ∨
    ∃ a ∈ entries, ∃ e, Bad a e ∧
      decodeRecord type names start take other finish (.record entries) = .error e := by
  have hstep : ∀ s, ∀ a ∈ entries,
      (∃ t, (if names.contains a.1 then take s a.1 a.2 else do other a.1; return s) = .ok t ∧
        TakesOver names shows a s t) ∨
      ∃ e, (if names.contains a.1 then take s a.1 a.2 else do other a.1; return s) = .error e ∧
        Bad a e := by
    intro s a ha
    by_cases hname : a.1 ∈ names
    · simpa only [List.contains_iff_mem, hname, if_true] using htake s a ha hname
    · refine .inl ⟨s, ?_, fun hmem => absurd hmem hname, fun name _ _ w hw => hw⟩
      simp only [List.contains_iff_mem, hname, if_false, hother a ha hname]
      rfl
  have hdecode : decodeRecord type names start take other finish (.record entries) =
      (entries.foldlM (fun s a => if names.contains a.1 then take s a.1 a.2
        else do other a.1; return s) start >>= finish .object) := rfl
  rw [hdecode]
  rcases foldlM_takesOver hentries hstep hstart with
    ⟨s, hs, hshown⟩ | ⟨a, ha, e, hbad, he⟩
  · simp only [Option.or_none] at hshown
    rw [hs]
    exact .inl (hfinish s hshown)
  · rw [he]
    exact .inr ⟨a, ha, e, hbad, rfl⟩

end

end Autofix
