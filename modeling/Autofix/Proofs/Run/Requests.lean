import Autofix.Proofs.Run.Folders
import Mathlib

/-!
# Requests for configurations

What keeping a configuration comes to over any requests for files, each of which comes with what
loading a configuration for its file would come to, a configuration or an error. Each reply is told
from the requests and the replies before it, without what is kept (`Reply.Follows`): a configuration
is loaded unless the request before got one and was for a file in the same folder, and what is not
loaded is what was loaded last.

* `CurrentConfig.replies` answers requests one after the other;
* `CurrentConfig.Holds` is the invariant, which ties what is kept to the replies so far;
* `CurrentConfig.follows_of_replies_eq`: every reply follows from what came before it.
-/

namespace Autofix.CurrentConfig

variable {ε κ : Type}

/-- A request for the configuration of a file. -/
structure Request (ε κ : Type) where
  file : Path
  /-- What loading a configuration for the file would come to. -/
  loaded : Except ε κ

/-- What comes of a request. -/
structure Reply (ε κ : Type) where
  request : Request ε κ
  /-- How many times a configuration was loaded, or could not be. -/
  times : Nat
  answer : Except ε κ
  /-- What is kept from then on. -/
  after : CurrentConfig κ

/-- Answers a request. Loading is a step that is counted. -/
def reply (current : CurrentConfig κ) (q : Request ε κ) : Reply ε κ :=
  let load : StateM Nat (Except ε κ) := modifyGet fun times => (q.loaded, times + 1)
  let ((answer, after), times) := current.forFile (fun _ => pure ()) load q.file 0
  ⟨q, times, answer, after⟩

/-- Answers requests one after the other. -/
def replies : CurrentConfig κ → List (Request ε κ) → List (Reply ε κ)
  | _, [] => []
  | current, q :: qs => current.reply q :: replies (current.reply q).after qs

variable {current : CurrentConfig κ} {q : Request ε κ} {qs : List (Request ε κ)} {config : κ}
  {r last : Reply ε κ} {done before after : List (Reply ε κ)}

theorem reply_of_get? (h : current.get? q.file = some config) :
    current.reply q = ⟨q, 0, .ok config, current⟩ := by
  rw [reply, forFile, h]
  rfl

theorem reply_of_get?_eq_none (h : current.get? q.file = none) :
    current.reply q = ⟨q, 1, q.loaded, current.afterLoad q.file q.loaded⟩ := by
  rw [reply, forFile, h]
  rfl

/-- What is kept is for the folder of a file, or there is nothing for it. -/
theorem get?_of_held {dir : Path} (h : current.held = some (dir, config)) (file : Path) :
    current.get? file = if dir.same (folder file) then some config else none := by
  rw [get?, h, Option.bind_some]

theorem get?_of_held_eq_none (h : current.held = none) (file : Path) :
    current.get? file = none := by
  rw [get?, h, Option.bind_none]

/-! ### Replies and what came before them -/

/-- The configuration that was loaded last, in the course of some replies: loading it succeeded, and
    since then nothing has been loaded. -/
def LoadedLast (done : List (Reply ε κ)) (file : Path) (config : κ) : Prop :=
  ∃ earlier load between, done = earlier ++ load :: between ∧ load.times = 1 ∧
    load.request.file = file ∧ load.request.loaded = .ok config ∧ ∀ s ∈ between, s.times = 0

/-- A reply is the right one after the replies before it. -/
structure Reply.Follows (before : List (Reply ε κ)) (r : Reply ε κ) : Prop where
  /-- A configuration is loaded for the first request, after a failed one, and when the folder
      changes. -/
  times_eq_one_iff : r.times = 1 ↔ before = [] ∨ ∃ last ∈ before.getLast?,
    (∃ e, last.answer = .error e) ∨ ¬SameFolder last.request.file r.request.file
  times_le_one : r.times ≤ 1
  /-- What is loaded is the answer. -/
  answer_of_loads : r.times = 1 → r.answer = r.request.loaded
  /-- What is not loaded is what was loaded last, for the same folder. -/
  answer_of_keeps : r.times = 0 → ∃ file config, LoadedLast before file config ∧
    SameFolder file r.request.file ∧ r.answer = .ok config
  /-- A failure is one of loading, and nothing is kept. -/
  of_error : ∀ e, r.answer = .error e → r.request.loaded = .error e ∧ r.after.held = none
  loads_eq : r.after.loads = ((before ++ [r]).map (·.times)).sum

/-- What is kept after some replies: the configuration that was loaded last, which was for the folder
    of the request before, or nothing, if there was none or it failed. -/
structure Holds (done : List (Reply ε κ)) (current : CurrentConfig κ) : Prop where
  loads_eq : current.loads = (done.map (·.times)).sum
  of_held : ∀ dir config, current.held = some (dir, config) →
    ∃ file, LoadedLast done file config ∧ dir = folder file ∧
      ∃ last ∈ done.getLast?, last.answer = .ok config ∧ SameFolder file last.request.file
  of_held_eq_none : current.held = none →
    done = [] ∨ ∃ last ∈ done.getLast?, ∃ e, last.answer = .error e

theorem holds_nil : Holds ([] : List (Reply ε κ)) {} where
  loads_eq := rfl
  of_held _ _ h := nomatch h
  of_held_eq_none _ := .inl rfl

/-- A reply that loads nothing leaves the last loaded configuration as it is. -/
theorem LoadedLast.append {file : Path} (h : LoadedLast done file config) (hr : r.times = 0) :
    LoadedLast (done ++ [r]) file config := by
  obtain ⟨earlier, load, between, rfl, htimes, hfile, hloaded, hbetween⟩ := h
  refine ⟨earlier, load, between ++ [r], by simp, htimes, hfile, hloaded, ?_⟩
  rw [List.forall_mem_append]
  exact ⟨hbetween, by simpa using hr⟩

theorem Holds.loads_append (h : Holds done current) (r : Reply ε κ) :
    ((done ++ [r]).map (·.times)).sum = current.loads + r.times := by
  rw [h.loads_eq]
  simp

/-- Where there is a configuration for a file, it is the one loaded last, and the request before was
    for a file in the same folder and did not fail. -/
theorem Holds.of_get? (h : Holds done current) {file : Path}
    (hget : current.get? file = some config) :
    (∃ first, LoadedLast done first config ∧ SameFolder first file) ∧
      ∃ last ∈ done.getLast?, last.answer = .ok config ∧ SameFolder last.request.file file := by
  rw [get?, Option.bind_eq_some_iff] at hget
  obtain ⟨⟨dir, config'⟩, hheld, hget⟩ := hget
  dsimp only at hget
  split_ifs at hget with hsame
  obtain rfl := Option.some.inj hget
  obtain ⟨first, hloaded, rfl, last, hlast, hanswer, hfolder⟩ := h.of_held dir config' hheld
  exact ⟨⟨first, hloaded, hsame⟩, last, hlast, hanswer, hfolder.symm.trans hsame⟩

/-- Where there is none, no request came before, or it failed, or its file lies in another folder. -/
theorem Holds.of_get?_eq_none (h : Holds done current) {file : Path}
    (hget : current.get? file = none) : done = [] ∨ ∃ last ∈ done.getLast?,
      (∃ e, last.answer = .error e) ∨ ¬SameFolder last.request.file file := by
  cases hheld : current.held with
  | none =>
    rcases h.of_held_eq_none hheld with hnil | ⟨last, hlast, he⟩
    · exact .inl hnil
    · exact .inr ⟨last, hlast, .inl he⟩
  | some held =>
    obtain ⟨dir, config⟩ := held
    rw [get?_of_held hheld] at hget
    split_ifs at hget with hsame
    obtain ⟨first, -, rfl, last, hlast, -, hfolder⟩ := h.of_held dir config hheld
    exact .inr ⟨last, hlast, .inr fun hlast => hsame (hfolder.trans hlast)⟩

/-- The next reply follows from what came before. -/
theorem Holds.follows (h : Holds done current) (q : Request ε κ) :
    (current.reply q).Follows done := by
  cases hget : current.get? q.file with
  | some config =>
    obtain ⟨⟨first, hloaded, hfirst⟩, last, hlast, hanswer, hfolder⟩ := h.of_get? hget
    rw [reply_of_get? hget]
    refine ⟨⟨nofun, ?_⟩, Nat.zero_le 1, nofun, fun _ => ⟨first, config, hloaded, hfirst, rfl⟩,
      nofun, ?_⟩
    · -- The request before is for a file in the same folder, and got this configuration.
      rintro (rfl | ⟨last', hlast', ⟨e, he⟩ | hother⟩)
      · cases hlast
      · rw [Option.mem_unique hlast' hlast, hanswer] at he
        cases he
      · rw [Option.mem_unique hlast' hlast] at hother
        exact absurd hfolder hother
    · rw [h.loads_append]
      rfl
  | none =>
    rw [reply_of_get?_eq_none hget]
    refine ⟨⟨fun _ => h.of_get?_eq_none hget, fun _ => rfl⟩, Nat.le_refl 1, fun _ => rfl, nofun,
      fun e he => ⟨he, ?_⟩, ?_⟩
    · change (current.afterLoad q.file q.loaded).held = none
      rw [show q.loaded = .error e from he, afterLoad]
    · rw [h.loads_append]
      cases q.loaded <;> rfl

/-- Answering a request keeps the invariant. -/
theorem Holds.reply (h : Holds done current) (q : Request ε κ) :
    Holds (done ++ [current.reply q]) (current.reply q).after := by
  have hloads := ((h.follows q).loads_eq)
  have hlast : current.reply q ∈ (done ++ [current.reply q]).getLast? := by simp
  cases hget : current.get? q.file with
  | some config =>
    obtain ⟨⟨first, hloaded, hfirst⟩, -⟩ := h.of_get? hget
    rw [reply_of_get? hget] at hloads hlast ⊢
    refine ⟨hloads, fun dir config' hheld => ?_, fun hheld => ?_⟩
    · rw [get?_of_held hheld] at hget
      split_ifs at hget with hsame
      obtain rfl := Option.some.inj hget
      obtain ⟨first, hloaded, rfl, -⟩ := h.of_held dir config' hheld
      exact ⟨first, hloaded.append rfl, rfl, _, hlast, rfl, hsame⟩
    · rw [get?_of_held_eq_none hheld] at hget
      cases hget
  | none =>
    rw [reply_of_get?_eq_none hget] at hloads hlast ⊢
    cases hq : q.loaded with
    | error e =>
      -- A load that fails leaves nothing to keep.
      rw [hq] at hloads hlast
      exact ⟨hloads, nofun, fun _ => .inr ⟨_, hlast, e, rfl⟩⟩
    | ok config =>
      -- What is kept now has been loaded for this very request.
      rw [hq] at hloads hlast
      refine ⟨hloads, ?_, nofun⟩
      rintro _ _ ⟨⟩
      refine ⟨q.file, ⟨done, _, [], rfl, rfl, rfl, hq, List.forall_mem_nil _⟩, rfl, _, hlast, rfl,
        .refl _⟩

/-! ### Requests one after the other -/

theorem map_request_replies (current : CurrentConfig κ) (qs : List (Request ε κ)) :
    (replies current qs).map (·.request) = qs := by
  induction qs generalizing current with
  | nil => rfl
  | cons q qs ih =>
    have hrequest : (current.reply q).request = q := rfl
    rw [replies, List.map_cons, ih, hrequest]

/-- Every reply after some others follows from them and the replies in between. -/
theorem Holds.follows_later (h : Holds done current)
    (hreplies : replies current qs = before ++ r :: after) : r.Follows (done ++ before) := by
  induction qs generalizing done current before with
  | nil => simp [replies] at hreplies
  | cons q qs ih =>
    rw [replies] at hreplies
    cases before with
    | nil =>
      obtain ⟨rfl, -⟩ := List.cons.inj hreplies
      rw [List.append_nil]
      exact h.follows q
    | cons first before =>
      obtain ⟨rfl, hrest⟩ := List.cons.inj hreplies
      rw [List.append_cons]
      exact ih (h.reply q) hrest

/-- Of any requests, each is answered as it follows from the requests before: a configuration is
    loaded exactly if there was no request, or the last one failed or was for another folder;
    otherwise the answer is the configuration that was loaded last, which was for the same folder; a
    failure is one of loading and leaves nothing behind; and the loads are counted. -/
theorem follows_of_replies_eq (h : replies {} qs = before ++ r :: after) :
    qs[before.length]? = some r.request ∧ r.Follows before := by
  constructor
  · rw [← map_request_replies {} qs, h, List.getElem?_map, List.getElem?_append_right le_rfl]
    simp
  · simpa using holds_nil.follows_later h

/-- After a failure in a folder its configuration is loaded for the next file there, and kept for
    the one after that, whose folder is written in another way. -/
theorem follows_after_failure :
    let first : Reply Unit Nat := ⟨⟨⟨"a/1"⟩, .ok 1⟩, 1, .ok 1, ⟨some (⟨"a"⟩, 1), 1⟩⟩
    let failed : Reply Unit Nat := ⟨⟨⟨"b/1"⟩, .error ()⟩, 1, .error (), ⟨none, 2⟩⟩
    let again : Reply Unit Nat := ⟨⟨⟨"b/2"⟩, .ok 3⟩, 1, .ok 3, ⟨some (⟨"b"⟩, 3), 3⟩⟩
    let kept : Reply Unit Nat := ⟨⟨⟨"b/./3"⟩, .ok 4⟩, 0, .ok 3, ⟨some (⟨"b"⟩, 3), 3⟩⟩
    let qs := [first.request, failed.request, again.request, kept.request]
    replies {} qs = [first, failed, again] ++ kept :: [] ∧
      qs[[first, failed, again].length]? = some kept.request ∧
      kept.Follows [first, failed, again] := by
  intro first failed again kept qs
  have hother : (⟨"a"⟩ : Path).same (folder failed.request.file) = false := by cbv
  have hfirst : reply {} first.request = first := by cbv
  have hfailed : reply first.after failed.request = failed :=
    reply_of_get?_eq_none (by rw [get?_of_held rfl, hother]; rfl)
  have hagain : reply failed.after again.request = again := by cbv
  have hkept : reply again.after kept.request = kept := by cbv
  have hreplies : replies {} qs = [first, failed, again] ++ kept :: [] := by
    simp only [qs, replies, hfirst, hfailed, hagain, hkept]
    rfl
  exact ⟨hreplies, follows_of_replies_eq hreplies⟩

end Autofix.CurrentConfig
