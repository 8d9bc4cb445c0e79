import StreamWarden.Proofs.Milestones

/-!
# What a run tells, and when

The journal keeps what was told in its order, but not the instants.  The chronicle of a run
is made up from its answers: what each of them tells, at the instant at which it is given.

* `tells`: what an answer tells; `chronicle`: what a run tells, with the instants.
* `map_snd_chronicle`: these are the events of the journal.
* `moves_tells`: what an answer tells, its moves tell.
* `chronicle_keeps`: what a chronicle keeps with every move, it keeps in every run.
-/

namespace StreamWarden.Supervisor

open State

namespace State

/-- What an answer tells. -/
def tells (s : State) (x : Stimulus) : List Event := (s.react x).events.drop s.events.length

/-- What a run tells, each event with its instant. -/
def chronicle : State → List Stimulus → List (Nat × Event)
  | _, [] => []
  | s, x :: xs => (s.tells x).map (s.now, ·) ++ (s.react x).chronicle xs

lemma chronicle_concat (s : State) (xs : List Stimulus) (x : Stimulus) :
    s.chronicle (xs ++ [x]) =
      s.chronicle xs ++ ((s.run xs).tells x).map ((s.run xs).now, ·) := by
  induction xs generalizing s with
  | nil => exact List.append_nil _
  | cons y ys ih =>
      rw [List.cons_append, chronicle, ih, chronicle, List.append_assoc]
      rfl

end State

/-- What stands in two lists, one after the other, stands in the first or in the second. -/
lemma exists_of_append_eq {α : Type} {c d pre post : List α} {e : α}
    (h : c ++ d = pre ++ e :: post) :
    (∃ post', c = pre ++ e :: post') ∨ ∃ fs, d = fs ++ e :: post ∧ pre = c ++ fs := by
  rcases List.append_eq_append_iff.1 h with ⟨m, rfl, hm⟩ | ⟨m, rfl, hm⟩
  · exact .inr ⟨m, hm, rfl⟩
  · rcases List.cons_eq_append_iff.1 hm with ⟨rfl, hm⟩ | ⟨post', rfl, -⟩
    · exact .inr ⟨[], hm.symm, by simp⟩
    · exact .inl ⟨post', rfl⟩

/-- Events without their instants. -/
lemma map_snd_at (t : Nat) (es : List Event) : (es.map (t, ·)).map Prod.snd = es := by
  rw [List.map_map]
  exact List.map_id es

section Answers

variable {s t : State} {es : List Event}

lemma tells_eq {x : Stimulus} (h : (s.react x).events = s.events ++ es) : s.tells x = es := by
  rw [tells, h, List.drop_left]

/-- While time passes, nothing is told. -/
lemma tells_pass (s : State) (span : Nat) : s.tells (.pass span) = [] := by
  refine tells_eq ?_
  rw [react_pass, List.append_nil]
  rfl

/-- **What an answer tells, its moves tell.** -/
theorem moves_tells (hs : Settled s) {x : Stimulus} (hx : x.isTime = false) :
    Moves s (s.tells x) (s.react x) := by
  obtain ⟨es, h⟩ := moves_react hs hx
  rwa [tells_eq h.events]

lemma events_react (hs : Settled s) (x : Stimulus) :
    (s.react x).events = s.events ++ s.tells x := by
  cases hx : x.isTime with
  | true =>
      obtain ⟨span, rfl⟩ := x.exists_of_isTime hx
      rw [tells_pass, react_pass, List.append_nil]
      rfl
  | false => exact (moves_tells hs hx).events

end Answers

/-- **The chronicle of a run tells what its journal tells.** -/
theorem map_snd_chronicle (u : Setup) (xs : List Stimulus) :
    (u.begin.chronicle xs).map Prod.snd = (u.begin.run xs).events := by
  induction xs using List.reverseRecOn with
  | nil => rfl
  | append_singleton xs x ih =>
      rw [chronicle_concat, List.map_append, ih, map_snd_at, State.run_concat,
        events_react (run_settled u xs)]

section Keep

variable {P : List (Nat × Event) → State → Prop}

/-- What a chronicle keeps with every move, it keeps with several. -/
lemma Moves.keep_chronicle
    (hP : ∀ {c : List (Nat × Event)} {s t : State} {es : List Event}, Settled s → P c s →
      Move s es t → P (c ++ es.map (s.now, ·)) t)
    {s t : State} {es : List Event} (h : Moves s es t) (hs : Settled s)
    {c : List (Nat × Event)} (hc : P c s) : P (c ++ es.map (s.now, ·)) t := by
  induction h generalizing c with
  | none => simpa using hc
  | cons h _ ih =>
      have hn := ih (h.settled hs) (hP hs hc h)
      rwa [h.steady.now, List.append_assoc, ← List.map_append] at hn

/-- **What a chronicle keeps with every move**, and while time passes, it keeps in every
run. -/
theorem chronicle_keeps
    (hP : ∀ {c : List (Nat × Event)} {s t : State} {es : List Event}, Settled s → P c s →
      Move s es t → P (c ++ es.map (s.now, ·)) t)
    (hT : ∀ {c : List (Nat × Event)} {s : State} (span : Nat), P c s → P c (s.pass span))
    (u : Setup) (hu : P [] u.begin) (xs : List Stimulus) :
    P (u.begin.chronicle xs) (u.begin.run xs) := by
  induction xs using List.reverseRecOn with
  | nil => exact hu
  | append_singleton xs x ih =>
      have hs := run_settled u xs
      rw [chronicle_concat, State.run_concat]
      cases hx : x.isTime with
      | true =>
          obtain ⟨span, rfl⟩ := x.exists_of_isTime hx
          rw [tells_pass, react_pass, List.map_nil, List.append_nil]
          exact hT span ih
      | false => exact (moves_tells hs hx).keep_chronicle hP hs ih

end Keep

end StreamWarden.Supervisor
