import StreamWarden.Proofs.Delivery

/-!
# Rounds of workers, and the end

When no further event comes, the workers go on with what is queued, in turns and in rounds.
Each turn takes a piece from what is left to be done, so that after some rounds nothing is;
and a worker leaves the roster only with an empty queue, if it is still able to work at all.
A shutdown lets enough rounds pass for this.

* `Works`: from one fan-out to another, the workers have only taken steps.
* `Open`, `Closing`: how the roster and the workers hang together, while events may come and
  after that; `demand`: the turns that are left to be taken.
* `Turned`: what comes of a turn; `Closing.turn`, `Closing.turns`, `Closing.round`: each turn
  counts.
* `Open.emptied_shutdown`: no worker that is able to work leaves anything in its queue.
* **`delivery_of_schedule`**: what is delivered, whatever the schedule.
-/

namespace StreamWarden

/-! ### The roster -/

namespace Roster

variable {τ : Type}

/-- All tasks on a roster. -/
def tasks (r : Roster τ) : List τ := r.ready ++ r.resting

variable [BEq τ] [LawfulBEq τ]

lemma holds_iff {r : Roster τ} {t : τ} : r.holds t = true ↔ t ∈ r.tasks := by
  simp [holds, tasks]

lemma mem_wake {r : Roster τ} {t x : τ} : x ∈ (r.wake t).tasks ↔ x ∈ r.tasks ∨ x = t := by
  rw [wake]
  split
  case isTrue h =>
    rw [holds_iff] at h
    exact ⟨.inl, fun hx => hx.elim id fun hx => hx ▸ h⟩
  case isFalse =>
    simp only [tasks, List.mem_append, List.mem_singleton]
    tauto

lemma nodup_wake {r : Roster τ} (h : r.tasks.Nodup) (t : τ) : (r.wake t).tasks.Nodup := by
  rw [wake]
  split
  · exact h
  · rename_i hn
    rw [holds_iff] at hn
    have hp : (t :: r.tasks).Perm ((r.ready ++ [t]) ++ r.resting) := by
      rw [List.append_assoc]
      exact List.perm_middle.symm
    exact hp.nodup_iff.1 (List.nodup_cons.2 ⟨hn, h⟩)

lemma mem_wakeAll {r : Roster τ} {ts : List τ} {x : τ} :
    x ∈ (r.wakeAll ts).tasks ↔ x ∈ r.tasks ∨ x ∈ ts := by
  induction ts generalizing r with
  | nil => simp [wakeAll]
  | cons t ts ih =>
      have h : r.wakeAll (t :: ts) = (r.wake t).wakeAll ts := rfl
      rw [h, ih, mem_wake, List.mem_cons, or_assoc]

lemma nodup_wakeAll {r : Roster τ} (h : r.tasks.Nodup) (ts : List τ) :
    (r.wakeAll ts).tasks.Nodup := by
  induction ts generalizing r with
  | nil => exact h
  | cons t ts ih => exact ih (nodup_wake h t)

omit [LawfulBEq τ] in
/-- To wake tasks lets nobody rest. -/
lemma resting_wakeAll (r : Roster τ) (ts : List τ) : (r.wakeAll ts).resting = r.resting := by
  induction ts generalizing r with
  | nil => rfl
  | cons t ts ih =>
      refine (ih (r := r.wake t)).trans ?_
      rw [wake]
      split <;> rfl

end Roster

/-! ### Steps alone -/

namespace Worker

variable {w : Worker}

/-- **What comes of steps** alone, as long as the worker is able to work: it has handled so
much of its queue. -/
lemma of_steps (n : Nat) (h : (w.meetAll (List.replicate n .step)).state = .ready) :
    w.state = .ready ∧ (w.meetAll (List.replicate n .step)).queue = w.queue.drop n ∧
      (w.meetAll (List.replicate n .step)).handled = w.handled ++ w.queue.take n := by
  induction n generalizing w with
  | zero => exact ⟨h, rfl, (List.append_nil _).symm⟩
  | succ n ih =>
      obtain ⟨hs, hq, hh⟩ := ih h
      have hm : w.meetAll (List.replicate (n + 1) .step) =
          (w.meet .step).meetAll (List.replicate n .step) := rfl
      rw [hm, hq, hh]
      have hw : Stepped w (w.meet .step) := w.stepped_step
      generalize w.meet .step = w' at hs hw ⊢
      cases hw with
      | still he => simp [hs, he hs]
      | done hs' hq' hf hn => simp [hs', hq']
      | broken | held => cases hs

/-- A queue that is empty stays so. -/
lemma queue_of_steps (n : Nat) (h : w.queue = []) :
    (w.meetAll (List.replicate n .step)).queue = [] := by
  induction n generalizing w with
  | zero => exact h
  | succ n ih =>
      refine ih ?_
      have hw : Stepped w (w.meet .step) := w.stepped_step
      generalize w.meet .step = w' at hw ⊢
      cases hw with
      | still => exact h
      | done _ hq | broken _ hq | held _ hq => simp [hq] at h

/-- The subscriber of a worker handles each event that waits, and breaks nothing. -/
def IsPrompt (w : Worker) : Prop :=
  w.state = .ready ∧
    ∀ e ∈ w.queue,
      (w.subscriber.handle e).isFatal = false ∧ w.subscriber.handle e ≠ .endless

/-- Such a worker stays able to work. -/
lemma IsPrompt.of_steps (h : w.IsPrompt) (n : Nat) :
    (w.meetAll (List.replicate n .step)).IsPrompt := by
  induction n generalizing w with
  | zero => exact h
  | succ n ih =>
      refine ih ?_
      have hw : Stepped w (w.meet .step) := w.stepped_step
      generalize w.meet .step = w' at hw ⊢
      obtain ⟨hs, he⟩ := h
      cases hw with
      | still => exact ⟨hs, he⟩
      | done _ hq =>
          rw [hq] at he
          exact ⟨hs, fun e hm => he e (List.mem_cons_of_mem _ hm)⟩
      | broken _ hq hf =>
          rw [hq] at he
          exact absurd hf (Bool.eq_false_iff.1 (he _ List.mem_cons_self).1)
      | held _ hq hn =>
          rw [hq] at he
          exact absurd hn (he _ List.mem_cons_self).2

/-- No step drops anything. -/
lemma dropped_of_steps (n : Nat) (w : Worker) :
    (w.meetAll (List.replicate n .step)).dropped = w.dropped := by
  induction n generalizing w with
  | zero => rfl
  | succ n ih => exact (ih w.step.1).trans w.dropped_step

end Worker

namespace SubscriberSet

/-- Where nothing is emitted, a worker only takes steps. -/
lemma own_of_emitted_eq_nil (i : Nat) {xs : List Input} (h : emitted xs = []) :
    ∃ k, own i xs = List.replicate k .step := by
  refine ⟨(own i xs).length, List.eq_replicate_length.2 fun y hy => ?_⟩
  rw [← filterMap_event?_own i, List.filterMap_eq_nil_iff] at h
  cases y with
  | step => rfl
  | offer e => exact absurd (h _ hy) nofun

end SubscriberSet

/-! ### Rounds -/

namespace Fanout

open SubscriberSet Roster

/-- From one fan-out to the other, the workers have only taken steps. -/
def Works (f f' : Fanout) : Prop := ∃ xs, emitted xs = [] ∧ f'.set = f.set.meetAll xs

section Works

variable {f f' f'' : Fanout}

lemma Works.refl (f : Fanout) : Works f f := ⟨[], rfl, rfl⟩

lemma Works.trans (h : Works f f') (h' : Works f' f'') : Works f f'' := by
  obtain ⟨xs, hx, hs⟩ := h
  obtain ⟨ys, hy, hs'⟩ := h'
  refine ⟨xs ++ ys, ?_, by rw [hs', hs, meetAll_append]⟩
  rw [emitted, List.filterMap_append, ← emitted, ← emitted, hx, hy, List.append_nil]

/-- What has become of a worker. -/
lemma Works.exists_steps (h : Works f f') (i : Nat) :
    ∃ k, f'.set.workers[i]? = f.set.workers[i]?.map (·.meetAll (List.replicate k .step)) := by
  obtain ⟨xs, hx, hs⟩ := h
  obtain ⟨k, hk⟩ := own_of_emitted_eq_nil i hx
  exact ⟨k, by rw [hs, getElem?_meetAll, hk]⟩

lemma Works.length (h : Works f f') : f'.set.workers.length = f.set.workers.length := by
  obtain ⟨xs, -, hs⟩ := h
  rw [hs, length_meetAll]

lemma works_turn (f : Fanout) (number : Nat) : Works f (f.turn number).1 := by
  refine ⟨List.replicate turnLength (.step number), ?_, f.set.turn_eq_meetAll number⟩
  rw [emitted, List.filterMap_replicate]
  rfl

lemma works_turns (n : Nat) (f : Fanout) : Works f (turns n f).1 := by
  induction n generalizing f with
  | zero => exact .refl f
  | succ n ih =>
      rw [turns]
      split
      · exact .refl f
      · rename_i number roster _
        exact (works_turn { f with roster := roster } number).trans (ih _)

lemma works_round (f : Fanout) : Works f f.round.1 := works_turns roundLength f

lemma works_awaitAll (fuel : Nat) (numbers : List Nat) (f : Fanout) :
    Works f (awaitAll fuel numbers f).1 := by
  induction fuel generalizing numbers f with
  | zero => exact .refl f
  | succ fuel ih =>
      cases numbers with
      | nil => exact .refl f
      | cons number others =>
          rw [awaitAll]
          split
          · exact ih others f
          · split
            · exact ih others f
            · exact (works_round f).trans (ih _ _)

end Works

/-- The turns that a worker may need, and one more in which it finds its queue empty. -/
def cost (w : Option Worker) : Nat := (w.elim 0 (·.queue.length)) / turnLength + 1

/-- The turns that the workers on the roster may need. -/
def demand (f : Fanout) : Nat := (f.roster.tasks.map fun i => cost f.set.workers[i]?).sum

/-- Each worker is on the roster at most once. -/
structure Tidy (f : Fanout) : Prop where
  nodup : f.roster.tasks.Nodup
  valid : ∀ i ∈ f.roster.tasks, i < f.set.workers.length

/-- **A fan-out that is open**: it is between two rounds, and no worker has come to its
end. -/
structure Open (f : Fanout) : Prop extends Tidy f where
  resting : f.roster.resting = []
  closed : f.closed = false
  ended : f.ended = []

/-- **A fan-out that is closing**: a worker that is able to work is on the roster, or has
come to its end with an empty queue. -/
structure Closing (f : Fanout) : Prop extends Tidy f where
  closed : f.closed = true
  ready : ∀ i w, f.set.workers[i]? = some w → w.state = .ready → i ∈ f.roster.tasks ∨ i ∈ f.ended
  ended : ∀ i ∈ f.ended, ∀ w, f.set.workers[i]? = some w → w.queue = []

section Turn

variable {f : Fanout} {number : Nat}

lemma getElem?_turn (f : Fanout) (number i : Nat) : (f.turn number).1.set.workers[i]? =
    if number = i then f.set.workers[i]?.map (·.meetAll (List.replicate turnLength .step))
    else f.set.workers[i]? := by
  have h : (f.turn number).1.set = f.set.meetAll (List.replicate turnLength (.step number)) :=
    f.set.turn_eq_meetAll number
  rw [h, getElem?_meetAll, own_replicate_step]
  by_cases hi : number = i
  · rw [if_pos hi, if_pos hi]
  · rw [if_neg hi, if_neg hi]
    cases f.set.workers[i]? <;> rfl

/-- **What comes of a turn**: the worker rests, because it has used the turn up; or it has
emptied its queue; or it is not able to work any more. -/
inductive Turned (f : Fanout) (number : Nat) (w : Worker) : Fanout → Prop where
  | rests {f' : Fanout} (hs : (w.meetAll (List.replicate turnLength .step)).state = .ready)
      (hq : turnLength ≤ w.queue.length)
      (hr : f'.roster = f.roster.rest number) (he : f'.ended = f.ended) : Turned f number w f'
  | ends {f' : Fanout} (hq : (w.meetAll (List.replicate turnLength .step)).queue = [])
      (hr : f'.roster = f.roster)
      (he : f'.ended = if f.closed then number :: f.ended else f.ended) : Turned f number w f'
  | stops {f' : Fanout} (hs : (w.meetAll (List.replicate turnLength .step)).state ≠ .ready)
      (hr : f'.roster = f.roster) (he : f'.ended = f.ended) : Turned f number w f'

/-- A worker that rests is on the roster again. -/
lemma perm_tasks_rest (r : Roster Nat) (number : Nat) :
    (r.rest number).tasks.Perm (number :: r.tasks) := List.perm_middle

/-- Whoever is on the roster, or has come to its end, stays so. -/
lemma Turned.stays {f' : Fanout} {w : Worker} (h : Turned f number w f') {i : Nat}
    (hi : i ∈ f.roster.tasks ∨ i ∈ f.ended) : i ∈ f'.roster.tasks ∨ i ∈ f'.ended := by
  cases h with
  | rests _ _ hr he =>
      rw [hr, he, (perm_tasks_rest f.roster number).mem_iff]
      exact hi.imp_left (List.mem_cons_of_mem _)
  | ends _ hr he =>
      rw [hr, he]
      split
      · exact hi.imp_right (List.mem_cons_of_mem _)
      · exact hi
  | stops _ hr he =>
      rw [hr, he]
      exact hi

/-- Whose turn it was rests, or has come to its end, as long as it is able to work. -/
lemma Turned.mem {f' : Fanout} {w : Worker} (h : Turned f number w f') (hc : f.closed = true)
    (hs : (w.meetAll (List.replicate turnLength .step)).state = .ready) :
    number ∈ f'.roster.tasks ∨ number ∈ f'.ended := by
  cases h with
  | rests _ _ hr =>
      rw [hr, (perm_tasks_rest f.roster number).mem_iff]
      exact .inl List.mem_cons_self
  | ends _ _ he =>
      rw [he, if_pos hc]
      exact .inr List.mem_cons_self
  | stops hn => exact absurd hs hn

/-- No other worker comes to its end, and this one only with an empty queue. -/
lemma Turned.of_mem_ended {f' : Fanout} {w : Worker} (h : Turned f number w f') {i : Nat}
    (hi : i ∈ f'.ended) :
    i ∈ f.ended ∨ i = number ∧ (w.meetAll (List.replicate turnLength .step)).queue = [] := by
  cases h with
  | rests _ _ _ he | stops _ _ he => exact .inl (he ▸ hi)
  | ends hq _ he =>
      rw [he] at hi
      split at hi
      · exact (List.mem_cons.1 hi).symm.imp_right fun hi => ⟨hi, hq⟩
      · exact .inl hi

lemma turned_turn {w : Worker} (hw : f.set.workers[number]? = some w) :
    Turned f number w (f.turn number).1 := by
  have ht : (f.set.turn number).2.2 = (decide (turnLength ≤ w.queue.length) &&
      (w.meetAll (List.replicate turnLength .step)).state == .ready) := by
    rw [SubscriberSet.turn, hw]
    simp only [Worker.turn, Worker.steps_eq_meetAll]
  have hi : (((f.set.turn number).1.workers[number]?).any Worker.isIdle) =
      (w.meetAll (List.replicate turnLength .step)).isIdle := by
    have h := f.getElem?_turn number number
    rw [if_pos rfl, hw] at h
    have h' : (f.set.turn number).1.workers[number]? =
      some (w.meetAll (List.replicate turnLength .step)) := h
    rw [h', Option.any_some]
  by_cases hs : (w.meetAll (List.replicate turnLength .step)).state = .ready
  · obtain ⟨-, hq, -⟩ := w.of_steps turnLength hs
    by_cases hl : turnLength ≤ w.queue.length
    · have hm : (f.set.turn number).2.2 = true := by rw [ht, hs, decide_eq_true hl]; rfl
      refine .rests hs hl ?_ ?_ <;> simp [Fanout.turn, hm]
    · have hm : (f.set.turn number).2.2 = false := by rw [ht, decide_eq_false hl]; rfl
      have hq' : (w.meetAll (List.replicate turnLength .step)).queue = [] := by
        rw [hq]
        exact List.drop_eq_nil_of_le (Nat.le_of_not_le hl)
      have hd : (w.meetAll (List.replicate turnLength .step)).isIdle = true := by
        rw [Worker.isIdle, hs, hq']
        rfl
      refine .ends hq' ?_ ?_ <;> simp [Fanout.turn, hm, hi, hd]
  · have hm : (f.set.turn number).2.2 = false := by
      rw [ht, beq_eq_false_iff_ne.2 hs, Bool.and_false]
    have hd : (w.meetAll (List.replicate turnLength .step)).isIdle = false := by
      rw [Worker.isIdle, beq_eq_false_iff_ne.2 hs, Bool.false_and]
    refine .stops hs ?_ ?_ <;> simp [Fanout.turn, hm, hi, hd]

/-- Whose turn it is comes first on the roster. -/
lemma tasks_of_next? {roster : Roster Nat} (h : f.roster.next? = some (number, roster)) :
    f.roster.tasks = number :: roster.tasks := by
  rw [Roster.next?] at h
  split at h
  · cases h
  · rename_i t ready hr
    cases h
    rw [tasks, tasks, hr, List.cons_append]

/-- A turn changes the cost of the worker whose turn it is, and of no other. -/
lemma map_cost_turn {is : List Nat} (hn : number ∉ is) :
    is.map (fun i => cost (f.turn number).1.set.workers[i]?) =
      is.map fun i => cost f.set.workers[i]? := by
  refine List.map_congr_left fun i hi => ?_
  have h : number ≠ i := fun h => hn (h ▸ hi)
  rw [getElem?_turn, if_neg h]

/-- A turn that was used up has taken a piece of the queue. -/
lemma cost_turn_of_rests {w : Worker} (hw : f.set.workers[number]? = some w)
    (hq : turnLength ≤ w.queue.length)
    (hs : (w.meetAll (List.replicate turnLength .step)).state = .ready) :
    cost f.set.workers[number]? = cost (f.turn number).1.set.workers[number]? + 1 := by
  obtain ⟨-, hd, -⟩ := w.of_steps turnLength hs
  rw [getElem?_turn, if_pos rfl, hw]
  simp only [cost, Option.map_some, Option.elim_some, hd, List.length_drop]
  rw [Nat.div_eq_sub_div (by decide) hq]

end Turn

namespace Tidy

variable {f : Fanout} {number : Nat} {roster : Roster Nat}

/-- Whose turn it is has a worker, and is on the roster no second time. -/
lemma exists_worker (h : Tidy f) (hn : f.roster.next? = some (number, roster)) :
    number ∉ roster.tasks ∧ roster.tasks.Nodup ∧ ∃ w, f.set.workers[number]? = some w := by
  have ht := tasks_of_next? hn
  obtain ⟨hnot, hnodup⟩ := List.nodup_cons.1 (ht ▸ h.nodup)
  exact ⟨hnot, hnodup, _, List.getElem?_eq_getElem (h.valid number (by simp [ht]))⟩

lemma turn (h : Tidy f) (hn : f.roster.next? = some (number, roster)) :
    Tidy (Fanout.turn { f with roster := roster } number).1 := by
  obtain ⟨hnot, hnodup, w, hw⟩ := h.exists_worker hn
  have ht := tasks_of_next? hn
  have hl := (works_turn { f with roster := roster } number).length
  have hv : ∀ i ∈ number :: roster.tasks, i < f.set.workers.length := ht ▸ h.valid
  cases turned_turn (f := { f with roster := roster }) hw with
  | rests _ _ hr =>
      have hp := perm_tasks_rest roster number
      rw [← hr] at hp
      exact ⟨hp.nodup_iff.2 (ht ▸ h.nodup), fun i hi => hl ▸ hv i (hp.mem_iff.1 hi)⟩
  | ends _ hr | stops _ hr =>
      have hp : _ = roster.tasks := congrArg tasks hr
      exact ⟨hp ▸ hnodup, fun i hi => hl ▸ hv i (List.mem_cons_of_mem _ (hp ▸ hi))⟩

/-- **Each turn counts.** -/
lemma demand_turn_lt (h : Tidy f) (hn : f.roster.next? = some (number, roster)) :
    demand (Fanout.turn { f with roster := roster } number).1 < demand f := by
  obtain ⟨hnot, -, w, hw⟩ := h.exists_worker hn
  have hd : (roster.tasks.map fun i =>
      cost (Fanout.turn { f with roster := roster } number).1.set.workers[i]?) =
        roster.tasks.map fun i => cost f.set.workers[i]? := map_cost_turn hnot
  have hf : demand f = cost f.set.workers[number]? +
      (roster.tasks.map fun i => cost f.set.workers[i]?).sum := by
    rw [demand, tasks_of_next? hn, List.map_cons, List.sum_cons]
  cases turned_turn (f := { f with roster := roster }) hw with
  | rests hs hq hr =>
      have hc : cost f.set.workers[number]? =
          cost (Fanout.turn { f with roster := roster } number).1.set.workers[number]? + 1 :=
        cost_turn_of_rests (f := { f with roster := roster }) hw hq hs
      have hp := perm_tasks_rest roster number
      rw [← hr] at hp
      rw [demand, (hp.map _).sum_eq, List.map_cons, List.sum_cons, hd, hf, hc]
      omega
  | ends _ hr | stops _ hr =>
      have hp : _ = roster.tasks := congrArg tasks hr
      rw [demand, hp, hd, hf]
      exact Nat.lt_add_of_pos_left (Nat.succ_pos _)

end Tidy

/-! ### While a fan-out is closing -/

namespace Closing

variable {f : Fanout} {number : Nat} {roster : Roster Nat}

/-- **A worker leaves the roster with an empty queue**, if it is still able to work. -/
lemma turn (h : Closing f) (hn : f.roster.next? = some (number, roster)) :
    Closing (Fanout.turn { f with roster := roster } number).1 := by
  obtain ⟨-, -, w, hw⟩ := h.exists_worker hn
  have hturn := turned_turn (f := { f with roster := roster }) hw
  have hself : (Fanout.turn { f with roster := roster } number).1.set.workers[number]? =
      some (w.meetAll (List.replicate turnLength .step)) := by
    rw [getElem?_turn, if_pos rfl]
    exact congrArg (Option.map _) hw
  refine { h.toTidy.turn hn with
    closed := h.closed
    ready := fun i v hv hst => ?_
    ended := fun i hi v hv => ?_ }
  · by_cases hi : number = i
    · subst hi
      obtain rfl := Option.some.inj (hself.symm.trans hv)
      exact hturn.mem h.closed hst
    · -- a worker other than the one whose turn it is has its place as before
      rw [getElem?_turn, if_neg hi] at hv
      refine hturn.stays ((h.ready i v hv hst).imp_left fun hm => ?_)
      rw [tasks_of_next? hn] at hm
      exact (List.mem_cons.1 hm).resolve_left (Ne.symm hi)
  · rcases hturn.of_mem_ended hi with hi | ⟨rfl, hq⟩
    · obtain ⟨k, hk⟩ := (works_turn { f with roster := roster } number).exists_steps i
      rw [hk] at hv
      obtain ⟨v', hv', rfl⟩ := Option.map_eq_some_iff.1 hv
      exact v'.queue_of_steps k (h.ended i hi v' hv')
    · obtain rfl := Option.some.inj (hself.symm.trans hv)
      exact hq

lemma turns (h : Closing f) (n : Nat) :
    Closing (Fanout.turns n f).1 ∧ demand (Fanout.turns n f).1 ≤ demand f := by
  induction n generalizing f with
  | zero => exact ⟨h, le_rfl⟩
  | succ n ih =>
      rw [Fanout.turns]
      split
      · exact ⟨h, le_rfl⟩
      · rename_i hn
        obtain ⟨hc, hd⟩ := ih (h.turn hn)
        exact ⟨hc, hd.trans (h.demand_turn_lt hn).le⟩

/-- The first of some turns counts, whatever the others are. -/
lemma demand_turns_lt (h : Closing f) (hr : f.roster.ready ≠ []) (n : Nat) :
    demand (Fanout.turns (n + 1) f).1 < demand f := by
  rw [Fanout.turns]
  split
  · rename_i hn
    rw [Roster.next?] at hn
    split at hn
    · exact absurd ‹_› hr
    · cases hn
  · rename_i hn
    exact ((h.turn hn).turns n).2.trans_lt (h.demand_turn_lt hn)

/-- **Each round counts**, as long as there is somebody on the roster. -/
lemma round (h : Closing f) (hr : f.roster.resting = []) :
    Closing f.round.1 ∧ f.round.1.roster.resting = [] ∧
      (f.roster.tasks ≠ [] → demand f.round.1 < demand f) := by
  obtain ⟨hc, -⟩ := h.turns roundLength
  have ht : f.round.1.roster.tasks = (Fanout.turns roundLength f).1.roster.tasks :=
    List.append_nil _
  refine ⟨⟨⟨ht ▸ hc.nodup, ht ▸ hc.valid⟩, hc.closed, ht ▸ hc.ready, hc.ended⟩, rfl, fun hn => ?_⟩
  have hd : demand f.round.1 = demand (Fanout.turns roundLength f).1 := by
    rw [demand, ht]
    rfl
  rw [hd]
  refine h.demand_turns_lt (fun he => hn ?_) _
  rw [tasks, he, hr]
  rfl

end Closing

section Await

variable {f : Fanout}

/-- With nobody on the roster, nothing happens in a round. -/
lemma round_of_tasks_eq_nil (h : f.roster.tasks = []) : f.round.1 = f := by
  obtain ⟨h₁, h₂⟩ := List.append_eq_nil_iff.1 h
  rcases f with ⟨set, ⟨ready, resting⟩, closed, ended⟩
  obtain rfl : ready = [] := h₁
  obtain rfl : resting = [] := h₂
  rfl

lemma awaitAll_of_tasks_eq_nil (h : f.roster.tasks = []) (fuel : Nat) (numbers : List Nat) :
    (awaitAll fuel numbers f).1 = f := by
  induction fuel generalizing numbers with
  | zero => rfl
  | succ fuel ih =>
      cases numbers with
      | nil => rfl
      | cons number others =>
          have hr := round_of_tasks_eq_nil h
          rw [awaitAll]
          split
          · exact ih others
          · split
            · exact ih others
            · exact (congrArg (fun g => (awaitAll fuel (number :: others) g).1) hr).trans (ih _)

/-- The worker with a number leaves nothing in its queue, if it is able to work. -/
def Emptied (f : Fanout) (i : Nat) : Prop :=
  ∀ w, f.set.workers[i]? = some w → w.state = .ready → w.queue = []

/-- What a worker has emptied stays empty. -/
lemma Emptied.works {f' : Fanout} {i : Nat} (h : f.Emptied i) (hw : Works f f') :
    f'.Emptied i := by
  intro w' hw' hs
  obtain ⟨k, hk⟩ := hw.exists_steps i
  rw [hk] at hw'
  obtain ⟨w, hv, rfl⟩ := Option.map_eq_some_iff.1 hw'
  exact w.queue_of_steps k (h w hv (w.of_steps k hs).1)

/-- **Who waits long enough finds the workers done.** -/
lemma Closing.emptied_awaitAll (h : Closing f) (hr : f.roster.resting = []) {fuel : Nat}
    {numbers : List Nat} (hf : demand f + numbers.length ≤ fuel) :
    ∀ i ∈ numbers, (awaitAll fuel numbers f).1.Emptied i := by
  induction fuel generalizing f numbers with
  | zero =>
      have hn : numbers = [] := List.length_eq_zero_iff.1 (by omega)
      rw [hn]
      exact List.forall_mem_nil _
  | succ fuel ih =>
      cases numbers with
      | nil => exact List.forall_mem_nil _
      | cons number others =>
          rw [List.length_cons] at hf
          -- a worker that is not waited for any more has emptied its queue already
          have skip : f.Emptied number → ∀ i ∈ number :: others,
              (awaitAll fuel others f).1.Emptied i := by
            intro he i hi
            rcases List.mem_cons.1 hi with rfl | hi
            · exact he.works (works_awaitAll fuel others f)
            · exact ih h hr (by omega) i hi
          rw [awaitAll]
          split
          case isTrue hg =>
            refine skip fun w hw hs => ?_
            rw [hw, Option.any_some, hs] at hg
            cases hg
          case isFalse =>
            split
            case isTrue he =>
              exact skip fun w hw _ => h.ended number (List.contains_iff_mem.1 he) w hw
            case isFalse =>
              obtain ⟨hc, hr', hd⟩ := h.round hr
              by_cases ht : f.roster.tasks = []
              · -- nobody is on the roster, so that nothing is left to be done
                have hq : (awaitAll fuel (number :: others) f.round.1).1 = f := by
                  rw [round_of_tasks_eq_nil ht]
                  exact awaitAll_of_tasks_eq_nil ht fuel _
                have hall : ∀ i, f.Emptied i := by
                  intro i w hw hs
                  rcases h.ready i w hw hs with hm | hm
                  · rw [ht] at hm
                    cases hm
                  · exact h.ended i hm w hw
                intro i _
                have hi : (awaitAll fuel (number :: others) f.round.1).1.Emptied i := by
                  rw [hq]
                  exact hall i
                exact hi
              · have hlt := hd ht
                exact ih hc hr' (by rw [List.length_cons]; omega)

end Await

section Shutdown

variable {f : Fanout}

lemma Open.closing (h : Open f) : Closing f.close := by
  have hm : ∀ i, i ∈ f.close.roster.tasks ↔
      i ∈ f.roster.tasks ∨ i ∈ f.set.numbers (·.state == .ready) := fun i => mem_wakeAll
  refine ⟨⟨nodup_wakeAll h.nodup _, fun i hi => ?_⟩, rfl, fun i w hw hs => .inl ?_, fun i hi => ?_⟩
  · rcases (hm i).1 hi with hi | hi
    · exact h.valid i hi
    · exact List.mem_range.1 (List.mem_filter.1 hi).1
  · refine (hm i).2 (.inr (List.mem_filter.2 ⟨?_, ?_⟩))
    · exact List.mem_range.2 (List.getElem?_eq_some_iff.1 hw).1
    · have hw' : f.set.workers[i]? = some w := hw
      rw [hw', Option.any_some, hs]
      rfl
  · have he : f.close.ended = [] := h.ended
    rw [he] at hi
    cases hi

/-- There is patience for all turns that may be needed. -/
lemma Tidy.demand_le (h : Tidy f) : demand f ≤ f.patience := by
  obtain ⟨is, hp, hs⟩ : f.roster.tasks.Subperm (List.range f.set.workers.length) :=
    List.subperm_of_subset h.nodup fun i hi => List.mem_range.2 (h.valid i hi)
  have hr : (List.range f.set.workers.length).map (fun i => cost f.set.workers[i]?) =
      f.set.workers.map fun w => cost (some w) := by
    refine List.ext_getElem (by simp) fun i h₁ h₂ => ?_
    rw [List.length_map] at h₂
    simp [h₂]
  calc demand f
      = (is.map fun i => cost f.set.workers[i]?).sum := (hp.map _).sum_eq.symm
    _ ≤ ((List.range f.set.workers.length).map fun i => cost f.set.workers[i]?).sum :=
        (hs.map _).sum_le_sum fun _ _ => Nat.zero_le _
    _ = (f.set.workers.map fun w => cost (some w)).sum := congrArg List.sum hr
    _ ≤ (f.set.workers.map fun w => w.queue.length / turnLength + 2).sum :=
        List.sum_le_sum fun w _ => Nat.le_succ _
    _ = f.patience := by rw [patience, List.sum_eq_foldl, List.foldl_map]

lemma works_shutdown (f : Fanout) : Works f f.shutdown.1 :=
  works_awaitAll _ _ f.close

/-- **After a shutdown nothing is left** in the queue of a worker that is able to work. -/
theorem Open.emptied_shutdown (h : Open f) (i : Nat) : f.shutdown.1.Emptied i := by
  have hc := h.closing
  have hr : f.close.roster.resting = [] := (resting_wakeAll _ _).trans h.resting
  have hl : f.shutdown.1.set.workers.length = f.set.workers.length := f.works_shutdown.length
  have hf : demand f.close + (List.range f.set.workers.length).length ≤
      f.patience + f.set.workers.length := by
    have hd : demand f.close ≤ f.patience := hc.demand_le
    rw [List.length_range]
    omega
  by_cases hi : i < f.set.workers.length
  · exact hc.emptied_awaitAll hr hf i (List.mem_range.2 hi)
  · intro w hw
    rw [List.getElem?_eq_none (by omega)] at hw
    cases hw

end Shutdown

/-! ### While a fan-out is open -/

section Open

variable {f : Fanout}

/-- The workers of a set, when nothing has run yet. -/
lemma open_mk (s : SubscriberSet) : Open { set := s } :=
  ⟨⟨List.nodup_nil, List.forall_mem_nil _⟩, rfl, rfl, rfl⟩

lemma Open.emit (h : Open f) (e : Event) : Open (f.emit e).1 := by
  have hl : (f.emit e).1.set.workers.length = f.set.workers.length :=
    f.set.length_meetAll [.emit e]
  refine ⟨⟨nodup_wakeAll h.nodup _, fun i hi => ?_⟩, (resting_wakeAll _ _).trans h.resting,
    h.closed, h.ended⟩
  rcases mem_wakeAll.1 hi with hi | hi
  · exact hl ▸ h.valid i hi
  · exact List.mem_range.1 (List.mem_filter.1 hi).1

/-- No worker comes to its end while events may come. -/
lemma turns_of_open (h : Tidy f) (hc : f.closed = false) (n : Nat) :
    Tidy (turns n f).1 ∧ (turns n f).1.closed = false ∧ (turns n f).1.ended = f.ended := by
  induction n generalizing f with
  | zero => exact ⟨h, hc, rfl⟩
  | succ n ih =>
      rw [turns]
      split
      · exact ⟨h, hc, rfl⟩
      · rename_i number roster hn
        obtain ⟨ht, hc', he⟩ := ih (h.turn hn) hc
        refine ⟨ht, hc', he.trans ?_⟩
        simp [Fanout.turn, hc]

lemma Open.round (h : Open f) : Open f.round.1 := by
  obtain ⟨ht, hc, he⟩ := turns_of_open h.toTidy h.closed roundLength
  have hr : f.round.1.roster.tasks = (turns roundLength f).1.roster.tasks := List.append_nil _
  exact ⟨⟨hr ▸ ht.nodup, hr ▸ ht.valid⟩, rfl, hc, he.trans h.ended⟩

/-- A fan-out stays open, whatever is emitted to it and however long it is let run. -/
lemma Open.rounds (h : Open f) (n : Nat) : Open (Fanout.rounds n f).1 := by
  induction n generalizing f with
  | zero => exact h
  | succ n ih =>
      rw [Fanout.rounds]
      split
      · exact h
      · exact ih h.round

end Open

end Fanout

/-! ### Whatever the schedule -/

namespace SubscriberSet

/-- **What is delivered.**  Subscribers with any queues, and events and steps of workers in
any order.  For each subscriber:

* What it has handled, what it has in its hands and what waits for it comes in the order in
  which it was emitted, each event at most as often as it was emitted.
* As long as its worker has not broken down, all other events were dropped, and counted.
* Its worker has broken down exactly if it has handed the subscriber an event over which that
  failed where no worker catches it.  Then what was queued is lost, no later event is taken or
  counted, and for each of these it is noted that the worker is gone.
* An event is dropped for it exactly if it finds the queue of this subscriber full, which
  then holds as many events as may wait, and at least one.
* What becomes of it depends on what is emitted and on its own steps, and on no other
  subscriber.
* After a shutdown it has handled all that it had accepted, if its handler comes to an end
  on each of these events, and its worker does not break down over one.

What was dropped under a name is the sum for all subscribers of that name. -/
theorem delivery_of_schedule (subscribers : List Subscriber) (xs : List Input) :
    let s := (of subscribers).meetAll xs
    (∀ (i : Nat) (w : Worker), s.workers[i]? = some w →
        subscribers[i]? = some w.subscriber ∧
          (w.handled ++ w.inHand ++ w.queue).Sublist (emitted xs) ∧
          ((emitted xs).Nodup → (w.handled ++ w.inHand ++ w.queue).Nodup) ∧
          (w.state ≠ .gone →
            (emitted xs).length = (w.handled ++ w.inHand ++ w.queue).length + w.dropped) ∧
          w.queue.length ≤ max w.subscriber.capacity 1 ∧
          (w.state = .gone ↔ ∃ e ∈ w.handled, (w.subscriber.handle e).isFatal = true)) ∧
      (∀ (i : Nat) (w : Worker) (e : Event) (rest : List Event), s.workers[i]? = some w →
        w.state = .ready → w.queue = e :: rest → (w.subscriber.handle e).isFatal = true →
          ∀ ys, (s.meetAll (.step i :: ys)).workers[i]? =
            some { w with queue := [], handled := w.handled ++ [e], state := .gone }) ∧
      (∀ e, (∃ r ∈ (s.emit e).2, r.message = "subscriber worker is gone") ↔
        ∃ w ∈ s.workers, w.state = .gone) ∧
      (∀ (x : Input) (i : Nat) (w w' : Worker), s.workers[i]? = some w →
        (s.meet x).workers[i]? = some w' → w'.dropped = w.dropped +
          if x.event?.isSome = true ∧ w.state ≠ .gone ∧
            max w.subscriber.capacity 1 ≤ w.queue.length then 1 else 0) ∧
      (∀ (others : List Subscriber) (ys : List Input) (i j : Nat),
        others[j]? = subscribers[i]? → own j ys = own i xs →
        ((of others).meetAll ys).workers[j]? = s.workers[i]?) ∧
      (∀ name, s.dropped name =
        ((s.workers.filter (·.subscriber.name == name)).map (·.dropped)).sum) ∧
      ∀ f : Fanout, f.Open → f.set = s → ∀ (i : Nat) (w : Worker), s.workers[i]? = some w →
        ∃ w', f.shutdown.1.set.workers[i]? = some w' ∧ w'.dropped = w.dropped ∧
          ((∀ e ∈ w.handled ++ w.inHand ++ w.queue,
              (w.subscriber.handle e).isFatal = false ∧ w.subscriber.handle e ≠ .endless) →
            w'.queue = [] ∧ w'.handled = w.handled ++ w.inHand ++ w.queue) := by
  intro s
  refine ⟨fun i w hw => ?_, fun i w e rest => getElem?_of_fatal, fun e => s.emit_gone_iff e,
    fun x i w w' => dropped_of_meet, fun others ys i j hs ho => ?_, s.dropped_eq,
    fun f hf hs i w hw => ?_⟩
  · obtain ⟨hs, ha⟩ := account_of_meetAll i hw
    exact ⟨hs, ha.accepted, fun hn => hn.sublist ha.accepted, ha.count, ha.queue, ha.gone⟩
  · rw [getElem?_meetAll, getElem?_meetAll, getElem?_of, getElem?_of, hs, ho]
  · obtain ⟨-, ha⟩ := account_of_meetAll i hw
    obtain ⟨k, hk⟩ := f.works_shutdown.exists_steps i
    rw [hs, hw, Option.map_some] at hk
    refine ⟨_, hk, Worker.dropped_of_steps k w, fun hp => ?_⟩
    have hr : w.state = .ready := by
      cases hst : w.state with
      | ready => rfl
      | busy e => exact absurd (ha.busy e hst) (hp e (by simp [Worker.inHand, hst])).2
      | gone =>
          obtain ⟨e, hm, he⟩ := ha.gone.1 hst
          exact absurd he (Bool.eq_false_iff.1 (hp e (by simp [hm])).1)
    have hw' : Worker.IsPrompt w := ⟨hr, fun e hm => hp e (List.mem_append_right _ hm)⟩
    have hst := (hw'.of_steps k).1
    have hq := hf.emptied_shutdown i _ hk hst
    obtain ⟨-, hd, hh⟩ := w.of_steps k hst
    have hi : w.inHand = [] := by rw [Worker.inHand, hr]
    refine ⟨hq, ?_⟩
    rw [hh, hi, List.append_nil, List.take_of_length_le (List.drop_eq_nil_iff.1 (hd ▸ hq))]

/-- A subscriber whose failure cannot be reported loses its worker: of three events one is handled,
one is lost with the queue, and one is neither accepted nor counted. -/
example :
    let probe : Subscriber := { name := "probe", capacity := 4, handle := fun _ => .fatal none }
    let xs : List Input :=
      [.emit (.of .graphPlaying), .emit (.of .graphQos), .step 0, .emit (.of .graphTornDown)]
    ∃ w, ((of [probe]).meetAll xs).workers[0]? = some w ∧ w.state = .gone ∧
      (emitted xs).length = 3 ∧ (w.handled ++ w.inHand ++ w.queue).length + w.dropped = 1 :=
  ⟨_, rfl, rfl, rfl, rfl⟩

end SubscriberSet

end StreamWarden
