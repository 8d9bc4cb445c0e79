import Mathlib.Tactic
import StreamWarden.Subscriber.Fanout

/-!
# What is delivered to a subscriber

A set of subscribers meets two things: an event is emitted, or a worker takes a step.  These
may come in any order.  What a worker makes of them is its own matter: it is offered every
event, and of the steps only its own count.  It takes an event unless its queue is full, and
what it takes it hands to its subscriber in the order in which it was emitted.

* `Worker.meetAll`, `SubscriberSet.meetAll`: what was met, one thing after the other.
* `Worker.Stepped`: what a step does.
* `Worker.Account`: what was taken and what was dropped; `account_meetAll`.
* `SubscriberSet.getElem?_meetAll`: each worker on its own.
-/

namespace StreamWarden

/-! ### One worker -/

namespace Worker

/-- What a worker meets: it is offered an event, or it takes a step. -/
inductive Input where
  | offer (e : Event)
  | step

/-- The event that is offered. -/
def Input.event? : Input → Option Event
  | .offer e => some e
  | .step => none

/-- A worker that has met something. -/
def meet (w : Worker) : Input → Worker
  | .offer e => (w.offer e).1
  | .step => w.step.1

/-- A worker that has met some things, one after the other. -/
def meetAll (w : Worker) (ys : List Input) : Worker := ys.foldl meet w

/-- The queue has as many events as may wait. -/
lemma isFull_iff {w : Worker} : w.isFull = true ↔ w.subscriber.room ≤ w.queue.length :=
  decide_eq_true_iff

/-- **What a step does.** -/
inductive Stepped (w : Worker) : Worker → Prop where
  /-- There is nothing to do. -/
  | still (h : w.state = .ready → w.queue = []) : Stepped w w
  /-- The subscriber has handled an event. -/
  | done {e : Event} {rest kept : List Event} (hs : w.state = .ready) (hq : w.queue = e :: rest)
      (hf : (w.subscriber.handle e).isFatal = false) (hn : w.subscriber.handle e ≠ .endless) :
      Stepped w { w with queue := rest, handled := w.handled ++ [e], kept := kept }
  /-- The worker has broken down, and its queue with it. -/
  | broken {e : Event} {rest : List Event} (hs : w.state = .ready) (hq : w.queue = e :: rest)
      (hf : (w.subscriber.handle e).isFatal = true) :
      Stepped w { w with queue := [], handled := w.handled ++ [e], state := .gone }
  /-- The subscriber keeps the event in its hands. -/
  | held {e : Event} {rest : List Event} (hs : w.state = .ready) (hq : w.queue = e :: rest)
      (hn : w.subscriber.handle e = .endless) :
      Stepped w { w with queue := rest, state := .busy e }

lemma stepped_step (w : Worker) : Stepped w w.step.1 := by
  rw [step]
  split
  case h_1 e rest hs hq =>
    dsimp only
    split
    case h_1 hh => exact .done hs hq (by rw [hh]; rfl) (by simp [hh])
    case h_2 hh => exact .done hs hq (by rw [hh]; rfl) (by simp [hh])
    case h_3 hh => exact .done hs hq (by rw [hh]; rfl) (by simp [hh])
    case h_4 hh => exact .broken hs hq (by rw [hh]; rfl)
    case h_5 hh => exact .held hs hq hh
  case h_2 h =>
    refine .still fun hs => ?_
    cases hq : w.queue with
    | nil => rfl
    | cons e rest => exact absurd hq (h e rest hs)

/-- **The account of a worker** to which these events were offered. -/
structure Account (es : List Event) (w : Worker) : Prop where
  /-- What was taken comes in the order in which it was offered. -/
  accepted : w.accepted.Sublist es
  /-- What was not taken was counted. -/
  count : w.state ≠ .gone → es.length = w.accepted.length + w.dropped
  queue : w.queue.length ≤ w.subscriber.room
  /-- A worker has broken down when its subscriber has failed beside the handler, and only
  then. -/
  gone : w.state = .gone ↔ ∃ e ∈ w.handled, (w.subscriber.handle e).isFatal = true
  /-- It is stuck only with an event whose handler never returns. -/
  busy : ∀ e, w.state = .busy e → w.subscriber.handle e = .endless

section Account

variable {w : Worker} {es : List Event}

/-- A worker at the beginning. -/
lemma account_new (s : Subscriber) : Account [] { subscriber := s } :=
  ⟨List.Sublist.refl _, fun _ => rfl, Nat.zero_le _, by simp, fun _ h => by cases h⟩

lemma Account.offer (h : Account es w) (e : Event) : Account (es ++ [e]) (w.offer e).1 := by
  by_cases hg : w.state = .gone
  · rw [Worker.offer, if_pos hg]
    exact ⟨h.accepted.trans (List.sublist_append_left _ _), fun hn => absurd hg hn, h.queue, h.gone,
      h.busy⟩
  · have hc := h.count hg
    rw [Worker.offer, if_neg hg]
    by_cases hf : w.isFull = true
    · rw [if_pos hf]
      refine ⟨h.accepted.trans (List.sublist_append_left _ _), fun _ => ?_, h.queue, h.gone,
        h.busy⟩
      have ha : Worker.accepted { w with dropped := w.dropped + 1 } = w.accepted := rfl
      rw [ha, List.length_append, hc]
      exact Nat.add_assoc _ _ _
    · rw [if_neg hf]
      have ha : Worker.accepted { w with queue := w.queue ++ [e] } = w.accepted ++ [e] :=
        (List.append_assoc _ _ _).symm
      refine ⟨ha ▸ h.accepted.append (List.Sublist.refl _), fun _ => ?_, ?_, h.gone, h.busy⟩
      · rw [ha, List.length_append, List.length_append, hc]
        simp only [List.length_singleton]
        omega
      · rw [isFull_iff, not_le] at hf
        rw [List.length_append]
        exact hf

lemma Account.step (h : Account es w) : Account es w.step.1 := by
  have hq := h.queue
  have hw := w.stepped_step
  generalize w.step.1 = w' at hw ⊢
  cases hw with
  | still => exact h
  | @done e rest kept hs hq' hf hn =>
      have ha : Worker.accepted { w with queue := rest, handled := w.handled ++ [e], kept := kept } =
          w.accepted := by simp [Worker.accepted, inHand, hs, hq']
      refine ⟨ha ▸ h.accepted, fun hg => ha ▸ h.count hg, ?_, h.gone.trans ?_, h.busy⟩
      · rw [hq'] at hq
        exact (Nat.le_succ _).trans hq
      · simp [hf]
  | @broken e rest hs hq' hf =>
      have ha : w.accepted = Worker.accepted
          { w with queue := [], handled := w.handled ++ [e], state := .gone } ++ rest := by
        simp [Worker.accepted, inHand, hs, hq']
      refine ⟨(List.sublist_append_left _ rest).trans (ha ▸ h.accepted), fun hg => absurd rfl hg,
        Nat.zero_le _, iff_of_true rfl ⟨e, by simp, hf⟩, fun _ h => by cases h⟩
  | @held e rest hs hq' hn =>
      have ha : Worker.accepted { w with queue := rest, state := .busy e } = w.accepted := by
        simp [Worker.accepted, inHand, hs, hq']
      have hg : w.state ≠ .gone := by simp [hs]
      refine ⟨ha ▸ h.accepted, fun _ => ha ▸ h.count hg, ?_, ?_, fun _ h => ?_⟩
      · rw [hq'] at hq
        exact (Nat.le_succ _).trans hq
      · exact iff_of_false (by simp) fun hf => hg (h.gone.2 hf)
      · cases h
        exact hn

/-- A worker that has broken down stays as it is. -/
lemma meetAll_of_gone (h : w.state = .gone) (ys : List Input) : w.meetAll ys = w := by
  induction ys with
  | nil => rfl
  | cons y ys ih =>
      have hm : w.meet y = w := by
        cases y with
        | offer e => simp [meet, Worker.offer, h]
        | step => simp [meet, Worker.step, h]
      rw [meetAll, List.foldl_cons, hm]
      exact ih

/-- **Whatever a worker meets**, its account is right. -/
theorem account_meetAll (h : Account es w) (ys : List Input) :
    Account (es ++ ys.filterMap Input.event?) (w.meetAll ys) := by
  induction ys generalizing es w with
  | nil =>
      rw [List.filterMap_nil, List.append_nil]
      exact h
  | cons y ys ih =>
      cases y with
      | offer e =>
          have hi := ih (h.offer e)
          rwa [List.append_assoc] at hi
      | step => exact ih h.step

end Account

section Offer

variable {w : Worker}

/-- That the worker has broken down is noted for each event that comes then. -/
lemma offer_gone_iff (w : Worker) (e : Event) :
    (∃ r ∈ (w.offer e).2, r.message = "subscriber worker is gone") ↔ w.state = .gone := by
  by_cases hg : w.state = .gone
  · simp [offer, hg, Subscriber.goneRecord, Subscriber.record]
  · by_cases hf : w.isFull = true
    · simp [offer, hg, hf, Subscriber.fullRecord, Subscriber.record]
    · simp [offer, hg, hf]

/-- No step drops anything. -/
lemma dropped_step (w : Worker) : w.step.1.dropped = w.dropped := by
  have hw := w.stepped_step
  generalize w.step.1 = w' at hw ⊢
  cases hw <;> rfl

/-- **An event is dropped exactly if it finds the queue full.** -/
lemma dropped_meet (w : Worker) (y : Input) : (w.meet y).dropped = w.dropped +
    if y.event?.isSome = true ∧ w.state ≠ .gone ∧ w.subscriber.room ≤ w.queue.length then 1
    else 0 := by
  cases y with
  | step => exact w.dropped_step
  | offer e =>
      by_cases hg : w.state = .gone
      · simp [meet, offer, hg]
      · by_cases hf : w.subscriber.room ≤ w.queue.length
        · simp [meet, offer, hg, hf, isFull, Input.event?]
        · simp [meet, offer, hg, hf, isFull]

lemma subscriber_meet (w : Worker) (y : Input) : (w.meet y).subscriber = w.subscriber := by
  cases y with
  | step =>
      rw [meet]
      have hw := w.stepped_step
      generalize w.step.1 = w' at hw ⊢
      cases hw <;> rfl
  | offer e =>
      rw [meet, offer]
      split
      · rfl
      · split <;> rfl

/-- A worker stays with its subscriber. -/
lemma subscriber_meetAll (w : Worker) (ys : List Input) :
    (w.meetAll ys).subscriber = w.subscriber := by
  induction ys generalizing w with
  | nil => rfl
  | cons y ys ih => exact (ih (w.meet y)).trans (w.subscriber_meet y)

/-- Several steps in a row. -/
lemma steps_eq_meetAll (n : Nat) (w : Worker) :
    (w.steps n).1 = w.meetAll (List.replicate n .step) := by
  induction n generalizing w with
  | zero => rfl
  | succ n ih => exact ih w.step.1

end Offer

end Worker

/-! ### A set of workers -/

namespace SubscriberSet

/-- What a set of subscribers meets: an event is emitted, or a worker takes a step. -/
inductive Input where
  | emit (e : Event)
  | step (number : Nat)

namespace Input

/-- The event that is emitted. -/
def event? : Input → Option Event
  | .emit e => some e
  | .step _ => none

/-- What the worker with a number meets thereby. -/
def own? (number : Nat) : Input → Option Worker.Input
  | .emit e => some (.offer e)
  | .step other => if other = number then some .step else none

end Input

/-- The events that are emitted. -/
def emitted (xs : List Input) : List Event := xs.filterMap Input.event?

/-- What the worker with a number meets. -/
def own (number : Nat) (xs : List Input) : List Worker.Input := xs.filterMap (Input.own? number)

/-- A set that has met something. -/
def meet (s : SubscriberSet) : Input → SubscriberSet
  | .emit e => (s.emit e).1
  | .step number => { workers := s.workers.modify number fun w => w.step.1 }

/-- A set that has met some things, one after the other. -/
def meetAll (s : SubscriberSet) (xs : List Input) : SubscriberSet := xs.foldl meet s

section Each

variable (s : SubscriberSet) (i : Nat)

lemma meetAll_append (xs ys : List Input) : s.meetAll (xs ++ ys) = (s.meetAll xs).meetAll ys :=
  List.foldl_append

lemma offerAll_eq (e : Event) (ws : List Worker) :
    (offerAll e ws).1 = ws.map fun w => (w.offer e).1 := by
  induction ws with
  | nil => rfl
  | cons w ws ih => exact congrArg _ ih

lemma workers_emit (e : Event) : (s.emit e).1.workers = s.workers.map fun w => (w.offer e).1 :=
  offerAll_eq e s.workers

lemma records_emit (e : Event) :
    (s.emit e).2 = s.workers.flatMap fun w => (w.offer e).2 := by
  have h : ∀ ws, (offerAll e ws).2 = ws.flatMap fun w => (w.offer e).2 := by
    intro ws
    induction ws with
    | nil => rfl
    | cons w ws ih => exact congrArg _ ih
  exact h s.workers

/-- An emitted event finds a worker gone exactly if one has broken down. -/
lemma emit_gone_iff (e : Event) :
    (∃ r ∈ (s.emit e).2, r.message = "subscriber worker is gone") ↔
      ∃ w ∈ s.workers, w.state = .gone := by
  simp only [records_emit, List.mem_flatMap, ← Worker.offer_gone_iff _ e]
  constructor
  · rintro ⟨r, ⟨w, hw, hr⟩, hm⟩
    exact ⟨w, hw, r, hr, hm⟩
  · rintro ⟨w, hw, r, hr, hm⟩
    exact ⟨r, ⟨w, hw, hr⟩, hm⟩

lemma getElem?_meet (x : Input) : (s.meet x).workers[i]? =
    s.workers[i]?.map fun w => w.meetAll (Input.own? i x).toList := by
  cases x with
  | emit e =>
      rw [meet, workers_emit, List.getElem?_map]
      rfl
  | step number =>
      rw [meet, List.getElem?_modify]
      by_cases h : number = i
      · simp only [h, if_true, Input.own?]
        rfl
      · simp only [h, if_false, Input.own?]
        rfl

/-- **Each worker is on its own**: what becomes of it depends on what it was and on what it
meets. -/
theorem getElem?_meetAll (xs : List Input) :
    (s.meetAll xs).workers[i]? = s.workers[i]?.map fun w => w.meetAll (own i xs) := by
  induction xs generalizing s with
  | nil =>
      cases h : s.workers[i]? <;> simp [meetAll, own, Worker.meetAll, h]
  | cons x xs ih =>
      have ho : own i (x :: xs) = (Input.own? i x).toList ++ own i xs := by
        rw [own, List.filterMap_cons]
        cases Input.own? i x <;> rfl
      have hm := ih (s.meet x)
      rw [getElem?_meet, Option.map_map] at hm
      refine hm.trans (congrArg (Option.map · s.workers[i]?) (funext fun w => ?_))
      rw [ho]
      exact List.foldl_append.symm

lemma length_meetAll (xs : List Input) : (s.meetAll xs).workers.length = s.workers.length := by
  induction xs generalizing s with
  | nil => rfl
  | cons x xs ih =>
      refine (ih (s.meet x)).trans ?_
      cases x with
      | emit e => rw [meet, workers_emit, List.length_map]
      | step number => exact List.length_modify _ _ _

/-- Every worker is offered all that is emitted. -/
lemma filterMap_event?_own (xs : List Input) :
    (own i xs).filterMap Worker.Input.event? = emitted xs := by
  rw [own, List.filterMap_filterMap, emitted]
  congr 1
  funext x
  cases x with
  | emit e => rfl
  | step number =>
      rw [Input.own?]
      split <;> rfl

/-- A worker of a new set. -/
lemma getElem?_of (subscribers : List Subscriber) :
    (of subscribers).workers[i]? = subscribers[i]?.map fun s => { subscriber := s } :=
  List.getElem?_map

/-- **The account of each worker** of a set. -/
theorem account_of_meetAll {subscribers : List Subscriber} {xs : List Input} {w : Worker}
    (hw : ((of subscribers).meetAll xs).workers[i]? = some w) :
    subscribers[i]? = some w.subscriber ∧ Worker.Account (emitted xs) w := by
  rw [getElem?_meetAll, getElem?_of, Option.map_map] at hw
  obtain ⟨sub, hs, rfl⟩ := Option.map_eq_some_iff.1 hw
  have ha := Worker.account_meetAll (Worker.account_new sub) (own i xs)
  rw [List.nil_append, filterMap_event?_own] at ha
  refine ⟨?_, ha⟩
  rw [hs]
  exact congrArg some (Worker.subscriber_meetAll { subscriber := sub } _).symm

end Each

/-- **An event is dropped for a subscriber exactly if it finds the queue of this subscriber
full.** -/
lemma dropped_of_meet {s : SubscriberSet} {x : Input} {i : Nat} {w w' : Worker}
    (hw : s.workers[i]? = some w) (hw' : (s.meet x).workers[i]? = some w') :
    w'.dropped = w.dropped +
      if x.event?.isSome = true ∧ w.state ≠ .gone ∧ w.subscriber.room ≤ w.queue.length then 1
      else 0 := by
  rw [getElem?_meet, hw] at hw'
  obtain rfl := Option.some.inj hw'
  cases x with
  | emit e => exact w.dropped_meet (.offer e)
  | step number =>
      rw [Input.own?]
      split
      · exact w.dropped_meet .step
      · rfl

/-- **A worker breaks down for good**: what was queued is lost, and nothing is taken or counted
any more. -/
lemma getElem?_of_fatal {s : SubscriberSet} {i : Nat} {w : Worker} {e : Event} {rest : List Event}
    (hw : s.workers[i]? = some w) (hs : w.state = .ready) (hq : w.queue = e :: rest)
    (hf : (w.subscriber.handle e).isFatal = true) (ys : List Input) :
    (s.meetAll (.step i :: ys)).workers[i]? =
      some { w with queue := [], handled := w.handled ++ [e], state := .gone } := by
  have hb : w.step.1 = { w with queue := [], handled := w.handled ++ [e], state := .gone } := by
    cases hh : w.subscriber.handle e with
    | fatal reported? => simp [Worker.step, hs, hq, hh]
    | _ => rw [hh] at hf; cases hf
  have ho : own i (.step i :: ys) = .step :: own i ys := by simp [own, Input.own?]
  rw [getElem?_meetAll, hw, ho, Option.map_some]
  have hm : w.meetAll (.step :: own i ys) = w.step.1.meetAll (own i ys) := rfl
  rw [hm, hb, Worker.meetAll_of_gone rfl]

/-- The drops under a name are those of all workers whose subscribers have it. -/
lemma dropped_eq (s : SubscriberSet) (name : String) : s.dropped name =
    ((s.workers.filter (·.subscriber.name == name)).map (·.dropped)).sum := by
  rw [dropped, List.sum_eq_foldl, List.foldl_map]

lemma own_replicate_step (i number n : Nat) :
    own i (List.replicate n (.step number)) =
      if number = i then List.replicate n .step else [] := by
  rw [own, List.filterMap_replicate, Input.own?]
  by_cases h : number = i
  · rw [if_pos h, if_pos h]
  · rw [if_neg h, if_neg h]

/-- The turn of a worker is a few of its steps. -/
lemma turn_eq_meetAll (s : SubscriberSet) (number : Nat) :
    (s.turn number).1 = s.meetAll (List.replicate turnLength (.step number)) := by
  have h : (s.turn number).1.workers =
      (s.meetAll (List.replicate turnLength (.step number))).workers := by
    refine List.ext_getElem? fun i => ?_
    rw [getElem?_meetAll, own_replicate_step, turn]
    by_cases hi : number = i
    · subst hi
      rw [if_pos rfl]
      cases hw : s.workers[number]? with
      | none => simpa using hw
      | some w =>
          have hn := (List.getElem?_eq_some_iff.1 hw).1
          simp [hn, Worker.turn, Worker.steps_eq_meetAll]
    · rw [if_neg hi]
      cases hw : s.workers[number]? with
      | none => cases hv : s.workers[i]? <;> simp [Worker.meetAll]
      | some w =>
          rw [List.getElem?_set_ne hi]
          cases hv : s.workers[i]? <;> simp [Worker.meetAll]
  exact congrArg SubscriberSet.mk h

end SubscriberSet

end StreamWarden
