import StreamWarden.Proofs.Ending
import StreamWarden.Proofs.Relay

/-!
# No event is lost at the end

The listener of a loop reads what the supervisor passes on to the bus.  The supervisor does
not wait for it: a loop can be over while the listener has read nothing at all.  Everything
is still read after that, as the listener is cancelled only when nothing more is published,
and looks whether it is only when nothing is left to be read.

* `Loop.relayed`: what is passed on to the bus; `told_append`.
* `Loop.Mirrors`, `mirrors_turn`: the turns of the tasks are things that happen around a
  listener; `mirrors_close`, `close_of_turns`: so is the end of a loop.
* `Sound.told_of_stop`: the events of the step that takes a stop.
* **`passed_of_run`**: no event is lost at the end of a run.
-/

namespace StreamWarden

namespace Supervisor

open State

/-! ### The listener of a loop -/

namespace Loop

variable {l : Loop} {r : Relay} {ms : List Happening}

/-- The events that are passed on meanwhile. -/
def relayed : Loop → List Happening → List Event
  | _, [] => []
  | l, m :: ms => l.passes m ++ (l.happen m).relayed ms

/-- What is told later comes behind what was passed on before. -/
lemma told_append (l : Loop) (ms ns : List Happening) :
    l.told (ms ++ ns) = l.relayed ms ++ (l.after ms).told ns := by
  induction ms generalizing l with
  | nil => rfl
  | cons m ms ih =>
      calc l.told (m :: ms ++ ns)
          = l.passes m ++ (l.happen m).told (ms ++ ns) := rfl
        _ = l.passes m ++ ((l.happen m).relayed ms ++ ((l.happen m).after ms).told ns) := by
          rw [ih]
        _ = l.relayed (m :: ms) ++ (l.after (m :: ms)).told ns := (List.append_assoc _ _ _).symm

/-- What stands between a supervisor and its subscribers. -/
def hall (l : Loop) : Bus Event × ℕ × SubscriberSet := (l.bus, l.listener, l.subscribers)

lemma hall_restIf (l : Loop) (more : Bool) (t : Task) : (l.restIf more t).hall = l.hall := by
  rw [restIf]
  split <;> rfl

lemma hall_proceed (l : Loop) (s : State) : (l.proceed s).hall = l.hall := by
  rcases l.proceed_cases s with ⟨-, h⟩ | ⟨e, -, h⟩ <;> rw [h] <;> rfl

lemma hall_post (l : Loop) (q : Request) : (l.post q).1.hall = l.hall := by
  rw [post]
  split <;> rfl

lemma hall_publish (l : Loop) :
    l.publish.hall = (l.state.events.foldl Bus.publish l.bus, l.listener, l.subscribers) := by
  rw [publish]
  dsimp only
  split <;> rfl

/-- Only what is passed on comes there. -/
lemma hall_happen (l : Loop) {m : Happening} (hm : m ≠ .publish) :
    (l.happen m).hall = l.hall := by
  cases m with
  | step =>
      rcases l.happen_step with ⟨-, hv⟩ | ⟨-, x, rs, ms, -, -, hv⟩ <;> rw [hv]
      exact hall_proceed _ _
  | publish => exact absurd rfl hm
  | post q => exact l.hall_post q
  | report m =>
      rw [happen, postStatus]
      split <;> rfl
  | dropHandles | endBridge | around => rfl

lemma hall_forwardAll (b : Signal.Bindings) (signals : List Signal) (l : Loop) :
    (forwardAll b signals l).hall = l.hall := by
  induction signals generalizing l with
  | nil => rfl
  | cons s signals ih =>
      have hs : (l.signal b s).1.hall = l.hall := hall_post _ _
      rw [forwardAll]
      split
      · rename_i v hv
        rw [hv] at hs
        exact (ih v).trans hs
      · rename_i v hv
        rw [hv] at hs
        exact hs

lemma hall_forward (l : Loop) : l.forward.hall = l.hall := by
  rw [forward]
  dsimp only
  split
  · exact hall_forwardAll _ _ _
  · rfl

/-- A listener stands where the one of a loop does, and is still at work. -/
structure Mirrors (l : Loop) (r : Relay) : Prop where
  hall : (r.bus, r.position, r.set) = l.hall
  isOpen : r.bus.closed = false
  cancelled : r.cancelled = false
  ended : r.ended = false

/-- The loop has changed elsewhere. -/
lemma Mirrors.of_hall {v : Loop} (h : Mirrors l r) (hv : v.hall = l.hall) : Mirrors v r :=
  { h with hall := h.hall.trans hv.symm }

lemma Mirrors.parts (h : Mirrors l r) :
    r.bus = l.bus ∧ r.position = l.listener ∧ r.set = l.subscribers := by
  simpa only [Loop.hall, Prod.mk.injEq] using h.hall

/-- What is passed on is published. -/
lemma mirrors_happen (h : Mirrors l r) {m : Happening} {rest : List Event}
    (hc : r.coming = l.passes m ++ rest) :
    ∃ xs, Mirrors (l.happen m) (r.after xs) ∧ (r.after xs).coming = rest := by
  by_cases hm : m = .publish
  · subst hm
    obtain ⟨hb, hp, hs⟩ := h.parts
    have hc' : r.coming = l.state.events ++ rest := hc
    refine ⟨List.replicate l.state.events.length .publish, ?_⟩
    rw [r.after_publish hc']
    refine ⟨⟨?_, ?_, h.cancelled, h.ended⟩, rfl⟩
    · rw [happen, hall_publish, hb, hp, hs]
    · exact (Bus.publishAll _ _).2.2.trans h.isOpen
  · refine ⟨[], h.of_hall (l.hall_happen hm), ?_⟩
    have hp : l.passes m = [] := by
      cases m with
      | publish => exact absurd rfl hm
      | _ => rfl
    rw [hp] at hc
    exact hc

lemma mirrors_after (h : Mirrors l r) {rest : List Event} (hc : r.coming = l.relayed ms ++ rest) :
    ∃ xs, Mirrors (l.after ms) (r.after xs) ∧ (r.after xs).coming = rest := by
  induction ms generalizing l r with
  | nil => exact ⟨[], h, hc⟩
  | cons m ms ih =>
      rw [relayed, List.append_assoc] at hc
      obtain ⟨xs, hx, hcx⟩ := mirrors_happen h hc
      obtain ⟨ys, hy, hcy⟩ := ih hx hcx
      exact ⟨xs ++ ys, by rwa [r.after_append], by rwa [r.after_append]⟩

/-- **Each turn of a task**, of whichever, is something that happens around the listener. -/
theorem mirrors_turn (l : Loop) (t : Task) : ∃ es, ∀ r rest, Mirrors l r →
    r.coming = es ++ rest → ∃ xs, Mirrors (l.turn t) (r.after xs) ∧ (r.after xs).coming = rest := by
  cases t with
  | supervisor =>
      refine ⟨l.relayed (List.replicate turnLength .step ++ [.publish]), fun r rest h hc => ?_⟩
      obtain ⟨xs, hx, hcx⟩ := mirrors_after h hc
      refine ⟨xs, hx.of_hall ?_, hcx⟩
      rw [turn, supervise_eq, hall_restIf]
  | worker number =>
      refine ⟨[], fun r rest h hc => ⟨List.replicate turnLength (.work number), ?_⟩⟩
      obtain ⟨hb, hp, hs⟩ := h.parts
      rw [r.after_work]
      refine ⟨⟨?_, h.isOpen, h.cancelled, h.ended⟩, hc⟩
      have hw : (l.turn (.worker number)).hall =
          (l.bus, l.listener, (l.subscribers.turn number).1) := hall_restIf _ _ _
      rw [hw, SubscriberSet.turn_eq_meetAll, hb, hp, hs]
  | listener =>
      refine ⟨[], fun r rest h hc => ⟨List.replicate turnLength .poll, ?_⟩⟩
      obtain ⟨hb, hp, hs⟩ := h.parts
      rw [Relay.after_polls _ h.ended h.isOpen]
      refine ⟨⟨?_, h.isOpen, h.cancelled, by simp [h.cancelled]⟩, hc⟩
      have hw : (l.turn .listener).hall = (l.bus, (l.bus.readUpTo turnLength l.listener).2,
          (l.subscribers.hear (l.bus.readUpTo turnLength l.listener).1).1) := hall_restIf _ _ _
      rw [hw, hb, hp, hs]
  | bridge => exact ⟨[], fun r rest h hc => ⟨[], h.of_hall l.hall_forward, hc⟩⟩

/-- The same of all turns that the tasks take. -/
theorem mirrors_turns (n : ℕ) (l : Loop) : ∃ es, ∀ r rest, Mirrors l r →
    r.coming = es ++ rest →
    ∃ xs, Mirrors (turns n l) (r.after xs) ∧ (r.after xs).coming = rest := by
  induction n generalizing l with
  | zero => exact ⟨[], fun r rest h hc => ⟨[], h, hc⟩⟩
  | succ n ih =>
      rw [turns]
      cases l.roster.next? with
      | none => exact ⟨[], fun r rest h hc => ⟨[], h, hc⟩⟩
      | some next =>
          obtain ⟨t, roster⟩ := next
          obtain ⟨es, ht⟩ := mirrors_turn { l with roster := roster } t
          obtain ⟨es', hn⟩ := ih (turn { l with roster := roster } t)
          refine ⟨es ++ es', fun r rest h hc => ?_⟩
          rw [List.append_assoc] at hc
          obtain ⟨xs, hx, hcx⟩ := ht r _ (h.of_hall rfl) hc
          obtain ⟨ys, hy, hcy⟩ := hn _ _ hx hcx
          exact ⟨xs ++ ys, by rwa [r.after_append], by rwa [r.after_append]⟩

/-- **The end of a loop**: the listener is cancelled and comes to its end, and what it hands
back is shut down. -/
theorem mirrors_close (h : Mirrors l r) (hf : r.final = true) (hc : r.coming = []) :
    (r.after (.cancel :: List.replicate (r.unread + 1) .poll)).ended = true ∧
      l.close.subscribers = (Fanout.shutdown
        { set := (r.after (.cancel :: List.replicate (r.unread + 1) .poll)).set }).1.set := by
  obtain ⟨hb, hp, hs⟩ := h.parts
  have hr : r.act .cancel = { r with cancelled := true } := by rw [Relay.act, hf, hc]; rfl
  have ha : r.after (.cancel :: List.replicate (r.unread + 1) .poll) =
      ({ r with cancelled := true } : Relay).after (List.replicate (r.unread + 1) .poll) :=
    congrArg (Relay.after · _) hr
  refine ⟨Relay.ended_of_cancel hf hc, ?_⟩
  rw [ha, Relay.after_polls (r := { r with cancelled := true }) _ h.ended h.isOpen]
  dsimp only
  rw [Relay.unread, hb, hp, hs]
  rfl

/-- **However many turns the tasks of a loop take**, there is a listener that goes through the
same, with the events that were passed on to the bus, and is at its end when the loop is
ended; and what it hands back is shut down. -/
theorem close_of_turns (u : Setup) (capacity : ℕ) (subscribers : List Subscriber)
    (bridge : Option Signal.Bindings) (n : ℕ) :
    let l := u.loop capacity subscribers bridge
    let start := Relay.start l.bus l.subscribers (turns n l).bus.published.toList true
    ∃ xs, (start.after xs).ended = true ∧
      (turns n l).close.subscribers = (Fanout.shutdown { set := (start.after xs).set }).1.set := by
  intro l start
  obtain ⟨es, h⟩ := mirrors_turns n l
  obtain ⟨xs, hx, hc⟩ := h (Relay.start l.bus l.subscribers es true) [] ⟨rfl, rfl, rfl, rfl⟩
    (List.append_nil es).symm
  -- The events of that listener are those on the bus, as none is still to be published.
  have ho : l.bus.closed = false := rfl
  obtain ⟨past, waiting, hr⟩ := Relay.since_after (Relay.since_start l.subscribers es true ho) xs
  have he : es = (turns n l).bus.published.toList := by
    rw [← hx.parts.1, hr.published]
    exact hr.coming.trans (by rw [hc, List.append_nil]; rfl)
  obtain ⟨hd, hv⟩ := mirrors_close hx (Relay.final_after _ xs) hc
  rw [← Relay.after_append, he] at hd hv
  exact ⟨_, hd, hv⟩

end Loop

/-! ### The end of a run -/

section Farewell

variable {l : Loop}

/-- There are few events in the last step. -/
lemma length_farewell_le (s : State) : s.farewell.length ≤ 5 := by
  have hp : s.parting.length ≤ 2 := by
    rw [parting, Studio.lastWords]
    cases s.session <;> cases s.graph <;> simp
  rw [farewell]
  split
  · simp
  · simp only [List.length_cons, List.length_append, List.length_nil]
    omega

/-- **The step that takes a stop tells the last events.** -/
lemma Sound.told_of_stop {as : List Happening} (h : Sound l)
    (hc : (l.after as).call? = some .stop) (bs : List Happening) :
    l.told (as ++ .step :: bs) = l.told as ++ (l.after as).state.farewell := by
  have ht := h.after as
  obtain ⟨-, -, he, -⟩ := ht.rest_of_stop hc
  have ho : ((l.after as).happen .step).isOver = true :=
    ht.isOver_of_stop (m := .step) (congrArg Option.toList hc)
  have ha : l.told as = l.relayed as ++ (l.after as).state.events := by
    simpa [Loop.told] using l.told_append as []
  calc l.told (as ++ .step :: bs)
      = l.relayed as ++ ((l.after as).happen .step).told bs := l.told_append as (.step :: bs)
    _ = l.relayed as ++ ((l.after as).state.events ++ (l.after as).state.farewell) := by
      rw [(Loop.still_after ho bs).2.2.2, he]
    _ = l.told as ++ (l.after as).state.farewell := by rw [ha, List.append_assoc]

end Farewell

/-- **No event is lost at the end of a run.**  Whatever is on the bus before, and in whatever
order the supervisor publishes, the listener looks for something to do and the workers take
their steps, the subscribers are given the events that the listener has read, in the order in
which they were published and none of them twice, and every other event behind the listener is
counted as missed.  When the listener has come to its end, the run is over, and this holds of
all events of the run; the latest of them, as many as the bus keeps, were all read.  So were
those of the step that took the stop, if the bus keeps as many, even if the listener was
cancelled before it could read any.  A listener that is cancelled comes to its end when it has
looked once more than there is something before it, and when the run is over it can. -/
theorem passed_of_run (u : Setup) (capacity : ℕ) (subscribers : List Subscriber)
    (bridge : Option Signal.Bindings) (earlier : List Event) (ms : List Happening)
    (xs : List Relay.Act) :
    let l := u.loop capacity subscribers bridge
    let t := l.after ms
    let r := (Relay.start (earlier.foldl Bus.publish l.bus) l.subscribers (l.told ms)
      t.state.exited).after xs
    (∃ past waiting, l.told ms = past ++ waiting ++ r.coming ∧
        r.bus.published.toList = earlier ++ past ++ waiting ∧ Bus.Spans r.heard past ∧
        r.passed.Sublist past ∧
        r.passed.length + (r.heard.map Bus.Reading.skipped).sum = past.length) ∧
      (∃ ys, r.set = (SubscriberSet.of subscribers).meetAll ys ∧
        SubscriberSet.emitted ys = r.passed) ∧
      (r.ended = true → t.state.exited = true ∧ r.coming = [] ∧
        Bus.Spans r.heard (l.told ms) ∧ r.passed.Sublist (l.told ms) ∧
        r.passed.length + (r.heard.map Bus.Reading.skipped).sum = (l.told ms).length ∧
        (l.told ms).drop ((l.told ms).length - powerOfTwoAbove capacity) <:+ r.passed) ∧
      (∀ as bs, ms = as ++ .step :: bs → (l.after as).call? = some .stop →
        l.told ms = l.told as ++ (l.after as).state.farewell ∧
          (l.after as).state.farewell.length ≤ 5 ∧
          (r.ended = true → (l.after as).state.farewell.length ≤ powerOfTwoAbove capacity →
            (l.after as).state.farewell <:+ r.passed)) ∧
      (r.cancelled = true → ∀ ys, r.unread < ys.count .poll → (r.after ys).ended = true) ∧
      (t.state.exited = true → ∃ ys, (r.after ys).ended = true) := by
  intro l t r
  obtain ⟨hp, hk, ho⟩ := Bus.publishAll l.bus earlier
  obtain ⟨past, waiting, h⟩ := Relay.since_after
    (Relay.since_start l.subscribers (l.told ms) t.state.exited ho) xs
  have hb : r.bus.published.toList = earlier ++ past ++ waiting := by
    rw [h.published]
    exact congrArg (· ++ past ++ waiting) hp
  have hend : r.ended = true → t.state.exited = true ∧ r.coming = [] ∧
      Bus.Spans r.heard (l.told ms) ∧
      (l.told ms).drop ((l.told ms).length - powerOfTwoAbove capacity) <:+ r.passed := by
    intro he
    obtain ⟨hf, hn, hs, hr⟩ := h.of_ended he
    refine ⟨hf, hn, hs, ?_⟩
    have hc : (Relay.start (earlier.foldl Bus.publish l.bus) l.subscribers (l.told ms)
        t.state.exited).bus.capacity = powerOfTwoAbove capacity := hk
    rwa [hc] at hr
  have hcan : r.cancelled = true → ∀ ys, r.unread < ys.count .poll → (r.after ys).ended = true :=
    fun hc ys => Relay.ended_of_polls hc (h.cancelled hc).2
  refine ⟨⟨past, waiting, h.coming, hb, h.spans, h.spans.sublist, h.spans.length⟩, h.set,
    fun he => ?_, fun as bs hms hc => ?_, hcan, fun hx => ?_⟩
  · obtain ⟨hx, hn, hs, hr⟩ := hend he
    exact ⟨hx, hn, hs, hs.sublist, hs.length, hr⟩
  · have ht : l.told ms = l.told as ++ (l.after as).state.farewell :=
      hms ▸ (sound_loop u capacity subscribers bridge).told_of_stop hc bs
    refine ⟨ht, length_farewell_le _, fun he hl => ?_⟩
    refine List.IsSuffix.trans ?_ (hend he).2.2.2
    rw [ht, List.length_append, List.drop_append_of_le_length (by omega)]
    exact List.suffix_append _ _
  · exact r.exists_ended (h.final.trans hx)

end Supervisor

end StreamWarden
