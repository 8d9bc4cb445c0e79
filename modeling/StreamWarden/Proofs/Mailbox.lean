import StreamWarden.Proofs.Finality
import StreamWarden.Proofs.Happenings

/-!
# The account of the requests

However things happen to a loop, the requests are taken in the order in which they were
posted, and each is told once.  The run ends when a stop is taken, or the end of all handles
in place of one, and nothing is taken after that.

A loop can also break down, at a limit of the machine; it then leaves the requests that
still wait.  It does not break down over a stop.

* `Sound`: what no happening changes; a loop that goes on is settled, and one that has broken
  down took no stop.
* `filter_happen`, `requests_happen`, `exited_happen`: the account of one happening.
* `filter_told`, `posted_eq`, `exited_after`, `stop_notMem_dropLast`: the account of all that
  happens.
-/

namespace StreamWarden.Supervisor

open State

/-! ### What no happening changes -/

namespace Loop

/-- What is noted before an answer is a word in the log. -/
lemma told_heard (l : Loop) : Told l.state [] l.heard := by
  rw [heard]
  split
  · exact told_log _ _ _ _
  · exact .refl _

lemma excess_heard (l : Loop) : l.heard.excess? = l.state.excess? := by
  rw [heard]
  split
  · exact excess_put l.state rfl
  · rfl

end Loop

/-- What no happening changes: a loop that has not broken down is settled, and has met no
limit; one that has broken down has not come to its end. -/
structure Sound (l : Loop) : Prop where
  settled : l.excess = none → Settled l.state
  unbroken : l.excess = none → l.state.excess? = none
  broken : l.excess.isSome = true → l.state.exited = false

namespace Sound

variable {l v : Loop}

/-- A new state may be one at which a limit was met, if the run goes on in it. -/
lemma proceed {s : State} (hl : l.excess = none) (hs : Settled s)
    (hx : s.excess?.isSome = true → s.exited = false) : Sound (l.proceed s) := by
  rcases l.proceed_cases s with ⟨hn, h⟩ | ⟨e, he, h⟩
  · have hv : (l.enter s).excess = none := hl
    rw [h]
    refine ⟨fun _ => hs, fun _ => hn, fun hb => ?_⟩
    rw [hv] at hb
    cases hb
  · rw [h]
    exact ⟨nofun, nofun, fun _ => hx (by rw [he]; rfl)⟩

/-- The state in which a request is answered is settled, and the run goes on in it. -/
lemma heard (h : Sound l) {r : Request} (hc : l.call? = some r) :
    Settled l.heard ∧ l.heard.exited = false ∧ l.heard.excess? = none := by
  obtain ⟨hx, he⟩ := Loop.isOver_eq_false_iff.1 (Loop.isOver_of_call hc)
  refine ⟨(h.settled he).told l.told_heard, ?_, ?_⟩
  · obtain ⟨files, outs, ht, -⟩ := l.told_heard
    rw [ht]
    exact hx
  · rw [l.excess_heard, h.unbroken he]

lemma step (h : Sound l) (hv : l.step? = some v) : Sound v := by
  rcases Loop.step_cases hv with ⟨r, hc, rfl⟩ | ⟨ho, -, hw⟩
  · obtain ⟨hs, hx, hn⟩ := h.heard hc
    obtain ⟨es, hm⟩ := moves_onRequest hs hx r
    refine proceed (Loop.isOver_eq_false_iff.1 (Loop.isOver_of_call hc)).2 (hm.settled hs)
      fun hb => ?_
    have hr : r ≠ .stop := by
      rintro rfl
      rw [(onRequest_stop hs).2.2.2, hn] at hb
      cases hb
    exact (lasts_onRequest _ hr).trans hx
  · obtain ⟨hx, he⟩ := Loop.isOver_eq_false_iff.1 ho
    have hs := h.settled he
    rcases hw with ⟨m, rest, rfl⟩ | rfl
    · obtain ⟨es, hm⟩ := moves_onStatus hs m
      exact proceed he (hm.settled hs) fun _ => (Bond.onStatus (R := Lasts) _ m).trans hx
    · obtain ⟨es, hm⟩ := moves_onWake hs
      exact proceed he (hm.settled hs) fun _ => (Bond.onWake (R := Lasts) _).trans hx

/-- Another loop whose state differs in the host alone. -/
lemma host (h : Sound l) {f : Host → Host} (hv : v.state = l.state.onHost f)
    (he : v.excess = l.excess) (hf : l.excess = none → v.state.excess? = none) : Sound v where
  settled hn := by
    rw [hv]
    exact (h.settled (he ▸ hn)).host f
  unbroken hn := hf (he ▸ hn)
  broken hb := by
    rw [hv]
    exact h.broken (he ▸ hb)

/-- **Every happening keeps a loop sound.** -/
theorem happen (h : Sound l) (m : Happening) : Sound (l.happen m) := by
  cases m with
  | step =>
      cases hv : l.step? with
      | none => rwa [Loop.happen_step_of_none hv]
      | some v =>
          rw [Loop.happen_step_of_some hv]
          exact h.step hv
  | publish =>
      obtain ⟨hs, -, he, -⟩ := l.publish_keeps
      exact h.host hs he fun _ => by rw [Loop.happen, hs]; rfl
  | post r =>
      obtain ⟨hs, -, he, -⟩ := l.post_keeps r
      exact h.host (f := id) hs he fun hn => by rw [Loop.happen, hs]; exact h.unbroken hn
  | report m =>
      obtain ⟨hs, -, he, -⟩ := l.postStatus_keeps m
      exact h.host (f := id) hs he fun hn => by rw [Loop.happen, hs]; exact h.unbroken hn
  | dropHandles | endBridge => exact ⟨h.settled, h.unbroken, h.broken⟩
  | around x hx =>
      obtain ⟨hj, hd, -⟩ := answer_keeps (s := l.state) hx
      refine ⟨fun hn => ?_, fun hn => ?_, fun hb => hd.trans (h.broken hb)⟩
      · have hs := settled_react (h.settled hn) x
        rwa [l.state.react_of_not_isIteration hx] at hs
      · have hx' : (l.state.answer x).excess? = l.state.excess? :=
          congrArg (fun j : List Output => j.reverse.findSome? Output.excess?) hj
        exact hx'.trans (h.unbroken hn)

theorem after (h : Sound l) (ms : List Happening) : Sound (l.after ms) := by
  induction ms generalizing l with
  | nil => exact h
  | cons m ms ih => exact ih (h.happen m)

/-! ### The account of one happening -/

/-- What comes to be told of requests on the way to a new state stays to be seen. -/
lemma adds_proceed {s t : State} (hs : s.excess? = none) (h : Adds s t) :
    Adds s (l.proceed t).state := by
  rcases l.proceed_cases t with ⟨-, hp⟩ | ⟨e, -, hp⟩ <;> rw [hp]
  · exact h
  · exact h.cut hs

/-- A step that takes a request: it tells of it, and ends the run if it is a stop. -/
lemma step_some (h : Sound l) {r : Request} (hc : l.call? = some r) (hv : l.step? = some v) :
    v.state.events.filter Event.isAsked =
        l.state.events.filter Event.isAsked ++ [.asked r.label] ∧
      (v.state.exited = true ↔ r = .stop) ∧ v.requests = l.requests.tail ∧
      v.isHeld = l.isHeld := by
  obtain ⟨hs, hx, hn⟩ := h.heard hc
  obtain rfl := Option.some.inj ((Loop.step_of_call hc).symm.trans hv)
  obtain ⟨hr, hh, he⟩ :=
    Loop.proceed_keeps { l with requests := l.requests.tail } (l.heard.onRequest r)
  refine ⟨?_, ?_, hr, hh⟩
  · have hn' : (l.heard.emit (.asked r.label)).excess? = none :=
      (excess_put l.heard rfl).trans hn
    have hev : (l.heard.emit (.asked r.label)).events = l.state.events ++ [.asked r.label] :=
      (l.told_heard.trans (told_emit _ (.asked r.label))).events
    rw [(adds_proceed hn' (adds_onRequest hs r)).asked, hev, List.filter_append]
    rfl
  · rw [he]
    by_cases hr : r = .stop
    · subst hr
      simp [(onRequest_stop hs).1.exited]
    · have hl : (l.heard.onRequest r).exited = false := (lasts_onRequest _ hr).trans hx
      simp [hl, hr]

/-- A step that takes no request tells of none, and the run goes on. -/
lemma step_none (h : Sound l) (hc : l.call? = none) (hv : l.step? = some v) :
    v.state.events.filter Event.isAsked = l.state.events.filter Event.isAsked ∧
      v.state.exited = l.state.exited ∧ v.requests = l.requests ∧ v.isHeld = l.isHeld := by
  rcases Loop.step_cases hv with ⟨r, hc', -⟩ | ⟨ho, -, hw⟩
  · rw [hc] at hc'
    cases hc'
  · have hn := h.unbroken (Loop.isOver_eq_false_iff.1 ho).2
    rcases hw with ⟨m, rest, rfl⟩ | rfl
    · obtain ⟨hr, hh, he⟩ :=
        Loop.proceed_keeps { l with statuses := rest } (l.state.onStatus m)
      exact ⟨(adds_proceed hn (Bond.onStatus (R := Adds) _ m)).asked,
        he.trans (Bond.onStatus (R := Lasts) _ m), hr, hh⟩
    · obtain ⟨hr, hh, he⟩ := l.proceed_keeps l.state.onWake
      exact ⟨(adds_proceed hn (Bond.onWake (R := Adds) _)).asked,
        he.trans (Bond.onWake (R := Lasts) _), hr, hh⟩

/-- **A happening tells of the request that is taken**, once, and of no other. -/
theorem filter_happen (h : Sound l) (m : Happening) :
    (l.passes m ++ (l.happen m).state.events).filter Event.isAsked =
      l.state.events.filter Event.isAsked ++
        (l.takes m).map fun r => Event.asked r.label := by
  rcases l.happen_cases m with hb | ⟨rfl, v, hv⟩
  · rw [hb.told, hb.takes]
    exact (List.append_nil _).symm
  · rw [Loop.happen_step_of_some hv, Loop.takes]
    cases hc : l.call? with
    | none => exact (h.step_none hc hv).1.trans (List.append_nil _).symm
    | some r => exact (h.step_some hc hv).1

/-- What is taken is the first that waited, and what is accepted comes behind the others. -/
lemma requests_happen (h : Sound l) (m : Happening) :
    l.requests ++ l.accepts m = l.takes m ++ (l.happen m).requests ∨
      l.takes m = [.stop] ∧ l.requests = [] ∧ l.accepts m = [] ∧ (l.happen m).requests = [] ∧
        (l.happen m).isHeld = false := by
  rcases l.happen_cases m with hb | ⟨rfl, v, hv⟩
  · rw [hb.takes]
    exact .inl hb.requests.symm
  · have ha : l.accepts .step = [] := rfl
    rw [Loop.happen_step_of_some hv, Loop.takes, ha]
    cases hc : l.call? with
    | none => exact .inl ((List.append_nil _).trans (h.step_none hc hv).2.2.1.symm)
    | some r =>
        obtain ⟨-, -, hr, hh⟩ := h.step_some hc hv
        rcases Loop.call_cases hc with ⟨rest, hq⟩ | ⟨rfl, hq, hn⟩
        · left
          simp [hr, hq]
        · right
          simp [hr, hh, hq, hn]

/-- **A run ends when a stop is taken**, and only then. -/
theorem exited_happen (h : Sound l) (m : Happening) :
    (l.happen m).state.exited = true ↔ l.state.exited = true ∨ .stop ∈ l.takes m := by
  rcases l.happen_cases m with hb | ⟨rfl, v, hv⟩
  · rw [hb.exited, hb.takes]
    simp
  · rw [Loop.happen_step_of_some hv, Loop.takes]
    cases hc : l.call? with
    | none =>
        rw [(h.step_none hc hv).2.1]
        simp
    | some r =>
        have hx := (Loop.isOver_eq_false_iff.1 (Loop.isOver_of_call hc)).1
        rw [(h.step_some hc hv).2.1, hx]
        simp [eq_comm]

/-! ### The account of what happens -/

lemma isOver_of_stop (h : Sound l) {m : Happening} (ht : l.takes m = [.stop]) :
    (l.happen m).isOver = true := by
  have hx : (l.happen m).state.exited = true :=
    (h.exited_happen m).2 (.inr (ht ▸ List.mem_singleton_self _))
  rw [Loop.isOver, hx]
  rfl

/-- **Each request that is taken is told once**, in the order in which they are taken, and no
other is. -/
theorem filter_told (h : Sound l) (ms : List Happening) :
    (l.told ms).filter Event.isAsked =
      l.state.events.filter Event.isAsked ++ (l.handled ms).map fun r => Event.asked r.label := by
  induction ms generalizing l with
  | nil => exact (List.append_nil _).symm
  | cons m ms ih =>
      have hm := h.filter_happen m
      rw [List.filter_append] at hm
      rw [Loop.told, Loop.handled, List.filter_append, ih (h.happen m), ← List.append_assoc, hm,
        List.map_append, List.append_assoc]

/-- **Requests are taken in the order in which they were posted.**  Those that are not taken
still wait, unless all were, and nobody could post another: then a stop is taken in its
place. -/
theorem posted_eq (h : Sound l) (ms : List Happening) :
    l.requests ++ l.posted ms = l.handled ms ++ (l.after ms).requests ∨
      l.handled ms = l.requests ++ l.posted ms ++ [.stop] ∧ (l.after ms).requests = [] ∧
        (l.after ms).isHeld = false := by
  induction ms generalizing l with
  | nil => exact .inl (List.append_nil _)
  | cons m ms ih =>
      have ha : l.after (m :: ms) = (l.happen m).after ms := rfl
      rw [Loop.posted, Loop.handled, ha]
      rcases h.requests_happen m with hm | ⟨ht, hq, ha, hr, hh⟩
      · rw [← List.append_assoc, hm]
        rcases ih (h.happen m) with hi | ⟨hi, hr, hh⟩
        · exact .inl (by rw [List.append_assoc, hi, List.append_assoc])
        · exact .inr ⟨by simp [hi], hr, hh⟩
      · obtain ⟨hs, hp, hn, -⟩ := Loop.still_after (h.isOver_of_stop ht) ms
        rw [ht, hq, ha, hp, hn]
        exact .inr ⟨rfl, hs.requests.trans hr, Loop.isHeld_after hh ms⟩

/-- **A run ends when a stop is taken**, and only then. -/
theorem exited_after (h : Sound l) (ms : List Happening) :
    (l.after ms).state.exited = true ↔ l.state.exited = true ∨ .stop ∈ l.handled ms := by
  induction ms generalizing l with
  | nil => simp [Loop.after, Loop.handled]
  | cons m ms ih =>
      have hi := ih (h.happen m)
      rw [h.exited_happen m, or_assoc, ← List.mem_append] at hi
      exact hi

/-- Nothing is taken after a stop. -/
theorem stop_notMem_dropLast (h : Sound l) (ms : List Happening) :
    .stop ∉ (l.handled ms).dropLast := by
  induction ms generalizing l with
  | nil => exact List.not_mem_nil
  | cons m ms ih =>
      have hi := ih (h.happen m)
      rw [Loop.handled]
      rcases l.takes_cases m with ht | ⟨r, ht⟩
      · rwa [ht]
      · rw [ht]
        by_cases hr : r = .stop
        · have hn := (Loop.still_after (h.isOver_of_stop (hr ▸ ht)) ms).2.2.1
          rw [hn]
          exact List.not_mem_nil
        · cases hh : (l.happen m).handled ms with
          | nil => exact List.not_mem_nil
          | cons q qs =>
              rw [hh] at hi
              exact fun hm => (List.mem_cons.1 hm).elim (fun h => hr h.symm) hi

end Sound

end StreamWarden.Supervisor
