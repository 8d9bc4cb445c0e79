import StreamWarden.Proofs.Limits
import StreamWarden.Proofs.Moves

/-!
# A stop is final

From wherever a supervisor is asked to stop, one answer takes it to its rest: the session
is ended at once, without a drain, the graph is torn down, and no deadline is left.  The
answer cannot fail, as it sets no deadline that could lie beyond the clock, and nothing else
than the request to stop ends a run.

* `AtRest`: nothing is left to be done; `onRequest_stop` says that a stop leads there, what
  is told on the way, and that no limit of the machine is met.
* `exited_onRequest` and its companions: no other answer ends a run.
* `Adds`: nothing is told of requests but by the answers to them.
-/

namespace StreamWarden

namespace Supervisor

open State

variable {s t : State}

/-! ### The end of a run -/

/-- Nothing is left to be done: the run is over, and there is no graph, no session and no
deadline. -/
structure AtRest (s : State) : Prop where
  exited : s.exited = true
  phase : s.phase = .stopped
  graph : s.graph = none
  session : s.session = none
  armed : s.armed = false
  restartPending : s.restartPending = none
  wakeAt : s.wakeAt = none
  watchdog : s.watchdog.deadline = none
  drainDeadline : s.drainDeadline = none
  nextWake : s.nextWake = none

/-- A run that is over has come to its rest. -/
lemma Settled.atRest (hs : Settled s) (hx : s.exited = true) : AtRest s := by
  have hp : s.phase = .stopped := hs.exited hx
  have hr : s.phase ≠ .running := by simp [hp]
  have hw := hs.wakeAt_eq_none (.inl hp)
  have hd := hs.deadline_eq_none hr
  have hn := hs.session_eq_none hr
  have hdrain : s.drainDeadline = none := by rw [Studio.drainDeadline, hn]; rfl
  exact {
    exited := hx
    phase := hp
    graph := hs.graph_eq_none hr
    session := hn
    armed := hs.armed_eq_false hr
    restartPending := hs.restartPending_eq_none (.inl hp)
    wakeAt := hw
    watchdog := hd
    drainDeadline := hdrain
    nextWake := by rw [State.nextWake, hw, hd, hdrain]; rfl }

/-- What is told when a supervisor is asked to stop: that its session is forced to its end,
and that its graph is torn down, if it has any. -/
def State.farewell (s : State) : List Event :=
  .asked "stop" ::
    if s.phase = .stopped then []
    else .change s.phase .stopping .stop ::
      (s.parting ++ [.change .stopping .stopped .teardownDone])

/-- A teardown begins no drain. -/
lemma drains_cleared (s : State) : s.cleared.stats.drains = s.backend.stats.drains := by
  have hf : ∀ graph, (s.freed graph).stats.drains = s.backend.stats.drains := by
    intro graph
    rw [Studio.freed]
    cases s.session with
    | none => rfl
    | some session => cases graph <;> rfl
  rw [State.cleared]
  cases s.graph with
  | none => exact hf none
  | some graph => exact hf (some graph)

/-! ### A stop meets no limit -/

lemma excess_stop (s : State) : s.stop.excess? = s.excess? := by
  have leave : ∀ t : State, (if t.phase = .stopped then { t with exited := true } else t
      : State).excess? = t.excess? := by
    intro t
    split <;> rfl
  simp only [State.stop]
  refine (leave _).trans ?_
  split
  · have h := excess_teardown
      { s.transition .stop with wakeAt := none, restartPending := none }
    exact ((excess_transition _ _).trans h).trans (excess_transition s _)
  · exact excess_transition s _

/-- The part of a stop that comes after it was told, in one state. -/
lemma told_stop_of_settled (hs : Settled s) :
    ∃ u, Told u ((s.farewell).drop 1) s.stop ∧ u.events = s.events ∧ u.exited = true ∧
      u.backend.stats.drains = s.backend.stats.drains := by
  by_cases hp : s.phase = .stopped
  · refine ⟨{ s with exited := true }, ?_, rfl, rfl, rfl⟩
    rw [farewell, if_pos hp]
    exact told_stop_of_stopped hp
  · refine ⟨s.ended, ?_, rfl, rfl, drains_cleared s⟩
    rw [farewell, if_neg hp]
    exact told_stop (hs.next_stop hp)

/-- **A stop leads to rest from everywhere.**  All that is left is ended at once, no drain
begins, and no limit is met. -/
theorem onRequest_stop (hs : Settled s) :
    AtRest (s.onRequest .stop) ∧ (s.onRequest .stop).events = s.events ++ s.farewell ∧
      (s.onRequest .stop).backend.stats.drains = s.backend.stats.drains ∧
      (s.onRequest .stop).excess? = s.excess? := by
  have ha := told_emit s (.asked "stop")
  have hs' : Settled (s.emit (.asked "stop")) := hs.told ha
  have hr : s.onRequest .stop = (s.emit (.asked "stop")).stop := rfl
  obtain ⟨u, hu, he, hx, hd⟩ := told_stop_of_settled hs'
  obtain ⟨es, hm⟩ := moves_stop hs'
  have hev := hu.events
  obtain ⟨files, outs, ht, -⟩ := hu
  rw [hr]
  refine ⟨(hm.settled hs').atRest ?_, ?_, ?_, ?_⟩
  · rw [ht]
    exact hx
  · rw [hev, he, ha.events, List.append_assoc]
    rfl
  · rw [ht]
    exact hd
  · rw [excess_stop]
    exact excess_put s rfl

/-! ### Nothing else ends a run -/

/-- The run is over afterwards if it was before. -/
def Lasts (s t : State) : Prop := t.exited = s.exited

/-- What a supervisor does but for a stop does not end its run. -/
instance bond_lasts : Bond Lasts where
  refl _ := rfl
  trans h h' := Eq.trans h' h
  put _ _ _ _ := rfl
  exceed _ _ _ := rfl
  stream _ _ _ hx _ := hx
  armed _ _ := rfl
  engine _ _ _ := rfl
  detach _ _ _ := rfl

lemma lasts_onRequest (s : State) {r : Request} (hr : r ≠ .stop) : Lasts s (s.onRequest r) :=
  Bond.onRequest (R := Lasts) s r (fun h => absurd h hr) fun _ => rfl

/-! ### Requests are told by the answers to them -/

/-- Things were put out, but nothing was told of a request. -/
def Adds (s t : State) : Prop :=
  ∃ outs, t.journal = outs ++ s.journal ∧ ∀ o ∈ outs, o.isAsking = false

namespace Adds

/-- The requests that were told are the same. -/
lemma asked (h : Adds s t) : t.events.filter Event.isAsked = s.events.filter Event.isAsked := by
  obtain ⟨outs, ht, ho⟩ := h
  have hf : ((outs.filterMap Output.event?).reverse).filter Event.isAsked = [] := by
    refine List.filter_eq_nil_iff.2 fun e he => ?_
    obtain ⟨o, hm, hoe⟩ := List.mem_filterMap.1 (List.mem_reverse.1 he)
    have hn := ho o hm
    cases o with
    | event e' =>
        cases hoe
        simpa [Output.isAsking] using hn
    | record | level | excess => cases hoe
  rw [Host.events, ht, List.filterMap_append, List.reverse_append, List.filter_append, hf,
    List.append_nil]
  rfl

lemma told {u : State} {es : List Event} (h : Told u es t) (hu : u.journal = s.journal)
    (hes : ∀ e ∈ es, e.isAsked = false) : Adds s t := by
  obtain ⟨files, outs, rfl, rfl⟩ := h
  refine ⟨outs, congrArg (outs ++ ·) hu, fun o ho => ?_⟩
  cases o with
  | event e => exact hes e (List.mem_reverse.2 (List.mem_filterMap.2 ⟨_, ho, rfl⟩))
  | record | level | excess => rfl

/-- No act of the recorder is told as a request. -/
lemma act {es : List Event} {graph : Option Graph} {now : Nat} {a : Studio}
    (h : Studio.Act graph now s.toStudio es a) : Adds s (s.onStudio fun _ => a) := by
  have ht : ∀ {b : Studio} {fs : List Event}, Studio.Told b fs a → b.journal = s.journal →
      (∀ e ∈ fs, e.isAsked = false) → Adds s (s.onStudio fun _ => a) := fun h hb hfs =>
    told (Told.onStudio s h) hb hfs
  cases h with
  | remark hes h =>
      refine ht h rfl fun e he => ?_
      rw [Event.isAsked, hes e he]
      rfl
  | refuse _ _ _ _ h | giveBack _ _ _ _ _ h | begin _ _ _ _ _ _ h | drain _ _ _ h
  | finish _ _ h => exact ht h rfl (List.forall_mem_singleton.2 rfl)
  | fail _ h => exact ht h rfl (List.forall_mem_cons.2 ⟨rfl, List.forall_mem_singleton.2 rfl⟩)

/-- What came before a limit was met stays to be seen. -/
lemma cut (h : Adds s t) (hs : s.excess? = none) : Adds s (t.onHost Host.cut) := by
  obtain ⟨outs, ht, ho⟩ := h
  refine ⟨(outs.reverse.takeWhile (·.excess?.isNone)).reverse, ?_, fun o hm => ?_⟩
  · have hc : (t.onHost Host.cut).journal =
        ({ s.toHost with journal := t.journal } : Host).cut.journal := rfl
    rw [hc, ht, Host.cut_of_append hs]
  · have hm' := (List.takeWhile_sublist _).subset (List.mem_reverse.1 hm)
    exact ho o (List.mem_reverse.1 hm')

end Adds

/-- All that a supervisor does is told as something else than a request. -/
instance bond_adds : Bond Adds where
  refl _ := ⟨[], rfl, by simp⟩
  trans h h' := by
    obtain ⟨os, ht, ho⟩ := h
    obtain ⟨os', hu, ho'⟩ := h'
    refine ⟨os' ++ os, by rw [hu, ht, List.append_assoc], fun o hm => ?_⟩
    exact (List.mem_append.1 hm).elim (ho' o) (ho o)
  put _ o ho _ := ⟨[o], rfl, List.forall_mem_singleton.2 ho⟩
  exceed _ e _ := ⟨[.excess e], rfl, List.forall_mem_singleton.2 rfl⟩
  stream _ _ hs _ _ := ⟨[], congrArg (fun a : Studio => a.journal) hs, by simp⟩
  armed _ _ := ⟨[], rfl, by simp⟩
  engine _ _ _ := ⟨[], rfl, by simp⟩
  detach s graph reason := by
    cases hs : s.session with
    | none =>
        refine ⟨[], ?_, by simp⟩
        exact congrArg (fun a : Studio => a.journal) (Studio.detach_of_none hs graph reason)
    | some session =>
        exact Adds.told (Told.onStudio s (Studio.told_detach hs graph reason)) rfl
          (List.forall_mem_singleton.2 rfl)

/-- **A request is told once by the answer to it**, before all else. -/
theorem adds_onRequest (hs : Settled s) (r : Request) :
    Adds (s.emit (.asked r.label)) (s.onRequest r) := by
  refine Bond.onRequest s r (fun _ _ => ⟨[], rfl, by simp⟩) fun _ => ?_
  obtain ⟨es, h⟩ := Studio.act_toggle (s := (s.emit (.asked r.label)).toStudio) hs.proper
    (s.emit (.asked r.label)).wantsRecording s.graph s.now
  exact Bond.trans (Adds.act h) (Bond.log _ _ _ _)

end Supervisor

end StreamWarden
