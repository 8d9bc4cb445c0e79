import StreamWarden.Proofs.Estate
import StreamWarden.Proofs.Veil

/-!
# A loop is a run

A run goes on whatever was put out; a loop passes on what was put out, forgets it, and breaks down
at the first limit of the machine.  Still a loop is nothing but a run of its supervisor.  What was
put out before makes no difference to what comes next, so that it can be forgotten; and what comes
out of a loop that has broken down is what the run has put out before the limit.

* `Studio.atop`: a studio with older entries below its journal; `react_atop` says that an answer
  does not look at these.
* `Loop.met`: what the supervisor of a loop meets.
* `Loop.Follows`: a loop is where a run has come to; `Follows.happen` says that it stays so.
* **`loop_eq_run`**: a loop is the run of what its supervisor meets.
-/

namespace StreamWarden

/-! ### What was put out before -/

/-- A studio with older entries below its journal. -/
def Studio.atop (j : List Output) : Studio → Studio := veil (· ++ j) id

/-- What lies below a journal stays there. -/
instance abreast_append (j : List Output) : Abreast (· ++ j) id where
  cons h o := congrArg (o :: ·) h

/-- What the stream does can be followed with older entries and without them. -/
instance eraser_atop (j : List Output) : Eraser (Studio.veil (· ++ j) id) (Studio.veil id id) := by
  refine eraser_of_raise fun {a b} h profile generation => ?_
  obtain ⟨ps, js, rfl⟩ := Studio.exists_of_veil h
  have hp : ps = a.probes := (congrArg (fun c : Studio => c.probes) h).symm
  subst hp
  have hr := congrArg (fun c : Studio => { c with
    backend := (a.backend.raise profile ⟨generation, a.probes.length⟩).1
    probes := a.probes ++ [FrameProbe.new a.now] }) h
  simp only [Host.raise_eq, and_true]
  exact hr

namespace Supervisor

open State

/-- A supervisor with older entries below its journal. -/
def State.atop (s : State) (j : List Output) : State := s.onStudio (Studio.atop j)

/-- **What was put out before makes no difference** to an answer. -/
theorem State.react_atop (s : State) (j : List Output) (x : Stimulus) :
    (s.atop j).react x = (s.react x).atop j := by
  have h : Matched (Studio.veil (· ++ j) id) (Studio.veil id id) s (s.atop j) := rfl
  refine (h.react (eraser_atop j) (fun _ => ?_) fun number _ => ?_).symm
  · have h₁ := h.finishDrain.endDelay
    have hc := congrArg (fun t : State => t.watchdog.check t.now (t.probe t.watched)) h₁
    exact h₁.watch hc
  · rfl

namespace State

variable (s : State) (j : List Output)

/-- The first limit is one of the older entries, if there is one among them. -/
lemma excess_atop : (s.atop j).excess? = (j.reverse.findSome? Output.excess?).or s.excess? := by
  rw [Host.excess?, Host.excess?, atop, onStudio, Studio.atop, Studio.veil, List.reverse_append,
    List.findSome?_append]

/-- What comes out of older entries comes out first. -/
lemma events_cut_atop (hj : j.reverse.findSome? Output.excess? = none) :
    ((s.atop j).onHost Host.cut).events =
      (j.filterMap Output.event?).reverse ++ (s.onHost Host.cut).events := by
  have hb : ({ s.toHost with journal := j } : Host).excess? = none := hj
  have hs : ({ s.toHost with journal := [] } : Host).excess? = none := rfl
  have ha := Host.events_cut_of_append (k := (s.atop j).toHost) hb (rfl : _ = s.journal ++ j)
  have hc := Host.events_cut_of_append (k := s.toHost) hs (List.append_nil _).symm
  exact ha.trans (congrArg _ hc.symm)

end State

/-! ### What a loop meets -/

namespace Loop

/-- What the supervisor meets when something happens: what the next step answers, and what changes
around it until it breaks down. -/
def meets (l : Loop) : Happening → List Stimulus
  | .step => l.next?.toList
  | .around x _ => if l.excess.isSome then [] else [x]
  | _ => []

/-- What the supervisor meets while some things happen. -/
def met : Loop → List Happening → List Stimulus
  | _, [] => []
  | l, m :: ms => l.meets m ++ (l.happen m).met ms

/-- **A loop is where a run has come to**, when these events were passed on.  Its supervisor is that
of the run on another host; and as long as it has not broken down, they differ only in what was
put out before. -/
structure Follows (l : Loop) (s : State) (passed : List Event) : Prop where
  excess : l.excess = s.excess?
  state : l.state = s.onHost fun _ => l.state.toHost
  told : passed ++ l.state.events = (s.onHost Host.cut).events
  atop : l.excess = none → ∃ j, s = l.state.atop j

namespace Follows

variable {l l' : Loop} {s : State} {passed : List Event}

/-- Nothing that a run looks at has changed. -/
lemma of_eq (h : l.Follows s passed) (hs : l'.state = l.state) (he : l'.excess = l.excess) :
    l'.Follows s passed where
  excess := he.trans h.excess
  state := hs ▸ h.state
  told := hs ▸ h.told
  atop := by rw [hs, he]; exact h.atop

/-- **A loop that takes a step follows the answer**, also when it breaks down. -/
lemma proceed (h : l.Follows s passed) (hn : l.excess = none) (he : l'.excess = none)
    (x : Stimulus) : (l'.proceed (l.state.react x)).Follows (s.react x) passed := by
  obtain ⟨j, rfl⟩ := h.atop hn
  have hx := h.excess
  rw [hn, excess_atop] at hx
  obtain ⟨hj, hl⟩ := Option.or_eq_none_iff.1 hx.symm
  have hp : passed = (j.filterMap Output.event?).reverse := by
    have ht := h.told
    rw [events_cut_atop _ _ hj, events_cut_of_none hl] at ht
    exact List.append_cancel_right ht
  have ht := events_cut_atop (l.state.react x) j hj
  have hx' : ((l.state.react x).atop j).excess? = (l.state.react x).excess? := by
    rw [excess_atop, hj, Option.none_or]
  rw [react_atop]
  rcases l'.proceed_cases (l.state.react x) with ⟨hc, hs⟩ | ⟨e, hc, hs⟩ <;> rw [hs]
  · refine ⟨he.trans (hx'.trans hc).symm, rfl, ?_, fun _ => ⟨j, rfl⟩⟩
    rw [ht, hp, events_cut_of_none hc]
    rfl
  · refine ⟨(hx'.trans hc).symm, rfl, ?_, nofun⟩
    rw [ht, hp]
    rfl

/-- What changes around a supervisor changes around the run, as long as the loop goes on. -/
lemma around (h : l.Follows s passed) {x : Stimulus} (hx : x.isIteration = false) :
    (l.happen (.around x hx)).Follows (s.run (l.meets (.around x hx))) passed := by
  have hj := (answer_keeps (s := l.state) hx).1
  have hev : (l.state.answer x).events = l.state.events :=
    congrArg (fun j : List Output => (j.filterMap Output.event?).reverse) hj
  cases he : l.excess with
  | some e =>
      have hm : l.meets (.around x hx) = [] := by rw [meets, he]; rfl
      have ha : ∀ k, (s.onHost fun _ => k).answer x =
          s.onHost fun _ => ((s.onHost fun _ => k).answer x).toHost := by
        intro k
        cases x with
        | pass | frame | files | script => rfl
        | request | abandoned | status | wake => cases hx
      have hk := ha l.state.toHost
      rw [← h.state] at hk
      rw [hm]
      refine ⟨h.excess, hk, (congrArg (passed ++ ·) hev).trans h.told, fun hn => ?_⟩
      rw [happen, he] at hn
      cases hn
  | none =>
      have hm : l.meets (.around x hx) = [x] := by rw [meets, he]; rfl
      obtain ⟨j, rfl⟩ := h.atop he
      have hr : (l.state.atop j).run [x] = (l.state.answer x).atop j := by
        rw [← react_of_not_isIteration _ hx]
        exact react_atop l.state j x
      have hc : ((l.state.answer x).atop j).journal = (l.state.atop j).journal :=
        congrArg (· ++ j) hj
      rw [hm, hr]
      refine ⟨?_, rfl, ?_, fun _ => ⟨j, rfl⟩⟩
      · have hx' : ((l.state.answer x).atop j).excess? = (l.state.atop j).excess? :=
          congrArg (fun j : List Output => j.reverse.findSome? Output.excess?) hc
        exact h.excess.trans hx'.symm
      · have ht : (((l.state.answer x).atop j).onHost Host.cut).events =
            ((l.state.atop j).onHost Host.cut).events :=
          congrArg (fun i => ({ l.state.toHost with journal := i } : Host).cut.events) hc
        rw [ht, ← h.told]
        exact congrArg (passed ++ ·) hev

/-- **A loop goes on to follow a run**, whatever happens to it. -/
theorem happen (h : l.Follows s passed) (m : Happening) :
    (l.happen m).Follows (s.run (l.meets m)) (passed ++ l.passes m) := by
  -- Only what is passed on adds to what was passed on.
  have quiet : ∀ {m : Happening}, l.passes m = [] →
      (l.happen m).Follows (s.run (l.meets m)) passed →
      (l.happen m).Follows (s.run (l.meets m)) (passed ++ l.passes m) := by
    intro m hp hf
    rwa [hp, List.append_nil]
  cases m with
  | step =>
      refine quiet rfl ?_
      rcases l.happen_step with ⟨hn, hv⟩ | ⟨ho, x, rs, ms, hx, -, hv⟩
      · rw [hv, meets, hn]
        exact h
      · have hn := (isOver_eq_false_iff.1 ho).2
        rw [hv, meets, hx]
        refine h.proceed hn ?_ x
        exact hn
  | publish =>
      obtain ⟨hs, -, he, -⟩ := l.publish_keeps
      have hc := congrArg (State.onHost · Host.clear) h.state
      refine ⟨he.trans h.excess, ?_, ?_, fun hn => ?_⟩ <;> rw [Loop.happen, hs]
      · exact hc
      · exact (List.append_nil _).trans h.told
      · obtain ⟨j, rfl⟩ := h.atop (he ▸ hn)
        exact ⟨l.state.journal ++ j, rfl⟩
  | post r => exact quiet rfl (h.of_eq (l.post_keeps r).1 (l.post_keeps r).2.2.1)
  | report m => exact quiet rfl (h.of_eq (l.postStatus_keeps m).1 (l.postStatus_keeps m).2.2.1)
  | dropHandles | endBridge => exact quiet rfl (h.of_eq rfl rfl)
  | around x hx => exact quiet rfl (h.around hx)

theorem after (h : l.Follows s passed) (ms : List Happening) :
    ∃ passed', (l.after ms).Follows (s.run (l.met ms)) passed' ∧
      passed' ++ (l.after ms).state.events = passed ++ l.told ms := by
  induction ms generalizing l s passed with
  | nil => exact ⟨passed, h, rfl⟩
  | cons m ms ih =>
      obtain ⟨passed', hf, hp⟩ := ih (h.happen m)
      refine ⟨passed', ?_, hp.trans (List.append_assoc _ _ _)⟩
      rw [met, State.run, List.foldl_append]
      exact hf

end Follows

end Loop

/-- **A loop is the run of what its supervisor meets.**  It breaks down exactly if the run meets a
limit of the machine, and at the first one; what it tells is what comes out of the run up to there.
Its supervisor is that of the run on another host; and as long as it goes on, the two differ in
nothing but what was passed on, and the status that is published is that of the run. -/
theorem loop_eq_run (u : Setup) (capacity : ℕ) (subscribers : List Subscriber)
    (bridge : Option Signal.Bindings) (ms : List Happening) :
    let l := u.loop capacity subscribers bridge
    let t := l.after ms
    let s := u.begin.run (l.met ms)
    t.excess = s.excess? ∧ l.told ms = (s.onHost Host.cut).events ∧
      t.state = (s.onHost fun _ => t.state.toHost) ∧
      (t.excess = none → t.status = s.status ∧ ∃ j, s = t.state.atop j) := by
  intro l t s
  have h : l.Follows u.begin [] := ⟨rfl, rfl, rfl, fun _ => ⟨[], rfl⟩⟩
  obtain ⟨passed, hf, hp⟩ := h.after ms
  refine ⟨hf.excess, hp.symm.trans hf.told, hf.state, fun hn => ?_⟩
  obtain ⟨j, hj⟩ := hf.atop hn
  have ha : t.Accounted := Loop.accounted_after (accounted_loop u capacity subscribers bridge)
    (sound_loop u capacity subscribers bridge) ms
  exact ⟨(ha.status hn).trans (congrArg State.status hj).symm, j, hj⟩

end Supervisor

end StreamWarden
