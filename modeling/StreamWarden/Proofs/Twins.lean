import StreamWarden.Proofs.Bonds
import StreamWarden.Proofs.Likeness
import StreamWarden.Proofs.Plain

/-!
# Twins

Two supervisors are twins when nothing but recordings tells them apart.  An operation of
the stream leads from twins to twins, whatever the one records and the other does not; an
operation of the recorder leads to a twin of what was before.  So a stimulus has a part
that concerns the stream, and the rest of it is not to be seen.

* `Twin`: the relation; `eraser_plain` lets the operations of the stream be followed.
* `Stimulus.lifecycle?`: the part of a stimulus that concerns the stream; `Twin.react`
  and `react_unseen_or_overdraws` say what comes of it and of the rest.
* `Spares`: no drain begins; `spares_react` says so of what concerns the stream.
-/

namespace StreamWarden.Supervisor

open State

/-- A supervisor without a recorder, on a plain host. -/
def State.plain (s : State) : State := s.onStudio Studio.plain

/-- Nothing but recordings tells the two apart. -/
abbrev Twin (p s : State) : Prop := Alike Studio.plain p s

/-- What the stream does can be followed on what is left of a plain studio. -/
instance eraser_plain : Eraser Studio.plain Studio.plain where
  now {a b} h := by
    have hn : a.plain.now = b.plain.now := by rw [h]
    exact hn
  horizon h := (Studio.horizon_of_plain h.symm).symm
  put {a b} h o := by
    have hh : a.toHost.plain = b.toHost.plain := congrArg (fun c : Studio => c.toHost) h
    have hp : (a.toHost.put o).plain = (b.toHost.put o).plain := by
      rw [Host.plain_put, Host.plain_put, hh]
    exact congrArg₂ (fun (c : Studio) (k : Host) => { c with toHost := k }) h hp
  armed h armed := congrArg (fun c : Studio => { c with armed := armed }) h
  detach h graph reason := by rw [Studio.plain_detach, Studio.plain_detach, h]
  finishDrain h now graph := by rw [Studio.plain_finishDrain, Studio.plain_finishDrain, h]
  branchError h stage message graph := by
    rw [Studio.plain_branchError, Studio.plain_branchError, h]
  teardown h graph := h
  raise {a b} h profile generation := by
    have hk : a.backend.plain = b.backend.plain := congrArg (fun c : Studio => c.backend) h
    have hp : a.plain.probes.length = b.plain.probes.length := by rw [h]
    change a.probes.length = b.probes.length at hp
    obtain ⟨hb, hr⟩ := Backend.raise_congr hk profile ⟨generation, a.probes.length⟩
    have hn : b.backend.raise profile ⟨generation, a.probes.length⟩ =
        b.backend.raise profile ⟨generation, b.probes.length⟩ := by rw [hp]
    rw [hn] at hb hr
    simp only [Host.raise_eq]
    exact ⟨congrArg₂ (fun (c : Studio) (k : Backend) => { c with
      probes := c.probes ++ [FrameProbe.new c.now]
      backend := k }) h hb, hr⟩

namespace Twin

variable {p s : State}

/-- Something that only the studio of the one does and that is not to be seen. -/
lemma unseen (s : State) {a : Studio} (ha : a.plain = s.toStudio.plain) :
    Twin (s.onStudio fun _ => a) s :=
  (Alike.refl s).studio ha

/-- A status message of the main graph is judged without a look at the session. -/
lemma judge (h : Twin p s) {m : StatusMessage} (hm : Stage.session? m.source = none) :
    Monitor.judge p.view m = Monitor.judge s.view m := by
  have hg : p.view.generation = s.view.generation := h.liveGeneration
  rw [Monitor.judge, Monitor.judge, hg, Monitor.judgeLive, Monitor.judgeLive, hm]
  cases m.kind <;> rfl

lemma onWake (h : Twin p s) : Twin p.onWake s.onWake := by
  have h₁ := h.finishDrain.endDelay
  have hc := congrArg (fun t : State => t.watchdog.check t.now (t.probe t.watched)) h₁
  exact h₁.watch hc

end Twin

/-! ### What concerns the stream -/

/-- The part of a stimulus that concerns the stream: not the requests to the recorder, the
files, the reports of recording branches, and what they will be refused. -/
def Stimulus.lifecycle? : Stimulus → Option Stimulus
  | .request .toggleRecording => none
  | .status m => if (Stage.session? m.source).isSome then none else some (.status m)
  | .files _ => none
  | .script plan => some (.script { builds := plan.builds, plays := plan.plays })
  | x => some x

namespace Stimulus

variable {x y : Stimulus}

/-- What concerns the stream concerns it as a whole, but for the refusals of branches. -/
lemma lifecycle?_cases (hx : x.lifecycle? = some y) : y = x ∧ x.lifecycle? = some x ∨
    ∃ plan, x = .script plan ∧ y = .script { builds := plan.builds, plays := plan.plays } := by
  cases x with
  | request r => cases r <;> cases hx <;> exact .inl ⟨rfl, rfl⟩
  | status m =>
      have hm := hx
      rw [lifecycle?] at hx
      split at hx
      · cases hx
      · cases hx
        exact .inl ⟨rfl, hm⟩
  | files tree => cases hx
  | script plan =>
      cases hx
      exact .inr ⟨plan, rfl, rfl⟩
  | abandoned | wake | pass | frame =>
      cases hx
      exact .inl ⟨rfl, rfl⟩

lemma lifecycle?_idem (hx : x.lifecycle? = some y) : y.lifecycle? = some y := by
  rcases lifecycle?_cases hx with ⟨rfl, h⟩ | ⟨plan, rfl, rfl⟩
  · exact h
  · rfl

lemma isIteration_of_lifecycle? (hx : x.lifecycle? = some y) :
    y.isIteration = x.isIteration := by
  rcases lifecycle?_cases hx with ⟨rfl, -⟩ | ⟨plan, rfl, rfl⟩ <;> rfl

lemma isTime_of_lifecycle? (hx : x.lifecycle? = some y) : y.isTime = x.isTime := by
  rcases lifecycle?_cases hx with ⟨rfl, -⟩ | ⟨plan, rfl, rfl⟩ <;> rfl

end Stimulus

/-- **Twins that meet the same as far as the stream is concerned stay twins.** -/
theorem Twin.react {p s : State} (h : Twin p s) {x y : Stimulus} (hx : x.lifecycle? = some y) :
    Twin (p.react y) (s.react x) := by
  have ha : Twin (p.answer y) (s.answer x) := by
    cases x with
    | request r => cases r <;> cases hx <;> exact h.onRequest (by simp)
    | abandoned => cases hx; exact (h.log _ _ rfl).onRequest (by simp)
    | status m =>
        rw [Stimulus.lifecycle?] at hx
        split at hx
        · cases hx
        · rename_i hm
          cases hx
          exact h.onStatus (h.judge (by simpa using hm))
    | wake => cases hx; exact h.onWake
    | pass span =>
        cases hx
        exact h.map (State.pass · span) fun _ => rfl
    | frame number =>
        cases hx
        exact h.map (onHost · (Host.markProbe · number)) fun _ => rfl
    | files tree => cases hx
    | script plan =>
        cases hx
        exact h.studio (congrArg (fun a : Studio => { a with backend :=
          { buildRefusals := plan.builds, playRefusals := plan.plays : Backend } }) h.toStudio)
  rw [State.react, State.react, h.exited, Stimulus.isIteration_of_lifecycle? hx]
  split
  · exact h
  · exact ha

/-! ### The rest is not to be seen -/

/-- A report of a recording branch does not make the stream restart, and what is told of
it does not concern the stream. -/
lemma judge_of_branch (view : Monitor.View) {m : StatusMessage}
    (hm : (Stage.session? m.source).isSome = true) :
    (∀ cause, (Monitor.judge view m).reaction ≠ .restart cause) ∧
      ∀ e, (Monitor.judge view m).event? = some e → e.isLifecycle = false := by
  obtain ⟨session, hs⟩ := Option.isSome_iff_exists.1 hm
  rw [Monitor.judge]
  split
  · rw [Monitor.judgeLive, hs]
    cases m.kind with
    | error message detail =>
        simp only
        split
        · exact ⟨by rintro _ ⟨⟩, by rintro _ ⟨⟩⟩
        · exact ⟨by rintro _ ⟨⟩, by rintro _ ⟨⟩⟩
    | endOfStream => exact ⟨by rintro _ ⟨⟩, by rintro _ ⟨⟩⟩
    | warning | qos | stateChanged =>
        refine ⟨by rintro _ ⟨⟩, ?_⟩
        rintro _ ⟨⟩
        try rfl
  · exact ⟨by rintro _ ⟨⟩, by rintro _ ⟨⟩⟩

/-- What happens on the way from `s` to `t` is not to be seen, and no drain beyond the
clock has begun. -/
def Unseen (s t : State) : Prop :=
  Twin t s ∧ (t.isOverdrawn = true → s.isOverdrawn = true)

/-- On the way from `s` to `t` a drain beyond the clock has begun; that is all that is to
be seen. -/
def Overdraws (s t : State) : Prop :=
  t.isOverdrawn = true ∧ Twin t (s.onHost (Host.put · (.excess .instant)))

namespace Unseen

variable {s t u : State}

lemma refl (s : State) : Unseen s s := ⟨rfl, id⟩

lemma trans (h : Unseen s t) (h' : Unseen t u) : Unseen s u :=
  ⟨h'.1.trans h.1, fun hu => h.2 (h'.2 hu)⟩

lemma studio (s : State) {a : Studio} (ha : s.toStudio.Quiet a) :
    Unseen s (s.onStudio fun _ => a) := ⟨Twin.unseen s ha.1, ha.2⟩

lemma emit (s : State) {e : Event} (he : e.isLifecycle = false) : Unseen s (s.emit e) :=
  studio s ⟨s.toStudio.plain_emit he, id⟩

lemma log (s : State) (level : Log.Level) (message : String)
    (fields : List (String × Log.Value)) : Unseen s (s.log level message fields) :=
  studio s ⟨s.toStudio.plain_log _, id⟩

lemma tell (s : State) {f : Monitor.Finding}
    (hf : ∀ e, f.event? = some e → e.isLifecycle = false) : Unseen s (s.tell f) := by
  obtain ⟨reaction, event?, record?⟩ := f
  have h₁ : ∀ t : State, Unseen t (t.tell ⟨reaction, none, record?⟩) := by
    intro t
    cases record? with
    | none => exact refl t
    | some r => exact studio t ⟨t.toStudio.plain_log r, id⟩
  cases event? with
  | none => exact h₁ s
  | some e => exact (emit s (hf e rfl)).trans (h₁ _)

/-- A report of a recording branch is not to be seen. -/
lemma onStatus (s : State) {m : StatusMessage}
    (hm : (Stage.session? m.source).isSome = true) : Unseen s (s.onStatus m) := by
  obtain ⟨hr, he⟩ := judge_of_branch s.view hm
  have h₁ := tell s he
  simp only [State.onStatus]
  cases hj : (Monitor.judge s.view m).reaction with
  | restart cause => exact absurd hj (hr cause)
  | stopRecording stage message =>
      have hp := Studio.plain_branchError (s.tell (Monitor.judge s.view m)).toStudio stage message
        (s.tell (Monitor.judge s.view m)).graph
      refine h₁.trans (studio _ ⟨hp, ?_⟩)
      refine Studio.isOverdrawn_of_drainDeadline (Studio.horizon_of_plain hp) (.inr ?_)
      rw [Studio.branchError, Studio.forceStop, Studio.drainDeadline, Studio.detach_session]
      rfl
  | ignore => exact h₁

end Unseen

/-- A request to the recorder is not to be seen, unless it begins a drain beyond the
clock. -/
lemma toggleRecording_unseen_or_overdraws (s : State) :
    Unseen s s.toggleRecording ∨ Overdraws s s.toggleRecording := by
  rcases s.toStudio.toggle_quiet_or_breaks s.wantsRecording s.graph with h | ⟨ho, hp⟩
  · exact .inl ((Unseen.studio s h).trans (.log _ _ _ _))
  · refine .inr ⟨ho, (Unseen.log _ _ _ _).1.trans ?_⟩
    have h : Twin (s.onStudio fun _ => (s.toStudio.toggle s.wantsRecording s.graph).1)
        (s.onHost (Host.put · (.excess .instant))) := by
      exact (Alike.refl s).studio hp
    exact h

/-- **A stimulus that does not concern the stream is not to be seen**, unless it begins a
drain beyond the clock. -/
theorem react_unseen_or_overdraws (s : State) {x : Stimulus} (hx : x.lifecycle? = none) :
    Unseen s (s.react x) ∨ Overdraws s (s.react x) := by
  rw [State.react]
  split
  · exact .inl (.refl s)
  · cases x with
    | request r =>
        cases r with
        | toggleRecording =>
            have h := Unseen.emit s (rfl : (Event.asked "toggle_recording").isLifecycle = false)
            rcases toggleRecording_unseen_or_overdraws (s.emit (.asked "toggle_recording"))
              with h' | ⟨ho, ht⟩
            · exact .inl (h.trans h')
            · exact .inr ⟨ho, ht.trans (h.1.put _)⟩
        | start | stop | restart => cases hx
    | status m =>
        rw [Stimulus.lifecycle?] at hx
        split at hx
        · rename_i hm
          exact .inl (Unseen.onStatus s hm)
        · cases hx
    | files tree => exact .inl (Unseen.studio s ⟨rfl, id⟩)
    | abandoned | wake | pass | frame | script => cases hx

/-! ### The stream begins no drain -/

/-- No drain has begun on the way from `s` to `t`. -/
structure Spares (s t : State) : Prop where
  horizon : t.horizon = s.horizon
  deadline : t.drainDeadline = s.drainDeadline ∨ t.drainDeadline = none

namespace Spares

variable {s t u : State}

lemma trans (h : Spares s t) (h' : Spares t u) : Spares s u := by
  refine ⟨h'.horizon.trans h.horizon, ?_⟩
  rcases h'.deadline with hd | hd
  · rw [hd]
    exact h.deadline
  · exact .inr hd

lemma isOverdrawn (h : Spares s t) (ht : t.isOverdrawn = true) : s.isOverdrawn = true :=
  Studio.isOverdrawn_of_drainDeadline h.horizon h.deadline ht

end Spares

/-- The stream begins no drain, and ends one at most. -/
instance bond_spares : Bond Spares where
  refl _ := ⟨rfl, .inl rfl⟩
  trans h h' := h.trans h'
  put _ _ _ _ := ⟨rfl, .inl rfl⟩
  exceed _ _ _ := ⟨rfl, .inl rfl⟩
  stream _ _ hs _ _ :=
    ⟨congrArg (fun a : Studio => a.horizon) hs, .inl (congrArg Studio.drainDeadline hs)⟩
  armed _ _ := ⟨rfl, .inl rfl⟩
  engine _ _ _ := ⟨rfl, .inl rfl⟩
  detach _ _ _ := ⟨Studio.horizon_of_plain (Studio.plain_detach _ _ _),
    .inr (congrArg (·.bind (·.drainDeadline)) (Studio.detach_session _ _ _))⟩

/-- **What concerns the stream begins no drain.** -/
theorem spares_react (s : State) {x y : Stimulus} (hx : x.lifecycle? = some y) :
    Spares s (s.react x) := by
  have hr : ∀ (t : State) (r : Request), r ≠ .toggleRecording → Spares t (t.onRequest r) := by
    intro t r hr
    have h : Spares t (t.emit (.asked r.label)) := ⟨rfl, .inl rfl⟩
    exact h.trans (Bond.onRequest t r (fun _ _ => ⟨rfl, .inl rfl⟩) fun ht => absurd ht hr)
  rw [State.react]
  split
  · exact ⟨rfl, .inl rfl⟩
  · cases x with
    | request r =>
        refine hr s r ?_
        rintro rfl
        cases hx
    | abandoned =>
        have h : Spares s (s.log .debug "all supervisor handles dropped" []) := ⟨rfl, .inl rfl⟩
        exact h.trans (hr _ .stop (by simp))
    | status m => exact Bond.onStatus s m
    | wake => exact Bond.onWake s
    | pass | frame | script => exact ⟨rfl, .inl rfl⟩
    | files tree => cases hx

end StreamWarden.Supervisor
