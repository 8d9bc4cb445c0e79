import StreamWarden.Proofs.Likeness

/-!
# Studios behind a veil

The recorder looks neither at the frame probes nor at what was put out before.  So two studios
that differ in these alone do the same: behind veils that hide what the two differ in they cannot
be told apart, and stay so, whatever the recorder does.

* `Studio.veil`: a studio of which only a part of the journal and of the probes is to be seen;
  `Abreast`: two such parts of a journal stay the same when more is put out.
* `detach_veil`, `finishDrain_veil`, `branchError_veil`, `toggle_veil`: what the recorder does
  behind two veils.
* `eraser_of_raise`: veils can be followed through all that the stream does, as soon as they can
  be followed through an attempt; `Matched.toggleRecording` follows them through a toggle, and
  `Matched.react` through an answer.
-/

namespace StreamWarden

/-- A studio of which is to be seen what one function leaves of the journal, and another one of
the probes. -/
def Studio.veil (k : List Output → List Output) (f : List FrameProbe → List FrameProbe)
    (s : Studio) : Studio :=
  { s with probes := f s.probes, journal := k s.journal }

/-- What two functions leave of two journals stays the same when both go on in the same way. -/
class Abreast (k l : List Output → List Output) : Prop where
  cons {i j : List Output} (h : k i = l j) (o : Output) : k (o :: i) = l (o :: j)

/-- Some entries are hidden. -/
instance abreast_filter (k : Output → Bool) : Abreast (List.filter k) (List.filter k) where
  cons h o := by rw [List.filter_cons, List.filter_cons, h]

namespace Studio

variable {k l : List Output → List Output} {f g : List FrameProbe → List FrameProbe}
  {a b : Studio}

/-- But for the probes and the journal, the two are the same. -/
lemma exists_of_veil (h : a.veil k f = b.veil l g) :
    ∃ probes journal, b = { a with probes := probes, journal := journal } := by
  refine ⟨b.probes, b.journal, ?_⟩
  have hb : { b.veil l g with probes := b.probes, journal := b.journal } = b := rfl
  rw [← hb, ← h]
  rfl

lemma map_veil (h : a.veil k f = b.veil l g) (m : Studio → Studio)
    (hm : ∀ (k : List Output → List Output) (f : List FrameProbe → List FrameProbe) (c : Studio),
      (m c).veil k f = m (c.veil k f)) : (m a).veil k f = (m b).veil l g := by
  rw [hm, hm, h]

variable [Abreast k l]

lemma put_veil (h : a.veil k f = b.veil l g) (o : Output) :
    (a.onHost (Host.put · o)).veil k f = (b.onHost (Host.put · o)).veil l g := by
  have hj : k (o :: a.journal) = l (o :: b.journal) :=
    Abreast.cons (congrArg (fun c : Studio => c.journal) h) o
  exact congrArg₂ (fun (c : Studio) (j : List Output) => { c with journal := j }) h hj

lemma schedule_veil (h : a.veil k f = b.veil l g) (deadline : Option Nat) :
    (a.onHost (Host.schedule · deadline)).veil k f =
      (b.onHost (Host.schedule · deadline)).veil l g := by
  have hh : a.horizon = b.horizon := by
    obtain ⟨ps, js, rfl⟩ := exists_of_veil h
    rfl
  rcases b.schedule_cases deadline with ⟨hx, hs⟩ | ⟨hx, hs⟩ <;> rw [← hh] at hx
  · rw [onHost, onHost, hs, Host.schedule_of_lt hx]
    exact h
  · rw [onHost, onHost, hs, Host.schedule_of_le hx]
    exact put_veil h _

lemma drive_veil (h : a.veil k f = b.veil l g) (on : Bool) :
    (a.drive on).veil k f = (b.drive on).veil l g := by
  obtain ⟨ps, js, rfl⟩ := exists_of_veil h
  simp only [drive]
  split
  · exact h
  · exact put_veil h _
  · split
    case h_1 files _ => exact map_veil h (fun c => { c with files := files }) fun _ _ _ => rfl
    case h_2 => exact put_veil h _

lemma announce_veil (h : a.veil k f = b.veil l g) (on : Bool) :
    (a.announce on).veil k f = (b.announce on).veil l g := by
  obtain ⟨ps, js, rfl⟩ := exists_of_veil h
  simp only [announce]
  split
  case h_1 r _ =>
    exact drive_veil (map_veil h (fun c => { c with files := r.set c.files on })
      fun _ _ _ => rfl) on
  case h_2 => exact drive_veil h on

lemma detach_veil (h : a.veil k f = b.veil l g) (graph : Option Graph) (reason : String) :
    (a.detach graph reason).veil k f = (b.detach graph reason).veil l g := by
  obtain ⟨ps, js, rfl⟩ := exists_of_veil h
  simp only [detach]
  split
  case h_1 => exact h
  case h_2 session _ =>
    exact put_veil (announce_veil (map_veil h (fun c => { c with
      session := none
      backend := if graph.isSome then c.backend.detach session.branch else c.backend })
      fun _ _ _ => rfl) false) _

lemma finishDrain_veil (h : a.veil k f = b.veil l g) (now : Nat) (graph : Option Graph) :
    (a.finishDrain now graph).veil k f = (b.finishDrain now graph).veil l g := by
  have hd : a.isDrained now = b.isDrained now := by
    obtain ⟨ps, js, rfl⟩ := exists_of_veil h
    rfl
  rw [finishDrain, finishDrain, hd]
  split
  · exact detach_veil h graph _
  · exact h

lemma branchError_veil (h : a.veil k f = b.veil l g) (stage message : String)
    (graph : Option Graph) :
    (a.branchError stage message graph).veil k f =
      (b.branchError stage message graph).veil l g :=
  detach_veil (put_veil h _) graph _

/-! ### Toggles -/

/-- Two answers to a toggle that differ in what is hidden. -/
def SameAnswer (φ ψ : Studio → Studio) (x y : Studio × ToggleOutcome) : Prop :=
  φ x.1 = ψ y.1 ∧ x.2 = y.2

lemma refuse_veil (h : a.veil k f = b.veil l g) (e : BranchError) :
    SameAnswer (veil k f) (veil l g) (a.refuse e) (b.refuse e) := ⟨put_veil h _, rfl⟩

lemma record_veil (h : a.veil k f = b.veil l g) (graph : Graph) (path : String) :
    SameAnswer (veil k f) (veil l g) (a.record graph path) (b.record graph path) := by
  have hk : ∀ (backend : Backend) (session : Option Session),
      ({ a with
          sessionsStarted := a.sessionsStarted + 1
          backend := backend
          session := session } : Studio).veil k f =
        ({ b with
          sessionsStarted := b.sessionsStarted + 1
          backend := backend
          session := session } : Studio).veil l g := fun backend session => map_veil h (fun c => {
    c with sessionsStarted := c.sessionsStarted + 1, backend := backend, session := session })
    fun _ _ _ => rfl
  obtain ⟨ps, js, rfl⟩ := exists_of_veil h
  simp only [record]
  split
  · exact refuse_veil (hk _ a.session) _
  · split
    · exact refuse_veil (hk _ a.session) _
    · exact ⟨put_veil (announce_veil (hk _ _) true) _, rfl⟩

lemma startOn_veil (h : a.veil k f = b.veil l g) (graph : Graph) :
    SameAnswer (veil k f) (veil l g) (a.startOn graph) (b.startOn graph) := by
  obtain ⟨ps, js, rfl⟩ := exists_of_veil h
  simp only [startOn]
  split
  · exact refuse_veil h _
  · exact record_veil h graph _

lemma start_veil (h : a.veil k f = b.veil l g) (graph : Option Graph) :
    SameAnswer (veil k f) (veil l g) (a.start graph) (b.start graph) := by
  obtain ⟨ps, js, rfl⟩ := exists_of_veil h
  have hr : ({ a with probes := ps, journal := js } : Studio).recordingState =
    a.recordingState := rfl
  simp only [start, hr]
  split
  case h_5 =>
    split
    · split
      · exact startOn_veil h _
      · exact ⟨put_veil h _, rfl⟩
    · exact ⟨put_veil h _, rfl⟩
  all_goals exact ⟨h, rfl⟩

lemma drain_veil (h : a.veil k f = b.veil l g) (session : Session) :
    (a.drain session).veil k f = (b.drain session).veil l g := by
  have hd := map_veil h (fun c => { c with
    backend := c.backend.beginDrain
    session := some { session with
      state := .draining
      drainDeadline := some (c.now + c.drainGrace) } }) fun _ _ _ => rfl
  obtain ⟨ps, js, rfl⟩ := exists_of_veil h
  exact put_veil (schedule_veil hd _) _

lemma stop_veil (h : a.veil k f = b.veil l g) (graph : Option Graph) :
    SameAnswer (veil k f) (veil l g) (a.stop graph) (b.stop graph) := by
  obtain ⟨ps, js, rfl⟩ := exists_of_veil h
  simp only [stop]
  split
  · exact ⟨h, rfl⟩
  · split
    · split
      · exact ⟨drain_veil h _, rfl⟩
      · exact ⟨detach_veil h none _, rfl⟩
    · exact ⟨h, rfl⟩

lemma toggle_veil (h : a.veil k f = b.veil l g) (on : Bool) (graph : Option Graph) :
    SameAnswer (veil k f) (veil l g) (a.toggle on graph) (b.toggle on graph) := by
  cases on with
  | true => exact start_veil h graph
  | false => exact stop_veil h graph

end Studio

/-! ### What can be followed -/

section Follow

variable {k l : List Output → List Output} {f g : List FrameProbe → List FrameProbe} [Abreast k l]

/-- What the stream does can be followed behind veils, if an attempt can: it makes a probe. -/
lemma eraser_of_raise
    (hr : ∀ {a b : Studio}, a.veil k f = b.veil l g → ∀ (profile : Profile) (generation : Nat),
      (a.onHost fun h => (h.raise profile generation).1).veil k f =
          (b.onHost fun h => (h.raise profile generation).1).veil l g ∧
        (a.toHost.raise profile generation).2 = (b.toHost.raise profile generation).2) :
    Eraser (Studio.veil k f) (Studio.veil l g) where
  now h := by
    obtain ⟨ps, js, rfl⟩ := Studio.exists_of_veil h
    rfl
  horizon h := by
    obtain ⟨ps, js, rfl⟩ := Studio.exists_of_veil h
    rfl
  put h o := Studio.put_veil h o
  armed h armed := congrArg (fun c : Studio => { c with armed := armed }) h
  detach h graph reason := Studio.detach_veil h graph reason
  finishDrain h now graph := Studio.finishDrain_veil h now graph
  branchError h stage message graph := Studio.branchError_veil h stage message graph
  teardown h graph := congrArg (fun c : Studio =>
    { c with backend := c.backend.teardown graph }) h
  raise h profile generation := hr h profile generation

end Follow

namespace Supervisor

open State

namespace Matched

variable {k l : List Output → List Output} {f g : List FrameProbe → List FrameProbe} [Abreast k l]
  {p s : State}

/-- A toggle shows nothing of what is hidden. -/
lemma toggleRecording (h : Matched (Studio.veil k f) (Studio.veil l g) p s) :
    Matched (Studio.veil k f) (Studio.veil l g) p.toggleRecording s.toggleRecording := by
  have hw : p.wantsRecording = s.wantsRecording := by
    have hw := congrArg wantsRecording h
    exact hw
  obtain ⟨ht, ho⟩ := Studio.toggle_veil h.toStudio s.wantsRecording s.graph
  have h₁ := h.studio ht
  simp only [State.toggleRecording, hw, h.graph, ho]
  exact h₁.studio (Studio.put_veil h₁.toStudio _)

/-- **An answer shows nothing of what is hidden**, if a look at the frames does not, and what a
frame does to its probe is hidden on both sides or on neither. -/
theorem react (_ : Eraser (Studio.veil k f) (Studio.veil l g))
    (h : Matched (Studio.veil k f) (Studio.veil l g) p s) {x : Stimulus}
    (hw : x = .wake → Matched (Studio.veil k f) (Studio.veil l g) p.onWake s.onWake)
    (hf : ∀ number, x = .frame number →
      (p.toStudio.onHost (Host.markProbe · number)).veil k f =
        (s.toStudio.onHost (Host.markProbe · number)).veil l g) :
    Matched (Studio.veil k f) (Studio.veil l g) (p.react x) (s.react x) := by
  rw [State.react, State.react, h.exited]
  split
  · exact h
  · cases x with
    | request r =>
        by_cases hr : r = .toggleRecording
        · subst hr
          exact (h.emit (rfl : Event.asked "toggle_recording" = _)).toggleRecording
        · exact h.onRequest hr
    | abandoned => exact (h.log _ _ rfl).onRequest (by simp)
    | status m =>
        have hv := congrArg State.view h
        exact h.onStatus (congrArg (Monitor.judge · m) hv)
    | wake => exact hw rfl
    | pass span =>
        exact h.studio (Studio.map_veil h.toStudio
          (Studio.onHost · fun c => { c with now := c.now + span }) fun _ _ _ => rfl)
    | frame number => exact h.studio (hf number rfl)
    | files tree =>
        exact h.studio (Studio.map_veil h.toStudio
          (Studio.onHost · fun c => { c with files := tree }) fun _ _ _ => rfl)
    | script script =>
        have h₁ := congrArg (State.follow · script) h
        exact h₁

end Matched

end Supervisor

end StreamWarden
