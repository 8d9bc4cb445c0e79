import StreamWarden.Proofs.Milestones

/-!
# What the events tell

Whoever sees nothing of a supervisor but its events can tell from them what the
outside may know of its state, and finds them in an order: the changes of phase form
one chain, each as the table of phases has it; graphs come one after the other, each
with a higher number than those before; and sessions come one after the other on a
graph, and end before it goes.

* `replay`: the status as the events tell it.
* `Linked`, `Lives`, `Sessions`: the orders of the events.
* `Report`, `Reports`: what one more event presumes and tells; `Move.reports` says that
  every move gives a sound report, from which the orders follow.
* **`account_of_run`**: the events of every run.
-/

namespace StreamWarden

/-- The input with a label. -/
def Phase.Input.named? (label : String) : Option Phase.Input :=
  Phase.Input.all.find? (·.label == label)

/-- No two inputs have the same label. -/
lemma Phase.Input.named?_label (input : Phase.Input) : named? input.label = some input := by
  cases input with
  | restart cause => cases cause <;> rfl
  | _ => rfl

namespace Event

/-- The event is a change of phase. -/
def isChange (e : Event) : Bool := e.kind == .phaseChanged

/-- The event is about a graph or a session. -/
def isTale (e : Event) : Bool :=
  match e.kind with
  | .graphPlaying | .graphTornDown | .recordingStarted | .recordingDraining
  | .recordingStopped | .recordingFailed => true
  | _ => false

/-- The event leaves the observer with what was told before. -/
def isSilent (e : Event) : Bool := !e.isChange && !e.isTale

lemma isSilent_of_isRemark {e : Event} (he : e.isRemark = true) : e.isSilent = true := by
  revert he
  simp only [isRemark, isSilent, isChange, isTale]
  cases e.kind <;> simp

section Change

variable (p q : Phase) (input : Phase.Input)

@[simp] lemma kind_change : (change p q input).kind = .phaseChanged := by cases input <;> rfl

@[simp] lemma source_change : (change p q input).source? = some p := by cases input <;> rfl

@[simp] lemma target_change : (change p q input).target? = some q := by cases input <;> rfl

@[simp] lemma reason_change : (change p q input).reason? = some input.label := by
  cases input <;> rfl

end Change

end Event

namespace Supervisor

/-! ### The observer -/

/-- What an observer makes of one more event. -/
def Status.after (p : Status) (e : Event) : Status :=
  match e.kind with
  | .phaseChanged => { p with phase := e.target?.getD p.phase }
  | .graphPlaying => { p with generation := e.generation? }
  | .graphTornDown => { p with generation := none }
  | .recordingStarted => { p with recording := .active }
  | .recordingDraining => { p with recording := .draining }
  | .recordingStopped => { p with recording := .idle }
  | _ => p

/-- The status as the events tell it to an observer. -/
def replay (es : List Event) : Status := es.foldl Status.after {}

/-- Each change of phase begins where the one before has ended, and ends where the input
that is named as its reason leads. -/
def Linked : Phase → List Event → Prop
  | _, [] => True
  | p, e :: es => e.source? = some p ∧ ∃ q, e.target? = some q ∧
      (e.reason?.bind Phase.Input.named?).bind p.next? = some q ∧ Linked q es

/-- Sessions one after the other, when the recording is in a state at first and idle at
last: each is recorded, may drain, may have failures, and ends. -/
inductive Sessions : RecordingState → List Event → Prop where
  | none : Sessions .idle []
  | recording {es : List Event} {session : Session} (h : Sessions .active es) :
      Sessions .idle (.recording session :: es)
  | draining {es : List Event} {session : Session} (h : Sessions .draining es) :
      Sessions .active (.draining session :: es)
  | failed {r : RecordingState} {es : List Event} {stage message : String} (hr : r ≠ .idle)
      (h : Sessions r es) : Sessions r (.failed stage message :: es)
  | ended {r : RecordingState} {es : List Event} {session : Session} {reason : String}
      (hr : r ≠ .idle) (h : Sessions .idle es) : Sessions r (.ended session reason :: es)

/-- Graphs one after the other, with higher and higher numbers above a given one: each
plays, has its sessions, and is torn down. -/
inductive Lives : Nat → List Event → Prop where
  | none (n : Nat) : Lives n []
  | cons {n g : Nat} {es fs : List Event} (hg : n < g) (h : Sessions .idle es)
      (h' : Lives g fs) : Lives n (.playing g :: (es ++ .tornDown g :: fs))

/-! ### Sound reports -/

/-- **A sound report**: to an observer who knows a status, and the number of attempts to
build a graph, an event tells another status, and another number. -/
inductive Report : Status → Nat → Event → Status → Nat → Prop where
  | silent {p : Status} {n : Nat} {e : Event} (he : e.isSilent = true) : Report p n e p n
  | change {p : Status} {n : Nat} {input : Phase.Input} {q : Phase}
      (hn : p.phase.next? input = some q) :
      Report p n (.change p.phase q input) { p with phase := q } n
  | missed {p : Status} {n attempt : Nat} {e : BuildError} :
      Report p n (.missed (n + 1) attempt e) p (n + 1)
  | playing {p : Status} {n : Nat} (hg : p.generation = none) (hr : p.recording = .idle) :
      Report p n (.playing (n + 1)) { p with generation := some (n + 1) } (n + 1)
  | tornDown {p : Status} {n g : Nat} (hg : p.generation = some g) (hr : p.recording = .idle) :
      Report p n (.tornDown g) { p with generation := none } n
  | recording {p : Status} {n : Nat} {session : Session} (hg : p.generation.isSome = true)
      (hr : p.recording = .idle) :
      Report p n (.recording session) { p with recording := .active } n
  | draining {p : Status} {n : Nat} {session : Session} (hg : p.generation.isSome = true)
      (hr : p.recording = .active) :
      Report p n (.draining session) { p with recording := .draining } n
  | failed {p : Status} {n : Nat} {stage message : String} (hg : p.generation.isSome = true)
      (hr : p.recording ≠ .idle) : Report p n (.failed stage message) p n
  | ended {p : Status} {n : Nat} {session : Session} {reason : String}
      (hg : p.generation.isSome = true) (hr : p.recording ≠ .idle) :
      Report p n (.ended session reason) { p with recording := .idle } n

/-- Several sound reports in a row. -/
inductive Reports : Status → Nat → List Event → Status → Nat → Prop where
  | none (p : Status) (n : Nat) : Reports p n [] p n
  | cons {p q r : Status} {n m k : Nat} {e : Event} {es : List Event} (h : Report p n e q m)
      (h' : Reports q m es r k) : Reports p n (e :: es) r k

namespace Reports

variable {p q r : Status} {n m k : Nat} {es fs : List Event}

lemma one {e : Event} (h : Report p n e q m) : Reports p n [e] q m := .cons h (.none q m)

lemma trans (h : Reports p n es q m) (h' : Reports q m fs r k) : Reports p n (es ++ fs) r k := by
  induction h with
  | none => exact h'
  | cons h _ ih => exact .cons h (ih h')

/-- Silent events tell nothing. -/
lemma silent (hes : ∀ e ∈ es, e.isSilent = true) (p : Status) (n : Nat) :
    Reports p n es p n := by
  induction es with
  | nil => exact .none p n
  | cons e es ih =>
      rw [List.forall_mem_cons] at hes
      exact .cons (.silent hes.1) (ih hes.2)

end Reports

/-! ### What sound reports amount to -/

lemma Report.after_eq {p q : Status} {n m : Nat} {e : Event} (h : Report p n e q m) :
    p.after e = q := by
  cases h with
  | silent he =>
      revert he
      simp only [Status.after, Event.isSilent, Event.isChange, Event.isTale]
      cases e.kind <;> simp
  | change hn => simp [Status.after]
  | _ => rfl

/-- The observer is left with the status that is reported. -/
lemma Reports.foldl_eq {p q : Status} {n m : Nat} {es : List Event} (h : Reports p n es q m) :
    es.foldl Status.after p = q := by
  induction h with
  | none => rfl
  | cons h _ ih => rwa [List.foldl_cons, h.after_eq]

/-- The changes of phase are a chain. -/
lemma Reports.linked {p q : Status} {n m : Nat} {es : List Event} (h : Reports p n es q m) :
    Linked p.phase (es.filter Event.isChange) := by
  induction h with
  | none => trivial
  | cons h _ ih =>
      cases h with
      | @change input q hn =>
          rw [List.filter_cons_of_pos (by simp [Event.isChange])]
          refine ⟨Event.source_change _ _ _, q, Event.target_change _ _ _, ?_, ih⟩
          rw [Event.reason_change, Option.bind_some, Phase.Input.named?_label]
          exact hn
      | silent he =>
          rw [List.filter_cons_of_neg]
          · exact ih
          · rw [Event.isSilent, Bool.and_eq_true, Bool.not_eq_true'] at he
            exact Bool.not_eq_true _ ▸ he.1
      | _ =>
          rw [List.filter_cons_of_neg Bool.false_ne_true]
          exact ih

/-- From every state of the recording the sessions can come to an end. -/
lemma exists_sessions (r : RecordingState) : ∃ es, Sessions r es := by
  by_cases hr : r = .idle
  · exact ⟨[], hr ▸ .none⟩
  · exact ⟨_, @Sessions.ended r [] ⟨0, "", ⟨"", "", ""⟩, r, none⟩ "" hr .none⟩

/-- What may still be told about graphs and sessions, until no graph is left. -/
def Sequel (p : Status) (n : Nat) (es : List Event) : Prop :=
  match p.generation with
  | none => Lives n es
  | some g => ∃ now later, es = now ++ .tornDown g :: later ∧ Sessions p.recording now ∧
      Lives g later

/-- An observer knows of no session without a graph, and of no graph that was not built. -/
def Credible (p : Status) (n : Nat) : Prop :=
  (p.generation = none → p.recording = .idle) ∧ ∀ g, p.generation = some g → g ≤ n

lemma Report.credible {p q : Status} {n m : Nat} {e : Event} (h : Report p n e q m)
    (hp : Credible p n) : Credible q m := by
  cases h with
  | silent | change | failed => exact hp
  | missed => exact ⟨hp.1, fun g hg => (hp.2 g hg).trans (Nat.le_succ _)⟩
  | playing _ hr =>
      refine ⟨fun _ => hr, ?_⟩
      rintro g ⟨⟩
      exact le_rfl
  | tornDown _ hr => exact ⟨fun _ => hr, by rintro g ⟨⟩⟩
  | ended => exact ⟨fun _ => rfl, hp.2⟩
  | recording hg | draining hg =>
      refine ⟨fun h => ?_, hp.2⟩
      rw [show _ = none from h] at hg
      cases hg

lemma Lives.mono {n g : Nat} {es : List Event} (h : Lives n es) (hg : g ≤ n) : Lives g es := by
  cases h with
  | none => exact .none g
  | cons hn h h' => exact .cons (hg.trans_lt hn) h h'

lemma Sequel.mono {p : Status} {n m : Nat} {es : List Event} (h : Sequel p m es) (hn : n ≤ m) :
    Sequel p n es := by
  cases hg : p.generation with
  | none =>
      rw [Sequel, hg] at h ⊢
      exact Lives.mono h hn
  | some g =>
      rw [Sequel, hg] at h ⊢
      exact h

lemma exists_sequel (p : Status) (n : Nat) : ∃ es, Sequel p n es := by
  obtain ⟨now, h⟩ := exists_sessions p.recording
  cases hg : p.generation with
  | none => exact ⟨[], by rw [Sequel, hg]; exact .none n⟩
  | some g => exact ⟨now ++ .tornDown g :: [], by rw [Sequel, hg]; exact ⟨now, [], rfl, h, .none g⟩⟩

/-- On a graph, one more event of the session comes before what is still to be told. -/
lemma Sequel.session {p q : Status} {n m : Nat} {e : Event} {es : List Event}
    (hs : Sequel q m es) (hq : q.generation = p.generation) (hg : p.generation.isSome = true)
    (h : ∀ now, Sessions q.recording now → Sessions p.recording (e :: now)) :
    Sequel p n (e :: es) := by
  obtain ⟨g, hg⟩ := Option.isSome_iff_exists.1 hg
  rw [Sequel, hq, hg] at hs
  rw [Sequel, hg]
  obtain ⟨now, later, rfl, hn, hl⟩ := hs
  exact ⟨e :: now, later, rfl, h now hn, hl⟩

/-- What is told of graphs and sessions is the beginning of what may be told. -/
lemma Reports.sequel {p q : Status} {n m : Nat} {es : List Event} (h : Reports p n es q m)
    (hp : Credible p n) : ∃ fs, Sequel p n fs ∧ es.filter Event.isTale <+: fs := by
  induction h with
  | none p n =>
      obtain ⟨fs, h⟩ := exists_sequel p n
      exact ⟨fs, h, List.nil_prefix⟩
  | cons h _ ih =>
      obtain ⟨fs, hs, hf⟩ := ih (h.credible hp)
      cases h with
      | silent he =>
          rw [List.filter_cons_of_neg]
          · exact ⟨fs, hs, hf⟩
          · rw [Event.isSilent, Bool.and_eq_true, Bool.not_eq_true', Bool.not_eq_true'] at he
            exact Bool.not_eq_true _ ▸ he.2
      | change =>
          rw [List.filter_cons_of_neg (by simp [Event.isTale])]
          exact ⟨fs, hs, hf⟩
      | missed =>
          exact ⟨fs, hs.mono (Nat.le_succ _), hf⟩
      | playing hg hr =>
          refine ⟨_ :: fs, ?_, List.cons_prefix_cons.2 ⟨rfl, hf⟩⟩
          obtain ⟨now, later, rfl, hn, hl⟩ := hs
          rw [Sequel, hg]
          exact .cons (Nat.lt_succ_self _) (hr ▸ hn) hl
      | tornDown hg hr =>
          refine ⟨_ :: fs, ?_, List.cons_prefix_cons.2 ⟨rfl, hf⟩⟩
          rw [Sequel, hg]
          exact ⟨[], fs, rfl, hr ▸ .none, Lives.mono hs (hp.2 _ hg)⟩
      | recording hg hr =>
          refine ⟨_ :: fs, hs.session rfl hg fun now hn => ?_, List.cons_prefix_cons.2 ⟨rfl, hf⟩⟩
          rw [hr]
          exact .recording hn
      | draining hg hr =>
          refine ⟨_ :: fs, hs.session rfl hg fun now hn => ?_, List.cons_prefix_cons.2 ⟨rfl, hf⟩⟩
          rw [hr]
          exact .draining hn
      | failed hg hr =>
          exact ⟨_ :: fs, hs.session rfl hg fun now hn => .failed hr hn,
            List.cons_prefix_cons.2 ⟨rfl, hf⟩⟩
      | ended hg hr =>
          exact ⟨_ :: fs, hs.session rfl hg fun now hn => .ended hr hn,
            List.cons_prefix_cons.2 ⟨rfl, hf⟩⟩

/-! ### The reports of the moves -/

open State

section Moves

variable {s t : State} {es : List Event}

/-- Where the stream does not run, there is neither a graph nor a session. -/
lemma Settled.status_eq (hs : Settled s) (hp : s.phase ≠ .running) :
    s.status = { phase := s.phase } := by
  simp [State.status, liveGeneration, Studio.recordingState, hs.graph_eq_none hp,
    hs.session_eq_none hp]

lemma Settled.idle_of_ne (hs : Settled s) (hp : s.phase ≠ .running) :
    s.recordingState = .idle := by
  rw [Studio.recordingState, hs.session_eq_none hp]
  rfl

lemma Settled.generation_of_session (hs : Settled s) (h : s.session.isSome = true) :
    s.status.generation.isSome = true := by
  rw [State.status, liveGeneration, Option.isSome_map]
  exact hs.graph.2 (hs.session h)

lemma Settled.recording_ne_idle (hs : Settled s) {session : Session}
    (h : s.session = some session) : s.status.recording ≠ .idle := by
  have hr : s.status.recording = session.state := by
    simp [State.status, Studio.recordingState, h]
  rw [hr]
  rcases hs.proper session h with hx | hx <;> simp [hx]

lemma reports_remarks (hes : ∀ e ∈ es, e.isRemark = true) (p : Status) (n : Nat) :
    Reports p n es p n :=
  .silent (fun e he => Event.isSilent_of_isRemark (hes e he)) p n

/-- The recorder gives a sound report of what it does. -/
lemma reports_act (hs : Settled s) {a : Studio}
    (h : Studio.Act s.graph s.now s.toStudio es a) (n : Nat) :
    Reports s.status n es (s.onStudio fun _ => a).status n := by
  have idle : s.session = none → s.status.recording = .idle := fun hn => by
    simp [State.status, Studio.recordingState, hn]
  cases h with
  | remark hes h =>
      obtain ⟨files, outs, rfl, -⟩ := h
      refine reports_remarks (fun e he => ?_) s.status n
      rw [Event.isRemark, hes e he]
  | refuse _ _ _ _ h | giveBack _ _ _ _ _ h =>
      obtain ⟨files, outs, rfl, -⟩ := h
      exact .one (.silent rfl)
  | begin hg _ hn _ _ hx h =>
      obtain ⟨files, outs, rfl, -⟩ := h
      subst hx
      refine .one (.recording ?_ (idle hn))
      rw [State.status, liveGeneration, hg]
      rfl
  | drain _ hx ha h =>
      obtain ⟨files, outs, rfl, -⟩ := h
      refine .one (.draining (hs.generation_of_session (by rw [hx]; rfl)) ?_)
      simp [State.status, Studio.recordingState, hx, ha]
  | fail hx h =>
      obtain ⟨files, outs, rfl, -⟩ := h
      have hg := hs.generation_of_session (by rw [hx]; rfl)
      have hr := hs.recording_ne_idle hx
      exact (Reports.one (.failed hg hr)).trans (.one (.ended hg hr))
  | finish hx _ h =>
      obtain ⟨files, outs, rfl, -⟩ := h
      exact .one (.ended (hs.generation_of_session (by rw [hx]; rfl)) (hs.recording_ne_idle hx))

/-- A teardown ends the session first and the graph then, if they are there. -/
lemma reports_parting (hs : Settled s) (p : Phase) (n : Nat) :
    Reports { phase := p, generation := s.liveGeneration, recording := s.recordingState } n
      s.parting { phase := p } n := by
  have hl : Reports
      { phase := p, generation := s.liveGeneration, recording := s.recordingState } n
      (s.lastWords "forced") { phase := p, generation := s.liveGeneration } n := by
    rw [Studio.lastWords]
    cases hx : s.session with
    | none =>
        rw [Studio.recordingState, hx]
        exact .none _ n
    | some session =>
        exact .one (.ended (hs.generation_of_session (by rw [hx]; rfl)) (hs.recording_ne_idle hx))
  refine hl.trans ?_
  rw [liveGeneration]
  cases s.graph with
  | none => exact .none _ n
  | some graph => exact .one (.tornDown rfl rfl)

/-- **Every move gives a sound report of the status**, and counts the attempts. -/
theorem Move.reports (hs : Settled s) (h : Move s es t) :
    Reports s.status s.generation es t.status t.generation := by
  cases h with
  | remark hes h =>
      rw [h.status, h.generation]
      exact reports_remarks hes _ _
  | record h => exact reports_act hs h _
  | look _ h | leave _ h =>
      rw [h.status, h.generation]
      exact .none _ _
  | @launch _ _ b graph _ hn _ h =>
      have hp := Phase.ne_running_of_next hn
      have ht : State.status { s.launched b graph with wakeAt := none }
          = { phase := .running, generation := some (s.generation + 1) } := by
        rw [← hs.idle_of_ne hp]
        rfl
      rw [h.status, h.generation, hs.status_eq hp, ht]
      exact .cons (.change hn) (.cons (.playing rfl rfl) (.one (.change rfl)))
  | @miss _ _ b _ hx hn _ h =>
      have hp := Phase.ne_running_of_next hn
      have ht : (s.parked b).status = { phase := .backoffWait } := by
        rw [(hs.parked hx hp b).status_eq (by simp [parked])]
        rfl
      rw [h.status, h.generation, hs.status_eq hp, ht]
      exact .cons (.change hn) (.cons .missed (.cons (.change rfl) (.one (.silent rfl))))
  | restart hp h =>
      have hq : s.status = ⟨.running, s.liveGeneration, s.recordingState⟩ := by
        rw [State.status, hp]
      rw [h.status, h.generation, hq]
      exact .cons (.silent rfl)
        (.cons (.change rfl) (reports_parting hs .restarting s.generation))
  | stop hn h =>
      rw [h.status, h.generation]
      exact Reports.trans (.cons (.change hn) (reports_parting hs .stopping s.generation))
        (.one (.change rfl))
  | frame | script => exact .none _ _

end Moves

/-! ### The account of a run -/

/-- **The events of every run are one sound report** of the status, from that before
any event. -/
theorem run_reports (u : Setup) (xs : List Stimulus) :
    Reports {} 0 (u.begin.run xs).events (u.begin.run xs).status (u.begin.run xs).generation := by
  refine run_keeps (P := fun s => Reports {} 0 s.events s.status s.generation) ?_
    (fun _ h => h) u (.none _ _) xs
  intro s t es hs hr h
  rw [h.events]
  exact hr.trans (h.reports hs)

/-- **The events are a complete account of the status**: at every boundary between two
iterations, an observer who replays all events so far knows the status of the
supervisor.  The changes of phase are a chain that begins in `stopped`, each to the phase
to which the table leads under the input that is its reason; and the other events tell,
as far as the run has come, of graphs with higher and higher numbers, each of which
plays, has its sessions one after the other, and is torn down. -/
theorem account_of_run (u : Setup) (xs : List Stimulus) :
    let s := u.begin.run xs
    replay s.events = s.status ∧
      Linked .stopped (s.events.filter Event.isChange) ∧
      ∃ story, Lives 0 story ∧ s.events.filter Event.isTale <+: story := by
  intro s
  have h : Reports {} 0 s.events s.status s.generation := run_reports u xs
  have hc : Credible {} 0 := ⟨fun _ => rfl, by rintro g ⟨⟩⟩
  exact ⟨h.foldl_eq, h.linked, h.sequel hc⟩

end Supervisor

end StreamWarden
