import StreamWarden.Proofs.Finality
import StreamWarden.Proofs.Inert
import StreamWarden.Proofs.Onward
import StreamWarden.Proofs.Sessions
import StreamWarden.Proofs.StageNames

/-!
# Whom a status message concerns

A stage that fails knows neither the supervisor nor the recorder.  All that its message tells of
where it comes from is the number of a graph and the name of the stage, which is any text; and
on that alone it is decided whether a graph is replaced, a recording is ended, or nothing is
done.  A message may arrive when the graph, the session, or both are gone, and others are in
their place.

* `Strikes`: the message concerns the session that there is; `Fells`: it concerns the graph;
  `concerns_or`: it does one of the two, or neither.
* `judge_of_strikes`, `judge_of_fells`, `judge_of_neither`: the verdict in each of the three
  cases, and `told_of_strikes`, `told_of_fells`, `said_of_neither`: what comes of it.
* `succeeds_of_session`: a number stands for one session over a whole run.
* `said_of_name`, `strikes_of_name`: what the error of a stage of a session comes to.
* **`attribution_of_run`**: what a message brings about, at every moment of a run.
-/

namespace StreamWarden

/-- What a report of the main graph is a reason to replace it for. -/
def StatusKind.fault? : StatusKind → Option RestartCause
  | .error _ _ => some .graphError
  | .endOfStream => some .endOfStream
  | .warning _ _ | .stateChanged _ _ | .qos _ => none

/-- The kind of the event by which a report is told, if it is told at all. -/
def StatusKind.eventKind? : StatusKind → Option EventKind
  | .error _ _ => some .graphError
  | .endOfStream => some .graphEndOfStream
  | .warning _ _ => some .graphWarning
  | .qos _ => some .graphQos
  | .stateChanged _ _ => none

namespace Supervisor

open State

namespace State.Told

variable {s t : State} {es : List Event}

lemma session (h : Told s es t) : t.session = s.session := by
  obtain ⟨files, outs, rfl, -⟩ := h
  rfl

lemma graph (h : Told s es t) : t.graph = s.graph := by
  obtain ⟨files, outs, rfl, -⟩ := h
  rfl

/-- A restart after other things were told. -/
lemma restart (h : Told s es t) (hp : s.phase = .running) (cause : RestartCause) :
    Told (s.replacing cause)
      (es ++ ([.restarting cause s.generation, .change .running .restarting (.restart cause)] ++
        s.parting)) (t.restart cause) := by
  obtain ⟨files, outs, rfl, he⟩ := h
  exact Told.trans ⟨files, outs, rfl, he⟩
    (told_restart (s := { s with files := files, journal := outs ++ s.journal }) hp cause)

end State.Told

/-- **The message concerns the session**: the graph that plays reports an error in a stage that
is named for the session that is attached. -/
structure Strikes (s : State) (m : StatusMessage) (session : Session) (text : String) : Prop where
  live : s.liveGeneration = some m.generation
  error : ∃ detail, m.kind = .error text detail
  attached : s.session = some session
  source : Stage.session? m.source = some session.id

/-- **The message concerns the graph**: the graph that plays reports an error, or the end of its
data, in a stage that is not named for any session. -/
structure Fells (s : State) (m : StatusMessage) (cause : RestartCause) : Prop where
  live : s.liveGeneration = some m.generation
  fault : m.kind.fault? = some cause
  source : Stage.session? m.source = none

variable {s t : State} {es : List Event} {m : StatusMessage} {session : Session} {text : String}
  {cause : RestartCause}

/-- A message concerns the session, or the graph, or neither. -/
lemma concerns_or (s : State) (m : StatusMessage) :
    (∃ session text, Strikes s m session text) ∨ (∃ cause, Fells s m cause) ∨
      (∀ session text, ¬Strikes s m session text) ∧ ∀ cause, ¬Fells s m cause := by
  by_cases hk : ∃ session text, Strikes s m session text
  · exact .inl hk
  by_cases hf : ∃ cause, Fells s m cause
  · exact .inr (.inl hf)
  · exact .inr (.inr ⟨fun session text h => hk ⟨session, text, h⟩, not_exists.1 hf⟩)

/-! ### The verdict -/

lemma judge_of_strikes (h : Strikes s m session text) :
    Monitor.judge s.view m = { reaction := .stopRecording m.source text } := by
  obtain ⟨hl, ⟨detail, hk⟩, hs, hn⟩ := h
  have hv : s.view.session = some session.id := by rw [State.view, hs]; rfl
  rw [Monitor.judge_of_live hl, Monitor.judgeLive, hk, hn]
  exact if_pos hv

lemma judge_of_fells (h : Fells s m cause) : ∃ e,
    Monitor.judge s.view m = { reaction := .restart cause, event? := some e } ∧
      some e.kind = m.kind.eventKind? ∧ e.generation? = some m.generation ∧
        e.stage? = some m.source := by
  obtain ⟨hl, hf, hn⟩ := h
  rw [Monitor.judge_of_live hl, Monitor.judgeLive, hn]
  cases hk : m.kind with
  | error | endOfStream =>
      rw [hk] at hf
      cases hf
      exact ⟨_, rfl, rfl, rfl, rfl⟩
  | warning | stateChanged | qos =>
      rw [hk] at hf
      cases hf

/-- A message that concerns neither the session nor the graph calls for nothing, and is told as
an event only if it warns or counts what was dropped. -/
lemma judge_of_neither (hs : ∀ session text, ¬Strikes s m session text)
    (hf : ∀ cause, ¬Fells s m cause) :
    (Monitor.judge s.view m).reaction = .ignore ∧
      ∀ e ∈ (Monitor.judge s.view m).event?,
        m.kind.fault? = none ∧ some e.kind = m.kind.eventKind? := by
  by_cases hl : s.liveGeneration = some m.generation
  swap
  · obtain ⟨hr, he⟩ := @Monitor.judge_of_stale s.view m hl
    refine ⟨hr, fun e hm => ?_⟩
    rw [he] at hm
    cases hm
  rw [Monitor.judge_of_live hl, Monitor.judgeLive]
  cases hk : m.kind with
  | warning | qos => exact ⟨rfl, by rintro _ ⟨⟩; exact ⟨rfl, rfl⟩⟩
  | stateChanged => exact ⟨rfl, by rintro _ ⟨⟩⟩
  | endOfStream =>
      cases hn : Stage.session? m.source with
      | none => exact absurd ⟨hl, by rw [hk]; rfl, hn⟩ (hf .endOfStream)
      | some k => exact ⟨rfl, by rintro _ ⟨⟩⟩
  | error text detail =>
      cases hn : Stage.session? m.source with
      | none => exact absurd ⟨hl, by rw [hk]; rfl, hn⟩ (hf .graphError)
      | some k =>
          have hv : ¬s.view.session = some k := by
            intro hv
            obtain ⟨session, hx, rfl⟩ := Option.map_eq_some_iff.1 hv
            exact hs session text ⟨hl, ⟨detail, hk⟩, hx, hn⟩
          dsimp only
          rw [if_neg hv]
          exact ⟨rfl, by rintro _ ⟨⟩⟩

/-! ### What comes of it -/

/-- A graph is there while messages of it count. -/
lemma graph_of_live {g : Nat} (hl : s.liveGeneration = some g) : s.graph.isSome = true := by
  obtain ⟨graph, hg, -⟩ := Option.map_eq_some_iff.1 hl
  rw [hg]
  rfl

lemma onStatus_of_strikes (h : Strikes s m session text) :
    s.onStatus m = s.onStudio fun a => a.branchError m.source text s.graph := by
  rw [onStatus, judge_of_strikes h]
  rfl

lemma onStatus_of_fells (h : Fells s m cause) : ∃ e,
    (some e.kind = m.kind.eventKind? ∧ e.generation? = some m.generation ∧
      e.stage? = some m.source) ∧ s.onStatus m = (s.emit e).restart cause := by
  obtain ⟨e, hj, he⟩ := judge_of_fells h
  refine ⟨e, he, ?_⟩
  rw [onStatus, hj]
  rfl

/-- **An error of the session ends it**, and leaves the graph alone. -/
lemma told_of_strikes (h : Strikes s m session text) :
    Told { s with session := none, backend := s.backend.detach session.branch }
      [.failed m.source text, .ended session "forced"] (s.onStatus m) := by
  have hb : s.freed s.graph = s.backend.detach session.branch := by
    rw [Studio.freed, h.attached]
    exact if_pos (graph_of_live h.live)
  rw [onStatus_of_strikes h, ← hb]
  exact Told.onStudio s (Studio.told_branchError h.attached m.source text s.graph)

/-- **A fault of the graph has it replaced.** -/
lemma told_of_fells (hs : Settled s) (h : Fells s m cause) : ∃ e,
    (some e.kind = m.kind.eventKind? ∧ e.generation? = some m.generation ∧
      e.stage? = some m.source) ∧
      Told (s.replacing cause)
        (e :: ([.restarting cause s.generation, .change .running .restarting (.restart cause)] ++
          s.parting)) (s.onStatus m) := by
  obtain ⟨e, he, ht⟩ := onStatus_of_fells h
  rw [ht]
  exact ⟨e, he, Told.restart (told_emit s e) (hs.running_of_live h.live) cause⟩

/-- **Any other message changes nothing.** -/
lemma said_of_neither (hs : ∀ session text, ¬Strikes s m session text)
    (hf : ∀ cause, ¬Fells s m cause) :
    ∃ es, Said s es (s.onStatus m) ∧
      ∀ e ∈ es, m.kind.fault? = none ∧ some e.kind = m.kind.eventKind? := by
  obtain ⟨hr, he⟩ := judge_of_neither hs hf
  exact ⟨_, said_onStatus hr, fun e hm => he e (Option.mem_toList.1 hm)⟩

/-- **A session is ended without its graph exactly by its own errors.** -/
lemma ends_session_iff (hs : Settled s) :
    (s.session.isSome = true ∧ (s.onStatus m).session = none ∧ (s.onStatus m).graph = s.graph) ↔
      ∃ session text, Strikes s m session text := by
  constructor
  · rintro ⟨hx, hn, hg⟩
    rcases concerns_or s m with hk | ⟨cause, hf⟩ | ⟨hk, hf⟩
    · exact hk
    · obtain ⟨e, -, ht⟩ := told_of_fells hs hf
      have hl := graph_of_live hf.live
      rw [← hg, Told.graph ht] at hl
      cases hl
    · obtain ⟨es, ht, -⟩ := said_of_neither hk hf
      rw [← Told.session ht.told, hn] at hx
      cases hx
  · rintro ⟨session, text, h⟩
    have ht := told_of_strikes h
    exact ⟨by rw [h.attached]; rfl, (Told.session ht).trans rfl, (Told.graph ht).trans rfl⟩

/-- **A graph is replaced exactly for its own faults.** -/
lemma ends_graph_iff (hs : Settled s) :
    (s.graph.isSome = true ∧ (s.onStatus m).graph = none) ↔ ∃ cause, Fells s m cause := by
  constructor
  · rintro ⟨hg, hn⟩
    rcases concerns_or s m with ⟨session, text, hk⟩ | hf | ⟨hk, hf⟩
    · rw [Told.graph (told_of_strikes hk)] at hn
      rw [hn] at hg
      cases hg
    · exact hf
    · obtain ⟨es, ht, -⟩ := said_of_neither hk hf
      rw [Told.graph ht.told] at hn
      rw [hn] at hg
      cases hg
  · rintro ⟨cause, h⟩
    obtain ⟨e, -, ht⟩ := told_of_fells hs h
    exact ⟨graph_of_live h.live, Told.graph ht⟩

/-! ### Nothing of it is lost -/

/-- Words meet no limit. -/
lemma State.Said.excess_eq_none (h : Said s es t) (hx : s.excess? = none) : t.excess? = none := by
  obtain ⟨outs, rfl, -, hw⟩ := h
  refine (Host.excess_of_append hx rfl).trans (List.findSome?_eq_none_iff.2 fun o hm => ?_)
  have hw := hw o (List.mem_reverse.1 hm)
  cases o with
  | event | record => rfl
  | level | excess => cases hw

/-- The end of a session meets none either. -/
lemma excess_of_strikes (h : Strikes s m session text) (hx : s.excess? = none) :
    (s.onStatus m).excess? = none := by
  rw [onStatus_of_strikes h]
  exact ((excess_detach (s.emit (.failed m.source text)) s.graph "forced").trans
    (excess_put s rfl)).trans hx

/-- **All that a message brings about comes out**, however long the delays are. -/
lemma events_cut_onStatus (hs : Settled s) (hx : s.excess? = none) (m : StatusMessage) :
    ((s.onStatus m).onHost Host.cut).events = (s.onStatus m).events := by
  rcases concerns_or s m with ⟨session, text, hk⟩ | ⟨cause, hf⟩ | ⟨hk, hf⟩
  · exact events_cut_of_none (excess_of_strikes hk hx)
  · obtain ⟨e, -, ht⟩ := onStatus_of_fells hf
    rw [ht]
    exact events_cut_restart ((said_emit s e).excess_eq_none hx) (hs.running_of_live hf.live)
      cause
  · obtain ⟨es, ht, -⟩ := said_of_neither hk hf
    exact events_cut_of_none (ht.excess_eq_none hx)

/-! ### One number, one session -/

/-- A session is named for its number over a whole run. -/
lemma succeeds_of_session (u : Setup) (xs : List Stimulus)
    (hs : (u.begin.run xs).session = some session) (ys : List Stimulus) :
    Succeeds (fun y => y.id = session.id ∧ y.path = session.path ∧ y.branch = session.branch)
      session.id ((u.begin.run xs).run ys) := by
  obtain ⟨ks, hk⟩ := run_taken u xs
  refine run_succeeds (fun _ _ _ h => h) (run_settled u xs) ⟨hk.le_sessionsStarted hs, ?_⟩ ys
  intro y hy
  obtain rfl : y = session := Option.some.inj (hy.symm.trans hs)
  exact .inl ⟨rfl, rfl, rfl⟩

/-- A name that was given to a stage of one session is not taken for that of another. -/
lemma id_of_strikes {stem : String} {k : Nat} (hm : stem ∈ Stage.stems) (hk : k < 2 ^ 64)
    (hn : m.source = Stage.name stem k) (h : Strikes s m session text) : session.id = k := by
  have hr := h.source
  rw [hn, Stage.session?_name hm hk] at hr
  exact (Option.some.inj hr).symm

/-- Nor is it taken for that of a stage of the main graph. -/
lemma not_fells_of_name {stem : String} {k : Nat} (hm : stem ∈ Stage.stems) (hk : k < 2 ^ 64)
    (hn : m.source = Stage.name stem k) : ¬Fells s m cause := by
  intro h
  have hr := h.source
  rw [hn, Stage.session?_name hm hk] at hr
  cases hr

/-- **The error of a stage of another session changes nothing.** -/
lemma said_of_name {stem : String} {k : Nat} (hm : stem ∈ Stage.stems) (hk : k < 2 ^ 64)
    (hn : m.source = Stage.name stem k) {detail : Option String} (he : m.kind = .error text detail)
    (hx : s.session = some session) (hne : session.id ≠ k) : Said s [] (s.onStatus m) := by
  have hs : ∀ session' text, ¬Strikes s m session' text := by
    intro session' text h
    obtain rfl : session' = session := Option.some.inj (h.attached.symm.trans hx)
    exact hne (id_of_strikes hm hk hn h)
  obtain ⟨es, ht, hes⟩ := said_of_neither hs fun cause => not_fells_of_name hm hk hn
  have hnil : es = [] := by
    refine List.eq_nil_iff_forall_not_mem.2 fun e hm => ?_
    have hfault := (hes e hm).1
    rw [he] at hfault
    cases hfault
  rwa [hnil] at ht

/-- What the stage of a session ends is that session. -/
lemma strikes_of_name {stem : String} {k : Nat} (hm : stem ∈ Stage.stems) (hk : k < 2 ^ 64)
    (hn : m.source = Stage.name stem k) (hne : (s.onStatus m).session ≠ s.session) :
    ∃ session text, Strikes s m session text ∧ session.id = k := by
  rcases concerns_or s m with ⟨session, text, h⟩ | ⟨cause, h⟩ | ⟨hs, hf⟩
  · exact ⟨session, text, h, id_of_strikes hm hk hn h⟩
  · exact absurd h (not_fells_of_name hm hk hn)
  · obtain ⟨es, ht, -⟩ := said_of_neither hs hf
    exact absurd (Told.session ht.told) hne

/-- **What a status message brings about, at every moment of a run**, whatever it says.

The session that there is, be it writing or draining, is ended without the graph exactly by an
error of the graph that plays in a stage named for that session; its failure and its forced end
are told, its branch is taken off, and all else but files and journal stays as it is.  The graph
is replaced exactly for an error or an end of data in the graph that plays, in a stage named for
no session, whether a recording goes on or not; and a session that goes on is forced to its end
with it.  Every other message changes nothing, and is told as an event only if it is a warning
or a report of what was dropped.  All that is told comes out, however long the settle delay is.

So the error of a stage of one session, whenever it arrives, changes nothing while there is
another session; and a session that it ends at any later time is the very one for which the
stage was named, with the same path and the same branch. -/
theorem attribution_of_run (u : Setup) (xs : List Stimulus) (m : StatusMessage) :
    let s := u.begin.run xs
    let t := s.onStatus m
    ((s.session.isSome = true ∧ t.session = none ∧ t.graph = s.graph ↔
        ∃ session text, Strikes s m session text) ∧
      ∀ session text, Strikes s m session text →
        Told { s with session := none, backend := s.backend.detach session.branch }
          [.failed m.source text, .ended session "forced"] t) ∧
    ((s.graph.isSome = true ∧ t.graph = none ↔ ∃ cause, Fells s m cause) ∧
      ∀ cause, Fells s m cause → ∃ e,
        (some e.kind = m.kind.eventKind? ∧ e.generation? = some m.generation ∧
          e.stage? = some m.source) ∧
        Told (s.replacing cause)
          (e :: .restarting cause s.generation ::
            .change .running .restarting (.restart cause) :: s.parting) t) ∧
    ((∀ session text, ¬Strikes s m session text) → (∀ cause, ¬Fells s m cause) →
      ∃ es, Said s es t ∧ ∀ e ∈ es, m.kind.fault? = none ∧ some e.kind = m.kind.eventKind?) ∧
    (s.excess? = none → (t.onHost Host.cut).events = t.events) ∧
    ∀ stem ∈ Stage.stems, ∀ k < 2 ^ 64, m.source = Stage.name stem k →
      (∃ text detail, m.kind = .error text detail) →
      (∀ session, s.session = some session → session.id ≠ k → Said s [] t) ∧
      ∀ session ys, s.session = some session → session.id = k →
        let v := s.run ys
        (v.onStatus m).session ≠ v.session →
          (v.onStatus m).session = none ∧ (v.onStatus m).graph = v.graph ∧
          ∃ y, v.session = some y ∧
            y.id = session.id ∧ y.path = session.path ∧ y.branch = session.branch := by
  intro s t
  have hs : Settled s := run_settled u xs
  refine ⟨⟨ends_session_iff hs, fun _ _ => told_of_strikes⟩,
    ⟨ends_graph_iff hs, fun _ => told_of_fells hs⟩, said_of_neither,
    fun hx => events_cut_onStatus hs hx m, ?_⟩
  intro stem hm k hk hn he
  refine ⟨?_, ?_⟩
  · intro session hx hne
    obtain ⟨text, detail, he⟩ := he
    exact said_of_name hm hk hn he hx hne
  · intro session ys hx hi v hne
    obtain ⟨y, text, h, hy⟩ := strikes_of_name hm hk hn hne
    have ht := told_of_strikes h
    refine ⟨Told.session ht, (Told.graph ht).trans rfl, y, h.attached, ?_⟩
    have hy : y.id = session.id := hy.trans hi.symm
    exact ((succeeds_of_session u xs hx ys).2 y h.attached).resolve_right hy.not_gt

end Supervisor

end StreamWarden
