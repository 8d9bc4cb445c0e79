import StreamWarden.Proofs.Conservation
import StreamWarden.Proofs.Recorder

/-!
# What a toggle leaves behind

A recording that is asked for can fail to begin at five points: a session is still there that
drains, no graph plays, the storage is not there, no branch is attached, or the branch that was
attached does not run.  At the last of them a branch has to be taken off again.  Whichever it
is, all that the outside can see is as before, but for the words that say so.  And whoever asks
twice for the same, and was not refused, gets nothing the second time.

* `ToggleOutcome.notice`: what is published of an outcome in which nothing has begun.
* `Declines`: nothing has come of a toggle; `declined_start` says so of every refusal.
* `Fresh.performAll`: whatever is done to a recorder, no name that its backend gives out later
  is in use, so that what it takes off again at once is nobody else's.
* `toggle_of_wanted`: a toggle that finds things as they are wanted leaves them alone, and
  `wanted_toggle` says that it finds them so after one that was not refused.
* **`toggles_of_studio`**: refusals and repetitions, from every state of a recorder.
-/

namespace StreamWarden

/-- What is published of an outcome in which no recording has begun and none has ended. -/
def ToggleOutcome.notice : ToggleOutcome → List Event
  | .disarmed => [.disarmed]
  | .refused cause => [.refused cause]
  | .started _ | .draining | .unchanged | .busy => []

/-- Of a refusal there is one word, unless it only puts a recording off. -/
lemma ToggleOutcome.exists_notice {outcome : ToggleOutcome} (h : outcome.isRefusal = true)
    (hb : outcome ≠ .busy) : ∃ e, e.kind = .recordingRefused ∧ outcome.notice = [e] := by
  cases outcome with
  | disarmed => exact ⟨.disarmed, rfl, rfl⟩
  | refused cause => exact ⟨.refused cause, rfl, rfl⟩
  | busy => exact absurd rfl hb
  | started | draining | unchanged => cases h

namespace Studio

variable {s t : Studio}

/-! ### Refusals -/

/-- **Nothing has come of a toggle** that led from `s` to `t`: the session is as it was, and so
are the flag, the files and the levels of the lamp; the recorder is armed or not as before; as
much is attached to the graph; at most the next session has another number; and all the rest is
untouched but for the journal. -/
structure Declines (s t : Studio) : Prop where
  session : t.session = s.session
  armed : t.armed = s.armed
  flag : t.flag = s.flag
  files : t.files = s.files
  levels : t.levels = s.levels
  attachPoints : Fresh s.backend → t.backend.attachPoints = s.backend.attachPoints
  attachPointsLive : t.backend.stats.attachPointsLive = s.backend.stats.attachPointsLive
  branchesLive : t.backend.stats.branchesLive = s.backend.stats.branchesLive
  fresh : Fresh s.backend → Fresh t.backend
  started : t.sessionsStarted = s.sessionsStarted ∨ t.sessionsStarted = s.sessionsStarted + 1
  rest : t = { s with
    sessionsStarted := t.sessionsStarted
    backend := t.backend
    journal := t.journal }

namespace Declines

lemma refl (s : Studio) : Declines s s :=
  ⟨rfl, rfl, rfl, rfl, rfl, fun _ => rfl, rfl, rfl, id, .inl rfl, rfl⟩

/-- What is published changes nothing. -/
lemma emit (h : Declines s t) (e : Event) : Declines s (t.emit e) :=
  ⟨h.session, h.armed, h.flag, h.files, h.levels, h.attachPoints, h.attachPointsLive,
    h.branchesLive, h.fresh, h.started, by rw [h.rest]; rfl⟩

/-- A number was used in vain, on a backend on which the same is attached as before. -/
lemma counted {b : Backend} (hp : Fresh s.backend → b.attachPoints = s.backend.attachPoints)
    (hl : b.stats.attachPointsLive = s.backend.stats.attachPointsLive)
    (hb : b.stats.branchesLive = s.backend.stats.branchesLive)
    (hi : s.backend.stats.attachPointsIssued ≤ b.stats.attachPointsIssued) :
    Declines s { s with sessionsStarted := s.sessionsStarted + 1, backend := b } := by
  refine ⟨rfl, rfl, rfl, rfl, rfl, hp, hl, hb, ?_, .inr rfl, rfl⟩
  intro hf n hn
  rw [hp hf]
  exact hf n (hi.trans hn)

end Declines

/-- **A branch that is taken off at once leaves what was there before.** -/
lemma giveBack_keeps {b b' b'' : Backend} {g : Graph} {spec : BranchSpec} {branch : Branch}
    {r : Except BranchError Unit} (ha : b.attach g spec = (b', .ok branch))
    (ha' : b'.activate = (b'', r)) :
    (Fresh b → (b''.detach branch).attachPoints = b.attachPoints) ∧
      (b''.detach branch).stats.attachPointsLive = b.stats.attachPointsLive ∧
      (b''.detach branch).stats.branchesLive = b.stats.branchesLive ∧
      b.stats.attachPointsIssued ≤ (b''.detach branch).stats.attachPointsIssued := by
  obtain ⟨hn, rfl⟩ := Backend.of_attach_ok ha
  obtain ⟨hp', ht'⟩ := activate_keeps ha'
  refine ⟨?_, by simp [Backend.detach, ht'], by simp [Backend.detach, ht'],
    by simp [Backend.detach, ht']⟩
  intro hf
  have hm : branch.attachPoint ∉ b.attachPoints := by
    rw [hn]
    exact hf _ le_rfl
  have hk : ∀ p ∈ b.attachPoints, ¬p = branch.attachPoint := fun p hm' =>
    ne_of_mem_of_not_mem hm' hm
  simpa [Backend.detach, hp', List.filter_append] using hk

/-- If a toggle comes to a refusal, nothing has come of it but the notice. -/
def Declined (s : Studio) (p : Studio × ToggleOutcome) : Prop :=
  p.2.isRefusal = true → Declines s p.1 ∧ p.1.events = s.events ++ p.2.notice

/-- A refusal is published, and nothing else is. -/
lemma declined_refuse (h : Declines s t) (ht : t.events = s.events) (e : BranchError) :
    Declined s (t.refuse e) := by
  intro _
  refine ⟨h.emit _, ?_⟩
  rw [← ht]
  exact t.events_emit (.refused e)

lemma declined_refuseDisarmed (s : Studio) : Declined s s.refuseDisarmed := by
  intro _
  exact ⟨(Declines.refl s).emit _, s.events_emit .disarmed⟩

/-- A branch is refused, or one that was attached is given back. -/
lemma declined_record (s : Studio) (g : Graph) (path : String) : Declined s (s.record g path) := by
  rcases hb : s.backend.attach g { session := s.sessionsStarted + 1, location := path }
    with ⟨b, e | branch⟩
  · obtain ⟨rest, hr⟩ := Backend.of_attach_error hb
    have hc : Declines s { s with sessionsStarted := s.sessionsStarted + 1, backend := b } := by
      refine .counted (fun _ => ?_) ?_ ?_ ?_ <;> rw [hr]
    simp only [record, hb]
    exact declined_refuse hc rfl e
  · rcases hb' : b.activate with ⟨b', e | ⟨⟩⟩
    · obtain ⟨hp, hl, hr, hi⟩ := giveBack_keeps hb hb'
      simp only [record, hb, hb']
      exact declined_refuse (Declines.counted hp hl hr hi) rfl e
    · simp only [record, hb, hb']
      intro h
      cases h

lemma declined_startOn (s : Studio) (g : Graph) : Declined s (s.startOn g) := by
  rw [startOn]
  split
  · exact declined_refuse (Declines.refl s) rfl _
  · exact declined_record s g _

/-- **Nothing comes of a start that is refused**, at whichever point. -/
theorem declined_start (s : Studio) (graph : Option Graph) : Declined s (s.start graph) := by
  have still : ∀ outcome : ToggleOutcome, outcome.notice = [] → Declined s (s, outcome) := by
    intro outcome hn _
    refine ⟨Declines.refl s, ?_⟩
    rw [hn, List.append_nil]
  simp only [start]
  split
  case h_5 =>
    cases graph with
    | none => exact declined_refuseDisarmed s
    | some g =>
        dsimp only
        split
        · exact declined_startOn s g
        · exact declined_refuseDisarmed s
  all_goals exact still _ rfl

/-- Where no session is in the way, no start is put off. -/
lemma startOn_ne_busy (s : Studio) (g : Graph) : (s.startOn g).2 ≠ .busy := by
  intro h
  rw [startOn] at h
  split at h
  · cases h
  · rw [record] at h
    split at h
    · cases h
    · split at h <;> cases h

/-- A start that is put off leaves the recorder as it is. -/
lemma start_of_busy {graph : Option Graph} (h : (s.start graph).2 = .busy) :
    (s.start graph).1 = s := by
  simp only [start] at h ⊢
  split at h
  case h_5 =>
    -- where there is no session, a start is answered in another way
    exfalso
    cases graph with
    | none => cases h
    | some g =>
        dsimp only at h
        split at h
        · exact s.startOn_ne_busy g h
        · cases h
  all_goals rfl

/-! ### Repetitions -/

/-- Things are as a toggle wants them: a session writes or is about to, or none writes. -/
def Wanted (s : Studio) : Bool → Prop
  | true => s.recordingState = .active ∨ s.recordingState = .attaching
  | false => ∀ session, s.session = some session → session.state ≠ .active

/-- **A toggle that finds things as they are wanted leaves them alone.** -/
lemma toggle_of_wanted {on : Bool} (h : s.Wanted on) (graph : Option Graph) :
    s.toggle on graph = (s, .unchanged) := by
  cases on with
  | true => rcases h with h | h <;> simp [toggle, start, h]
  | false =>
      cases hs : s.session with
      | none => exact toggle_off_idle hs graph
      | some session => simp [toggle, stop, hs, h session hs]

lemma wanted_record {g : Graph} {path : String} (h : (s.record g path).2.isRefusal = false) :
    (s.record g path).1.Wanted true := by
  rcases hb : s.backend.attach g { session := s.sessionsStarted + 1, location := path }
    with ⟨b, e | branch⟩
  · simp only [record, hb] at h
    cases h
  · rcases hb' : b.activate with ⟨b', e | ⟨⟩⟩
    · simp only [record, hb, hb'] at h
      cases h
    · left
      simp only [record, hb, hb', recordingState, emit_session, announce_session]
      rfl

/-- A start that is not refused leaves a session that writes. -/
lemma wanted_start {graph : Option Graph} (h : (s.start graph).2.isRefusal = false) :
    (s.start graph).1.Wanted true := by
  simp only [start] at h ⊢
  split at h
  case h_1 ha => exact .inl ha
  case h_2 ha => exact .inr ha
  case h_3 | h_4 => cases h
  case h_5 =>
    cases graph with
    | none => cases h
    | some g =>
        dsimp only at h ⊢
        split at h
        · rename_i ha
          rw [if_pos ha]
          rw [startOn] at h ⊢
          split at h
          · cases h
          · exact wanted_record h
        · cases h

/-- A stop leaves no session that writes. -/
lemma wanted_stop (s : Studio) (graph : Option Graph) : (s.stop graph).1.Wanted false := by
  rw [stop]
  cases hs : s.session with
  | none =>
      intro session h
      rw [hs] at h
      cases h
  | some session =>
      by_cases ha : session.state = .active
      · cases graph with
        | none =>
            simp only [ha, if_true]
            intro session h
            rw [forceStop, detach_session] at h
            cases h
        | some g =>
            simp only [ha, if_true]
            rintro _ ⟨⟩ ha
            cases ha
      · simp only [ha, if_false]
        intro session' h
        rw [hs] at h
        cases h
        exact ha

/-- **After a toggle that was not refused, things are as it wanted them.** -/
lemma wanted_toggle {on : Bool} {graph : Option Graph}
    (h : (s.toggle on graph).2.isRefusal = false) : (s.toggle on graph).1.Wanted on := by
  cases on with
  | true => exact wanted_start h
  | false => exact wanted_stop s graph

/-! ### Names that are not in use -/

namespace Fresh

variable {a b : Backend} {es : List Event}

/-- What is taken off leaves no name in use that was not. -/
lemma of_subset (hf : Fresh a) (hp : b.attachPoints ⊆ a.attachPoints)
    (hi : b.stats.attachPointsIssued = a.stats.attachPointsIssued) : Fresh b := by
  intro n hn hm
  rw [hi] at hn
  exact hf n hn (hp hm)

/-- A name that was given out is not given out again. -/
lemma attach (hf : Fresh a) {g : Graph} {spec : BranchSpec} {branch : Branch}
    (ha : a.attach g spec = (b, .ok branch)) : Fresh b := by
  obtain ⟨hn, rfl⟩ := Backend.of_attach_ok ha
  intro n hi hm
  rcases List.mem_append.1 hm with hm | hm
  · exact hf n (Nat.le_of_succ_le hi) hm
  · have he : n = a.stats.attachPointsIssued :=
      attachPointName_injective ((List.mem_singleton.1 hm).trans hn)
    exact Nat.not_succ_le_self _ (he ▸ hi)

lemma activate (hf : Fresh a) {r : Except BranchError Unit} (ha : a.activate = (b, r)) :
    Fresh b := by
  obtain ⟨hp, ht⟩ := activate_keeps ha
  rw [Fresh, hp, ht]
  exact hf

lemma detach (hf : Fresh a) (branch : Branch) : Fresh (a.detach branch) :=
  hf.of_subset (fun _ hp => List.mem_of_mem_filter hp) rfl

lemma freed (hf : Fresh s.backend) (graph : Option Graph) : Fresh (s.freed graph) := by
  rw [Studio.freed]
  split
  · split
    · exact hf.detach _
    · exact hf
  · exact hf

lemma told (hf : Fresh s.backend) (h : Told s es t) : Fresh t.backend := by
  obtain ⟨files, outs, rfl, -⟩ := h
  exact hf

lemma act (hf : Fresh s.backend) {graph : Option Graph} {now : Nat} (h : Act graph now s es t) :
    Fresh t.backend := by
  cases h with
  | remark _ h => exact hf.told h
  | refuse _ _ _ hb h =>
      obtain ⟨rest, rfl⟩ := Backend.of_attach_error hb
      refine told ?_ h
      exact hf.of_subset (List.Subset.refl _) rfl
  | giveBack _ _ _ hb hb' h => exact told (((hf.attach hb).activate hb').detach _) h
  | begin _ _ _ hb hb' _ h => exact told ((hf.attach hb).activate hb') h
  | drain _ _ _ h =>
      obtain ⟨files, outs, rfl, -⟩ := h
      exact hf
  | fail _ h | finish _ _ h => exact told (hf.freed graph) h

/-- **Every operation keeps the next names free.** -/
lemma perform (hf : Fresh s.backend) (hd : s.Dated) (x : Operation) :
    Fresh (s.perform x).backend := by
  have hdetach : ∀ (s : Studio) graph reason, Fresh s.backend →
      Fresh (s.detach graph reason).backend := by
    intro s graph reason hf
    cases hs : s.session with
    | none => rwa [detach_of_none hs]
    | some session => exact told (hf.freed graph) (told_detach hs graph reason)
  cases x with
  | arm | disarm | pass | files | refusals => exact hf
  | toggle on graph =>
      obtain ⟨es, h⟩ := act_toggle hd.proper on graph 0
      exact hf.act h
  | finishDrain now graph =>
      rcases s.finishDrain_cases now graph with h | h <;> rw [Studio.perform, h]
      · exact hdetach s graph _ hf
      · exact hf
  | forceStop graph => exact hdetach s graph _ hf
  | branchError stage message graph => exact hdetach _ graph _ (hf.told (told_emit s _))

lemma performAll (hf : Fresh s.backend) (hd : s.Dated) (xs : List Operation) :
    Fresh (s.performAll xs).backend := by
  induction xs generalizing s with
  | nil => exact hf
  | cons x xs ih => exact ih (hf.perform hd x) (hd.perform x)

end Fresh

end Studio

/-- The attach point that a sound ledger leaves in use was given out. -/
lemma Sound.mem_points {ds : List Deed} {k : Stock} (h : Sound ds k) {p : String}
    (hp : k.point = some p) : p ∈ ds.filterMap Deed.point? := by
  induction h with
  | begin | built | buildRefused | playRefused | detached => cases hp
  | toreDown _ ih => exact ih hp
  | attached =>
      cases hp
      exact List.mem_cons_self
  | idle hd _ ih =>
      rw [List.filterMap_cons_none (Deed.point?_of_isIdle hd)]
      exact ih hp

/-- A backend with its books in order gives out no name that is in use. -/
lemma Backend.Books.fresh {b : Backend} {k : Stock} (h : b.Books k) : Studio.Fresh b := by
  intro n hn hm
  rw [h.points, Option.mem_toList] at hm
  obtain ⟨i, hi, he⟩ := h.sound.exists_name (h.sound.mem_points hm)
  rw [h.stats] at hn
  have hni : n = i := attachPointName_injective he
  omega

namespace Studio

/-- **Refusals and repetitions, from every state of a recorder**, with any graph or none,
whatever the storage holds and whatever the backend refuses.

If a start comes to a refusal, then nothing has come of it: the session, the recorder's arming,
the flag, the files, the levels of the lamp and what is attached are as before, and at most the
number of the next session is another.  Of a refusal there is one word, and of a start that is
put off there is none.  What is attached is as before wherever no name that will be given out is
in use; a toggle keeps that so, and it is so after whatever was done to a recorder that began
without a session, and in every run of a supervisor.

If a toggle comes to anything else, then the same toggle once more finds nothing to do, says
nothing, and changes nothing at all. -/
theorem toggles_of_studio (s : Studio) (graph : Option Graph) :
    (let t := (s.toggle true graph).1
      let outcome := (s.toggle true graph).2
      outcome.isRefusal = true →
        Declines s t ∧ t.events = s.events ++ outcome.notice ∧
          (outcome = .busy → t = s ∧ outcome.notice = []) ∧
          (outcome ≠ .busy → ∃ e, e.kind = .recordingRefused ∧ outcome.notice = [e])) ∧
      (∀ on, (s.toggle on graph).2.isRefusal = false →
        let t := (s.toggle on graph).1
        t.toggle on graph = (t, .unchanged)) ∧
      (s.session = none → Fresh s.backend → ∀ xs, Fresh (s.performAll xs).backend) ∧
      ∀ (u : Supervisor.Setup) (xs : List Supervisor.Stimulus),
        Fresh (u.begin.run xs).backend := by
  refine ⟨?_, fun on h => toggle_of_wanted (wanted_toggle h) graph,
    fun hs hf xs => hf.performAll (.of_none hs) xs,
    fun u xs => (Supervisor.run_booked u xs).books.fresh⟩
  intro t outcome h
  obtain ⟨hd, he⟩ := declined_start s graph h
  refine ⟨hd, he, ?_, ToggleOutcome.exists_notice h⟩
  intro hb
  exact ⟨start_of_busy hb, by rw [hb]; rfl⟩

end Studio

end StreamWarden
