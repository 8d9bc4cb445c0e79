import StreamWarden.Proofs.Moves

/-!
# What changes nothing

Most of what a supervisor hears in a wait, and most of what a graph reports, is answered
with words at best: an event or two, a record in the log, and every other piece of the
state as it was.  `Told` is too weak to say so: it forgets the files, in which the flag of
the status region lies, and it would not notice a lamp that is driven.

* `Said`: nothing but words, and the rules of this relation.
* `said_onStatus`: a message that calls for nothing changes nothing.
* `said_start`, `said_restart`, `said_toggle`: neither do these requests, where a build
  is waited for.
-/

namespace StreamWarden

namespace Studio

variable {s : Studio}

lemma recordingState_of_none (hs : s.session = none) : s.recordingState = .idle := by
  rw [recordingState, hs]
  rfl

lemma toggle_on_disarmed (hs : s.session = none) (ha : s.armed = false)
    (graph : Option Graph) : s.toggle true graph = s.refuseDisarmed := by
  simp only [toggle, start, recordingState_of_none hs, ha, if_true, Bool.false_eq_true, if_false]
  cases graph <;> rfl

end Studio

/-- The entry is an event or a record of the log. -/
def Output.isWord : Output → Bool
  | .event _ | .record _ => true
  | .level _ | .excess _ => false

namespace Supervisor

open State

namespace State

/-- `t` is `s` but for words: the events `es`, and records of the log. -/
def Said (s : State) (es : List Event) (t : State) : Prop :=
  ∃ outs, t = { s with journal := outs ++ s.journal } ∧
    (outs.filterMap Output.event?).reverse = es ∧ ∀ o ∈ outs, o.isWord = true

namespace Said

variable {s t u : State} {es fs : List Event}

lemma refl (s : State) : Said s [] s := ⟨[], rfl, rfl, by simp⟩

lemma trans (h : Said s es t) (h' : Said t fs u) : Said s (es ++ fs) u := by
  obtain ⟨os, rfl, rfl, hw⟩ := h
  obtain ⟨os', rfl, rfl, hw'⟩ := h'
  exact ⟨os' ++ os, by rw [List.append_assoc],
    by rw [List.filterMap_append, List.reverse_append],
    fun o ho => (List.mem_append.1 ho).elim (hw' o) (hw o)⟩

/-- A quiet operation adds nothing to what was said before. -/
lemma quiet (h : Said s es t) (h' : Said t [] u) : Said s es u := by
  simpa using h.trans h'

lemma told (h : Said s es t) : Told s es t := by
  obtain ⟨outs, rfl, he, -⟩ := h
  exact ⟨s.files, outs, rfl, he⟩

end Said

lemma said_emit (s : State) (e : Event) : Said s [e] (s.emit e) :=
  ⟨[.event e], rfl, rfl, List.forall_mem_singleton.2 rfl⟩

lemma said_log (s : State) (level : Log.Level) (message : String)
    (fields : List (String × Log.Value)) : Said s [] (s.log level message fields) :=
  ⟨[.record { level, origin := .supervisor, message, fields }], rfl, rfl,
    List.forall_mem_singleton.2 rfl⟩

lemma said_transition_of_none {s : State} {input : Phase.Input}
    (h : s.phase.next? input = none) : Said s [] (s.transition input) := by
  rw [transition, h]
  exact said_log s _ _ _

end State

/-! ### Status messages -/

section Inert

variable {s : State}

/-- What the monitor has to tell is said. -/
lemma said_tell (s : State) (f : Monitor.Finding) : Said s f.event?.toList (s.tell f) := by
  obtain ⟨reaction, event?, record?⟩ := f
  cases event? with
  | none =>
      cases record? with
      | none => exact .refl s
      | some r => exact ⟨[.record r], rfl, rfl, List.forall_mem_singleton.2 rfl⟩
  | some e =>
      cases record? with
      | none => exact said_emit s e
      | some r => exact (said_emit s e).quiet ⟨[.record r], rfl, rfl, List.forall_mem_singleton.2 rfl⟩

/-- **A message that calls for nothing changes nothing.** -/
theorem said_onStatus {m : StatusMessage} (h : (Monitor.judge s.view m).reaction = .ignore) :
    Said s (Monitor.judge s.view m).event?.toList (s.onStatus m) := by
  simp only [onStatus, h]
  exact said_tell s _

/-- A message of another graph than the live one does not even make an event. -/
lemma said_onStatus_of_stale {m : StatusMessage} (h : s.liveGeneration ≠ some m.generation) :
    Said s [] (s.onStatus m) := by
  obtain ⟨hr, he⟩ := @Monitor.judge_of_stale s.view m h
  have hs := said_onStatus hr
  rwa [he] at hs

/-! ### Requests -/

/-- A stream that is not stopped need not be started. -/
lemma said_start (hn : s.phase.next? .start = none) :
    Said s [.asked "start"] (s.onRequest .start) := by
  have ha : (s.emit (.asked "start")).applies .start = false := by
    rw [applies, phase_emit, hn]
    rfl
  have hr : s.onRequest .start = (s.emit (.asked "start")).transition .start :=
    if_neg (Bool.eq_false_iff.1 ha)
  rw [hr]
  exact (said_emit s _).quiet (said_transition_of_none hn)

/-- A restart that is asked for while a rebuild is on its way is folded into that. -/
lemma said_restart (hp : s.phase ≠ .running) (hr : s.phase.rebuildPending = true) :
    Said s [.asked "restart", .coalesced .external] (s.onRequest .restart) := by
  have hc : s.onRequest .restart
      = (s.emit (.asked "restart")).emit (.coalesced .external) := by
    refine (if_neg hp).trans (if_pos ?_)
    rw [phase_emit, hr, Bool.or_true]
  rw [hc]
  exact (said_emit s _).trans (said_emit _ _)

/-- A recorder that is not armed refuses. -/
lemma said_toggle (hs : s.session = none) (ha : s.armed = false) :
    Said s [.asked "toggle_recording", .disarmed] (s.onRequest .toggleRecording) := by
  have hw : (s.emit (.asked "toggle_recording")).wantsRecording = true := by
    have hi : (s.emit (.asked "toggle_recording")).recordingState = .idle :=
      Studio.recordingState_of_none hs
    rw [wantsRecording, hi]
  have ht : (s.emit (.asked "toggle_recording")).toStudio.toggle true s.graph
      = (s.emit (.asked "toggle_recording")).toStudio.refuseDisarmed :=
    Studio.toggle_on_disarmed (s := s.toStudio.emit (.asked "toggle_recording")) hs ha s.graph
  have hr : s.onRequest .toggleRecording
      = ((s.emit (.asked "toggle_recording")).emit .disarmed).log .debug "recording toggled"
        [("on", .flag true), ("outcome", .shown ToggleOutcome.disarmed.detail)] := by
    change (s.emit (.asked "toggle_recording")).toggleRecording = _
    rw [toggleRecording, hw]
    exact congrArg (fun p : Studio × ToggleOutcome => (s.onStudio fun _ => p.1).log .debug
      "recording toggled" [("on", .flag true), ("outcome", .shown p.2.detail)]) ht
  rw [hr]
  exact ((said_emit s _).trans (said_emit _ _)).quiet (said_log _ _ _ _)

end Inert

end Supervisor

end StreamWarden
