import StreamWarden.Proofs.Chronicle

/-!
# What is told of a recording session

A session is told three times: when it begins, when it is told to drain, and when it ends.
A take is what a chronicle tells of one session.  It is extended by a few kinds of episodes
only, and each of them says why: a session that drains ends by itself after its grace, and
before that only because a graph is taken down or because its branch fails.

* `Take`: what is told of one session; `Episode`: how the takes of a run are extended.
* `Story`: a chronicle with its takes; `Story.events`: what is told of recordings.
* `Story.verdict`: why a session has ended.
-/

namespace StreamWarden

namespace Event

/-- The event tells that a recording begins, drains or ends. -/
def isRecording (e : Event) : Bool :=
  match e.kind with
  | .recordingStarted | .recordingDraining | .recordingStopped => true
  | _ => false

/-- The event tells of what cuts a recording short: a restart, a stop, or a failure of the
branch. -/
def cutsShort (e : Event) : Bool :=
  e.kind == .restartRequested || e.kind == .recordingFailed || e.isTransitionTo .stopping

@[simp] lemma isRecording_change (p q : Phase) (input : Phase.Input) :
    (change p q input).isRecording = false := by cases input <;> rfl

/-- A change of phase cuts a recording short when it is a stop. -/
@[simp] lemma cutsShort_change (p q : Phase) (input : Phase.Input) :
    (change p q input).cutsShort = (q == .stopping) := by
  cases input <;> cases q <;> rfl

/-- A remark says nothing of recordings. -/
lemma quiet_of_isRemark {e : Event} (he : e.isRemark = true) :
    e.isRecording = false ∧ e.cutsShort = false := by
  revert he
  simp only [isRemark, isRecording, cutsShort, isTransitionTo]
  cases e.kind <;> simp

end Event

namespace Supervisor

open State

/-! ### Takes -/

/-- What is told of one session: as what it began, since when it drains, and for what
reason it has ended. -/
structure Take where
  session : Session
  since? : Option Nat := none
  reason? : Option String := none

namespace Take

/-- The events of a take. -/
def events (k : Take) : List Event :=
  .recording k.session :: (k.since?.toList.map fun _ => .draining k.session) ++
    k.reason?.toList.map (.ended k.session)

/-- The session of a take, if it goes on: it writes or drains, and the drain is over after
the grace. -/
def session? (grace : Nat) (k : Take) : Option Session :=
  match k.reason? with
  | some _ => none
  | none => some { k.session with
      state := if k.since?.isSome then .draining else .active
      drainDeadline := k.since?.map (· + grace) }

end Take

/-- The session that goes on, by the takes of a chronicle, the newest first. -/
def onAir (grace : Nat) (ks : List Take) : Option Session := ks.head?.bind (·.session? grace)

lemma isSome_reason?_of_onAir {grace : Nat} {k : Take} {ks : List Take}
    (h : onAir grace (k :: ks) = none) : k.reason?.isSome = true := by
  rw [onAir, List.head?_cons, Option.bind_some, Take.session?] at h
  split at h
  case h_1 hr => rw [hr]; rfl
  case h_2 => cases h

/-- A session goes on in the newest take. -/
lemma exists_of_onAir {grace : Nat} {ks : List Take} {session : Session}
    (h : onAir grace ks = some session) :
    ∃ begun since? ls, ks = { session := begun, since? } :: ls ∧
      session = { begun with
        state := if since?.isSome then .draining else .active
        drainDeadline := since?.map (· + grace) } := by
  obtain ⟨⟨begun, since?, reason?⟩, hk, hs⟩ := Option.bind_eq_some_iff.1 h
  obtain ⟨ls, rfl⟩ := List.head?_eq_some_iff.1 hk
  cases reason? with
  | none => exact ⟨begun, since?, ls, rfl, (Option.some.inj hs).symm⟩
  | some => cases hs

/-- **How the takes of a chronicle are extended** at an instant, the newest first. -/
inductive Episode (grace now : Nat) : List Take → List Event → List Take → Prop where
  /-- Nothing is told of a session, and one that goes on is not cut short. -/
  | still {ks : List Take} {es : List Event} (hes : ∀ e ∈ es, e.isRecording = false)
      (hc : (onAir grace ks).isSome = true → ∀ e ∈ es, e.cutsShort = false) :
      Episode grace now ks es ks
  /-- A session begins. -/
  | begin {ks : List Take} {session : Session} (hk : ∀ k ∈ ks, k.session.id < session.id)
      (ho : onAir grace ks = none) :
      Episode grace now ks [.recording session] ({ session } :: ks)
  /-- A session drains. -/
  | drain {ks : List Take} {session : Session} :
      Episode grace now ({ session } :: ks) [.draining session]
        ({ session, since? := some now } :: ks)
  /-- The drain of a session is over. -/
  | drained {ks : List Take} {session : Session} {since : Nat} (hg : since + grace ≤ now) :
      Episode grace now ({ session, since? := some since } :: ks) [.ended session "drained"]
        ({ session, since? := some since, reason? := some "drained" } :: ks)
  /-- A session is cut short. -/
  | forced {ks : List Take} {session : Session} {since? : Option Nat} {pre post : List Event}
      (hc : ∃ e ∈ pre, e.cutsShort = true) (hpre : ∀ e ∈ pre, e.isRecording = false)
      (hpost : ∀ e ∈ post, e.isRecording = false) :
      Episode grace now ({ session, since? } :: ks) (pre ++ .ended session "forced" :: post)
        ({ session, since?, reason? := some "forced" } :: ks)

/-- **A chronicle with its takes**, the newest first. -/
inductive Story (grace : Nat) : List (Nat × Event) → List Take → Prop where
  | blank : Story grace [] []
  | more {c : List (Nat × Event)} {now : Nat} {es : List Event} {ks ls : List Take}
      (h : Story grace c ks) (he : Episode grace now ks es ls) :
      Story grace (c ++ es.map (now, ·)) ls

/-- A drain began so long before this instant that it is over, and nothing has come in
between. -/
def DrainedBy (grace : Nat) (pre : List (Nat × Event)) (t : Nat) : Prop :=
  ∃ a since e b, pre = a ++ (since, e) :: b ∧ e.kind = .recordingDraining ∧
    since + grace ≤ t ∧ ∀ x ∈ b, x.2.isRecording = false ∧ x.2.cutsShort = false

namespace Story

variable {grace : Nat} {c : List (Nat × Event)} {ks : List Take}

lemma filter_isRecording {now : Nat} {es : List Event} {ks ls : List Take}
    (h : Episode grace now ks es ls) :
    ks.reverse.flatMap Take.events ++ es.filter Event.isRecording =
      ls.reverse.flatMap Take.events := by
  cases h with
  | still hes =>
      rw [List.filter_eq_nil_iff.2 fun e he => Bool.eq_false_iff.1 (hes e he), List.append_nil]
  | begin => simp [Take.events, Event.recording, Event.isRecording, Event.of, Event.withPath,
      Event.withStage]
  | drain => simp [Take.events, Event.draining, Event.isRecording, Event.of, Event.withPath]
  | drained => simp [Take.events, Event.ended, Event.isRecording, Event.of, Event.withPath,
      Event.withReason]
  | @forced ks session since? pre post _ hpre hpost =>
      rw [List.filter_append, List.filter_cons,
        List.filter_eq_nil_iff.2 fun e he => Bool.eq_false_iff.1 (hpre e he),
        List.filter_eq_nil_iff.2 fun e he => Bool.eq_false_iff.1 (hpost e he)]
      cases since? <;> simp [Take.events, Event.ended, Event.isRecording, Event.of,
        Event.withPath, Event.withReason]

/-- **All that is told of recordings is told in the takes**, one after the other. -/
theorem events (h : Story grace c ks) :
    (c.map Prod.snd).filter Event.isRecording = ks.reverse.flatMap Take.events := by
  induction h with
  | blank => rfl
  | more _ he ih =>
      rw [List.map_append, List.filter_append, ih, map_snd_at, filter_isRecording he]

/-- The takes go by growing numbers. -/
lemma sorted (h : Story grace c ks) : ks.Pairwise (fun k l => l.session.id < k.session.id) := by
  induction h with
  | blank => exact .nil
  | more _ he ih =>
      cases he with
      | still => exact ih
      | begin hk => exact List.pairwise_cons.2 ⟨hk, ih⟩
      | drain | drained | forced => simpa using ih

/-- Only the newest take goes on. -/
lemma ended (h : Story grace c ks) : ∀ k ∈ ks.tail, k.reason?.isSome = true := by
  induction h with
  | blank => exact nofun
  | @more _ _ _ ks _ _ he ih =>
      cases he with
      | still | drain | drained | forced => exact ih
      | begin _ ho =>
          intro k hk
          cases ks with
          | nil => cases hk
          | cons l ks =>
              rcases List.mem_cons.1 hk with rfl | hk
              · exact isSome_reason?_of_onAir ho
              · exact ih k hk

/-- While a session drains, nothing is told that would end it. -/
lemma since (h : Story grace c ks) {session : Session} {t : Nat}
    (hk : ks.head? = some { session, since? := some t }) :
    ∃ a b, c = a ++ (t, .draining session) :: b ∧
      ∀ x ∈ b, x.2.isRecording = false ∧ x.2.cutsShort = false := by
  induction h with
  | blank => cases hk
  | @more c now es ks _ _ he ih =>
      cases he with
      | still hes hc =>
          obtain ⟨a, b, rfl, hb⟩ := ih hk
          have ho : (onAir grace ks).isSome = true := by rw [onAir, hk]; rfl
          refine ⟨a, b ++ es.map (now, ·), by simp, fun x hx => ?_⟩
          rcases List.mem_append.1 hx with hx | hx
          · exact hb x hx
          · obtain ⟨e, he, rfl⟩ := List.mem_map.1 hx
            exact ⟨hes e he, hc ho e he⟩
      | drain =>
          simp only [List.head?_cons, Option.some.injEq, Take.mk.injEq] at hk
          obtain ⟨rfl, rfl, -⟩ := hk
          exact ⟨c, [], rfl, List.forall_mem_nil _⟩
      | begin | drained | forced => simp at hk

/-- What a chronicle tells was told before the latest events or is among these. -/
lemma split_at {c pre post : List (Nat × Event)} {now t : Nat} {es : List Event} {e : Event}
    (h : c ++ es.map (now, ·) = pre ++ (t, e) :: post) :
    (∃ post', c = pre ++ (t, e) :: post') ∨
      t = now ∧ ∃ fs gs, es = fs ++ e :: gs ∧ pre = c ++ fs.map (now, ·) := by
  rcases exists_of_append_eq h with hc | ⟨m, hm, rfl⟩
  · exact .inl hc
  · obtain ⟨fs, gs', rfl, rfl, hg⟩ := List.map_eq_append_iff.1 hm
    obtain ⟨e', gs, rfl, he, -⟩ := List.map_eq_cons_iff.1 hg
    cases he
    exact .inr ⟨rfl, fs, gs, rfl, rfl⟩

/-- What cuts a session short is no end of a drain. -/
lemma not_drainedBy {now t : Nat} {fs : List Event} (hc : ∃ e ∈ fs, e.cutsShort = true)
    (hf : ∀ e ∈ fs, e.isRecording = false) :
    ¬DrainedBy grace (c ++ fs.map (now, ·)) t := by
  rintro ⟨a, since, d, b, h, hd, -, hb⟩
  have hr : d.isRecording = true := by rw [Event.isRecording, hd]
  rcases split_at h with ⟨post, rfl⟩ | ⟨-, fs', gs, rfl, -⟩
  · obtain ⟨e, he, hc⟩ := hc
    have hb' : b = post ++ fs.map (now, ·) := by simpa using h.symm
    have hx := (hb (now, e) (by rw [hb']; simp [he])).2
    rw [hc] at hx
    cases hx
  · rw [hf d (by simp)] at hr
    cases hr

lemma alone {e d : Event} {fs gs : List Event} (h : [d] = fs ++ e :: gs) :
    fs = [] ∧ d = e ∧ gs = [] := by
  cases fs with
  | nil =>
      cases h
      exact ⟨rfl, rfl, rfl⟩
  | cons f fs => simp at h

/-- **A session that has ended was drained if its drain was over and nothing had come in
between, and was forced to its end otherwise.** -/
theorem verdict (h : Story grace c ks) {pre post : List (Nat × Event)} {t : Nat} {e : Event}
    (hc : c = pre ++ (t, e) :: post) (hk : e.kind = .recordingStopped) :
    e.reason? = some "drained" ∧ DrainedBy grace pre t ∨
      e.reason? = some "forced" ∧ ¬DrainedBy grace pre t := by
  have hr : e.isRecording = true := by rw [Event.isRecording, hk]
  induction h generalizing post with
  | blank => simp at hc
  | more h he ih =>
      rcases split_at hc with ⟨post', rfl⟩ | ⟨rfl, fs, gs, hes, rfl⟩
      · exact ih rfl
      cases he with
      | still hn =>
          rw [hn e (by rw [hes]; simp)] at hr
          cases hr
      | begin | drain =>
          obtain ⟨-, rfl, -⟩ := alone hes
          cases hk
      | drained hg =>
          obtain ⟨rfl, rfl, -⟩ := alone hes
          obtain ⟨a, b, rfl, hb⟩ := h.since rfl
          exact .inl ⟨rfl, a, _, .draining _, b, List.append_nil _, rfl, hg, hb⟩
      | forced hcut hpre hpost =>
          obtain ⟨rfl, rfl, -⟩ := (List.append_cons_inj_of_notMem
            (fun h => by simp [hpre e h] at hr) (fun h => by simp [hpost e h] at hr)).1 hes
          exact .inr ⟨rfl, not_drainedBy hcut hpre⟩

end Story

end Supervisor

end StreamWarden
