import StreamWarden.Proofs.Effects

/-!
# What recording leaves alone

The recorder shares the host with all the rest: it writes to the same journal, asks the
same backend, and looks at the files.  `plain` forgets all that it can touch: the session,
the files, what the backend keeps about branches, and what is told of recordings.  What
the recorder does is then not to be seen, with one exception: a drain whose end lies
beyond the clock breaks the loop.

* `Event.isLifecycle`: the events that tell of the stream itself.
* `Backend.plain`, `Host.plain`, `Studio.plain`: what is left.
* `plain_detach`, `plain_record` and their companions: the recorder is not to be seen.
* `Studio.Quiet`, `Studio.Breaks`: what can come of a request to the recorder;
  `toggle_quiet_or_breaks` says that it is one of the two.
-/

namespace StreamWarden

/-! ### What is told of the stream -/

/-- The event tells of the stream itself: of its phases and graphs, of builds and
restarts, and of what makes it restart. -/
def Event.isLifecycle (e : Event) : Bool :=
  match e.kind with
  | .phaseChanged | .graphPlaying | .buildFailed | .backoffScheduled | .graphTornDown
  | .watchdogTimeout | .restartRequested | .restartCoalesced | .graphError
  | .graphEndOfStream => true
  | _ => false

/-- The entry tells of the stream itself, or that a limit of the machine was met. -/
def Output.isLifecycle : Output → Bool
  | .event e => e.isLifecycle
  | .excess _ => true
  | .record _ | .level _ => false

/-! ### What is left -/

/-- A backend as if nothing had ever been asked of it, with the builds and plays that it
will refuse. -/
def Backend.plain (b : Backend) : Backend :=
  { buildRefusals := b.buildRefusals, playRefusals := b.playRefusals }

namespace Backend

variable (b : Backend)

@[simp] lemma plain_attach (g : Graph) (spec : BranchSpec) :
    (b.attach g spec).1.plain = b.plain := by
  rw [attach]
  split
  · rfl
  · split <;> rfl

@[simp] lemma plain_activate : b.activate.1.plain = b.plain := by
  rw [activate]
  split <;> rfl

@[simp] lemma plain_detach (branch : Branch) : (b.detach branch).plain = b.plain := rfl

/-- The answer to an attempt depends on what will be refused alone. -/
lemma raise_congr {b b' : Backend} (h : b.plain = b'.plain) (p : Profile) (c : GraphContext) :
    (b.raise p c).1.plain = (b'.raise p c).1.plain ∧ (b.raise p c).2 = (b'.raise p c).2 := by
  obtain ⟨hb, hp⟩ : b.buildRefusals = b'.buildRefusals ∧ b.playRefusals = b'.playRefusals := by
    simpa [plain] using h
  simp only [raise, build, hb]
  cases b'.buildRefusals with
  | cons e rest => simp [plain, hp]
  | nil =>
      simp only [setState, hp]
      cases b'.playRefusals with
      | cons e rest => simp [plain, teardown]
      | nil => simp [plain]

end Backend

/-- A host without files, with a plain backend, and with nothing in its journal but what
is told of the stream. -/
def Host.plain (h : Host) : Host :=
  { h with
    wallOrigin := 0
    files := Files.Tree.fresh
    backend := h.backend.plain
    journal := h.journal.filter Output.isLifecycle }

namespace Host

lemma plain_put (h : Host) (o : Output) :
    (h.put o).plain = if o.isLifecycle then h.plain.put o else h.plain := by
  by_cases ho : o.isLifecycle = true <;> simp [put, plain, ho]

/-- An entry about recordings is not to be seen. -/
lemma plain_put_of_not (h : Host) {o : Output} (ho : o.isLifecycle = false) :
    (h.put o).plain = h.plain := by
  rw [plain_put, ho]
  rfl

lemma plain_schedule (h : Host) (deadline : Option Nat) :
    (h.schedule deadline).plain = h.plain.schedule deadline := by
  rcases h.schedule_cases deadline with ⟨hd, hs⟩ | ⟨hd, hs⟩ <;> rw [hs]
  · rw [schedule_of_lt (h := h.plain) hd]
  · rw [schedule_of_le (h := h.plain) hd, plain_put]
    rfl

/-- The first limit that was met stays the first. -/
lemma excess_put (h : Host) (o : Output) : (h.put o).excess? = h.excess?.or o.excess? := by
  rw [excess?, put, List.reverse_cons, List.findSome?_append]
  cases ho : o.excess? <;> simp [excess?, ho]

/-- A deadline beyond the end of the clock is a limit. -/
lemma excess_schedule (h : Host) (d : Nat) : (h.schedule (some d)).excess? =
    h.excess?.or (if d < h.horizon then none else some .instant) := by
  rcases h.schedule_cases (some d) with ⟨hd, hs⟩ | ⟨⟨_, ⟨⟩, hd⟩, hs⟩ <;> rw [hs]
  · rw [if_pos (hd d rfl), Option.or_none]
  · rw [if_neg (Nat.not_lt.2 hd), excess_put]
    rfl

/-- What comes out of a journal: all that stands before the first limit. -/
lemma cut_of_append {h : Host} (hx : h.excess? = none) (outs : List Output) :
    ({ h with journal := outs ++ h.journal } : Host).cut =
      { h with journal := (outs.reverse.takeWhile (·.excess?.isNone)).reverse ++ h.journal } := by
  have hn : ∀ o ∈ h.journal.reverse, o.excess?.isNone = true := fun o hm =>
    Option.isNone_iff_eq_none.2 (List.findSome?_eq_none_iff.1 hx o hm)
  rw [cut, List.reverse_append, List.takeWhile_append_of_pos hn, List.reverse_append,
    List.reverse_reverse]

/-- The events that come out when more was put out. -/
lemma events_cut_of_append {h k : Host} (hx : h.excess? = none) {outs : List Output}
    (hk : k.journal = outs ++ h.journal) : k.cut.events =
      h.events ++ (outs.reverse.takeWhile (·.excess?.isNone)).filterMap Output.event? := by
  have hc : k.cut.journal = ({ h with journal := k.journal } : Host).cut.journal := rfl
  rw [events, hc, hk, cut_of_append hx, List.filterMap_append, List.reverse_append,
    List.filterMap_reverse, List.reverse_reverse]
  rfl

/-- The limit that is met when more is put out. -/
lemma excess_of_append {h k : Host} (hx : h.excess? = none) {outs : List Output}
    (hk : k.journal = outs ++ h.journal) :
    k.excess? = outs.reverse.findSome? Output.excess? := by
  have hn : h.journal.reverse.findSome? Output.excess? = none := hx
  rw [excess?, hk, List.reverse_append, List.findSome?_append, hn]
  rfl

/-- Where no limit was met, all comes out. -/
lemma cut_of_none {h : Host} (hx : h.excess? = none) : h.cut = h := cut_of_append hx []

/-- A deadline beyond the end of the clock changes nothing of what comes out. -/
lemma cut_schedule {h : Host} (hx : h.excess? = none) (deadline : Option Nat) :
    (h.schedule deadline).cut = h := by
  rcases h.schedule_cases deadline with ⟨-, hs⟩ | ⟨-, hs⟩ <;> rw [hs]
  · exact cut_of_none hx
  · exact cut_of_append hx [.excess .instant]

/-- A limit that was met stays to be seen. -/
lemma excess_plain (h : Host) : h.plain.excess? = h.excess? := by
  rw [excess?, excess?, plain, ← List.filter_reverse, ← List.head?_filterMap,
    ← List.head?_filterMap, List.filterMap_filter]
  refine congrArg List.head? (List.filterMap_congr fun o _ => ?_)
  cases o with
  | excess e => rfl
  | event | record | level => split <;> rfl

end Host

/-- A studio without a recorder, on a plain host. -/
def Studio.plain (s : Studio) : Studio :=
  { s with
    toHost := s.toHost.plain
    region := none
    indicator := .none
    session := none
    sessionsStarted := 0 }

/-! ### The recorder is not to be seen -/

namespace Studio

variable (s : Studio)

lemma plain_onHost (f : Host → Host) (h : (f s.toHost).plain = s.toHost.plain) :
    (s.onHost f).plain = s.plain := by
  rw [plain, plain, onHost, h]

/-- What a studio tells of a recording is not to be seen. -/
lemma plain_emit {e : Event} (he : e.isLifecycle = false) : (s.emit e).plain = s.plain :=
  s.plain_onHost _ (Host.plain_put_of_not _ he)

lemma plain_log (r : Log.Record) : (s.log r).plain = s.plain :=
  s.plain_onHost _ (Host.plain_put_of_not _ rfl)

lemma plain_drive (on : Bool) : (s.drive on).plain = s.plain := by
  rw [drive]
  split
  · rfl
  · exact s.plain_onHost _ (Host.plain_put_of_not _ rfl)
  · split
    · rfl
    · exact s.plain_log _

lemma plain_announce (on : Bool) : (s.announce on).plain = s.plain := by
  rw [announce]
  split
  · exact plain_drive _ on
  · exact s.plain_drive on

lemma plain_detach (graph : Option Graph) (reason : String) :
    (s.detach graph reason).plain = s.plain := by
  rw [detach]
  split
  · rfl
  · rw [plain_emit _ rfl, plain_announce]
    by_cases hg : graph.isSome = true <;> simp [plain, Host.plain, hg]

lemma plain_forceStop (graph : Option Graph) : (s.forceStop graph).plain = s.plain :=
  s.plain_detach graph _

lemma plain_finishDrain (now : Nat) (graph : Option Graph) :
    (s.finishDrain now graph).plain = s.plain := by
  rw [finishDrain]
  split
  · exact s.plain_detach graph _
  · rfl

lemma plain_branchError (stage message : String) (graph : Option Graph) :
    (s.branchError stage message graph).plain = s.plain := by
  rw [branchError, plain_forceStop, plain_emit _ rfl]

lemma plain_refuse (e : BranchError) : (s.refuse e).1.plain = s.plain := s.plain_emit rfl

lemma plain_record (graph : Graph) (path : String) :
    (s.record graph path).1.plain = s.plain := by
  have hp := s.backend.plain_attach graph { session := s.sessionsStarted + 1, location := path }
  rcases hb : s.backend.attach graph { session := s.sessionsStarted + 1, location := path }
    with ⟨b, e | branch⟩
  · rw [hb] at hp
    simp only [record, hb]
    rw [plain_refuse]
    simp [plain, Host.plain, hp]
  · have hp' := b.plain_activate
    rw [hb] at hp
    rcases hb' : b.activate with ⟨b', e | ⟨⟩⟩
    · rw [hb'] at hp'
      simp only [record, hb, hb']
      rw [plain_refuse]
      simp [plain, Host.plain, hp', hp]
    · rw [hb'] at hp'
      simp only [record, hb, hb']
      rw [plain_emit _ rfl, plain_announce]
      simp [plain, Host.plain, hp', hp]

/-! ### A drain beyond the clock -/

/-- The drain of the recording ends beyond the clock. -/
def isOverdrawn : Bool := s.drainDeadline.any (s.horizon ≤ ·)

lemma horizon_of_plain {s t : Studio} (h : t.plain = s.plain) : t.horizon = s.horizon := by
  have hh : t.plain.horizon = s.plain.horizon := by rw [h]
  exact hh

lemma isOverdrawn_of_drainDeadline {s t : Studio} (hh : t.horizon = s.horizon)
    (h : t.drainDeadline = s.drainDeadline ∨ t.drainDeadline = none)
    (ht : t.isOverdrawn = true) : s.isOverdrawn = true := by
  rw [isOverdrawn, hh] at ht
  rcases h with h | h
  · rwa [isOverdrawn, ← h]
  · rw [h] at ht
    cases ht

/-- `t` is not to be told from `s`, and no drain beyond the clock has begun on the way. -/
def Quiet (s t : Studio) : Prop :=
  t.plain = s.plain ∧ (t.isOverdrawn = true → s.isOverdrawn = true)

/-- On the way from `s` to `t` a drain beyond the clock has begun; that is all that is to
be seen. -/
def Breaks (s t : Studio) : Prop :=
  t.isOverdrawn = true ∧ t.plain = s.plain.onHost (Host.put · (.excess .instant))

lemma Quiet.refl : s.Quiet s := ⟨rfl, id⟩

lemma drainDeadline_record (graph : Graph) (path : String) :
    (s.record graph path).1.drainDeadline = s.drainDeadline ∨
      (s.record graph path).1.drainDeadline = none := by
  rw [record]
  split
  · exact .inl rfl
  · split
    · exact .inl rfl
    · refine .inr ?_
      rw [drainDeadline, emit_session, announce_session]
      rfl

lemma quiet_refuse (e : BranchError) : s.Quiet (s.refuse e).1 := ⟨s.plain_refuse e, id⟩

lemma quiet_refuseDisarmed : s.Quiet s.refuseDisarmed.1 := ⟨s.plain_emit rfl, id⟩

lemma quiet_record (graph : Graph) (path : String) : s.Quiet (s.record graph path).1 :=
  have hp := s.plain_record graph path
  ⟨hp, isOverdrawn_of_drainDeadline (horizon_of_plain hp) (s.drainDeadline_record graph path)⟩

lemma quiet_startOn (graph : Graph) : s.Quiet (s.startOn graph).1 := by
  rw [startOn]
  split
  · exact s.quiet_refuse _
  · exact s.quiet_record graph _

/-- Nothing is to be seen when a recording begins. -/
lemma quiet_start (graph : Option Graph) : s.Quiet (s.start graph).1 := by
  simp only [start]
  split
  case h_5 =>
    split
    · split
      · exact s.quiet_startOn _
      · exact s.quiet_refuseDisarmed
    · exact s.quiet_refuseDisarmed
  all_goals exact .refl s

/-- Nothing is to be seen when a recording ends. -/
lemma quiet_detach (graph : Option Graph) (reason : String) :
    s.Quiet (s.detach graph reason) := by
  have hp := s.plain_detach graph reason
  refine ⟨hp, isOverdrawn_of_drainDeadline (horizon_of_plain hp) (.inr ?_)⟩
  rw [drainDeadline, detach_session]
  rfl

/-- A drain is to be seen only when it ends beyond the clock. -/
lemma drain_quiet_or_breaks (session : Session) :
    s.Quiet (s.drain session) ∨ s.Breaks (s.drain session) := by
  have hd : (s.drain session).isOverdrawn =
      decide ((s.drain session).plain.horizon ≤ s.now + s.drainGrace) := rfl
  have hp : (s.drain session).plain
      = s.plain.onHost (Host.schedule · (some (s.now + s.drainGrace))) := by
    rw [drain, plain_emit _ rfl]
    exact congrArg (fun h : Host => { s.plain with toHost := h }) (Host.plain_schedule _ _)
  rcases s.plain.schedule_cases (some (s.now + s.drainGrace)) with ⟨hx, hs⟩ | ⟨hx, hs⟩ <;>
    rw [onHost, hs] at hp <;> rw [hp] at hd
  · refine .inl ⟨hp, fun h => ?_⟩
    rw [hd] at h
    exact absurd (of_decide_eq_true h) (Nat.not_le.2 (hx _ rfl))
  · obtain ⟨_, ⟨⟩, hle⟩ := hx
    exact .inr ⟨hd.trans (decide_eq_true hle), hp⟩

lemma stop_quiet_or_breaks (graph : Option Graph) :
    s.Quiet (s.stop graph).1 ∨ s.Breaks (s.stop graph).1 := by
  rw [stop]
  split
  · exact .inl (.refl s)
  · split
    · split
      · exact s.drain_quiet_or_breaks _
      · exact .inl (s.quiet_detach none _)
    · exact .inl (.refl s)

/-- **A request to the recorder is not to be seen**, unless it begins a drain beyond the
clock. -/
theorem toggle_quiet_or_breaks (on : Bool) (graph : Option Graph) :
    s.Quiet (s.toggle on graph).1 ∨ s.Breaks (s.toggle on graph).1 := by
  cases on with
  | true => exact .inl (s.quiet_start graph)
  | false => exact s.stop_quiet_or_breaks graph

end Studio

end StreamWarden
