import StreamWarden.Proofs.Ledger
import StreamWarden.Proofs.Takes

/-!
# The life of a recording session

Every session has its number, under which a branch was asked for; it is told in a take of
its own, which is over before the next one begins; and while it drains nothing changes it
until it ends.

* `Enters`, `Asks`: branches are asked for under the next number.
* `Taken`: the takes of a run and what the supervisor holds; `Move.taken`: every move is an
  episode.
* `Succeeds`: a session stays as it is, but for its drain, until another one follows;
  `Since`: one that drains stays wholly as it is.
* **`sessions_of_run`**: the life of the sessions of a run.
-/

namespace StreamWarden

/-! ### Branches are asked for by number -/

/-- The session for which a branch was asked for. -/
def Deed.session? : Deed → Option Nat
  | .attached session _ | .attachRefused session => some session
  | _ => none

namespace Backend

/-- From one backend to another, branches were asked for these sessions, the newest first. -/
def Enters (b b' : Backend) (ns : List Nat) : Prop :=
  ∃ ds, b'.ledger = ds ++ b.ledger ∧ ds.filterMap Deed.session? = ns

variable {b b' b'' : Backend} {ns : List Nat}

namespace Enters

lemma refl (b : Backend) : Enters b b [] := ⟨[], rfl, rfl⟩

lemma one {d : Deed} (h : b'.ledger = d :: b.ledger) : Enters b b' d.session?.toList :=
  ⟨[d], h, by cases hd : d.session? <;> simp [hd]⟩

/-- Something else is done after a branch was asked for. -/
lemma trans (h : Enters b b' ns) (h' : Enters b' b'' []) : Enters b b'' ns := by
  obtain ⟨ds, hd, rfl⟩ := h
  obtain ⟨ds', hd', hn⟩ := h'
  exact ⟨ds' ++ ds, by rw [hd', hd, List.append_assoc], by rw [List.filterMap_append, hn]; rfl⟩

lemma sessions (h : Enters b b' ns) : b'.ledger.filterMap Deed.session? =
    ns ++ b.ledger.filterMap Deed.session? := by
  obtain ⟨ds, hd, rfl⟩ := h
  rw [hd, List.filterMap_append]

lemma mem (h : Enters b b' ns) {d : Deed} (hd : d ∈ b.ledger) : d ∈ b'.ledger := by
  obtain ⟨ds, hl, -⟩ := h
  rw [hl]
  exact List.mem_append_right _ hd

/-- Another script changes nothing that was done. -/
lemma of_ledger (h : b'.ledger = b.ledger) : Enters b b' [] := ⟨[], h, rfl⟩

end Enters

lemma enters_attach (b : Backend) (g : Graph) (spec : BranchSpec) :
    Enters b (b.attach g spec).1 [spec.session] := by
  rcases h : b.attach g spec with ⟨b', e | branch⟩
  · obtain ⟨rest, rfl⟩ := of_attach_error h
    exact .one (d := .attachRefused spec.session) rfl
  · obtain ⟨-, rfl⟩ := of_attach_ok h
    exact .one (d := .attached spec.session branch.attachPoint) rfl

lemma enters_activate (b : Backend) : Enters b b.activate.1 [] := by
  rw [activate]
  split
  · exact .one (d := .activateRefused) rfl
  · exact .one (d := .activated) rfl

lemma enters_detach (b : Backend) (branch : Branch) : Enters b (b.detach branch) [] :=
  .one (d := .detached branch.attachPoint) rfl

lemma enters_teardown (b : Backend) (g : Graph) : Enters b (b.teardown g) [] :=
  .one (d := .toreDown g.generation) rfl

lemma enters_build (b : Backend) (profile : Profile) (context : GraphContext) :
    Enters b (b.build profile context).1 [] := by
  rw [build]
  split
  · exact .one (d := .buildRefused context.generation) rfl
  · exact .one (d := .built context.generation) rfl

lemma enters_setState (b : Backend) (g : Graph) (state : GraphState) :
    Enters b (b.setState g state).1 [] := by
  unfold setState
  split
  · exact .one (d := .playRefused g.generation) rfl
  · exact .one (d := .driven g.generation _) rfl

lemma enters_raise (b : Backend) (profile : Profile) (context : GraphContext) :
    Enters b (b.raise profile context).1 [] := by
  have h := b.enters_build profile context
  rw [raise]
  split
  case h_1 hb =>
    rw [hb] at h
    exact h
  case h_2 b' graph hb =>
    rw [hb] at h
    have h' := b'.enters_setState graph .playing
    split
    case h_1 hs =>
      rw [hs] at h'
      exact h.trans h'
    case h_2 hs =>
      rw [hs] at h'
      exact (h.trans h').trans (enters_teardown _ _)

/-- A branch that was attached is on the ledger. -/
lemma attached_mem {g : Graph} {spec : BranchSpec} {branch : Branch}
    (h : b.attach g spec = (b', .ok branch)) :
    .attached spec.session branch.attachPoint ∈ b'.ledger := by
  obtain ⟨-, rfl⟩ := of_attach_ok h
  exact List.mem_cons_self

end Backend

namespace Studio

/-- From one studio to another, branches were asked for these sessions, each under the next
number, and the grace is as before. -/
structure Asks (s t : Studio) (ns : List Nat) : Prop where
  grace : t.drainGrace = s.drainGrace
  backend : s.backend.Enters t.backend ns
  started : t.sessionsStarted = s.sessionsStarted + ns.length
  next : ns = [] ∨ ns = [s.sessionsStarted + 1]

lemma enters_freed (s : Studio) (graph : Option Graph) : s.backend.Enters (s.freed graph) [] := by
  rw [freed]
  split
  · split
    · exact s.backend.enters_detach _
    · exact .refl _
  · exact .refl _

/-- The recorder asks for a branch under the next number, if at all. -/
lemma Act.asks {graph : Option Graph} {now : Nat} {s t : Studio} {es : List Event}
    (h : Act graph now s es t) : ∃ ns, Asks s t ns := by
  have attach : ∀ {g : Graph} {path : String} {b : Backend} {r : Except BranchError Branch},
      s.backend.attach g { session := s.sessionsStarted + 1, location := path } = (b, r) →
        s.backend.Enters b [s.sessionsStarted + 1] := by
    intro g path b r hb
    have he := s.backend.enters_attach g { session := s.sessionsStarted + 1, location := path }
    rwa [hb] at he
  have activate : ∀ {b b' : Backend} {r : Except BranchError Unit}, b.activate = (b', r) →
      b.Enters b' [] := by
    intro b b' r hb
    have he := b.enters_activate
    rwa [hb] at he
  cases h with
  | remark _ h =>
      obtain ⟨files, outs, rfl, -⟩ := h
      exact ⟨[], rfl, .refl _, rfl, .inl rfl⟩
  | refuse _ _ _ hb h =>
      obtain ⟨files, outs, rfl, -⟩ := h
      exact ⟨_, rfl, attach hb, rfl, .inr rfl⟩
  | giveBack _ _ _ hb hb' h =>
      obtain ⟨files, outs, rfl, -⟩ := h
      exact ⟨_, rfl, ((attach hb).trans (activate hb')).trans (Backend.enters_detach _ _), rfl,
        .inr rfl⟩
  | begin _ _ _ hb hb' _ h =>
      obtain ⟨files, outs, rfl, -⟩ := h
      exact ⟨_, rfl, (attach hb).trans (activate hb'), rfl, .inr rfl⟩
  | drain _ _ _ h =>
      obtain ⟨files, outs, rfl, -⟩ := h
      exact ⟨[], rfl, .one (d := .drained) rfl, rfl, .inl rfl⟩
  | fail _ h | finish _ _ h =>
      obtain ⟨files, outs, rfl, -⟩ := h
      exact ⟨[], rfl, s.enters_freed graph, rfl, .inl rfl⟩

end Studio

namespace Supervisor

open State

variable {s t : State} {es : List Event}

lemma enters_cleared (s : State) : s.backend.Enters s.cleared [] := by
  rw [cleared]
  split
  · exact s.enters_freed none
  · exact (s.enters_freed _).trans (Backend.enters_teardown _ _)

/-- **Every move asks for a branch under the next number**, if at all. -/
theorem Move.asks (h : Move s es t) : ∃ ns, Studio.Asks s.toStudio t.toStudio ns := by
  cases h with
  | remark _ h | look _ h | leave _ h =>
      obtain ⟨files, outs, rfl, -⟩ := h
      exact ⟨[], rfl, .refl _, rfl, .inl rfl⟩
  | record h => exact h.asks
  | launch _ _ ha h | miss _ _ ha h =>
      obtain ⟨files, outs, rfl, -⟩ := h
      have he := s.backend.enters_raise s.profile ⟨s.generation + 1, s.probes.length⟩
      rw [answerOf] at ha
      rw [ha] at he
      exact ⟨[], rfl, he, rfl, .inl rfl⟩
  | restart _ h | stop _ h =>
      obtain ⟨files, outs, rfl, -⟩ := h
      exact ⟨[], rfl, enters_cleared s, rfl, .inl rfl⟩
  | frame | script => exact ⟨[], rfl, .of_ledger rfl, rfl, .inl rfl⟩

/-- No run changes the grace. -/
lemma run_drainGrace (u : Setup) (xs : List Stimulus) :
    (u.begin.run xs).drainGrace = u.settings.drainGrace := by
  refine run_keeps (P := fun s => s.drainGrace = u.settings.drainGrace) ?_ (fun _ h => h) u rfl xs
  intro s t es _ hg h
  obtain ⟨ns, ha⟩ := h.asks
  exact ha.grace.trans hg

/-! ### The takes of a run -/

/-- **The takes of a run and what the supervisor holds**: the session is the one that goes on,
branches were asked for under one number after the other, and those of the takes were
attached. -/
structure Taken (c : List (Nat × Event)) (ks : List Take) (s : State) : Prop where
  story : Story s.drainGrace c ks
  session : s.session = onAir s.drainGrace ks
  numbers : s.backend.ledger.filterMap Deed.session? = (List.range' 1 s.sessionsStarted).reverse
  known : ∀ x ∈ ks.map Take.session, x.id ≤ s.sessionsStarted ∧
    .attached x.id x.branch.attachPoint ∈ s.backend.ledger

namespace Taken

variable {c : List (Nat × Event)} {ks ls : List Take}

/-- An episode of the supervisor. -/
lemma more (hk : Taken c ks s) {ns : List Nat} (ha : Studio.Asks s.toStudio t.toStudio ns)
    (he : Episode s.drainGrace s.now ks es ls) (hs : t.session = onAir s.drainGrace ls)
    (hn : ∀ x ∈ ls.map Take.session, x ∈ ks.map Take.session ∨
      x.id ≤ t.sessionsStarted ∧ .attached x.id x.branch.attachPoint ∈ t.backend.ledger) :
    Taken (c ++ es.map (s.now, ·)) ls t where
  story := by
    rw [ha.grace]
    exact .more hk.story he
  session := by rw [ha.grace, hs]
  numbers := by
    rw [ha.backend.sessions, hk.numbers, ha.started]
    rcases ha.next with rfl | rfl
    · rfl
    · rw [List.length_singleton, List.range'_1_concat, List.reverse_append, Nat.add_comm 1]
      rfl
  known x hx := by
    rcases hn x hx with hx | hx
    · obtain ⟨hi, hm⟩ := hk.known x hx
      exact ⟨by rw [ha.started]; exact hi.trans (Nat.le_add_right _ _), ha.backend.mem hm⟩
    · exact hx

/-- An episode in which no session begins. -/
lemma go (hk : Taken c ks s) {ns : List Nat} (ha : Studio.Asks s.toStudio t.toStudio ns)
    (he : Episode s.drainGrace s.now ks es ls) (hs : t.session = onAir s.drainGrace ls)
    (hn : ls.map Take.session = ks.map Take.session) :
    Taken (c ++ es.map (s.now, ·)) ls t :=
  hk.more ha he hs fun _ hx => .inl (hn ▸ hx)

/-- Nothing is told of a session. -/
lemma still (hk : Taken c ks s) {ns : List Nat} (ha : Studio.Asks s.toStudio t.toStudio ns)
    (hs : t.session = s.session)
    (hes : ∀ e ∈ es, e.isRecording = false ∧ e.cutsShort = false) :
    Taken (c ++ es.map (s.now, ·)) ks t :=
  hk.go ha (.still (fun e he => (hes e he).1) fun _ e he => (hes e he).2) (hs.trans hk.session)
    rfl

/-- A session that goes on is cut short. -/
lemma cut (hk : Taken c ks s) {session : Session} (hs : s.session = some session)
    (pre post : List Event) (hc : ∃ e ∈ pre, e.cutsShort = true)
    (hpre : ∀ e ∈ pre, e.isRecording = false) (hpost : ∀ e ∈ post, e.isRecording = false) :
    ∃ ls, Episode s.drainGrace s.now ks (pre ++ .ended session "forced" :: post) ls ∧
      onAir s.drainGrace ls = none ∧ ls.map Take.session = ks.map Take.session := by
  obtain ⟨begun, since?, ls, rfl, rfl⟩ := exists_of_onAir (hk.session.symm.trans hs)
  exact ⟨_, .forced hc hpre hpost, rfl, rfl⟩

/-- A teardown cuts the session short, if there is one. -/
lemma parting (hk : Taken c ks s) (pre post : List Event) (hc : ∃ e ∈ pre, e.cutsShort = true)
    (hpre : ∀ e ∈ pre, e.isRecording = false) (hpost : ∀ e ∈ post, e.isRecording = false) :
    ∃ ls, Episode s.drainGrace s.now ks (pre ++ (s.parting ++ post)) ls ∧
      onAir s.drainGrace ls = none ∧ ls.map Take.session = ks.map Take.session := by
  have hg : ∀ e ∈ s.graph.toList.map (fun _ => Event.tornDown s.generation) ++ post,
      e.isRecording = false := by
    intro e he
    rcases List.mem_append.1 he with he | he
    · obtain ⟨_, -, rfl⟩ := List.mem_map.1 he
      rfl
    · exact hpost e he
  rw [State.parting, Studio.lastWords]
  cases hx : s.session with
  | none =>
      have ho := hk.session.symm.trans hx
      refine ⟨ks, .still ?_ ?_, ho, rfl⟩
      · simpa [or_imp, forall_and] using ⟨hpre, by simpa [or_imp, forall_and] using hg⟩
      · simp [ho]
  | some session => exact hk.cut hx pre _ hc hpre hg

/-- The session has one of the numbers so far. -/
lemma le_sessionsStarted (hk : Taken c ks s) {session : Session} (hs : s.session = some session) :
    session.id ≤ s.sessionsStarted := by
  obtain ⟨begun, since?, ls, rfl, rfl⟩ := exists_of_onAir (hk.session.symm.trans hs)
  exact (hk.known begun List.mem_cons_self).1

end Taken

/-- What the recorder does is an episode. -/
lemma taken_act {c : List (Nat × Event)} {ks : List Take} (hs : Settled s) (hk : Taken c ks s)
    {a : Studio} (h : Studio.Act s.graph s.now s.toStudio es a) :
    ∃ ls, Taken (c ++ es.map (s.now, ·)) ls (s.onStudio fun _ => a) := by
  obtain ⟨ns, ha⟩ := h.asks
  cases h with
  | remark hes h =>
      obtain ⟨files, outs, rfl, -⟩ := h
      refine ⟨ks, hk.still ha rfl fun e he => ?_⟩
      have hr := hes e he
      simp [Event.isRecording, Event.cutsShort, Event.isTransitionTo, hr]
  | refuse _ _ _ _ h | giveBack _ _ _ _ _ h =>
      obtain ⟨files, outs, rfl, -⟩ := h
      exact ⟨ks, hk.still ha rfl (List.forall_mem_singleton.2 ⟨rfl, rfl⟩)⟩
  | @begin _ _ path _ _ _ session _ _ hn hb hb' hx h =>
      obtain ⟨files, outs, rfl, -⟩ := h
      have hid : session.id = s.sessionsStarted + 1 := by rw [hx]
      have hlt : ∀ k ∈ ks, k.session.id < session.id := fun k hm => by
        rw [hid]
        exact Nat.lt_succ_of_le (hk.known _ (List.mem_map_of_mem hm)).1
      refine ⟨{ session } :: ks, hk.more ha (.begin hlt (hk.session.symm.trans hn)) ?_ ?_⟩
      · rw [hx]
        rfl
      · intro x hm
        rcases List.mem_cons.1 hm with rfl | hm
        · have hm := (Backend.enters_activate _).mem (Backend.attached_mem hb)
          rw [hb'] at hm
          exact .inr ⟨hid.le, by rw [hx]; exact hm⟩
        · exact .inl hm
  | drain _ hx hact h =>
      obtain ⟨files, outs, rfl, -⟩ := h
      obtain ⟨begun, since?, ls, rfl, rfl⟩ := exists_of_onAir (hk.session.symm.trans hx)
      cases since? with
      | none => exact ⟨_, hk.go ha .drain rfl rfl⟩
      | some => cases hact
  | fail hx h =>
      obtain ⟨files, outs, rfl, -⟩ := h
      obtain ⟨ls, he, ho, hl⟩ := hk.cut hx [.failed _ _] []
        ⟨_, List.mem_singleton_self _, rfl⟩ (List.forall_mem_singleton.2 rfl)
        (List.forall_mem_nil _)
      exact ⟨ls, hk.go ha he ho.symm hl⟩
  | finish hx hr h =>
      obtain ⟨files, outs, rfl, -⟩ := h
      rcases hr with ⟨-, hg⟩ | ⟨rfl, hd⟩
      · have hp := hs.graph.2 (hs.session (by rw [hx]; rfl))
        rw [hg] at hp
        cases hp
      · obtain ⟨begun, since?, ls, rfl, rfl⟩ := exists_of_onAir (hk.session.symm.trans hx)
        rw [Studio.isDrained, Studio.drainDeadline, hx] at hd
        cases since? with
        | none => cases hd
        | some since => exact ⟨_, hk.go ha (.drained (of_decide_eq_true hd)) rfl rfl⟩

/-- **Every move is an episode.** -/
theorem Move.taken {c : List (Nat × Event)} {ks : List Take} (h : Move s es t) (hs : Settled s)
    (hk : Taken c ks s) : ∃ ls, Taken (c ++ es.map (s.now, ·)) ls t := by
  obtain ⟨ns, ha⟩ := h.asks
  cases h with
  | remark hes h =>
      obtain ⟨files, outs, rfl, -⟩ := h
      exact ⟨ks, hk.still ha rfl fun e he => Event.quiet_of_isRemark (hes e he)⟩
  | record h => exact taken_act hs hk h
  | look _ h | leave _ h =>
      obtain ⟨files, outs, rfl, -⟩ := h
      exact ⟨ks, hk.still ha rfl (List.forall_mem_nil _)⟩
  | frame | script => exact ⟨ks, hk.still ha rfl (List.forall_mem_nil _)⟩
  | launch _ _ _ h | miss _ _ _ h =>
      obtain ⟨files, outs, rfl, -⟩ := h
      refine ⟨ks, hk.still ha rfl (List.forall_mem_cons.2 ⟨⟨?_, ?_⟩, fun e he => ?_⟩)⟩
      · exact Event.isRecording_change _ _ _
      · exact Event.cutsShort_change _ _ _
      · simp only [List.mem_cons, List.not_mem_nil, or_false] at he
        rcases he with rfl | he
        · exact ⟨rfl, rfl⟩
        · rcases he with rfl | rfl <;> exact ⟨rfl, rfl⟩
  | restart _ h =>
      obtain ⟨files, outs, rfl, -⟩ := h
      obtain ⟨ls, he, ho, hl⟩ := hk.parting
        [.restarting _ _, .change .running .restarting (.restart _)] []
        ⟨_, List.mem_cons_self, rfl⟩
        (List.forall_mem_cons.2 ⟨rfl, List.forall_mem_singleton.2 rfl⟩) (List.forall_mem_nil _)
      exact ⟨ls, hk.go ha (by simpa using he) ho.symm hl⟩
  | stop _ h =>
      obtain ⟨files, outs, rfl, -⟩ := h
      obtain ⟨ls, he, ho, hl⟩ := hk.parting [.change s.phase .stopping .stop]
        [.change .stopping .stopped .teardownDone] ⟨_, List.mem_singleton_self _, rfl⟩
        (List.forall_mem_singleton.2 rfl) (List.forall_mem_singleton.2 rfl)
      exact ⟨ls, hk.go ha (by simpa using he) ho.symm hl⟩

lemma taken_begin (u : Setup) : Taken [] [] u.begin := ⟨.blank, rfl, rfl, nofun⟩

/-- **Every run has its takes.** -/
theorem run_taken (u : Setup) (xs : List Stimulus) :
    ∃ ks, Taken (u.begin.chronicle xs) ks (u.begin.run xs) := by
  refine chronicle_keeps (P := fun c s => ∃ ks, Taken c ks s) ?_ ?_ u ⟨[], taken_begin u⟩ xs
  · rintro c s t es hs ⟨ks, hk⟩ h
    exact h.taken hs hk
  · rintro c s span ⟨ks, hk⟩
    exact ⟨ks, hk.story, hk.session, hk.numbers, hk.known⟩

/-! ### Drains -/

/-- While a session drains, a toggle leaves all as it is. -/
lemma toggle_of_draining {a : Studio} (hd : a.recordingState = .draining) (on : Bool)
    (graph : Option Graph) : (a.toggle on graph).1 = a := by
  cases on with
  | true => simp [Studio.toggle, Studio.start, hd]
  | false =>
      cases hs : a.session with
      | none => simp [Studio.toggle, Studio.stop, hs]
      | some session =>
          have hn : session.state ≠ .active := by
            have hr : session.state = .draining := by simpa [Studio.recordingState, hs] using hd
            rw [hr]
            decide
          simp [Studio.toggle, Studio.stop, hs, hn]

/-- The session is still one of which `P` holds, or those with the numbers up to `n` are over
for good. -/
def Succeeds (P : Session → Prop) (n : Nat) (s : State) : Prop :=
  n ≤ s.sessionsStarted ∧ ∀ x, s.session = some x → P x ∨ n < x.id

section Succeeds

variable {P : Session → Prop} {n : Nat}

lemma succeeds_act
    (hd : ∀ x deadline, x.state = .active → P x →
      P { x with state := .draining, drainDeadline := some deadline })
    (hk : Succeeds P n s) {a : Studio} (h : Studio.Act s.graph s.now s.toStudio es a) :
    Succeeds P n (s.onStudio fun _ => a) := by
  obtain ⟨hi, hx⟩ := hk
  cases h with
  | remark _ h =>
      obtain ⟨files, outs, rfl, -⟩ := h
      exact ⟨hi, hx⟩
  | refuse _ _ _ _ h | giveBack _ _ _ _ _ h =>
      obtain ⟨files, outs, rfl, -⟩ := h
      exact ⟨hi.trans (Nat.le_succ _), hx⟩
  | begin _ _ _ _ _ hn h =>
      obtain ⟨files, outs, rfl, -⟩ := h
      refine ⟨hi.trans (Nat.le_succ _), ?_⟩
      rintro _ ⟨⟩
      right
      rw [hn]
      exact Nat.lt_succ_of_le hi
  | drain _ hs ha h =>
      obtain ⟨files, outs, rfl, -⟩ := h
      refine ⟨hi, ?_⟩
      rintro _ ⟨⟩
      exact (hx _ hs).imp (hd _ _ ha) id
  | fail _ h | finish _ _ h =>
      obtain ⟨files, outs, rfl, -⟩ := h
      exact ⟨hi, nofun⟩

/-- **A session keeps what a drain leaves as it is, until it is over**, and the next one has
another number. -/
theorem Move.succeeds
    (hd : ∀ x deadline, x.state = .active → P x →
      P { x with state := .draining, drainDeadline := some deadline })
    (hk : Succeeds P n s) (h : Move s es t) : Succeeds P n t := by
  cases h with
  | remark _ h | look _ h | launch _ _ _ h | miss _ _ _ h | leave _ h =>
      obtain ⟨files, outs, rfl, -⟩ := h
      exact hk
  | record h => exact succeeds_act hd hk h
  | restart _ h | stop _ h =>
      obtain ⟨files, outs, rfl, -⟩ := h
      exact ⟨hk.1, nofun⟩
  | frame | script => exact hk

lemma run_succeeds
    (hd : ∀ x deadline, x.state = .active → P x →
      P { x with state := .draining, drainDeadline := some deadline })
    (hs : Settled s) (hk : Succeeds P n s) (ys : List Stimulus) : Succeeds P n (s.run ys) := by
  refine (run_invariant (P := fun s => Settled s ∧ Succeeds P n s) ?_ ⟨hs, hk⟩ ys).2
  intro s x hk
  exact ⟨settled_react hk.1 x, react_keeps (P := Succeeds P n) (fun _ hk h => h.succeeds hd hk)
    (fun _ hk => hk) hk.1 hk.2 x⟩

end Succeeds

/-- The session is as it was, or is over for good. -/
def Since (session : Session) (s : State) : Prop :=
  session.id ≤ s.sessionsStarted ∧
    ∀ x, s.session = some x → x = session ∨ session.id < x.id

/-- **A session that drains stays as it is until it is over.** -/
lemma run_since {session : Session} (hs : Settled s) (hd : session.state = .draining)
    (hk : Since session s) (ys : List Stimulus) : Since session (s.run ys) := by
  refine run_succeeds (P := (· = session)) ?_ hs hk ys
  rintro x deadline ha rfl
  rw [hd] at ha
  cases ha

/-- A request to toggle leaves a session that drains as it is. -/
lemma session_toggles {session : Session} (hs : s.session = some session)
    (hd : session.state = .draining) {ys : List Stimulus}
    (hy : ∀ y ∈ ys, y = .request .toggleRecording) : (s.run ys).session = some session := by
  refine List.foldlRecOn ys State.react (motive := fun s => s.session = some session) hs ?_
  intro s hs y hm
  rw [hy y hm, State.react]
  split
  · exact hs
  · have hr : (s.emit (.asked "toggle_recording")).toStudio.recordingState = .draining := by
      have hs' : (s.emit (.asked "toggle_recording")).session = some session := hs
      rw [Studio.recordingState, hs']
      exact hd
    exact (congrArg (·.session) (toggle_of_draining hr _ _)).trans hs

/-! ### All together -/

/-- **The life of the recording sessions of a run.**  Branches are asked for under growing
numbers, whatever graph they are for.  What is told of recordings is told in one take after
the other, each of a session of its own, with the number under which its branch was attached:
that it begins, at most once that it drains, and once that it has ended.  Only the last
take may go on, and then its session is the one that there is.  A session that has ended was
drained if its drain began at least the grace before and neither a restart nor a stop nor a
failure of its branch has come in between, and was forced to its end otherwise.  While a
session drains, a toggle of either kind leaves all as it is, no number of requests to toggle
changes the session, and whatever else happens, the session stays as it is until it is over
for good. -/
theorem sessions_of_run (u : Setup) (xs : List Stimulus) :
    let s := u.begin.run xs
    let c := u.begin.chronicle xs
    let grace := u.settings.drainGrace
    (s.backend.ledger.reverse.filterMap Deed.session?).Pairwise (· < ·) ∧
      c.map Prod.snd = s.events ∧
      (∃ ks : List Take,
        s.events.filter Event.isRecording = ks.flatMap Take.events ∧
          ks.Pairwise (fun k l => k.session.id < l.session.id) ∧
          (∀ k ∈ ks,
            .attached k.session.id k.session.branch.attachPoint ∈ s.backend.ledger) ∧
          (∀ k ∈ ks.dropLast, k.reason?.isSome = true) ∧
          s.session = ks.getLast?.bind (·.session? grace)) ∧
      (∀ pre t e post, c = pre ++ (t, e) :: post → e.kind = .recordingStopped →
        e.reason? = some "drained" ∧ DrainedBy grace pre t ∨
          e.reason? = some "forced" ∧ ¬DrainedBy grace pre t) ∧
      ∀ session, s.session = some session → session.state = .draining →
        (∀ on graph, (s.toStudio.toggle on graph).1 = s.toStudio) ∧
          (∀ ys : List Stimulus, (∀ y ∈ ys, y = .request .toggleRecording) →
            (s.run ys).session = some session) ∧
          ∀ ys x, (s.run ys).session = some x → x.id = session.id → x = session := by
  intro s c grace
  obtain ⟨ks, hk⟩ := run_taken u xs
  have hg : s.drainGrace = grace := run_drainGrace u xs
  have he : c.map Prod.snd = s.events := map_snd_chronicle u xs
  refine ⟨?_, he, ⟨ks.reverse, he ▸ hk.story.events, ?_, ?_, ?_, ?_⟩, ?_, ?_⟩
  · rw [List.filterMap_reverse, hk.numbers, List.reverse_reverse]
    exact List.pairwise_lt_range'
  · exact List.pairwise_reverse.2 hk.story.sorted
  · intro k hm
    exact (hk.known _ (List.mem_map_of_mem (List.mem_reverse.1 hm))).2
  · intro k hm
    rw [List.dropLast_reverse, List.mem_reverse] at hm
    exact hk.story.ended k hm
  · rw [List.getLast?_reverse, ← hg]
    exact hk.session
  · intro pre t e post hc he
    rw [← hg]
    exact hk.story.verdict hc he
  · intro session hs hd
    have hr : s.toStudio.recordingState = .draining := by
      rw [Studio.recordingState, hs]
      exact hd
    refine ⟨toggle_of_draining hr, fun ys hy => session_toggles hs hd hy, fun ys x hx hi => ?_⟩
    obtain ⟨-, h⟩ := run_since (run_settled u xs) hd
      ⟨hk.le_sessionsStarted hs, fun y hy => .inl (Option.some.inj (hy.symm.trans hs))⟩ ys
    exact (h x hx).resolve_right fun hl => hl.ne' hi

end Supervisor

end StreamWarden
