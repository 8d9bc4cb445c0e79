import StreamWarden.Proofs.Flag
import StreamWarden.Proofs.Ledger

/-!
# The recorder by itself

A recorder can be asked for anything at any time: to start and to stop, to end a session
whose drain is over, to force one to its end, to react to a failure of its branch, with a
graph or without one.  Meanwhile time passes, the storage comes and goes, and the backend
refuses what it likes.  After each operation its pieces agree: the session, the flag in the
status region, the indicator, the deadline of the drain, and the branch on the graph.

* `Operation`, `perform`, `performAll`: what can happen to a recorder.
* `Dated`: a session has a deadline exactly while it drains.
* `drives`, `driven`: the levels to which the indicator is driven; `drives_eq` says that an
  operation drives it when a session begins or ends, and only then.
* `Holds`: what the recorder has on a graph.
* **`recorder_of_operations`**: the pieces after any operations.
-/

namespace StreamWarden

namespace Studio

/-! ### Operations -/

/-- What can happen to a recorder: an operation, with the graph that is handed to it or
without one, or something that its surroundings do. -/
inductive Operation where
  | arm
  | disarm
  | toggle (on : Bool) (graph : Option Graph)
  | finishDrain (now : Nat) (graph : Option Graph)
  | forceStop (graph : Option Graph)
  | branchError (stage message : String) (graph : Option Graph)
  /-- Time passes. -/
  | pass (span : Nat)
  /-- The files become others. -/
  | files (tree : Files.Tree)
  /-- From now on these calls of the backend are refused. -/
  | refusals (attaches activations : List BranchError)

/-- The operation is given this graph, if it is given any at all. -/
def Operation.IsOn (g : Graph) : Operation → Prop
  | .toggle _ graph | .finishDrain _ graph | .forceStop graph | .branchError _ _ graph =>
    graph = some g
  | .arm | .disarm | .pass _ | .files _ | .refusals _ _ => True

/-- A studio after an operation. -/
def perform (s : Studio) : Operation → Studio
  | .arm => s.arm
  | .disarm => s.disarm
  | .toggle on graph => (s.toggle on graph).1
  | .finishDrain now graph => s.finishDrain now graph
  | .forceStop graph => s.forceStop graph
  | .branchError stage message graph => s.branchError stage message graph
  | .pass span => { s with now := s.now + span }
  | .files tree => { s with files := tree }
  | .refusals attaches activations =>
    { s with backend := { s.backend with
        attachRefusals := attaches
        activateRefusals := activations } }

/-- A studio after some operations. -/
def performAll (s : Studio) (xs : List Operation) : Studio := xs.foldl perform s

lemma performAll_concat (s : Studio) (xs : List Operation) (x : Operation) :
    s.performAll (xs ++ [x]) = (s.performAll xs).perform x := by
  simp [performAll]

/-- To end a session whose drain is over is to detach it or to do nothing. -/
lemma finishDrain_cases (s : Studio) (now : Nat) (graph : Option Graph) :
    s.finishDrain now graph = s.detach graph "drained" ∨ s.finishDrain now graph = s := by
  rw [finishDrain]
  split
  · exact .inl rfl
  · exact .inr rfl

/-! ### The flag -/

variable {r : Region} {s : Studio}

/-- Nobody else writes the first word of the region. -/
def Unwritten (r : Region) : Studio → List Operation → Prop
  | _, [] => True
  | s, x :: xs => (∀ tree, x = .files tree → s.Allows r tree) ∧ (s.perform x).Unwritten r xs

namespace Shown

/-- **Every operation keeps the flag true.** -/
lemma perform (h : Shown r s) {x : Operation} (hx : ∀ tree, x = .files tree → s.Allows r tree) :
    Shown r (s.perform x) := by
  cases x with
  | arm | disarm | pass | refusals => exact h.of_eq rfl rfl rfl rfl
  | toggle on graph => exact Outward.toggle h on graph
  | finishDrain now graph =>
      rcases s.finishDrain_cases now graph with hd | hd <;> rw [Studio.perform, hd]
      · exact Outward.detach h graph _
      · exact h
  | forceStop graph => exact Outward.detach h graph _
  | branchError stage message graph =>
      have he : Shown r (s.emit (.failed stage message)) := h.of_eq rfl rfl rfl rfl
      exact Outward.detach he graph _
  | files tree => exact h.files (hx tree rfl)

lemma performAll (h : Shown r s) {xs : List Operation} (hx : s.Unwritten r xs) :
    Shown r (s.performAll xs) := by
  induction xs generalizing s with
  | nil => exact h
  | cons x xs ih => exact ih (h.perform hx.1) hx.2

end Shown

/-! ### The deadline -/

/-- A session writes and has no deadline, or drains and has one. -/
def Dated (s : Studio) : Prop :=
  ∀ session, s.session = some session →
    session.state = .active ∧ session.drainDeadline = none ∨
      session.state = .draining ∧ session.drainDeadline.isSome = true

namespace Dated

variable {t : Studio} {es : List Event}

lemma proper (h : s.Dated) : s.Proper := fun session hs => (h session hs).imp And.left And.left

/-- Without a session there is nothing to date. -/
lemma of_none (h : t.session = none) : t.Dated := by simp [Dated, h]

lemma act (hd : s.Dated) {graph : Option Graph} {now : Nat} (h : Act graph now s es t) :
    t.Dated := by
  cases h with
  | remark _ h | refuse _ _ _ _ h | giveBack _ _ _ _ _ h =>
      obtain ⟨files, outs, rfl, -⟩ := h
      exact hd
  | begin _ _ _ _ _ hn h =>
      obtain ⟨files, outs, rfl, -⟩ := h
      rintro _ ⟨⟩
      exact .inl (by rw [hn]; exact ⟨rfl, rfl⟩)
  | drain _ _ _ h =>
      obtain ⟨files, outs, rfl, -⟩ := h
      rintro _ ⟨⟩
      exact .inr ⟨rfl, rfl⟩
  | fail _ h | finish _ _ h =>
      obtain ⟨files, outs, rfl, -⟩ := h
      exact of_none rfl

/-- **Every operation keeps to it.** -/
lemma perform (hd : s.Dated) (x : Operation) : (s.perform x).Dated := by
  cases x with
  | arm | disarm | pass | files | refusals => exact hd
  | toggle on graph =>
      obtain ⟨es, h⟩ := act_toggle hd.proper on graph 0
      exact hd.act h
  | finishDrain now graph =>
      rcases s.finishDrain_cases now graph with h | h <;> rw [Studio.perform, h]
      · exact of_none (s.detach_session _ _)
      · exact hd
  | forceStop graph => exact of_none (s.detach_session _ _)
  | branchError stage message graph => exact of_none (detach_session _ _ _)

lemma performAll (hd : s.Dated) (xs : List Operation) : (s.performAll xs).Dated := by
  induction xs generalizing s with
  | nil => exact hd
  | cons x xs ih => exact ih (hd.perform x)

/-- There is a deadline exactly in `draining`. -/
lemma isSome_drainDeadline_iff (hd : s.Dated) :
    s.drainDeadline.isSome = true ↔ s.recordingState = .draining := by
  cases hs : s.session with
  | none => simp [drainDeadline, recordingState, hs]
  | some session =>
      have h : s.drainDeadline = session.drainDeadline := by simp [drainDeadline, hs]
      have h' : s.recordingState = session.state := by simp [recordingState, hs]
      rw [h, h']
      rcases hd session hs with ⟨ha, hn⟩ | ⟨ha, hn⟩ <;> simp [ha, hn]

end Dated

/-! ### The indicator -/

/-- The files in which a level was announced: the flag in the region, and what drives the
lamp, as far as that can be written. -/
def showing (s : Studio) (tree : Files.Tree) (on : Bool) : Files.Tree :=
  let tree := (s.region.map fun r => r.set tree on).getD tree
  match s.indicator with
  | .file path => (tree.write path (levelText on)).toOption.getD tree
  | .none | .lamp => tree

/-- What is announced of a change from one session to another: that one has begun, or that
one has ended. -/
def change (before after : Option Session) : List Bool :=
  if after.isSome = before.isSome then [] else [after.isSome]

/-- The change from the session of `s` to that of `t` was announced, and nothing else. -/
structure Tells (s t : Studio) : Prop where
  region : t.region = s.region
  indicator : t.indicator = s.indicator
  levels : s.indicator = .lamp → t.levels = s.levels ++ change s.session t.session
  files : t.files = (change s.session t.session).foldl s.showing s.files

lemma files_drive (s : Studio) (on : Bool) : (s.drive on).files =
    match s.indicator with
    | .file path => (s.files.write path (levelText on)).toOption.getD s.files
    | .none | .lamp => s.files := by
  rw [drive]
  cases s.indicator with
  | none | lamp => rfl
  | file path =>
      dsimp only
      cases s.files.write path (levelText on) <;> rfl

lemma drive_keeps (s : Studio) (on : Bool) : (s.drive on).region = s.region ∧
    (s.drive on).indicator = s.indicator ∧
      (s.indicator = .lamp → (s.drive on).levels = s.levels ++ [on]) := by
  rw [drive]
  split
  case h_1 hi => exact ⟨rfl, rfl, by simp [hi]⟩
  case h_2 => exact ⟨rfl, rfl, fun _ => by simp [onHost, Host.levels, Host.put, Output.level?]⟩
  case h_3 hi => split <;> exact ⟨rfl, rfl, by simp [hi]⟩

lemma announce_keeps (s : Studio) (on : Bool) : (s.announce on).region = s.region ∧
    (s.announce on).indicator = s.indicator ∧
      (s.indicator = .lamp → (s.announce on).levels = s.levels ++ [on]) ∧
        (s.announce on).files = s.showing s.files on := by
  rw [announce, showing]
  split
  case h_1 r hr =>
    obtain ⟨h₁, h₂, h₃⟩ := drive_keeps { s with files := r.set s.files on } on
    refine ⟨h₁, h₂, h₃, (files_drive _ on).trans ?_⟩
    rw [hr]
    rfl
  case h_2 hr =>
    obtain ⟨h₁, h₂, h₃⟩ := s.drive_keeps on
    refine ⟨h₁, h₂, h₃, (s.files_drive on).trans ?_⟩
    rw [hr]
    rfl

namespace Tells

variable {t : Studio}

/-- An operation that announces nothing, and neither begins nor ends a session. -/
lemma still (hr : t.region = s.region) (hi : t.indicator = s.indicator)
    (hl : t.levels = s.levels) (hf : t.files = s.files)
    (hs : t.session.isSome = s.session.isSome) : Tells s t := by
  have hc : change s.session t.session = [] := if_pos hs
  exact ⟨hr, hi, fun _ => by rw [hl, hc, List.append_nil], by rw [hf, hc]; rfl⟩

lemma emit (h : Tells s t) (e : Event) : Tells s (t.emit e) :=
  ⟨h.region, h.indicator, h.levels, h.files⟩

/-- A session that begins or ends is announced. -/
lemma announced (s : Studio) (n : Nat) (b : Backend) (session : Option Session)
    (hs : session.isSome ≠ s.session.isSome) :
    Tells s (announce { s with sessionsStarted := n, backend := b, session := session }
      session.isSome) := by
  obtain ⟨h₁, h₂, h₃, h₄⟩ := announce_keeps
    { s with sessionsStarted := n, backend := b, session := session } session.isSome
  have hc : change s.session session = [session.isSome] := if_neg hs
  refine ⟨h₁, h₂, fun hi => (h₃ hi).trans ?_, h₄.trans ?_⟩ <;> rw [announce_session, hc] <;> rfl

lemma detach (s : Studio) (graph : Option Graph) (reason : String) :
    Tells s (s.detach graph reason) := by
  cases hs : s.session with
  | none =>
      rw [detach_of_none hs]
      exact still rfl rfl rfl rfl rfl
  | some session =>
      rw [Studio.detach, hs]
      exact emit (announced s s.sessionsStarted _ none (by simp [hs])) _

lemma record (hs : s.session = none) (g : Graph) (path : String) :
    Tells s (s.record g path).1 := by
  rcases hb : s.backend.attach g { session := s.sessionsStarted + 1, location := path }
    with ⟨b, e | branch⟩
  · simp only [Studio.record, hb]
    exact still rfl rfl rfl rfl rfl
  · rcases hb' : b.activate with ⟨b', e | ⟨⟩⟩
    · simp only [Studio.record, hb, hb']
      exact still rfl rfl rfl rfl rfl
    · simp only [Studio.record, hb, hb']
      exact emit (announced s _ _ (some _) (by simp [hs])) _

lemma start (hd : s.Dated) (graph : Option Graph) : Tells s (s.start graph).1 := by
  simp only [Studio.start]
  split
  case h_5 hi =>
    split
    · split
      · rw [startOn]
        split
        · exact still rfl rfl rfl rfl rfl
        · exact record (hd.proper.session_of_idle hi) _ _
      · exact still rfl rfl rfl rfl rfl
    · exact still rfl rfl rfl rfl rfl
  all_goals exact still rfl rfl rfl rfl rfl

lemma drain {session : Session} (hs : s.session = some session) : Tells s (s.drain session) := by
  have hk : ∀ (k : Host) (deadline : Option Nat),
      (k.schedule deadline).levels = k.levels ∧ (k.schedule deadline).files = k.files := by
    intro k deadline
    rcases k.schedule_cases deadline with ⟨-, hs⟩ | ⟨-, hs⟩ <;> rw [hs] <;> exact ⟨rfl, rfl⟩
  exact still rfl rfl (hk _ _).1 (hk _ _).2 (by rw [hs]; rfl)

lemma stop (s : Studio) (graph : Option Graph) : Tells s (s.stop graph).1 := by
  rw [Studio.stop]
  cases hs : s.session with
  | none => exact still rfl rfl rfl rfl rfl
  | some session =>
      by_cases ha : session.state = .active
      · cases graph with
        | none =>
            simp only [ha, if_true]
            exact detach s none _
        | some g =>
            simp only [ha, if_true]
            exact drain hs
      · simp only [ha, if_false]
        exact still rfl rfl rfl rfl rfl

/-- **An operation announces that a session has begun or ended**, and nothing else. -/
theorem perform (hd : s.Dated) {x : Operation} (hx : ∀ tree, x ≠ .files tree) :
    Tells s (s.perform x) := by
  cases x with
  | arm | disarm | pass | refusals => exact still rfl rfl rfl rfl rfl
  | files tree => exact absurd rfl (hx tree)
  | toggle on graph =>
      cases on with
      | true => exact start hd graph
      | false => exact stop s graph
  | finishDrain now graph =>
      rcases s.finishDrain_cases now graph with hf | hf <;> rw [Studio.perform, hf]
      · exact detach s graph _
      · exact still rfl rfl rfl rfl rfl
  | forceStop graph => exact detach s graph _
  | branchError stage message graph =>
      have h := detach (s.emit (.failed stage message)) graph "forced"
      exact ⟨h.region, h.indicator, h.levels, h.files⟩

end Tells

/-- The studio with a lamp in the place of its indicator, which was told nothing yet. -/
def withLamp (s : Studio) : Studio := { s with indicator := .lamp, journal := [] }

/-- The levels to which an operation drives the indicator: those that a lamp in its place
would be told. -/
def drives (s : Studio) (x : Operation) : List Bool := (s.withLamp.perform x).levels

/-- The levels to which some operations drive the indicator, the oldest first. -/
def driven : Studio → List Operation → List Bool
  | _, [] => []
  | s, x :: xs => s.drives x ++ (s.perform x).driven xs

lemma driven_concat (s : Studio) (xs : List Operation) (x : Operation) :
    s.driven (xs ++ [x]) = s.driven xs ++ (s.performAll xs).drives x := by
  induction xs generalizing s with
  | nil => exact List.append_nil _
  | cons y ys ih =>
      rw [List.cons_append, driven, ih, driven, List.append_assoc]
      rfl

/-! What becomes of the session does not depend on the indicator. -/

lemma session_record_withLamp (s : Studio) (g : Graph) (path : String) :
    (s.withLamp.record g path).1.session = (s.record g path).1.session := by
  have hb : s.withLamp.backend = s.backend := rfl
  have hn : s.withLamp.sessionsStarted = s.sessionsStarted := rfl
  simp only [record, hb, hn]
  split
  · rfl
  · split
    · rfl
    · rw [emit_session, emit_session, announce_session, announce_session]

lemma session_start_withLamp (s : Studio) (graph : Option Graph) :
    (s.withLamp.start graph).1.session = (s.start graph).1.session := by
  have hr : s.withLamp.recordingState = s.recordingState := rfl
  have ha : s.withLamp.armed = s.armed := rfl
  have hl : Storage.locate s.withLamp.files s.withLamp.helper =
    Storage.locate s.files s.helper := rfl
  simp only [start, hr, ha]
  split
  case h_5 =>
    split
    · split
      · simp only [startOn, hl]
        split
        · rfl
        · exact session_record_withLamp s _ _
      · rfl
    · rfl
  all_goals rfl

lemma session_stop_withLamp (s : Studio) (graph : Option Graph) :
    (s.withLamp.stop graph).1.session = (s.stop graph).1.session := by
  have hs : s.withLamp.session = s.session := rfl
  simp only [stop, hs]
  split
  · rfl
  · split
    · split
      · rfl
      · rw [forceStop, forceStop, detach_session, detach_session]
    · rfl

lemma session_perform_withLamp (s : Studio) (x : Operation) :
    (s.withLamp.perform x).session = (s.perform x).session := by
  cases x with
  | arm | disarm | pass | files | refusals => rfl
  | toggle on graph =>
      cases on with
      | true => exact session_start_withLamp s graph
      | false => exact session_stop_withLamp s graph
  | finishDrain now graph =>
      have hd : s.withLamp.isDrained now = s.isDrained now := rfl
      simp only [perform, finishDrain, hd]
      split
      · rw [detach_session, detach_session]
      · rfl
  | forceStop graph => exact (detach_session _ _ _).trans (detach_session _ _ _).symm
  | branchError stage message graph =>
      exact (detach_session _ _ _).trans (detach_session _ _ _).symm

/-- **An operation drives the indicator when a session begins or ends**, and only then. -/
theorem drives_eq (hd : s.Dated) (x : Operation) :
    s.drives x = change s.session (s.perform x).session := by
  by_cases hx : ∀ tree, x ≠ .files tree
  · have ht := (Tells.perform (s := s.withLamp) hd hx).levels rfl
    rw [drives, ht, session_perform_withLamp]
    rfl
  · obtain ⟨tree, rfl⟩ := not_forall_not.1 hx
    exact (if_pos rfl).symm

/-- The indicator was last driven to the level that shows whether there is a session. -/
lemma eq_of_getLast?_driven (hd : s.Dated) (xs : List Operation) :
    ∀ on ∈ (s.driven xs).getLast?, on = (s.performAll xs).session.isSome := by
  induction xs using List.reverseRecOn with
  | nil => exact nofun
  | append_singleton xs x ih =>
      rw [driven_concat, drives_eq (hd.performAll xs), change, performAll_concat]
      split
      case isTrue h => rwa [List.append_nil, h]
      case isFalse =>
        rw [List.getLast?_concat]
        rintro _ ⟨⟩
        rfl

/-- A lamp is told the levels one after the other. -/
lemma levels_performAll (hd : s.Dated) (hi : s.indicator = .lamp) (xs : List Operation) :
    (s.performAll xs).indicator = .lamp ∧ (s.performAll xs).levels = s.levels ++ s.driven xs := by
  induction xs using List.reverseRecOn with
  | nil => exact ⟨hi, (List.append_nil _).symm⟩
  | append_singleton xs x ih =>
      obtain ⟨hi, hl⟩ := ih
      rw [performAll_concat, driven_concat, drives_eq (hd.performAll xs)]
      by_cases hx : ∀ tree, x ≠ .files tree
      · have ht := Tells.perform (hd.performAll xs) hx
        exact ⟨ht.indicator.trans hi, by rw [ht.levels hi, hl, List.append_assoc]⟩
      · obtain ⟨tree, rfl⟩ := not_forall_not.1 hx
        have hc : change (s.performAll xs).session
            ((s.performAll xs).perform (.files tree)).session = [] := if_pos rfl
        exact ⟨hi, by rw [hc, List.append_nil]; exact hl⟩

/-! ### The branch -/

section Backend

variable {a a' : Backend}

lemma activate_keeps {r : Except BranchError Unit} (h : a.activate = (a', r)) :
    a'.attachPoints = a.attachPoints ∧ a'.stats = a.stats := by
  simp only [Backend.activate] at h
  split at h <;> obtain ⟨rfl, _⟩ := Prod.mk.inj h <;> exact ⟨rfl, rfl⟩

end Backend

/-- No name that a backend gives out from now on is in use. -/
def Fresh (b : Backend) : Prop :=
  ∀ n, b.stats.attachPointsIssued ≤ n → attachPointName n ∉ b.attachPoints

/-- The attach point of the session. -/
def point? (s : Studio) : Option String := s.session.map (·.branch.attachPoint)

/-- **The recorder has on the backend the branch of its session**, besides all that others
had there at first, and no name that is given out later is in use. -/
structure Holds (b : Backend) (s : Studio) : Prop where
  points : s.backend.attachPoints = b.attachPoints ++ s.point?.toList
  attachPointsLive :
    s.backend.stats.attachPointsLive = b.stats.attachPointsLive + s.point?.toList.length
  branchesLive : s.backend.stats.branchesLive = b.stats.branchesLive + s.point?.toList.length
  fresh : Fresh s.backend
  apart : ∀ p ∈ s.point?, p ∉ b.attachPoints

namespace Holds

variable {b : Backend} {t : Studio} {es : List Event}

/-- Only the attach points, the counts and the attach point of the session matter. -/
lemma of_eq (h : Holds b s) (hp : t.backend.attachPoints = s.backend.attachPoints)
    (hl : t.backend.stats.attachPointsLive = s.backend.stats.attachPointsLive)
    (hr : t.backend.stats.branchesLive = s.backend.stats.branchesLive)
    (hi : t.backend.stats.attachPointsIssued = s.backend.stats.attachPointsIssued)
    (hs : t.point? = s.point?) : Holds b t where
  points := by rw [hp, hs, h.points]
  attachPointsLive := by rw [hl, hs, h.attachPointsLive]
  branchesLive := by rw [hr, hs, h.branchesLive]
  fresh := by rw [Fresh, hp, hi]; exact h.fresh
  apart := by rw [hs]; exact h.apart

lemma told (h : Holds b s) (ht : Told s es t) : Holds b t := by
  obtain ⟨files, outs, rfl, -⟩ := ht
  exact h.of_eq rfl rfl rfl rfl rfl

/-- When the session has ended on a graph, its branch is gone. -/
lemma freed (h : Holds b s) {session : Session} (hs : s.session = some session) (g : Graph) :
    Holds b { s with session := none, backend := s.freed (some g) } := by
  have hp : s.point? = some session.branch.attachPoint := by rw [point?, hs]; rfl
  have hb : s.freed (some g) = s.backend.detach session.branch := by rw [Studio.freed, hs]; rfl
  have points := h.points
  have live := h.attachPointsLive
  have branches := h.branchesLive
  rw [hp] at points live branches
  rw [hb]
  refine ⟨?_, Nat.sub_eq_of_eq_add live, Nat.sub_eq_of_eq_add branches,
    fun n hn hm => h.fresh n hn (List.mem_of_mem_filter hm), by simp [point?]⟩
  have hf : ∀ q ∈ b.attachPoints, ¬q = session.branch.attachPoint :=
    fun q hq => ne_of_mem_of_not_mem hq (h.apart _ hp)
  simpa [Backend.detach, points, point?, List.filter_append] using hf

/-- When a session has begun, its branch is there, under a name that was not in use. -/
lemma begun (h : Holds b s) (session : Session) (hs : s.session = none) {g : Graph}
    {spec : BranchSpec} {a a' : Backend} {r : Except BranchError Unit}
    (ha : s.backend.attach g spec = (a, .ok session.branch)) (ha' : a.activate = (a', r)) (n : Nat) :
    Holds b { s with sessionsStarted := n, backend := a', session := some session } := by
  have hp : s.point? = none := by rw [point?, hs]; rfl
  have points := h.points
  have live := h.attachPointsLive
  have branches := h.branchesLive
  rw [hp] at points live branches
  obtain ⟨hn, rfl⟩ := Backend.of_attach_ok ha
  replace hn : session.branch.attachPoint = attachPointName s.backend.stats.attachPointsIssued := hn
  obtain ⟨hq', ht'⟩ := activate_keeps ha'
  simp only [points] at hq'
  have hf := h.fresh _ le_rfl
  rw [← hn, points] at hf
  refine ⟨by simpa [point?] using hq', ?_, ?_, fun m hm hq => ?_, ?_⟩
  · simp [ht', live, point?]
  · simp [ht', branches, point?]
  · simp only [ht'] at hm
    simp only [hq', ← points] at hq
    rcases List.mem_append.1 hq with hq | hq
    · exact h.fresh m (Nat.le_of_succ_le hm) hq
    · rw [List.mem_singleton, hn] at hq
      exact Nat.not_succ_le_self _ (attachPointName_injective hq ▸ hm)
  · rintro _ ⟨⟩
    simpa using hf

/-- **What the recorder does on a graph leaves there the branch of its session**, and no
other. -/
theorem act (h : Holds b s) {g : Graph} {now : Nat} (ha : Act (some g) now s es t) :
    Holds b t := by
  cases ha with
  | remark _ ht => exact h.told ht
  | refuse _ _ _ hb ht =>
      obtain ⟨rest, rfl⟩ := Backend.of_attach_error hb
      refine told ?_ ht
      exact h.of_eq rfl rfl rfl rfl rfl
  | giveBack _ _ hs hb hb' ht =>
      -- as if a session had begun and ended
      have hf := (h.begun ⟨0, "", _, .attaching, none⟩ hs hb hb'
        (s.sessionsStarted + 1)).freed rfl g
      refine told ?_ ht
      exact hf.of_eq rfl rfl rfl rfl (by rw [point?, point?, hs])
  | begin _ _ hs hb hb' hn ht =>
      refine told ?_ ht
      rw [hn]
      exact h.begun _ hs hb hb' _
  | drain _ hs _ ht =>
      refine told ?_ ht
      exact h.of_eq rfl rfl rfl rfl (by rw [point?, point?, hs]; rfl)
  | fail hs ht | finish hs _ ht =>
      refine told ?_ ht
      exact h.freed hs g

lemma detach (h : Holds b s) (g : Graph) (reason : String) :
    Holds b (s.detach (some g) reason) := by
  cases hs : s.session with
  | none => rwa [detach_of_none hs]
  | some session => exact (h.freed hs g).told (told_detach hs (some g) reason)

/-- **Every operation on one graph leaves there the branch of the session**, and no other. -/
theorem perform (h : Holds b s) (hd : s.Dated) {g : Graph} {x : Operation} (hx : x.IsOn g) :
    Holds b (s.perform x) := by
  cases x with
  | arm | disarm | pass | files | refusals => exact h.of_eq rfl rfl rfl rfl rfl
  | toggle on graph =>
      obtain rfl : graph = some g := hx
      obtain ⟨es, ha⟩ := act_toggle hd.proper on (some g) 0
      exact h.act ha
  | finishDrain now graph =>
      obtain rfl : graph = some g := hx
      rcases s.finishDrain_cases now (some g) with hf | hf <;> rw [Studio.perform, hf]
      · exact h.detach g _
      · exact h
  | forceStop graph =>
      obtain rfl : graph = some g := hx
      exact h.detach g _
  | branchError stage message graph =>
      obtain rfl : graph = some g := hx
      exact (h.told (told_emit s _)).detach g _

lemma performAll (h : Holds b s) (hd : s.Dated) {g : Graph} {xs : List Operation}
    (hx : ∀ x ∈ xs, x.IsOn g) : Holds b (s.performAll xs) := by
  induction xs generalizing s with
  | nil => exact h
  | cons x xs ih =>
      obtain ⟨hx, hxs⟩ := List.forall_mem_cons.1 hx
      exact ih (h.perform hd hx) (hd.perform x) hxs

/-- At first there is no session, and no branch of one. -/
lemma of_none (hs : s.session = none) (hf : Fresh s.backend) : Holds s.backend s := by
  have hp : s.point? = none := by rw [point?, hs]; rfl
  refine ⟨?_, ?_, ?_, hf, ?_⟩ <;> simp [hp]

end Holds

/-! ### All together -/

/-- **The pieces of a recorder agree after any operations**, each with any graph or none,
in whatever state the storage is and whatever the backend refuses, as long as nobody else
writes the first word of the status region.  The flag is set exactly if there is a session;
the level to which the indicator was driven last is the flag.  These are the levels that a
lamp is told, and an indicator that is driven by a file finds them there, one operation
after the other.  A session writes or drains, and has a deadline exactly if it drains.  If
all operations are on one graph, then its branch is all that the recorder has on the
backend. -/
theorem recorder_of_operations {r : Region} {s : Studio} (hs : s.session = none)
    (hr : Shown r s) {xs : List Operation} (hx : s.Unwritten r xs) :
    let t := s.performAll xs
    (r.isSet t.files = true ↔ t.session.isSome = true) ∧
      (∀ on ∈ (s.driven xs).getLast?, on = r.isSet t.files) ∧
      (s.indicator = .lamp → t.levels = s.levels ++ s.driven xs) ∧
      (∀ ys x zs, xs = ys ++ x :: zs → (∀ tree, x ≠ .files tree) →
        let u := s.performAll ys
        (u.perform x).files = (u.drives x).foldl u.showing u.files) ∧
      (∀ session, t.session = some session →
        (session.state = .active ∨ session.state = .draining) ∧
          (session.drainDeadline.isSome = true ↔ session.state = .draining)) ∧
      (t.drainDeadline.isSome = true ↔ t.recordingState = .draining) ∧
      ∀ g, Fresh s.backend → (∀ x ∈ xs, x.IsOn g) →
        let n := if t.session.isSome then 1 else 0
        t.backend.attachPoints = s.backend.attachPoints ++ t.point?.toList ∧
          t.backend.stats.attachPointsLive = s.backend.stats.attachPointsLive + n ∧
          t.backend.stats.branchesLive = s.backend.stats.branchesLive + n := by
  intro t
  have hd : s.Dated := .of_none hs
  have ht : t.Dated := hd.performAll xs
  have hf : r.isSet t.files = t.session.isSome := (hr.performAll hx).flag
  refine ⟨by rw [hf], fun on hon => (eq_of_getLast?_driven hd xs on hon).trans hf.symm,
    fun hi => (levels_performAll hd hi xs).2, ?_, fun session h => ⟨ht.proper session h, ?_⟩,
    ht.isSome_drainDeadline_iff, ?_⟩
  · rintro ys x zs - hy u
    have hu : u.Dated := hd.performAll ys
    rw [drives_eq hu]
    exact (Tells.perform hu hy).files
  · rcases ht session h with ⟨ha, hn⟩ | ⟨ha, hn⟩ <;> simp [ha, hn]
  · intro g hb hg n
    have h := (Holds.of_none hs hb).performAll hd hg
    have hn : t.point?.toList.length = n := by
      rw [point?, Option.length_toList, Option.isSome_map]
    exact ⟨h.points, hn ▸ h.attachPointsLive, hn ▸ h.branchesLive⟩

/-- A recording, its end after a drain, one whose branch does not run, and one whose branch
fails, with a lamp and with storage that is mounted. -/
theorem recorder_of_operations_on_graph :
    let r : Region := { path := "/flag", file := 0 }
    let s : Studio :=
      { files := {
          nodes := [(["flag"], .file 0), (["mount"], .file 1), (["usb"], .directory)]
          contents := [[0, 0, 0, 0], [117, 115, 98, 10]]
          home := [] }
        helper := "/mount"
        region := some r
        indicator := .lamp
        drainGrace := 2 }
    let g : Graph := { generation := 1, state := .playing, duplicates := true }
    let xs : List Operation :=
      [.arm, .files { s.files with contents := [[0, 0, 0, 0, 7], [117, 115, 98, 10]] },
        .toggle true (some g), .pass 1, .toggle false (some g), .pass 2,
        .finishDrain 3 (some g), .refusals [] [.noDuplicationPoint], .toggle true (some g),
        .toggle true (some g), .branchError "sink" "disk full" (some g)]
    (s.session = none ∧ Shown r s ∧ s.Unwritten r xs ∧ Fresh s.backend ∧ ∀ x ∈ xs, x.IsOn g) ∧
      let t := s.performAll xs
      (r.isSet t.files = true ↔ t.session.isSome = true) ∧
        (∀ on ∈ (s.driven xs).getLast?, on = r.isSet t.files) ∧ t.levels = s.driven xs ∧
        t.backend.attachPoints = t.point?.toList := by
  intro r s g xs
  have hr : Shown r s := ⟨⟨rfl, by decide, by decide, nofun⟩, by decide⟩
  have hx : s.Unwritten r xs := by
    refine ⟨nofun, ?_, nofun, nofun, nofun, nofun, nofun, nofun, nofun, nofun, nofun, trivial⟩
    rintro _ ⟨⟩
    exact ⟨by decide, rfl, nofun⟩
  have hg : ∀ x ∈ xs, x.IsOn g := by simp [xs, Operation.IsOn]
  have hf : Fresh s.backend := nofun
  obtain ⟨h₁, h₂, h₃, -, -, -, h₄⟩ := recorder_of_operations rfl hr hx
  exact ⟨⟨rfl, hr, hx, hf, hg⟩, h₁, h₂, h₃ rfl, (h₄ g hf hg).1⟩

end Studio

end StreamWarden
