import Mathlib
import StreamWarden.Proofs.Bonds
import StreamWarden.Proofs.Chronicle
import StreamWarden.Proofs.Dates
import StreamWarden.Proofs.Recorder

/-!
# Where recordings go

A recording goes below the mount point, to a file that is named after the second in which
the recording starts.  Nothing else goes into the name.  So the files of two recordings are
the same exactly if both start in one second; and since a drain, a failure of a branch or a
restart may be over long before a second is, this does happen.

* `Names`: what the recorder begins, it begins where the storage and the clock say.
* `beginsRecording_tells`: only a toggle begins a recording.
* `exists_of_chronicle`: each recording of a run and its file.
* **`destinations_of_run`**: the files of a run; `shared_destinations`: two recordings in
  one second.
-/

namespace StreamWarden

/-- The event tells that a recording begins. -/
def Event.beginsRecording (e : Event) : Bool := e.kind == .recordingStarted

/-- Different names below a directory are different paths. -/
lemma Files.join_injective (directory : String) : Function.Injective (join directory) := by
  intro a b h
  simp only [join] at h
  split at h
  · exact h
  · split at h
    · exact String.append_right_inj _ |>.1 h
    · exact String.append_right_inj _ |>.1 h

/-! ### What the recorder begins -/

namespace Studio

/-- The path is the file to which a recording would go that starts now. -/
def IsDestination (s : Studio) (path : String) : Prop :=
  ∃ mount, Storage.locate s.files s.helper = .ok mount ∧
    path = Files.join mount (Recording.fileName s.unixSeconds)

/-- From one studio to another it was told that recordings begin only at the file to which
they go now. -/
def Names (s t : Studio) : Prop :=
  ∃ es, t.events = s.events ++ es ∧
    ∀ e ∈ es, e.beginsRecording = true → ∃ path, e.path? = some path ∧ s.IsDestination path

section Names

variable {s : Studio}

/-- Where it is not told that a recording begins, there is no file to be right. -/
lemma names_of_events {t : Studio} {es : List Event} (h : t.events = s.events ++ es)
    (he : ∀ e ∈ es, e.beginsRecording = false) : Names s t :=
  ⟨es, h, fun e hm hb => by rw [he e hm] at hb; cases hb⟩

lemma names_refl (s : Studio) : Names s s :=
  ⟨[], (List.append_nil _).symm, List.forall_mem_nil _⟩

lemma names_refuse (s : Studio) (b : Backend) (n : Nat) (e : BranchError) :
    Names s (refuse { s with sessionsStarted := n, backend := b } e).1 := by
  have ht := (told_emit { s with sessionsStarted := n, backend := b } (.refused e)).events
  refine names_of_events ht (List.forall_mem_singleton.2 ?_)
  simp [Event.beginsRecording, Event.refused, Event.of, Event.withReason]

lemma names_record (g : Graph) {path : String} (hp : s.IsDestination path) :
    Names s (s.record g path).1 := by
  rcases hb : s.backend.attach g { session := s.sessionsStarted + 1, location := path }
    with ⟨b, e | branch⟩
  · simp only [record, hb]
    exact names_refuse s b _ e
  · rcases hb' : b.activate with ⟨b', e | ⟨⟩⟩
    · simp only [record, hb, hb']
      exact names_refuse s _ _ e
    · simp only [record, hb, hb']
      refine ⟨_, ((told_announce _ true).trans (told_emit _ _)).events, ?_⟩
      exact List.forall_mem_singleton.2 fun _ => ⟨path, rfl, hp⟩

lemma names_startOn (s : Studio) (g : Graph) : Names s (s.startOn g).1 := by
  rw [startOn]
  split
  case h_1 e _ => exact names_refuse s s.backend s.sessionsStarted (.storage e)
  case h_2 mount hm => exact names_record g ⟨mount, hm, rfl⟩

lemma names_refuseDisarmed (s : Studio) : Names s s.refuseDisarmed.1 :=
  names_of_events (told_emit s .disarmed).events (List.forall_mem_singleton.2 rfl)

lemma names_start (s : Studio) (graph : Option Graph) : Names s (s.start graph).1 := by
  simp only [start]
  split
  case h_5 =>
    cases graph with
    | none => exact names_refuseDisarmed s
    | some g =>
        cases ha : s.armed with
        | true => simp only [if_true]; exact names_startOn s g
        | false => exact names_refuseDisarmed s
  all_goals exact names_refl s

lemma names_stop (s : Studio) (graph : Option Graph) : Names s (s.stop graph).1 := by
  rw [stop]
  cases hs : s.session with
  | none => exact names_refl s
  | some session =>
      by_cases ha : session.state = .active
      · cases graph with
        | none =>
            simp only [ha, if_true]
            exact names_of_events (told_detach hs none "forced").events
              (List.forall_mem_singleton.2 rfl)
        | some g =>
            simp only [ha, if_true]
            exact names_of_events (told_drain s session).events (List.forall_mem_singleton.2 rfl)
      · simp only [ha, if_false]
        exact names_refl s

/-- **A toggle begins a recording only where it is to go.** -/
lemma names_toggle (s : Studio) (on : Bool) (graph : Option Graph) :
    Names s (s.toggle on graph).1 := by
  cases on with
  | true => exact names_start s graph
  | false => exact names_stop s graph

/-- The recorder counts the recordings that it begins. -/
lemma Act.le_sessionsStarted {graph : Option Graph} {now : Nat} {t : Studio} {es : List Event}
    (h : Act graph now s es t) :
    s.sessionsStarted + es.countP Event.beginsRecording ≤ t.sessionsStarted := by
  cases h with
  | remark hes h =>
      obtain ⟨files, outs, rfl, -⟩ := h
      have hc : es.countP Event.beginsRecording = 0 :=
        List.countP_eq_zero.2 fun e he => by simp [Event.beginsRecording, hes e he]
      rw [hc]
      exact le_rfl
  | refuse _ _ _ _ h | giveBack _ _ _ _ _ h =>
      obtain ⟨files, outs, rfl, -⟩ := h
      exact Nat.le_succ _
  | begin _ _ _ _ _ _ h | drain _ _ _ h | fail _ h | finish _ _ h =>
      obtain ⟨files, outs, rfl, -⟩ := h
      exact le_rfl

end Names

/-! ### Files that nobody writes to -/

/-- Nothing is shown in a file. -/
def IsBare (s : Studio) : Prop := s.region = none ∧ ∀ path, s.indicator ≠ .file path

/-- The other studio shows its recordings in the same way, and has the same files if nothing
is shown in one. -/
structure Leaves (s t : Studio) : Prop where
  region : t.region = s.region
  indicator : t.indicator = s.indicator
  files : s.IsBare → t.files = s.files

section Leaves

variable {s t u : Studio}

lemma Leaves.of_eq (h : t = s) : Leaves s t := by
  subst h
  exact ⟨rfl, rfl, fun _ => rfl⟩

lemma Leaves.trans (h : Leaves s t) (h' : Leaves t u) : Leaves s u where
  region := h'.region.trans h.region
  indicator := h'.indicator.trans h.indicator
  files hb := by
    have hb' : t.IsBare := ⟨h.region.trans hb.1, fun path => h.indicator ▸ hb.2 path⟩
    exact (h'.files hb').trans (h.files hb)

/-- What is announced is all that the recorder writes. -/
lemma Tells.leaves (h : Tells s t) : Leaves s t := by
  refine ⟨h.region, h.indicator, fun hb => ?_⟩
  have hs : ∀ tree on, s.showing tree on = tree := by
    intro tree on
    rw [showing, hb.1]
    cases hi : s.indicator with
    | none | lamp => rfl
    | file path => exact absurd hi (hb.2 path)
  rw [h.files, change]
  split
  · rfl
  · exact hs _ _

end Leaves

end Studio

/-! ### What a supervisor begins -/

namespace Supervisor

open State

section Counts

variable {s t : State} {es : List Event}

lemma beginsRecording_of_isRemark {e : Event} (he : e.isRemark = true) :
    e.beginsRecording = false := by
  revert he
  simp only [Event.isRemark, Event.beginsRecording]
  cases e.kind <;> simp

lemma countP_parting (s : State) : s.parting.countP Event.beginsRecording = 0 := by
  rw [parting, Studio.lastWords]
  cases s.session <;> cases s.graph <;> rfl

@[simp] lemma beginsRecording_change (p q : Phase) (input : Phase.Input) :
    (Event.change p q input).beginsRecording = false := by cases input <;> rfl

/-- A supervisor counts the recordings that it begins. -/
lemma Move.le_sessionsStarted (h : Move s es t) :
    s.sessionsStarted + es.countP Event.beginsRecording ≤ t.sessionsStarted := by
  cases h with
  | remark hes h =>
      obtain ⟨files, outs, rfl, -⟩ := h
      have hc : es.countP Event.beginsRecording = 0 :=
        List.countP_eq_zero.2 fun e he => by simp [beginsRecording_of_isRemark (hes e he)]
      rw [hc]
      exact le_rfl
  | record h => exact h.le_sessionsStarted
  | look _ h | launch _ _ _ h | miss _ _ _ h | leave _ h =>
      obtain ⟨files, outs, rfl, -⟩ := h
      simp only [List.countP_cons, List.countP_nil, beginsRecording_change]
      exact le_rfl
  | restart _ h | stop _ h =>
      obtain ⟨files, outs, rfl, -⟩ := h
      simp only [List.countP_append, List.countP_cons, List.countP_nil, beginsRecording_change,
        countP_parting]
      exact le_rfl
  | frame | script => exact le_rfl

lemma Moves.le_sessionsStarted (h : Moves s es t) :
    s.sessionsStarted + es.countP Event.beginsRecording ≤ t.sessionsStarted := by
  induction h with
  | none => exact le_rfl
  | cons h _ ih =>
      have hm := h.le_sessionsStarted
      rw [List.countP_append]
      omega

/-- No session is counted from one state to the other. -/
def Uncounted (s t : State) : Prop := t.sessionsStarted = s.sessionsStarted

instance bond_uncounted : Bond Uncounted where
  refl _ := rfl
  trans h h' := Eq.trans h' h
  put _ _ _ _ := rfl
  exceed _ _ _ := rfl
  stream _ _ hs _ _ := congrArg Studio.sessionsStarted hs
  armed _ _ := rfl
  engine _ _ _ := rfl
  detach s graph reason := by
    cases hs : s.session with
    | none => exact congrArg Studio.sessionsStarted (Studio.detach_of_none hs graph reason)
    | some session =>
        obtain ⟨files, outs, ht, -⟩ := Studio.told_detach hs graph reason
        have hn : (s.toStudio.detach graph reason).sessionsStarted = s.sessionsStarted := by
          rw [ht]
        exact hn

/-- **Only a toggle counts a session.** -/
lemma uncounted_react (s : State) {x : Stimulus} (hx : x ≠ .request .toggleRecording) :
    Uncounted s (s.react x) := by
  have hr : ∀ (t : State) (r : Request), r ≠ .toggleRecording → Uncounted t (t.onRequest r) := by
    intro t r hr
    have h : Uncounted (t.emit (.asked r.label)) (t.onRequest r) :=
      Bond.onRequest (R := Uncounted) t r (fun _ _ => rfl) fun he => absurd he hr
    exact h
  rw [react]
  split
  · rfl
  · cases x with
    | request r => exact hr s r fun he => hx (congrArg Stimulus.request he)
    | abandoned =>
        exact hr (s.log .debug "all supervisor handles dropped" []) .stop fun h => by cases h
    | status m => exact Bond.onStatus (R := Uncounted) s m
    | wake => exact Bond.onWake (R := Uncounted) s
    | pass | frame | files | script => rfl

end Counts

section Tells

variable {s : State}

/-- A request to toggle is told, and then the recorder does it. -/
lemma names_onRequest (s : State) :
    Studio.Names s.toStudio (s.onRequest .toggleRecording).toStudio := by
  obtain ⟨es, he, hes⟩ := Studio.names_toggle (s.emit (.asked "toggle_recording")).toStudio
    (s.emit (.asked "toggle_recording")).wantsRecording s.graph
  refine ⟨.asked "toggle_recording" :: es, ?_, List.forall_mem_cons.2 ⟨nofun, hes⟩⟩
  have ha := (Studio.told_emit s.toStudio (.asked "toggle_recording")).events
  exact (he.trans (congrArg (· ++ es) ha)).trans (List.append_cons _ _ _).symm

/-- **A recording begins only with a toggle, at the file to which it is to go.** -/
theorem beginsRecording_tells (hs : Settled s) {x : Stimulus} {e : Event} (he : e ∈ s.tells x)
    (hb : e.beginsRecording = true) : ∃ path, e.path? = some path ∧ s.IsDestination path := by
  by_cases hx : x = .request .toggleRecording
  · subst hx
    cases hd : s.exited with
    | true =>
        have hr : s.react (.request .toggleRecording) = s := if_pos (by rw [hd]; rfl)
        rw [tells, hr, List.drop_length] at he
        cases he
    | false =>
        obtain ⟨es, ht, hes⟩ := names_onRequest s
        rw [← answer.eq_1, ← react_of_not_exited hd] at ht
        rw [tells_eq ht] at he
        exact hes e he hb
  · cases ht : x.isTime with
    | true =>
        obtain ⟨span, rfl⟩ := x.exists_of_isTime ht
        rw [tells_pass] at he
        cases he
    | false =>
        have hm := (moves_tells hs ht).le_sessionsStarted
        have hc : 0 < (s.tells x).countP Event.beginsRecording := List.countP_pos_iff.2 ⟨e, he, hb⟩
        have hu : (s.react x).sessionsStarted = s.sessionsStarted := uncounted_react s hx
        omega

end Tells

/-! ### What stays where it is -/

/-- The place where recordings are asked for, and the origin of the clock. -/
structure Sited (s t : State) : Prop where
  helper : t.helper = s.helper
  wallOrigin : t.wallOrigin = s.wallOrigin

lemma Move.sited {s t : State} {es : List Event} (h : Move s es t) : Sited s t := by
  cases h with
  | remark _ h | look _ h | launch _ _ _ h | miss _ _ _ h | restart _ h | stop _ h | leave _ h =>
      obtain ⟨files, outs, rfl, -⟩ := h
      exact ⟨rfl, rfl⟩
  | record h =>
      cases h with
      | remark _ h | refuse _ _ _ _ h | giveBack _ _ _ _ _ h | begin _ _ _ _ _ _ h
      | drain _ _ _ h | fail _ h | finish _ _ h =>
          obtain ⟨files, outs, rfl, -⟩ := h
          exact ⟨rfl, rfl⟩
  | frame | script => exact ⟨rfl, rfl⟩

lemma run_sited (u : Setup) (xs : List Stimulus) : Sited u.begin (u.begin.run xs) :=
  run_keeps (P := Sited u.begin)
    (fun _ h hm => ⟨hm.sited.helper.trans h.helper, hm.sited.wallOrigin.trans h.wallOrigin⟩)
    (fun _ h => ⟨h.helper, h.wallOrigin⟩) u ⟨rfl, rfl⟩ xs

/-! ### Files that nobody writes to -/

/-- From one state to another the files stay, if nothing is shown in one. -/
def Leaves (s t : State) : Prop := Studio.Leaves s.toStudio t.toStudio

instance bond_leaves : Bond Leaves where
  refl _ := ⟨rfl, rfl, fun _ => rfl⟩
  trans h h' := h.trans h'
  put _ _ _ _ := ⟨rfl, rfl, fun _ => rfl⟩
  exceed _ _ _ := ⟨rfl, rfl, fun _ => rfl⟩
  stream _ _ hs _ _ := .of_eq hs
  armed _ _ := ⟨rfl, rfl, fun _ => rfl⟩
  engine _ _ _ := ⟨rfl, rfl, fun _ => rfl⟩
  detach s graph reason := (Studio.Tells.detach s.toStudio graph reason).leaves

/-- A session of a supervisor has a deadline exactly while it drains. -/
lemma Move.dated {s t : State} {es : List Event} (hs : Settled s) (hd : s.Dated)
    (h : Move s es t) : t.Dated := by
  cases h with
  | record h => exact hd.act h
  | remark _ h | look _ h =>
      obtain ⟨files, outs, rfl, -⟩ := h
      exact hd
  | launch _ hn _ h | miss _ hn _ h =>
      obtain ⟨files, outs, rfl, -⟩ := h
      exact .of_none (hs.session_eq_none (Phase.ne_running_of_next hn))
  | leave hp h =>
      obtain ⟨files, outs, rfl, -⟩ := h
      exact hd
  | restart _ h | stop _ h =>
      obtain ⟨files, outs, rfl, -⟩ := h
      exact .of_none rfl
  | frame | script => exact hd

lemma run_dated (u : Setup) (xs : List Stimulus) : (u.begin.run xs).Dated :=
  run_keeps (P := fun s => s.Dated) (fun hs hd h => h.dated hs hd) (fun _ hd => hd) u
    (.of_none rfl) xs

/-- Where nothing is shown in a file, only others write to files. -/
lemma leaves_react {s : State} (hd : s.Dated) {x : Stimulus} (hx : ∀ tree, x ≠ .files tree) :
    Leaves s (s.react x) := by
  have hr : ∀ (t : State) (r : Request), t.Dated → Leaves t (t.onRequest r) := by
    intro t r hd
    have h : Leaves (t.emit (.asked r.label)) (t.onRequest r) := by
      refine Bond.onRequest (R := Leaves) t r (fun _ _ => ⟨rfl, rfl, fun _ => rfl⟩) fun _ => ?_
      have ht := Studio.Tells.perform (s := (t.emit (.asked r.label)).toStudio) hd
        (x := .toggle (t.emit (.asked r.label)).wantsRecording t.graph) nofun
      exact ht.leaves.trans ⟨rfl, rfl, fun _ => rfl⟩
    exact ⟨h.region, h.indicator, h.files⟩
  rw [react]
  split
  · exact Bond.refl s
  · cases x with
    | request r => exact hr s r hd
    | abandoned =>
        have h := hr (s.log .debug "all supervisor handles dropped" []) .stop hd
        exact ⟨h.region, h.indicator, h.files⟩
    | status m => exact Bond.onStatus (R := Leaves) s m
    | wake => exact Bond.onWake (R := Leaves) s
    | files tree => exact absurd rfl (hx tree)
    | pass | frame | script => exact ⟨rfl, rfl, fun _ => rfl⟩

/-- **Where nothing is shown in a file and nobody else writes, the files stay.** -/
lemma files_run {u : Setup} (hr : u.region = none) (hi : ∀ path, u.indicator ≠ .file path)
    (xs : List Stimulus) (hx : ∀ x ∈ xs, ∀ tree, x ≠ .files tree) :
    (u.begin.run xs).files = u.files := by
  have hl : Leaves u.begin (u.begin.run xs) := by
    induction xs using List.reverseRecOn with
    | nil => exact Bond.refl _
    | append_singleton xs x ih =>
        rw [State.run_concat]
        exact Bond.trans (ih fun y hy => hx y (List.mem_append_left _ hy))
          (leaves_react (run_dated u xs) (hx x (by simp)))
  exact hl.files ⟨hr, hi⟩

/-! ### The files of a run -/

/-- The second of the time of day at an instant of a run. -/
def Setup.secondAt (u : Setup) (t : Nat) : Int :=
  Int.fdiv (u.wallOrigin + t) 1000000000

/-- As often as storage is found during a run, it is mounted at the same place. -/
def Setup.Mounted (u : Setup) (mount : String) (xs : List Stimulus) : Prop :=
  ∀ zs, zs <+: xs → ∀ m, Storage.locate (u.begin.run zs).files u.settings.mountHelperPath = .ok m →
    m = mount

/-- The recordings of a run: when each begins, and the file to which it goes. -/
def Setup.destinations (u : Setup) (xs : List Stimulus) : List (Nat × Option String) :=
  ((u.begin.chronicle xs).filter (·.2.beginsRecording)).map fun a => (a.1, a.2.path?)

/-- The mount point that was found last before a recording begins, and the second, make the
path of its file. -/
lemma exists_of_chronicle (u : Setup) (xs : List Stimulus) {a : Nat × Event}
    (ha : a ∈ u.begin.chronicle xs) (hb : a.2.beginsRecording = true) :
    ∃ zs m, zs <+: xs ∧
      Storage.locate (u.begin.run zs).files u.settings.mountHelperPath = .ok m ∧
      a.2.path? = some (Files.join m (Recording.fileName (u.secondAt a.1))) := by
  induction xs using List.reverseRecOn with
  | nil => cases ha
  | append_singleton xs x ih =>
      rw [chronicle_concat] at ha
      rcases List.mem_append.1 ha with ha | ha
      · obtain ⟨zs, m, hz, hm⟩ := ih ha
        exact ⟨zs, m, hz.trans (List.prefix_append _ _), hm⟩
      · obtain ⟨e, he, rfl⟩ := List.mem_map.1 ha
        obtain ⟨path, hp, m, hm, rfl⟩ := beginsRecording_tells (run_settled u xs) he hb
        have hs := run_sited u xs
        rw [hs.helper] at hm
        refine ⟨xs, m, List.prefix_append _ _, hm, ?_⟩
        rw [hp, Host.unixSeconds, hs.wallOrigin]
        rfl

/-- **The files of the recordings of a run.**  As long as the storage stays mounted where it
is, each recording goes to the file that is named after the second in which it starts.  So
two recordings go to the same file exactly if both start within one second, and never if a
second or more lies between them. -/
theorem destinations_of_run {u : Setup} {mount : String} {xs : List Stimulus}
    (hm : u.Mounted mount xs) :
    (∀ d ∈ u.destinations xs,
        d.2 = some (Files.join mount (Recording.fileName (u.secondAt d.1)))) ∧
      ∀ (i j : Nat) (hi : i < (u.destinations xs).length) (hj : j < (u.destinations xs).length),
        ((u.destinations xs)[i].2 = (u.destinations xs)[j].2 ↔
          u.secondAt (u.destinations xs)[i].1 = u.secondAt (u.destinations xs)[j].1) ∧
        ((u.destinations xs)[i].1 + 1000000000 ≤ (u.destinations xs)[j].1 →
          (u.destinations xs)[i].2 ≠ (u.destinations xs)[j].2) := by
  have hd : ∀ d ∈ u.destinations xs,
      d.2 = some (Files.join mount (Recording.fileName (u.secondAt d.1))) := by
    intro d hd
    obtain ⟨a, ha, rfl⟩ := List.mem_map.1 hd
    obtain ⟨ha, hb⟩ := List.mem_filter.1 ha
    obtain ⟨zs, m, hz, hl, hp⟩ := exists_of_chronicle u xs ha hb
    rw [← hm zs hz m hl]
    exact hp
  have hi : Function.Injective fun n => some (Files.join mount (Recording.fileName n)) :=
    (Option.some_injective _).comp ((Files.join_injective mount).comp Recording.fileName_injective)
  refine ⟨hd, fun i j hi' hj => ?_⟩
  have he : (u.destinations xs)[i].2 = (u.destinations xs)[j].2 ↔
      u.secondAt (u.destinations xs)[i].1 = u.secondAt (u.destinations xs)[j].1 := by
    rw [hd _ (List.getElem_mem hi'), hd _ (List.getElem_mem hj)]
    exact hi.eq_iff
  refine ⟨he, fun hle h => ?_⟩
  have hn := he.1 h
  simp only [Setup.secondAt, Int.fdiv_eq_ediv_of_nonneg _ (show (0 : Int) ≤ 1000000000 by decide)]
    at hn
  omega

end Supervisor

/-! ### A supervisor with storage -/

/-- A tree with a storage: the file `at` says that it is mounted at `usb`. -/
def Files.stick : Files.Tree :=
  { nodes := [(["at"], .file 0), (["usb"], .directory)]
    contents := [[117, 115, 98, 10]]
    home := [] }

lemma Storage.locate_stick : Storage.locate Files.stick "at" = .ok "usb" := by
  have h₁ : Files.Tree.names "at" = ["at"] := by cbv
  have h₂ : Files.Tree.names "usb" = ["usb"] := by cbv
  have h₃ : Files.stick.isFile "at" = true := by
    rw [Files.Tree.isFile, Files.Tree.lookup, Files.Tree.resolve, h₁]
    decide +kernel
  have h₄ : Files.stick.read "at" = .ok [117, 115, 98, 10] := by
    rw [Files.Tree.read, Files.Tree.lookup, Files.Tree.resolve, h₁]
    decide +kernel
  have h₅ : Files.stick.isDirectory "usb" = true := by
    rw [Files.Tree.isDirectory, Files.Tree.lookup, Files.Tree.resolve, h₂]
    decide +kernel
  have h₆ : textOf? [117, 115, 98, 10] = some "usb\n" := by decide +kernel
  have h₇ : String.ofList (mountName "usb\n".toList) = "usb" := by decide +kernel
  simp only [locate, find, Files.Tree.view, h₃, if_true, h₄, h₆, h₇, h₅]
  rfl

namespace Supervisor

open State

/-- A supervisor that was asked to toggle, and records on a graph to a path. -/
def State.recorded (s : State) (g : Graph) (path : String) : State :=
  let (studio, outcome) := (s.emit (.asked "toggle_recording")).toStudio.record g path
  (s.onStudio fun _ => studio).log .debug "recording toggled"
    [("on", .flag true), ("outcome", .shown outcome.detail)]

/-- While the stream runs without a recording, a toggle records where the storage is. -/
lemma react_toggle_of_locate {s : State} {g : Graph} {mount : String} (hx : s.exited = false)
    (hi : s.recordingState = .idle) (hg : s.graph = some g) (ha : s.armed = true)
    (hl : Storage.locate s.files s.helper = .ok mount) :
    s.react (.request .toggleRecording) =
      s.recorded g (Files.join mount (Recording.fileName s.unixSeconds)) := by
  have hw : (s.emit (.asked "toggle_recording")).wantsRecording = true := by
    have hi' : (s.emit (.asked "toggle_recording")).recordingState = .idle := hi
    rw [wantsRecording, hi']
  have ht : (s.emit (.asked "toggle_recording")).toStudio.toggle true s.graph =
      (s.emit (.asked "toggle_recording")).toStudio.record g
        (Files.join mount (Recording.fileName s.unixSeconds)) := by
    have hi' : (s.emit (.asked "toggle_recording")).toStudio.recordingState = .idle := hi
    have ha' : (s.emit (.asked "toggle_recording")).toStudio.armed = true := ha
    have hl' : Storage.locate (s.emit (.asked "toggle_recording")).files
      (s.emit (.asked "toggle_recording")).helper = .ok mount := hl
    simp only [Studio.toggle, Studio.start, hi', hg, ha', if_true, Studio.startOn, hl']
    rfl
  rw [react_of_not_exited hx]
  change (s.emit (.asked "toggle_recording")).toggleRecording = _
  rw [toggleRecording, hw]
  exact congrArg (fun p : Studio × ToggleOutcome => (s.onStudio fun _ => p.1).log .debug
    "recording toggled" [("on", .flag true), ("outcome", .shown p.2.detail)]) ht

/-- A receiver whose storage is mounted at `usb`, as the file `at` says. -/
def Setup.withStick : Setup :=
  { wallOrigin := 1000000000000000000
    files := Files.stick
    settings := { mountHelperPath := "at" }
    profile := .receiver 5600 96 .h264 }

/-- It has begun its first recording. -/
def State.firstTake : State :=
  (Setup.withStick.begin.react (.request .start)).recorded ⟨1, .playing, true⟩
    "usb/recording_20010909_014640.mp4"

/-- The storage stays as long as nobody takes it away. -/
lemma mounted_withStick {xs : List Stimulus} (hx : ∀ x ∈ xs, ∀ tree, x ≠ .files tree) :
    Setup.withStick.Mounted "usb" xs := by
  intro zs hz m hm
  have hf : (Setup.withStick.begin.run zs).files = Files.stick :=
    files_run (u := Setup.withStick) rfl nofun zs fun x hm => hx x (hz.subset hm)
  rw [hf] at hm
  exact Except.ok.inj (hm.symm.trans Storage.locate_stick)

lemma react_firstTake : (Setup.withStick.begin.react (.request .start)).react
    (.request .toggleRecording) = firstTake := by
  have hf : (Setup.withStick.begin.react (.request .start)).files = Files.stick :=
    files_run (u := Setup.withStick) rfl nofun [.request .start] (by simp)
  have hp : Files.join "usb" (Recording.fileName
      (Setup.withStick.begin.react (.request .start)).unixSeconds) =
        "usb/recording_20010909_014640.mp4" := by decide +kernel
  rw [firstTake, ← hp]
  exact react_toggle_of_locate (by decide) (by decide) (by decide) (by decide)
    (by rw [hf]; exact Storage.locate_stick)

/-- As long as nobody takes the storage away, another toggle records there as well. -/
lemma react_run_firstTake (xs : List Stimulus) (hx : ∀ x ∈ xs, ∀ tree, x ≠ .files tree)
    {g : Graph} {path : String} (he : (firstTake.run xs).exited = false)
    (hi : (firstTake.run xs).recordingState = .idle) (hg : (firstTake.run xs).graph = some g)
    (ha : (firstTake.run xs).armed = true)
    (hp : Files.join "usb" (Recording.fileName (firstTake.run xs).unixSeconds) = path) :
    (firstTake.run xs).react (.request .toggleRecording) =
      (firstTake.run xs).recorded g path := by
  have hr : firstTake.run xs =
      Setup.withStick.begin.run (.request .start :: .request .toggleRecording :: xs) := by
    rw [← react_firstTake]
    rfl
  have hf : (firstTake.run xs).files = Files.stick := by
    rw [hr]
    exact files_run (u := Setup.withStick) rfl nofun _ (by simpa using hx)
  have hh : (firstTake.run xs).helper = "at" := by
    rw [hr]
    exact (run_sited Setup.withStick _).helper
  subst hp
  exact react_toggle_of_locate he hi hg ha (by rw [hf, hh]; exact Storage.locate_stick)

/-- Two recordings a second apart, on storage that stays mounted. -/
theorem destinations_of_run_on_stick :
    let u := Setup.withStick
    let xs : List Stimulus := [.request .start, .request .toggleRecording,
      .request .toggleRecording, .pass (Time.seconds 1), .wake, .request .toggleRecording]
    u.Mounted "usb" xs ∧
      u.destinations xs = [(0, some "usb/recording_20010909_014640.mp4"),
        (1000000000, some "usb/recording_20010909_014641.mp4")] ∧
      (∀ d ∈ u.destinations xs,
        d.2 = some (Files.join "usb" (Recording.fileName (u.secondAt d.1)))) ∧
      ∀ (i j : Nat) (hi : i < (u.destinations xs).length) (hj : j < (u.destinations xs).length),
        (u.destinations xs)[i].1 + 1000000000 ≤ (u.destinations xs)[j].1 →
          (u.destinations xs)[i].2 ≠ (u.destinations xs)[j].2 := by
  intro u xs
  have hm : u.Mounted "usb" xs := mounted_withStick (by simp [xs])
  have h := react_run_firstTake (g := ⟨1, .playing, true⟩)
    [.request .toggleRecording, .pass (Time.seconds 1), .wake]
    (by simp) (by decide +kernel) (by decide +kernel) (by decide +kernel) (by decide +kernel) rfl
  refine ⟨hm, ?_, (destinations_of_run hm).1, fun i j hi hj => ((destinations_of_run hm).2 i j hi
    hj).2⟩
  simp only [State.run, List.foldl_cons, List.foldl_nil] at h
  simp only [u, xs, Setup.destinations, chronicle, tells, react_firstTake, h]
  decide +kernel

/-- **Two recordings go to one file** when a drain, or a restart, lies between them and both
begin within one second; so it is not true that different recordings go to different files. -/
theorem shared_destinations :
    let u := Setup.withStick
    let xs : List Stimulus := [.request .start, .request .toggleRecording,
      .request .toggleRecording, .pass (Time.millis 50), .wake, .request .toggleRecording]
    let ys : List Stimulus := [.request .start, .request .toggleRecording, .request .restart,
      .pass (Time.millis 250), .wake, .request .toggleRecording]
    (u.Mounted "usb" xs ∧ u.destinations xs = [(0, some "usb/recording_20010909_014640.mp4"),
        (50000000, some "usb/recording_20010909_014640.mp4")]) ∧
      (u.Mounted "usb" ys ∧ u.destinations ys = [(0, some "usb/recording_20010909_014640.mp4"),
        (250000000, some "usb/recording_20010909_014640.mp4")]) ∧
      ¬∀ (u : Setup) (mount : String) (zs : List Stimulus), u.Mounted mount zs →
        ((u.destinations zs).map Prod.snd).Nodup := by
  intro u xs ys
  have hm : u.Mounted "usb" xs := mounted_withStick (by simp [xs])
  have h₁ := react_run_firstTake (g := ⟨1, .playing, true⟩)
    [.request .toggleRecording, .pass (Time.millis 50), .wake]
    (by simp) (by decide +kernel) (by decide +kernel) (by decide +kernel) (by decide +kernel) rfl
  have h₂ := react_run_firstTake (g := ⟨2, .playing, true⟩)
    [.request .restart, .pass (Time.millis 250), .wake]
    (by simp) (by decide +kernel) (by decide +kernel) (by decide +kernel) (by decide +kernel) rfl
  simp only [State.run, List.foldl_cons, List.foldl_nil] at h₁ h₂
  have hx : u.destinations xs = [(0, some "usb/recording_20010909_014640.mp4"),
      (50000000, some "usb/recording_20010909_014640.mp4")] := by
    simp only [u, xs, Setup.destinations, chronicle, tells, react_firstTake, h₁]
    decide +kernel
  have hy : u.destinations ys = [(0, some "usb/recording_20010909_014640.mp4"),
      (250000000, some "usb/recording_20010909_014640.mp4")] := by
    simp only [u, ys, Setup.destinations, chronicle, tells, react_firstTake, h₂]
    decide +kernel
  refine ⟨⟨hm, hx⟩, ⟨mounted_withStick (by simp [ys]), hy⟩, fun h => ?_⟩
  have hn := h u "usb" xs hm
  rw [hx] at hn
  exact absurd hn (by decide)

end Supervisor

end StreamWarden
