import StreamWarden.Proofs.Bonds
import StreamWarden.Proofs.Paths
import StreamWarden.Proofs.Run

/-!
# The flag shows whether there is a session

Other programs read from the status region whether a recording is being written.  The flag
is set when a session begins and cleared when it ends, so that it shows at every boundary
whether there is one, as long as nobody else writes to the first word of the region.  The
lamp could do so: it is driven through a path, and must not be driven through one that leads
to the file of the region.

* `Wired`: the region can be written to, and the lamp is elsewhere; `Wired.announce` says
  that the flag is then as it is announced.
* `Outward`: a property that looks at what a recorder shows alone; `Outward.toggle` and
  `Outward.detach` say that the recorder keeps it, `keeps_react` that every answer does.
* `Shown`: the flag shows whether there is a session, which is such a property.
* `Studio.Allows`: other files with the same first word; `Shown.files`: they show the same.
-/

namespace StreamWarden

namespace Region

/-- To set the flag does not take the bytes away. -/
lemma bytes_set_ne_nil {r : Region} {t : Files.Tree} (h : r.file < t.contents.length)
    (hb : t.bytes r.file ≠ []) (on : Bool) : (r.set t on).bytes r.file ≠ [] := by
  intro hn
  rw [set, Files.Tree.bytes_setBytes h] at hn
  have hl := congrArg List.length hn
  rw [length_setFlag] at hl
  exact hb (List.eq_nil_of_length_eq_zero hl)

end Region

namespace Studio

variable {r : Region} {s : Studio}

/-- The region can be written to, and the lamp is not driven through its file. -/
structure Wired (r : Region) (s : Studio) : Prop where
  region : s.region = some r
  here : r.file < s.files.contents.length
  bytes : s.files.bytes r.file ≠ []
  apart : ∀ path, s.indicator = .file path → s.files.Avoids path r.file

/-- The flag shows whether there is a session. -/
structure Shown (r : Region) (s : Studio) : Prop extends Wired r s where
  flag : r.isSet s.files = s.session.isSome

namespace Wired

/-- To drive the lamp leaves the region alone. -/
lemma drive (h : Wired r s) (on : Bool) :
    Wired r (s.drive on) ∧ (s.drive on).files.bytes r.file = s.files.bytes r.file := by
  rw [Studio.drive]
  split
  · exact ⟨h, rfl⟩
  · exact ⟨⟨h.region, h.here, h.bytes, h.apart⟩, rfl⟩
  · rename_i path hi
    split
    · rename_i files hw
      obtain ⟨hb, hh, ha⟩ := (h.apart path hi).write h.here hw
      refine ⟨⟨h.region, hh, hb ▸ h.bytes, fun other ho => ?_⟩, hb⟩
      obtain rfl : path = other := Indicator.file.inj (hi.symm.trans ho)
      exact ha
    · exact ⟨⟨h.region, h.here, h.bytes, h.apart⟩, rfl⟩

/-- To announce something sets the flag in the file of the region, and changes nothing else
there. -/
lemma bytes_announce (h : Wired r s) (on : Bool) : Wired r (s.announce on) ∧
    (s.announce on).files.bytes r.file = Region.setFlag on (s.files.bytes r.file) := by
  have hset : Wired r { s with files := r.set s.files on } :=
    { region := h.region
      here := by simpa [Region.set, Files.Tree.setBytes] using h.here
      bytes := Region.bytes_set_ne_nil h.here h.bytes on
      apart := fun path hi => (h.apart path hi).setBytes _ _ }
  have ha : s.announce on = Studio.drive { s with files := r.set s.files on } on := by
    rw [Studio.announce]
    split
    · rename_i r' hr
      obtain rfl : r = r' := Option.some.inj (h.region.symm.trans hr)
      rfl
    · rename_i hr
      rw [h.region] at hr
      cases hr
  obtain ⟨hd, hb⟩ := hset.drive on
  rw [ha, hb]
  exact ⟨hd, Files.Tree.bytes_setBytes h.here _⟩

/-- **The flag is as it is announced.** -/
theorem announce (h : Wired r s) (on : Bool) :
    Wired r (s.announce on) ∧ r.isSet (s.announce on).files = on := by
  obtain ⟨hw, hb⟩ := h.bytes_announce on
  exact ⟨hw, by rw [Region.isSet, hb, Region.flagOf_setFlag h.bytes]⟩

end Wired

/-- A property of studios that looks at nothing but the region, the files, the indicator and
whether there is a session, and that holds again after it was announced that a session begins or
ends. -/
class Outward (P : Studio → Prop) : Prop where
  of_eq {s t : Studio} (h : P s) (hr : t.region = s.region) (hf : t.files = s.files)
    (hi : t.indicator = s.indicator) (hs : t.session.isSome = s.session.isSome) : P t
  announced {s : Studio} (h : P s) (n : Nat) (b : Backend) (session : Option Session) :
    P (announce { s with sessionsStarted := n, backend := b, session := session } session.isSome)

namespace Outward

variable {P : Studio → Prop} [Outward P]

lemma schedule (h : P s) (deadline : Option Nat) : P (s.onHost (Host.schedule · deadline)) := by
  rcases s.schedule_cases deadline with ⟨-, hs⟩ | ⟨-, hs⟩ <;> rw [onHost, hs]
  · exact h
  · exact of_eq h rfl rfl rfl rfl

lemma detach (h : P s) (graph : Option Graph) (reason : String) : P (s.detach graph reason) := by
  cases hs : s.session with
  | none =>
      have hd : s.detach graph reason = s := by rw [Studio.detach, hs]
      rwa [hd]
  | some session =>
      have hd := announced h s.sessionsStarted
        (if graph.isSome then s.backend.detach session.branch else s.backend) none
      rw [Studio.detach, hs]
      exact of_eq hd rfl rfl rfl rfl

lemma record (h : P s) (graph : Graph) (path : String) : P (s.record graph path).1 := by
  rcases hb : s.backend.attach graph { session := s.sessionsStarted + 1, location := path }
    with ⟨b, e | branch⟩
  · simp only [Studio.record, hb]
    exact of_eq h rfl rfl rfl rfl
  · rcases hb' : b.activate with ⟨b', e | ⟨⟩⟩
    · simp only [Studio.record, hb, hb']
      exact of_eq h rfl rfl rfl rfl
    · have hr := announced h (s.sessionsStarted + 1) b'
        (some { id := s.sessionsStarted + 1, path, branch, state := .active })
      simp only [Studio.record, hb, hb']
      exact of_eq hr rfl rfl rfl rfl

lemma start (h : P s) (graph : Option Graph) : P (s.start graph).1 := by
  simp only [Studio.start]
  split
  case h_5 =>
    split
    · split
      · rw [Studio.startOn]
        split
        · exact of_eq h rfl rfl rfl rfl
        · exact record h _ _
      · exact of_eq h rfl rfl rfl rfl
    · exact of_eq h rfl rfl rfl rfl
  all_goals exact h

lemma drain (h : P s) {session : Session} (hs : s.session = some session) :
    P (s.drain session) := by
  have hd : P { s with
      backend := s.backend.beginDrain
      session := some { session with
        state := .draining
        drainDeadline := some (s.now + s.drainGrace) } } :=
    of_eq h rfl rfl rfl (by rw [hs]; rfl)
  exact of_eq (schedule hd (some (s.now + s.drainGrace))) rfl rfl rfl rfl

lemma stop (h : P s) (graph : Option Graph) : P (s.stop graph).1 := by
  rw [Studio.stop]
  split
  · exact h
  · rename_i session hs
    split
    · split
      · exact drain h hs
      · exact detach h none _
    · exact h

/-- **A toggle keeps what looks at nothing else.** -/
theorem toggle (h : P s) (on : Bool) (graph : Option Graph) : P (s.toggle on graph).1 := by
  cases on with
  | true => exact start h graph
  | false => exact stop h graph

end Outward

namespace Shown

variable {t : Studio}

/-- Only the region, the files, the indicator and the session matter. -/
lemma of_eq (h : Shown r s) (hr : t.region = s.region) (hf : t.files = s.files)
    (hi : t.indicator = s.indicator) (hs : t.session.isSome = s.session.isSome) :
    Shown r t where
  region := hr.trans h.region
  here := hf ▸ h.here
  bytes := hf ▸ h.bytes
  apart := hf ▸ hi ▸ h.apart
  flag := (congrArg r.isSet hf).trans (h.flag.trans hs.symm)

/-- What is announced of another session is whether there is one. -/
lemma announced (h : Shown r s) (n : Nat) (b : Backend) (session : Option Session) :
    Shown r (announce { s with sessionsStarted := n, backend := b, session := session }
      session.isSome) := by
  have hw : Wired r { s with sessionsStarted := n, backend := b, session := session } :=
    ⟨h.region, h.here, h.bytes, h.apart⟩
  obtain ⟨ha, hf⟩ := hw.announce session.isSome
  exact ⟨ha, by rw [hf, announce_session]⟩

end Shown

/-- **That the flag shows whether there is a session** is such a property. -/
instance outward_shown (r : Region) : Outward (Shown r) where
  of_eq := Shown.of_eq
  announced := Shown.announced

/-! ### Other files -/

/-- The tree leaves the first word of the region as it is, and is not one in which the lamp is
driven through the file of the region. -/
structure Allows (s : Studio) (r : Region) (tree : Files.Tree) : Prop where
  here : r.file < tree.contents.length
  word : (tree.bytes r.file).take Region.wordSize = (s.files.bytes r.file).take Region.wordSize
  apart : ∀ path, s.indicator = .file path → tree.Avoids path r.file

/-- The region can be written to in such a tree. -/
lemma Wired.files (h : Wired r s) {tree : Files.Tree} (ha : s.Allows r tree) :
    Wired r { s with files := tree } where
  region := h.region
  here := ha.here
  bytes := by
    intro hn
    have hw := ha.word
    have hn' : tree.bytes r.file = [] := hn
    rw [hn', List.take_nil, eq_comm, List.take_eq_nil_iff] at hw
    exact hw.elim (by simp [Region.wordSize]) h.bytes
  apart := ha.apart

/-- Other files with the same first word show the same. -/
lemma Shown.files (h : Shown r s) {tree : Files.Tree} (ha : s.Allows r tree) :
    Shown r { s with files := tree } :=
  ⟨h.toWired.files ha,
    (congrArg (fun word : List UInt8 => word.any (· ≠ 0)) ha.word).trans h.flag⟩

end Studio

namespace Supervisor

open State

variable {r : Region} {s : State}

/-- A property of the recorder goes on to hold. -/
def Keeps (P : Studio → Prop) (s t : State) : Prop := P s.toStudio → P t.toStudio

section Outward

open Studio (Outward)

variable {P : Studio → Prop} [Outward P]

/-- All that a supervisor does keeps what its recorder shows. -/
instance bond_keeps : Bond (Keeps P) where
  refl _ := id
  trans h h' := h' ∘ h
  put _ _ _ _ h := Outward.of_eq h rfl rfl rfl rfl
  exceed _ _ _ h := Outward.of_eq h rfl rfl rfl rfl
  stream _ _ hs _ _ h := hs ▸ h
  armed _ _ h := Outward.of_eq h rfl rfl rfl rfl
  engine _ _ _ h := Outward.of_eq h rfl rfl rfl rfl
  detach _ graph reason h := Outward.detach h graph reason

/-- So does the recorder when it is toggled by a request. -/
lemma keeps_onRequest (s : State) (q : Request) : Keeps P s (s.onRequest q) :=
  fun h => Bond.onRequest (R := Keeps P) s q (fun _ _ => id)
    (fun _ h => Outward.of_eq (Outward.toggle h _ _) rfl rfl rfl rfl)
    (Outward.of_eq h rfl rfl rfl rfl)

/-- **Every answer keeps it**, as long as it does not get lost when somebody changes the files. -/
lemma keeps_react {x : Stimulus} (h : P s.toStudio)
    (hx : ∀ tree, x = .files tree → P (s.answer x).toStudio) : P (s.react x).toStudio := by
  rw [State.react]
  split
  · exact h
  · cases x with
    | request q => exact keeps_onRequest s q h
    | abandoned =>
        exact keeps_onRequest (s.log .debug "all supervisor handles dropped" []) .stop
          (Outward.of_eq h rfl rfl rfl rfl)
    | status m => exact Bond.onStatus (R := Keeps P) s m h
    | wake => exact Bond.onWake (R := Keeps P) s h
    | pass | frame | script => exact Outward.of_eq h rfl rfl rfl rfl
    | files tree => exact hx tree rfl

end Outward

end Supervisor

end StreamWarden
