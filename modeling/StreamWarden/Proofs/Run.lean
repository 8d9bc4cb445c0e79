import Mathlib.Tactic
import StreamWarden.Supervisor.Step

/-!
# Runs of a supervisor

A run is what comes of a list of stimuli, met one after the other from a state in
which nothing has happened yet. Four stimuli are iterations of the loop: a request,
the end of all handles, a status message and a wake-up, in any order and at any
instant. The others are what the surroundings do between two iterations: time
passes, a frame passes a probe, somebody changes the files, and a script decides
which calls of the backend will be refused.

* `Setup` is all that is chosen before a run, and `Setup.begin` the state in which the
  run begins.
* `State.react` is the answer to one stimulus: the loop takes no iteration once it
  is over.
* `State.run` is the state after a list of stimuli; since every part of a run is a
  run, what holds after every list holds at every boundary between two iterations.

A run goes on when a limit of the machine was met; a loop breaks down there, and is a run
up to that point.
-/

namespace StreamWarden

namespace Supervisor

/-- The refusals that wait in a backend, by the calls for which they wait. -/
structure Script where
  builds : List BuildError := []
  plays : List BuildError := []
  attaches : List BranchError := []
  activations : List BranchError := []

/-- What a supervisor can meet. -/
inductive Stimulus where
  /-- A request is handled. -/
  | request (r : Request)
  /-- All handles are gone, which counts as a request to stop. -/
  | abandoned
  /-- A status message is handled. -/
  | status (m : StatusMessage)
  /-- The timer wakes the loop, whether anything is due or not. -/
  | wake
  /-- Time passes. -/
  | pass (span : Nat)
  /-- A frame passes the probe with a number. -/
  | frame (number : Nat)
  /-- The files become others. -/
  | files (tree : Files.Tree)
  /-- From now on these calls of the backend are refused. -/
  | script (s : Script)

/-- The stimulus is an iteration of the loop. -/
def Stimulus.isIteration : Stimulus → Bool
  | .request _ | .abandoned | .status _ | .wake => true
  | .pass _ | .frame _ | .files _ | .script _ => false

/-- The stimulus is that time passes. -/
def Stimulus.isTime : Stimulus → Bool
  | .pass _ => true
  | _ => false

lemma Stimulus.exists_of_isTime {x : Stimulus} (hx : x.isTime = true) :
    ∃ span, x = .pass span := by
  cases x with
  | pass span => exact ⟨span, rfl⟩
  | _ => cases hx

/-- All that is chosen before a run: the clock and its end, the files as they are found, the first
script, the settings, the profile, the region, the indicator and the random numbers. -/
structure Setup where
  now : Nat := 0
  /-- The end of the clock, which is another one on every machine. -/
  horizon : Nat := Time.horizon
  wallOrigin : Int := 0
  files : Files.Tree := Files.Tree.fresh
  script : Script := {}
  settings : Settings := {}
  profile : Profile
  region : Option Region := none
  indicator : Indicator := .none
  draws : Nat → Nat := fun _ => 0

/-- The host of a run that begins: nothing was done on it yet. -/
def Setup.host (u : Setup) : Host :=
  { now := u.now
    horizon := u.horizon
    wallOrigin := u.wallOrigin
    files := u.files
    backend :=
      { buildRefusals := u.script.builds
        playRefusals := u.script.plays
        attachRefusals := u.script.attaches
        activateRefusals := u.script.activations } }

/-- The state in which a run begins. -/
def Setup.begin (u : Setup) : State :=
  { State.new u.host u.settings u.profile u.region u.indicator with draws := u.draws }

namespace State

/-- Lets a backend refuse the calls of a script. -/
def follow (s : State) (script : Script) : State :=
  s.onHost fun h => { h with backend := { h.backend with
    buildRefusals := script.builds
    playRefusals := script.plays
    attachRefusals := script.attaches
    activateRefusals := script.activations } }

/-- Lets time pass. -/
def pass (s : State) (span : Nat) : State := s.onHost fun h => { h with now := h.now + span }

/-- Answers a stimulus. -/
def answer (s : State) : Stimulus → State
  | .request r => s.onRequest r
  | .abandoned => (s.log .debug "all supervisor handles dropped" []).onRequest .stop
  | .status m => s.onStatus m
  | .wake => s.onWake
  | .pass span => s.pass span
  | .frame number => s.onHost (Host.markProbe · number)
  | .files tree => s.onHost fun h => { h with files := tree }
  | .script script => s.follow script

/-- Answers a stimulus, unless it is an iteration of a loop that is over. -/
def react (s : State) (x : Stimulus) : State :=
  if s.exited && x.isIteration then s else s.answer x

/-- What the surroundings do happens whether the loop is over or not. -/
lemma react_of_not_isIteration (s : State) {x : Stimulus} (hx : x.isIteration = false) :
    s.react x = s.answer x := by
  rw [react, hx, Bool.and_false]
  rfl

/-- A loop that is not over answers everything. -/
lemma react_of_not_exited {s : State} (hs : s.exited = false) (x : Stimulus) :
    s.react x = s.answer x := by
  rw [react, hs, Bool.false_and]
  rfl

lemma react_pass (s : State) (span : Nat) : s.react (.pass span) = s.pass span :=
  s.react_of_not_isIteration rfl

/-- The state after some stimuli. -/
def run (s : State) (xs : List Stimulus) : State := xs.foldl react s

lemma run_concat (s : State) (xs : List Stimulus) (x : Stimulus) :
    s.run (xs ++ [x]) = (s.run xs).react x := by
  simp [run]

/-- What holds at the beginning and is kept by every answer holds in every run. -/
lemma run_invariant {P : State → Prop} (hP : ∀ s x, P s → P (s.react x)) {s : State}
    (h : P s) (xs : List Stimulus) : P (s.run xs) := by
  induction xs using List.reverseRecOn with
  | nil => exact h
  | append_singleton xs x ih =>
      rw [run_concat]
      exact hP _ x ih

end State

end Supervisor

end StreamWarden
