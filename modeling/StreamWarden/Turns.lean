/-!
# Taking turns

Several tasks share one processor. Whoever has something to do is on a roster;
the tasks on it take their turns in the order in which they came, and one turn is
at most `turnLength` pieces of work. A task that has used a whole turn up rests
until the round is over; of those that rest, the last to stop goes on first.

* `Roster.holds_wake`: who is woken is on the roster.
* `Roster.holds_renew`: a new round loses nobody and adds nobody.
-/

namespace StreamWarden

/-- The pieces of work in one turn. -/
def turnLength : Nat := 128

/-- The turns in one round. -/
def roundLength : Nat := 61

/-- The order in which tasks come to their turns. -/
structure Roster (τ : Type) where
  ready : List τ := []
  /-- Those that have used a whole turn up, the last first. -/
  resting : List τ := []
  deriving Repr

namespace Roster

variable {τ : Type} [BEq τ]

/-- A task is on the roster. -/
def holds (r : Roster τ) (t : τ) : Bool := r.ready.contains t || r.resting.contains t

/-- Nobody is on the roster. -/
def isQuiet (r : Roster τ) : Bool := r.ready.isEmpty && r.resting.isEmpty

/-- Puts a task behind the others, unless it is on the roster already. -/
def wake (r : Roster τ) (t : τ) : Roster τ :=
  if r.holds t then r else { r with ready := r.ready ++ [t] }

/-- Puts some tasks behind the others. -/
def wakeAll (r : Roster τ) (tasks : List τ) : Roster τ := tasks.foldl wake r

/-- Lets a task rest that has used its turn up. -/
def rest (r : Roster τ) (t : τ) : Roster τ := { r with resting := t :: r.resting }

/-- The task whose turn it is, and the roster without it. -/
def next? (r : Roster τ) : Option (τ × Roster τ) :=
  match r.ready with
  | [] => none
  | t :: ready => some (t, { r with ready := ready })

/-- Begins a new round: those that rested come behind the others. -/
def renew (r : Roster τ) : Roster τ := { ready := r.ready ++ r.resting }

theorem holds_wake [LawfulBEq τ] (r : Roster τ) (t : τ) : (r.wake t).holds t = true := by
  simp only [wake]
  split
  · assumption
  · simp [holds]

theorem holds_renew (r : Roster τ) (t : τ) : r.renew.holds t = r.holds t := by
  simp [holds, renew, List.contains_eq_any_beq]

end Roster

end StreamWarden
