import StreamWarden.Excess

/-!
# The event bus

Every published item reaches every reader that subscribed before, in order. The
bus keeps only the latest items, a power of two of them; a reader that falls
further behind is told how many it missed and goes on with the oldest item still
kept.

* `Bus.read` is what a reader sees next; `Bus.readUpTo` is what it sees in one go.
* `Bus.next_read_le`: a reader never gets ahead of what was published.
-/

namespace StreamWarden

/-- The least power of two that is not below `n`, and at least one. -/
def powerOfTwoAbove (n : Nat) : Nat :=
  if n ≤ 1 then 1 else Nat.pow 2 ((n - 1).log2 + 1)

/-- A bus: the items published so far, the latest `capacity` of which are kept. -/
structure Bus (α : Type) where
  capacity : Nat
  published : Array α := #[]
  closed : Bool := false

/-- What a reader finds. -/
inductive Bus.Reading (α : Type) where
  /-- The next item. -/
  | item (value : α)
  /-- That it has missed this many items. -/
  | missed (count : Nat)
  /-- Nothing yet. -/
  | empty
  /-- Nothing, and nothing will come. -/
  | closed
  deriving DecidableEq, Repr

namespace Bus

variable {α : Type}

/-- A bus that keeps at least `wanted` items, and at least one. -/
def ofCapacity (wanted : Nat) : Bus α := { capacity := powerOfTwoAbove wanted }

/-- Why no bus can keep `wanted` items, if none can: they are too many to be numbered
in 63 bits, or would take more memory than can be addressed. -/
def excess? (wanted : Nat) : Option Excess :=
  if Nat.pow 2 63 ≤ wanted then some .busNumbers
  else if Nat.pow 2 56 ≤ powerOfTwoAbove wanted then some .busMemory
  else none

/-- Publishes an item. -/
def publish (b : Bus α) (a : α) : Bus α := { b with published := b.published.push a }

/-- Ends the publishing. -/
def close (b : Bus α) : Bus α := { b with closed := true }

/-- The position of a new reader: behind all that was published. -/
def subscribe (b : Bus α) : Nat := b.published.size

/-- How far back the kept items reach. -/
def oldest (b : Bus α) : Nat := b.published.size - b.capacity

/-- What the reader at a position finds, and its position afterwards. -/
def read (b : Bus α) (position : Nat) : Reading α × Nat :=
  if position < b.oldest then (.missed (b.oldest - position), b.oldest)
  else
    match b.published[position]? with
    | some a => (.item a, position + 1)
    | none => (if b.closed then .closed else .empty, position)

/-- What the reader at a position finds in up to `n` readings, and its position
afterwards. -/
def readUpTo (b : Bus α) : Nat → Nat → List (Reading α) × Nat
  | 0, position => ([], position)
  | n + 1, position =>
    match b.read position with
    | (.item a, next) =>
      let (later, last) := b.readUpTo n next
      (.item a :: later, last)
    | (.missed k, next) =>
      let (later, last) := b.readUpTo n next
      (.missed k :: later, last)
    | (_, _) => ([], position)

/-- All that the reader at a position finds until nothing is left. -/
def readAll (b : Bus α) (position : Nat) : List (Reading α) :=
  (b.readUpTo (b.published.size - position + 1) position).1

theorem next_read_le (b : Bus α) {position : Nat} (h : position ≤ b.published.size) :
    (b.read position).2 ≤ b.published.size := by
  simp only [read]
  split
  · simp only [oldest]; omega
  · split
    · rename_i hs
      exact (Array.getElem?_eq_some_iff.1 hs).1
    · exact h

end Bus

end StreamWarden
