import StreamWarden.Proofs.Ledger
import StreamWarden.Proofs.Moves

/-!
# The stock of a supervisor

A graph is given back on several ways: when it is replaced, when all is stopped, when it
refuses to play; and a branch when its drain is over, when it is forced to end, when one
of its stages fails.  The counts of the backend are cut off at zero, and would not show
a graph that is given back twice; so this is settled on the ledger, on which every move
leaves exactly what the supervisor holds.

* `stock`: what a supervisor holds; `Booked`: its backend has that on its books.
* `Move.booked`: every move keeps that so; `react_booked`, `run_booked`: so do all answers.
-/

namespace StreamWarden.Supervisor

open State

namespace State

/-- What a supervisor holds: the number of its attempts, that of its graph, and the attach
point of its session. -/
def stock (s : State) : Stock :=
  { attempts := s.generation
    graph := s.liveGeneration
    point := s.session.map (·.branch.attachPoint) }

lemma stock_of_idle {s : State} {graph : Graph} (hg : s.graph = some graph)
    (hs : s.session = none) : s.stock = ⟨s.generation, some s.generation, none⟩ := by
  simp [stock, liveGeneration, hg, hs]

lemma stock_of_session {s : State} {graph : Graph} {session : Session}
    (hg : s.graph = some graph) (hs : s.session = some session) :
    s.stock = ⟨s.generation, some s.generation, some session.branch.attachPoint⟩ := by
  simp [stock, liveGeneration, hg, hs]

lemma stock_of_none {s : State} (hg : s.graph = none) (hs : s.session = none) :
    s.stock = ⟨s.generation, none, none⟩ := by
  simp [stock, liveGeneration, hg, hs]

end State

/-- **The backend has on its books what the supervisor holds**, and the graph goes by the
number of the latest attempt. -/
structure Booked (s : State) : Prop where
  books : s.backend.Books s.stock
  graph : ∀ graph, s.graph = some graph → graph.generation = s.generation

namespace Booked

variable {s t : State} {es : List Event}

lemma told (hb : Booked s) (h : Told s es t) : Booked t := by
  obtain ⟨files, outs, rfl, -⟩ := h
  exact ⟨hb.books, hb.graph⟩

/-- When the session has ended, its attach point is free. -/
lemma freed (hb : Booked s) (hs : Settled s) :
    (s.freed s.graph).Books ⟨s.generation, s.liveGeneration, none⟩ := by
  cases hx : s.session with
  | none =>
      have hk : s.stock = ⟨s.generation, s.liveGeneration, none⟩ := by rw [stock, hx]; rfl
      rw [Studio.freed, hx, ← hk]
      exact hb.books
  | some session =>
      obtain ⟨graph, hg⟩ := Option.isSome_iff_exists.1 (hs.graph.2 (hs.session (by rw [hx]; rfl)))
      have h := hb.books
      rw [stock_of_session hg hx] at h
      rw [Studio.freed, hx, liveGeneration, hg]
      exact h.detach rfl

/-- After a teardown, nothing is on the books. -/
lemma cleared (hb : Booked s) (hs : Settled s) :
    s.cleared.Books ⟨s.generation, none, none⟩ := by
  have h := hb.freed hs
  rw [State.cleared]
  cases hg : s.graph with
  | none =>
      rw [liveGeneration, hg] at h
      exact h
  | some graph =>
      rw [liveGeneration, hg] at h
      exact h.teardown (hb.graph graph hg)

/-- The recorder takes an attach point when it begins a session, gives it back when the
session ends, and gives it back at once when there is no session after all. -/
lemma act (hb : Booked s) (hs : Settled s) {a : Studio}
    (h : Studio.Act s.graph s.now s.toStudio es a) : Booked (s.onStudio fun _ => a) := by
  have books := hb.books
  cases h with
  | remark _ h =>
      obtain ⟨files, outs, rfl, -⟩ := h
      exact ⟨books, hb.graph⟩
  | refuse hg _ _ ha h =>
      obtain ⟨files, outs, rfl, -⟩ := h
      exact ⟨books.attach_error ha, hb.graph⟩
  | giveBack hg _ hn ha ha' h =>
      obtain ⟨files, outs, rfl, -⟩ := h
      rw [stock_of_idle hg hn] at books
      refine ⟨?_, hb.graph⟩
      change Backend.Books _ s.stock
      rw [stock_of_idle hg hn]
      exact ((books.attach_ok ha).activate ha').detach rfl
  | begin hg _ hn ha ha' hx h =>
      obtain ⟨files, outs, rfl, -⟩ := h
      rw [stock_of_idle hg hn] at books
      refine ⟨?_, hb.graph⟩
      rw [stock_of_session (s := s.onStudio _) hg rfl, hx]
      exact (books.attach_ok ha).activate ha'
  | drain hg hx _ h =>
      obtain ⟨files, outs, rfl, -⟩ := h
      obtain ⟨graph, hg⟩ := Option.isSome_iff_exists.1 hg
      rw [stock_of_session hg hx] at books
      refine ⟨?_, hb.graph⟩
      rw [stock_of_session (s := s.onStudio _) hg rfl]
      exact books.beginDrain
  | fail _ h | finish _ _ h =>
      obtain ⟨files, outs, rfl, -⟩ := h
      exact ⟨hb.freed hs, hb.graph⟩

/-- An attempt that succeeds leaves one graph. -/
lemma launched (hb : Booked s) (hs : Settled s) (hp : s.phase ≠ .running) {b : Backend}
    {graph : Graph} (ha : s.answerOf = (b, .ok graph)) :
    Booked { s.launched b graph with wakeAt := none } := by
  have hx := hs.session_eq_none hp
  have books := hb.books
  rw [stock_of_none (hs.graph_eq_none hp) hx] at books
  obtain ⟨hk, hn⟩ := books.raise_ok rfl ha
  refine ⟨?_, ?_⟩
  · rw [stock_of_idle (s := { s.launched b graph with wakeAt := none }) rfl hx]
    exact hk
  · rintro _ ⟨⟩
    exact hn

/-- An attempt that fails leaves none. -/
lemma parked (hb : Booked s) (hs : Settled s) (hp : s.phase ≠ .running) {b : Backend}
    {e : BuildError} (ha : s.answerOf = (b, .error e)) : Booked (s.parked b) := by
  have hg := hs.graph_eq_none hp
  have hx := hs.session_eq_none hp
  have books := hb.books
  rw [stock_of_none hg hx] at books
  refine ⟨?_, fun graph h => ?_⟩
  · rw [stock_of_none (s := s.parked b) hg hx]
    exact books.raise_error rfl ha
  · have hn : s.graph = some graph := h
    rw [hg] at hn
    cases hn

lemma replacing (hb : Booked s) (hs : Settled s) (cause : RestartCause) :
    Booked (s.replacing cause) := ⟨hb.cleared hs, nofun⟩

lemma ended (hb : Booked s) (hs : Settled s) : Booked s.ended := ⟨hb.cleared hs, nofun⟩

end Booked

/-- **Every move leaves on the books what the supervisor holds.** -/
theorem Move.booked {s t : State} {es : List Event} (h : Move s es t) (hs : Settled s)
    (hb : Booked s) : Booked t := by
  cases h with
  | remark _ h => exact hb.told h
  | record h => exact hb.act hs h
  | look _ h =>
      have hl : Booked { s with watchdog := s.watchdog.arm s.now } := ⟨hb.books, hb.graph⟩
      exact hl.told h
  | launch _ hn ha h => exact (hb.launched hs (Phase.ne_running_of_next hn) ha).told h
  | miss _ hn ha h => exact (hb.parked hs (Phase.ne_running_of_next hn) ha).told h
  | restart _ h => exact (hb.replacing hs _).told h
  | stop _ h => exact (hb.ended hs).told h
  | leave _ h =>
      have hl : Booked { s with exited := true } := ⟨hb.books, hb.graph⟩
      exact hl.told h
  | frame => exact ⟨hb.books, hb.graph⟩
  | script =>
      refine ⟨?_, hb.graph⟩
      exact { hb.books with }

lemma booked_begin (u : Setup) : Booked u.begin where
  books := ⟨rfl, .begin, rfl, rfl, nofun⟩
  graph := nofun

/-- Every answer leaves on the books what the supervisor holds. -/
lemma react_booked {s : State} (hb : Booked s) (hs : Settled s) (x : Stimulus) :
    Booked (s.react x) :=
  react_keeps (P := Booked) (fun hs hb h => h.booked hs hb) (fun _ hb => ⟨hb.books, hb.graph⟩)
    hs hb x

/-- **In every run the backend has on its books what the supervisor holds.** -/
theorem run_booked (u : Setup) (xs : List Stimulus) : Booked (u.begin.run xs) :=
  run_keeps (P := Booked) (fun hs hb h => h.booked hs hb)
    (fun _ hb => ⟨hb.books, hb.graph⟩) u (booked_begin u) xs

/-- Each attempt has built a graph or failed. -/
lemma Booked.attempts_eq {s : State} (hb : Booked s) :
    s.backend.stats.builds + s.backend.stats.failedBuilds = s.generation :=
  hb.books.balanced.attempts

end StreamWarden.Supervisor
