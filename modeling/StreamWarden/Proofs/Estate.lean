import StreamWarden.Proofs.Conservation
import StreamWarden.Proofs.Ending

/-!
# Nothing is lost and nothing is kept

What a backend has on its books is what the supervisor of a loop holds, however things happen to
the loop.  A loop whose run is over holds nothing.  A loop that breaks down lets go of its graph,
which is torn down on the way; but nobody detaches the branch of a session then, so that its
attach point stays in use for good.

* `Loop.stock`: what a loop holds; `Loop.Accounted`: its backend has that on its books.
* `accounted_after`: so it is whatever happens.
* **`conservation_of_loop`**: what the backend counts, at every boundary and at every moment in
  between, and what is left at the end.
-/

namespace StreamWarden.Supervisor

open State

variable {l : Loop}

namespace Loop

/-- What a loop holds: what its supervisor does, but no graph when it has broken down. -/
def stock (l : Loop) : Stock :=
  { l.state.stock with graph := if l.excess.isSome then none else l.state.liveGeneration }

lemma stock_of_none (h : l.excess = none) : l.stock = l.state.stock := by
  rw [stock, h]
  rfl

/-- **The backend has on its books what the loop holds**, and as long as the loop has not broken
down, its graph goes by the number of the latest attempt, and its status is the one that is
published. -/
structure Accounted (l : Loop) : Prop where
  books : l.state.backend.Books l.stock
  graph : l.excess = none → ∀ graph, l.state.graph = some graph →
    graph.generation = l.state.generation
  status : l.excess = none → l.status = l.state.status

lemma Accounted.booked (h : l.Accounted) (hn : l.excess = none) : Booked l.state where
  books := stock_of_none hn ▸ h.books
  graph := h.graph hn

/-- A loop that breaks down tears down its graph, and leaves the branch of a session as it is. -/
lemma accounted_proceed {s : State} (hn : l.excess = none) (hb : Booked s) :
    (l.proceed s).Accounted := by
  rcases l.proceed_cases s with ⟨-, hp⟩ | ⟨e, -, hp⟩ <;> rw [hp]
  · refine ⟨?_, fun _ => hb.graph, fun _ => rfl⟩
    have hk : (l.enter s).stock = s.stock := stock_of_none hn
    rw [hk]
    exact hb.books
  · refine ⟨?_, nofun, nofun⟩
    have books := hb.books
    change Backend.Books ((s.graph.map s.backend.teardown).getD s.backend)
      ⟨s.generation, none, s.stock.point⟩
    cases hg : s.graph with
    | none =>
        have hl : s.stock.graph = none := by rw [State.stock, liveGeneration, hg]; rfl
        rw [← hl]
        exact books
    | some graph =>
        have hl : s.stock.graph = some s.generation := by rw [State.stock, liveGeneration, hg]; rfl
        have hk : s.stock = ⟨s.generation, some s.generation, s.stock.point⟩ := by rw [← hl]; rfl
        rw [hk] at books
        exact books.teardown (hb.graph graph hg)

/-- What is no step changes the host of a supervisor at most, and nothing of the books. -/
lemma host_happen (l : Loop) {m : Happening} (hm : m ≠ .step) :
    ∃ f, (l.happen m).state = l.state.onHost f ∧
      ∀ k, l.state.backend.Books k → (f l.state.toHost).backend.Books k := by
  cases m with
  | step => exact absurd rfl hm
  | publish => exact ⟨_, l.publish_keeps.1, fun _ h => h⟩
  | post r => exact ⟨id, (l.post_keeps r).1, fun _ h => h⟩
  | report m => exact ⟨id, (l.postStatus_keeps m).1, fun _ h => h⟩
  | dropHandles | endBridge => exact ⟨id, rfl, fun _ h => h⟩
  | around x hx =>
      cases x with
      | pass | frame | files => exact ⟨_, rfl, fun _ h => h⟩
      | script => exact ⟨_, rfl, fun _ h => { h with }⟩
      | request | abandoned | status | wake => cases hx

/-- What is no step publishes no status. -/
lemma status_happen (l : Loop) {m : Happening} (hm : m ≠ .step) :
    (l.happen m).status = l.status := by
  cases m with
  | step => exact absurd rfl hm
  | publish =>
      simp only [happen, publish]
      split <;> rfl
  | post r =>
      simp only [happen, post]
      split <;> rfl
  | report m =>
      simp only [happen, postStatus]
      split <;> rfl
  | dropHandles | endBridge | around => rfl

/-- **Whatever happens to a loop, its backend has on its books what it holds.** -/
theorem Accounted.happen (h : l.Accounted) (hl : Sound l) (m : Happening) :
    (l.happen m).Accounted := by
  by_cases hm : m = .step
  · subst hm
    rcases l.happen_step with ⟨-, hv⟩ | ⟨ho, x, rs, ms, -, -, hv⟩ <;> rw [hv]
    · exact h
    · have hn := (isOver_eq_false_iff.1 ho).2
      exact accounted_proceed hn (react_booked (h.booked hn) (hl.settled hn) x)
  · obtain ⟨f, hs, hb⟩ := l.host_happen hm
    have he : (l.happen m).excess = l.excess := (l.beside fun h => absurd h hm).excess
    refine ⟨?_, fun hn => ?_, fun hn => ?_⟩
    · have hk : (l.happen m).stock = l.stock := by
        rw [stock, hs, he]
        rfl
      rw [hk, hs]
      exact hb _ h.books
    · rw [hs]
      exact h.graph (he ▸ hn)
    · rw [l.status_happen hm, hs]
      exact h.status (he ▸ hn)

theorem accounted_after (h : l.Accounted) (hl : Sound l) (ms : List Happening) :
    (l.after ms).Accounted := by
  induction ms generalizing l with
  | nil => exact h
  | cons m ms ih => exact ih (h.happen hl m) (hl.happen m)

end Loop

lemma accounted_loop (u : Setup) (capacity : ℕ) (subscribers : List Subscriber)
    (bridge : Option Signal.Bindings) : (u.loop capacity subscribers bridge).Accounted where
  books := (booked_begin u).books
  graph _ := (booked_begin u).graph
  status _ := rfl

/-! ### What is counted -/

namespace Loop.Accounted

/-- One graph is alive while the stream runs, and none else. -/
lemma liveGraphs_eq (h : l.Accounted) (hs : Settled l.state) (hn : l.excess = none) :
    l.state.backend.stats.liveGraphs = if l.state.phase = .running then 1 else 0 := by
  rw [h.books.balanced.liveGraphs, stock_of_none hn]
  change (l.state.graph.map fun _ => l.state.generation).toList.length = _
  cases hg : l.state.graph with
  | none => rw [if_neg (by rw [← hs.graph, hg]; exact Bool.false_ne_true)]; rfl
  | some graph => rw [if_pos (by rw [← hs.graph, hg]; rfl)]; rfl

lemma length_point (l : Loop) :
    l.stock.point.toList.length = if l.state.session.isSome then 1 else 0 := by
  rw [stock, State.stock]
  cases l.state.session <;> rfl

/-- When a loop is over, no graph is left. -/
lemma graph_eq_none (h : Sound l) (ho : l.isOver = true) : l.stock.graph = none := by
  cases hn : l.excess with
  | some e => rw [stock, hn]; rfl
  | none =>
      have hx : l.state.exited = true := by simpa [isOver, hn] using ho
      rw [stock_of_none hn, State.stock, liveGeneration, (h.atRest hx).1.graph]
      rfl

end Loop.Accounted

/-- **Nothing is lost and nothing is kept.**  At every moment, also within a step, there is at
most one graph, none is built or asked for while another is alive, and nothing is released that is
not there, so that no count is cut off.  The graphs that were built are torn down but for the one
that is alive in `running`; each attempt has built a graph or failed; the backend knows the graph
that the status tells; and one attach point and one branch are in use exactly while there is a
session.  No attach point is given out twice, and a graph that refuses to play is torn down once.

Nothing is alive when the run is over.  A loop that breaks down, which it does only at a limit of
the machine that one of its delays goes beyond, has torn down its graph as well; but the attach
point and the branch of the session that it had then stay in use. -/
theorem conservation_of_loop (u : Setup) (capacity : ℕ) (subscribers : List Subscriber)
    (bridge : Option Signal.Bindings) (ms : List Happening) :
    let l := u.loop capacity subscribers bridge
    let t := l.after ms
    let s := t.state
    let b := s.backend
    (b.stats = tally b.ledger ∧ ∀ d before, d :: before <:+ b.ledger →
        d.Timely (tally before) ∧ (tally (d :: before)).liveGraphs ≤ 1) ∧
      b.stats.builds = b.stats.teardowns + b.stats.liveGraphs ∧
      b.stats.builds + b.stats.failedBuilds = s.generation ∧
      (t.excess = none → b.stats.liveGraphs = (if s.phase = .running then 1 else 0) ∧
        t.status = s.status ∧ b.current.map (·.generation) = t.status.generation) ∧
      (b.stats.attachPointsLive = (if s.session.isSome then 1 else 0) ∧
        b.stats.branchesLive = (if s.session.isSome then 1 else 0) ∧
        b.attachPoints.length = if s.session.isSome then 1 else 0) ∧
      (b.ledger.filterMap Deed.point?).Nodup ∧
      (∀ g, .playRefused g ∈ b.ledger → b.ledger.count (.toreDown g) = 1) ∧
      (s.exited = true → t.excess = none ∧ b.stats.liveGraphs = 0 ∧
        b.stats.attachPointsLive = 0 ∧ b.stats.branchesLive = 0) ∧
      (t.isOver = true → b.stats.liveGraphs = 0 ∧ b.current = none) ∧
      ∀ e, t.excess = some e → (u.settings.pace u.horizon s.now).Exceeds e := by
  intro l t s b
  have hl : Sound l := sound_loop u capacity subscribers bridge
  have ht : Sound t := hl.after ms
  have ha : t.Accounted := Loop.accounted_after (accounted_loop u capacity subscribers bridge) hl ms
  have books : b.Books t.stock := ha.books
  have balanced := books.balanced
  have hp := balanced.attachPointsLive.trans (Loop.Accounted.length_point t)
  have hb := balanced.branchesLive.trans (Loop.Accounted.length_point t)
  have hover : t.isOver = true → b.stats.liveGraphs = 0 ∧ b.current = none := by
    intro ho
    have hg := Loop.Accounted.graph_eq_none ht ho
    have hc := books.current
    rw [hg] at hc
    exact ⟨by rw [balanced.liveGraphs, hg]; rfl, Option.map_eq_none_iff.1 hc⟩
  refine ⟨⟨books.stats, fun d before hd => ?_⟩, balanced.builds, balanced.attempts, fun hn => ?_,
    ⟨hp, hb, ?_⟩, books.sound.nodup_points, fun g hg => ?_, fun hx => ?_, hover, fun e he => ?_⟩
  · obtain ⟨k, hk⟩ := books.sound.of_suffix hd
    exact ⟨hk.timely, hk.liveGraphs_le_one⟩
  · have hc := books.current
    rw [Loop.stock_of_none hn] at hc
    rw [ha.status hn]
    exact ⟨ha.liveGraphs_eq (ht.settled hn) hn, rfl, hc⟩
  · rw [books.points]
    exact Loop.Accounted.length_point t
  · exact books.sound.count_toreDown (books.sound.built_of_playRefused hg)
      fun h => books.willing g h hg
  · obtain ⟨hr, hn⟩ := ht.atRest hx
    have hi : s.session.isSome = false := by rw [hr.session]; rfl
    rw [hi] at hp hb
    exact ⟨hn, (hover (by rw [Loop.isOver, hx]; rfl)).1, hp, hb⟩
  · have hp : s.pace = u.settings.pace u.horizon s.now := pace_after l ms
    rw [← hp]
    exact hl.overdue_after (fun _ hx => by cases hx) ms e he

end StreamWarden.Supervisor
