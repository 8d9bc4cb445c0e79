import StreamWarden.Drill.Bench
import StreamWarden.Proofs.Ledger
import StreamWarden.Recording.Studio

/-!
# What a graph leaves behind

A graph that is torn down gives up its own place and no more: the branches that are still on it
keep their attach points, and are counted until somebody detaches them one by one.  So a bench on
which all graphs are gone need not be empty; what is left there is what was attached and never
detached.  A recorder that ends its session when the graph is gone leaves the branch behind in
this way.

* `Turn`: what an action makes of the graphs, the branches and the counts; `turn_perform` says
  that each is one of these.
* `Accounted`: all graphs and branches are accounted for; `Accounted.turn` and
  `accounted_performAll` say that they always are.
* `mem_attached_performAll`: a branch stays attached until it is detached itself.
* **`leftovers_of_actions`**: what is in use after some actions.
-/

namespace StreamWarden

/-! ### What the operations of a backend count -/

namespace Backend

/-- To drive a graph to a run state, or to be refused, counts nothing. -/
lemma counts_setState (b : Backend) (g : Graph) (state : GraphState) :
    (b.setState g state).1.stats = b.stats ∧
      (b.setState g state).1.attachPoints = b.attachPoints := by
  unfold setState
  split <;> exact ⟨rfl, rfl⟩

end Backend

namespace Studio

/-- A session that ends without a graph leaves the backend alone. -/
lemma backend_detach_none (s : Studio) (reason : String) :
    (s.detach none reason).backend = s.backend := by
  cases hs : s.session with
  | none => rw [detach_of_none hs]
  | some session =>
      obtain ⟨files, outs, ht, -⟩ := told_detach hs none reason
      rw [ht]
      simp [freed, hs]

end Studio

namespace Drill.Bench

variable {b v : Bench} {a : Action} {k n : Nat}

/-- Carries out some actions, one after the other. -/
def performAll (b : Bench) (as : List Action) : Bench := as.foldl (fun b a => (b.perform a).1) b

/-- Which of the graphs are alive, in the order in which they were built. -/
def alive (b : Bench) : List Bool := b.graphs.map Option.isSome

/-- A graph with a number is alive. -/
lemma alive_of_graph? {g : Graph} (h : b.graph? n = some g) :
    ∃ hn : n < b.alive.length, b.alive[n] = true := by
  obtain ⟨hn, hg⟩ := List.getElem?_eq_some_iff.1 (Option.join_eq_some_iff.1 h)
  exact ⟨by rwa [alive, List.length_map], by simp [alive, hg]⟩

/-! ### What an action can do -/

/-- What there is on a bench: which graphs are alive, the branches, and what the backend has
counted and given out. -/
structure Has (b : Bench) (alive : List Bool) (branches : List (Option Branch))
    (stats : BackendStats) (points : List String) : Prop where
  alive : b.alive = alive
  branches : b.branches = branches
  stats : b.host.backend.stats = stats
  points : b.host.backend.attachPoints = points

/-- What an action makes of a bench. -/
inductive Turn (b : Bench) : Action → Bench → Prop
  /-- All stays, but that something is refused, driven or drained. -/
  | keep {a : Action} {v : Bench} (failed drains : Nat)
      (ha : ∀ k, a = .detach k → b.branch? k = none)
      (h : v.Has b.alive b.branches
        { b.host.backend.stats with failedBuilds := failed, drains := drains }
        b.host.backend.attachPoints) : Turn b a v
  /-- There is one more graph. -/
  | build (generation : Nat) (profile : Profile) {v : Bench}
      (h : v.Has (b.alive ++ [true]) b.branches
        { b.host.backend.stats with
          builds := b.host.backend.stats.builds + 1
          liveGraphs := b.host.backend.stats.liveGraphs + 1 }
        b.host.backend.attachPoints) : Turn b (.build generation profile) v
  /-- A graph is torn down, and its branches stay. -/
  | teardown (n : Nat) {g : Graph} (hg : b.graph? n = some g) {v : Bench}
      (h : v.Has (b.alive.set n false) b.branches
        { b.host.backend.stats with
          liveGraphs := b.host.backend.stats.liveGraphs - 1
          teardowns := b.host.backend.stats.teardowns + 1 }
        b.host.backend.attachPoints) : Turn b (.teardown n) v
  /-- A branch is attached, at the attach point that is next. -/
  | attach (n : Nat) (spec : BranchSpec) {branch : Branch}
      (hp : branch.attachPoint = b.host.backend.nextAttachPoint) {v : Bench}
      (h : v.Has b.alive (b.branches ++ [some branch])
        { b.host.backend.stats with
          attachPointsIssued := b.host.backend.stats.attachPointsIssued + 1
          attachPointsLive := b.host.backend.stats.attachPointsLive + 1
          branchesLive := b.host.backend.stats.branchesLive + 1 }
        (b.host.backend.attachPoints ++ [branch.attachPoint])) : Turn b (.attach n spec) v
  /-- A branch is detached, and its attach point given up. -/
  | detach (k : Nat) {branch : Branch} (hk : b.branch? k = some branch) {v : Bench}
      (h : v.Has b.alive (b.branches.set k none)
        { b.host.backend.stats with
          branchesLive := b.host.backend.stats.branchesLive - 1
          attachPointsLive := b.host.backend.stats.attachPointsLive - 1 }
        (b.host.backend.attachPoints.filter (· ≠ branch.attachPoint))) : Turn b (.detach k) v

/-- To be refused, or to act on what is gone, changes nothing that there is. -/
lemma Turn.of_same (ha : ∀ k, a = .detach k → b.branch? k = none) (hg : v.graphs = b.graphs)
    (hb : v.branches = b.branches) (hs : v.host.backend.stats = b.host.backend.stats)
    (hp : v.host.backend.attachPoints = b.host.backend.attachPoints) : Turn b a v :=
  .keep _ _ ha ⟨by rw [alive, hg]; rfl, hb, hs, hp⟩

/-- **Every action is one of these.** -/
lemma turn_perform (b : Bench) (a : Action) : Turn b a (b.perform a).1 := by
  cases a with
  | build generation profile =>
      cases hr : b.host.backend.buildRefusals with
      | nil =>
          simp only [perform, Host.build, Backend.build, hr]
          exact .build generation profile ⟨by simp [alive], rfl, rfl, rfl⟩
      | cons e rest =>
          simp only [perform, Host.build, Backend.build, hr]
          exact .keep _ _ (by simp) ⟨rfl, rfl, rfl, rfl⟩
  | refuseBuild | refusePlay | report => exact .of_same (by simp) rfl rfl rfl rfl
  | drain => exact .keep _ _ (by simp) ⟨rfl, rfl, rfl, rfl⟩
  | frame =>
      simp only [perform, Host.frame]
      split <;> exact .of_same (by simp) rfl rfl rfl rfl
  | activate =>
      cases hr : b.host.backend.activateRefusals <;> simp only [perform, Backend.activate, hr] <;>
        exact .of_same (by simp) rfl rfl rfl rfl
  | setState n state =>
      cases hg : b.graph? n with
      | none =>
          simp only [perform, hg]
          exact .of_same (by simp) rfl rfl rfl rfl
      | some g =>
          obtain ⟨hn, ht⟩ := alive_of_graph? hg
          obtain ⟨hs, hp⟩ := b.host.backend.counts_setState g state
          rcases hr : b.host.backend.setState g state with ⟨backend, e | g'⟩
          · rw [hr] at hs hp
            simp only [perform, hg, hr]
            exact .of_same (by simp) rfl rfl hs hp
          · rw [hr] at hs hp
            simp only [perform, hg, hr]
            -- the graph becomes another, but one that is alive as well
            have ha : b.alive.set n true = b.alive := by rw [← ht, List.set_getElem_self]
            exact .keep _ _ (by simp) ⟨List.map_set.trans ha, rfl, hs, hp⟩
  | attach n spec =>
      cases hg : b.graph? n with
      | none =>
          simp only [perform, hg]
          exact .of_same (by simp) rfl rfl rfl rfl
      | some g =>
          rcases hr : b.host.backend.attach g spec with ⟨backend, e | branch⟩
          · obtain ⟨rest, rfl⟩ := Backend.of_attach_error hr
            simp only [perform, hg, hr]
            exact .of_same (by simp) rfl rfl rfl rfl
          · obtain ⟨hn, rfl⟩ := Backend.of_attach_ok hr
            simp only [perform, hg, hr]
            exact .attach n spec hn ⟨rfl, rfl, rfl, rfl⟩
  | teardown n =>
      cases hg : b.graph? n with
      | none =>
          simp only [perform, hg]
          exact .of_same (by simp) rfl rfl rfl rfl
      | some g =>
          simp only [perform, hg]
          exact .teardown n hg ⟨List.map_set, rfl, rfl, rfl⟩
  | detach k =>
      cases hk : b.branch? k with
      | none =>
          simp only [perform, hk]
          exact .of_same (fun j hj => by cases hj; exact hk) rfl rfl rfl rfl
      | some branch =>
          simp only [perform, hk]
          exact .detach k hk ⟨rfl, rfl, rfl, rfl⟩

/-! ### The branches that are attached -/

/-- The numbers of the branches that are attached. -/
def attached (b : Bench) : List Nat :=
  (List.range b.branches.length).filter fun k => (b.branch? k).isSome

lemma mem_attached : k ∈ b.attached ↔ (b.branch? k).isSome = true := by
  rw [attached, List.mem_filter, List.mem_range, and_iff_right_iff_imp]
  intro h
  by_contra hk
  rw [branch?, List.getElem?_eq_none (Nat.not_lt.1 hk)] at h
  cases h

lemma attached_congr (h : v.branches = b.branches) : v.attached = b.attached := by
  simp only [attached, branch?, h]

lemma branch?_concat {branch : Branch} (h : v.branches = b.branches ++ [some branch]) (k : Nat) :
    v.branch? k = if k = b.branches.length then some branch else b.branch? k := by
  rw [branch?, h]
  split
  · rename_i hk
    simp [hk]
  · rename_i hk
    rcases Nat.lt_or_gt_of_ne hk with hlt | hgt
    · rw [List.getElem?_append_left hlt, branch?]
    · have hl : (b.branches ++ [some branch]).length ≤ k := by simpa using hgt
      rw [branch?, List.getElem?_eq_none hl, List.getElem?_eq_none hgt.le]

lemma branch?_set (h : v.branches = b.branches.set n none) (k : Nat) :
    v.branch? k = if k = n then none else b.branch? k := by
  rw [branch?, h, List.getElem?_set]
  by_cases hk : k = n
  · rw [if_pos hk.symm, if_pos hk]
    split <;> rfl
  · rw [if_neg (Ne.symm hk), if_neg hk, branch?]

/-- One more branch has the next number. -/
lemma attached_concat {branch : Branch} (h : v.branches = b.branches ++ [some branch]) :
    v.attached = b.attached ++ [b.branches.length] := by
  have hk : ∀ k ∈ List.range b.branches.length, (v.branch? k).isSome = (b.branch? k).isSome := by
    intro k hk
    rw [branch?_concat h, if_neg (List.mem_range.1 hk).ne]
  have hl : (v.branch? b.branches.length).isSome = true := by rw [branch?_concat h, if_pos rfl]; rfl
  rw [attached, h, List.length_append, List.length_singleton, List.range_succ, List.filter_append,
    List.filter_congr hk, List.filter_singleton, hl]
  rfl

/-- A branch that is detached leaves the others where they are. -/
lemma attached_set (h : v.branches = b.branches.set n none) :
    v.attached = b.attached.filter (· ≠ n) := by
  have hk : ∀ k ∈ List.range b.branches.length,
      (v.branch? k).isSome = (decide (k ≠ n) && (b.branch? k).isSome) := by
    intro k _
    rw [branch?_set h]
    by_cases hkn : k = n <;> simp [hkn]
  rw [attached, h, List.length_set, List.filter_congr hk, attached, List.filter_filter]

/-- A detached branch is one fewer. -/
lemma length_attached_set (h : v.branches = b.branches.set n none) (hn : n ∈ b.attached) :
    v.attached.length = b.attached.length - 1 := by
  have hd : b.attached.Nodup := List.nodup_range.filter _
  have he : b.attached.erase n = b.attached.filter (· ≠ n) := by
    rw [hd.erase_eq_filter]
    exact List.filter_congr fun k _ => by by_cases hk : k = n <;> simp [hk]
  rw [attached_set h, ← he, List.length_erase_of_mem hn]

/-! ### All that is alive is accounted for -/

/-- The counts of the backend are those of the graphs and branches on the bench, and the attach
points in use are those of the branches that are attached. -/
structure Accounted (b : Bench) : Prop where
  builds : b.host.backend.stats.builds = b.alive.length
  liveGraphs : b.host.backend.stats.liveGraphs = b.alive.count true
  teardowns : b.host.backend.stats.teardowns = b.alive.count false
  issued : b.host.backend.stats.attachPointsIssued = b.branches.length
  named : ∀ k branch, b.branch? k = some branch → branch.attachPoint = attachPointName k
  points : b.host.backend.attachPoints = b.attached.map attachPointName
  pointsLive : b.host.backend.stats.attachPointsLive = b.attached.length
  branchesLive : b.host.backend.stats.branchesLive = b.attached.length

namespace Accounted

/-- Where the branches and their counts stay, it is the graphs that matter. -/
lemma of_branches (h : Accounted b) {alive : List Bool} {stats : BackendStats}
    (hv : v.Has alive b.branches stats b.host.backend.attachPoints)
    (hb : stats.builds = alive.length) (hl : stats.liveGraphs = alive.count true)
    (ht : stats.teardowns = alive.count false)
    (hi : stats.attachPointsIssued = b.host.backend.stats.attachPointsIssued)
    (hp : stats.attachPointsLive = b.host.backend.stats.attachPointsLive)
    (hc : stats.branchesLive = b.host.backend.stats.branchesLive) : Accounted v where
  builds := by rw [hv.stats, hv.alive, hb]
  liveGraphs := by rw [hv.stats, hv.alive, hl]
  teardowns := by rw [hv.stats, hv.alive, ht]
  issued := by rw [hv.stats, hv.branches, hi, h.issued]
  named k branch hk := h.named k branch (by rwa [branch?, hv.branches] at hk)
  points := by rw [hv.points, attached_congr hv.branches, h.points]
  pointsLive := by rw [hv.stats, attached_congr hv.branches, hp, h.pointsLive]
  branchesLive := by rw [hv.stats, attached_congr hv.branches, hc, h.branchesLive]

/-- **Whatever is done, all is accounted for**: the place of a graph is given up when it is torn
down, and that of a branch when it is detached. -/
lemma turn (h : Accounted b) (ht : Turn b a v) : Accounted v := by
  cases ht with
  | keep failed drains _ hv =>
      exact h.of_branches hv h.builds h.liveGraphs h.teardowns rfl rfl rfl
  | build generation profile hv =>
      refine h.of_branches hv ?_ ?_ ?_ rfl rfl rfl
      · rw [List.length_append, ← h.builds]
        rfl
      · rw [List.count_append, ← h.liveGraphs]
        rfl
      · rw [List.count_append, ← h.teardowns]
        rfl
  | teardown n hg hv =>
      obtain ⟨hn, ht⟩ := alive_of_graph? hg
      refine h.of_branches hv ?_ ?_ ?_ rfl rfl rfl
      · rw [List.length_set, ← h.builds]
      · rw [List.count_set hn, ht, ← h.liveGraphs]
        rfl
      · rw [List.count_set hn, ht, ← h.teardowns]
        rfl
  | attach n spec hp hv =>
      rename_i branch
      have hname : branch.attachPoint = attachPointName b.branches.length := by
        rw [hp, Backend.nextAttachPoint, h.issued, attachPointName]
      have ha := attached_concat hv.branches
      exact {
        builds := by rw [hv.stats, hv.alive, h.builds]
        liveGraphs := by rw [hv.stats, hv.alive, h.liveGraphs]
        teardowns := by rw [hv.stats, hv.alive, h.teardowns]
        issued := by rw [hv.stats, hv.branches, List.length_append, h.issued]; rfl
        named := fun k other hk => by
          rw [branch?_concat hv.branches] at hk
          split at hk
          · rename_i he
            cases hk
            rw [he, hname]
          · exact h.named k other hk
        points := by rw [hv.points, ha, List.map_append, h.points, hname]; rfl
        pointsLive := by rw [hv.stats, ha, List.length_append, h.pointsLive]; rfl
        branchesLive := by rw [hv.stats, ha, List.length_append, h.branchesLive]; rfl }
  | detach k hk hv =>
      rename_i branch
      have hm : k ∈ b.attached := mem_attached.2 (by rw [hk]; rfl)
      have hl := length_attached_set hv.branches hm
      exact {
        builds := by rw [hv.stats, hv.alive, h.builds]
        liveGraphs := by rw [hv.stats, hv.alive, h.liveGraphs]
        teardowns := by rw [hv.stats, hv.alive, h.teardowns]
        issued := by rw [hv.stats, hv.branches, List.length_set, h.issued]
        named := fun j other hj => by
          rw [branch?_set hv.branches] at hj
          split at hj
          · cases hj
          · exact h.named j other hj
        points := by
          rw [hv.points, attached_set hv.branches, h.points, h.named k branch hk, List.filter_map]
          congr 1
          refine List.filter_congr fun j _ => ?_
          simp [attachPointName_injective.eq_iff]
        pointsLive := by rw [hv.stats, hl, h.pointsLive]
        branchesLive := by rw [hv.stats, hl, h.branchesLive] }

end Accounted

/-! ### After many actions -/

lemma accounted_performAll (h : Accounted b) (as : List Action) : Accounted (b.performAll as) := by
  induction as generalizing b with
  | nil => exact h
  | cons a as ih => exact ih (h.turn (b.turn_perform a))

/-- On an empty bench there is nothing to account for. -/
lemma accounted_empty : Accounted {} :=
  ⟨rfl, rfl, rfl, rfl, fun k branch hk => by simp [branch?] at hk, rfl, rfl, rfl⟩

/-- A branch that was there stays attached until it is detached itself. -/
lemma Turn.mem_attached (h : Turn b a v) (hk : k < b.branches.length) :
    k < v.branches.length ∧ (k ∈ v.attached ↔ k ∈ b.attached ∧ a ≠ .detach k) := by
  cases h with
  | keep failed drains ha hv =>
      rw [attached_congr hv.branches, hv.branches]
      refine ⟨hk, (and_iff_left_of_imp fun hm he => ?_).symm⟩
      rw [Bench.mem_attached, ha k he] at hm
      cases hm
  | build generation profile hv =>
      rw [attached_congr hv.branches, hv.branches]
      exact ⟨hk, (and_iff_left (by simp)).symm⟩
  | teardown n hg hv =>
      rw [attached_congr hv.branches, hv.branches]
      exact ⟨hk, (and_iff_left (by simp)).symm⟩
  | attach n spec hp hv =>
      rw [attached_concat hv.branches, hv.branches, List.length_append]
      refine ⟨Nat.lt_add_right _ hk, ?_⟩
      rw [List.mem_append, List.mem_singleton, or_iff_left hk.ne]
      exact (and_iff_left (by simp)).symm
  | detach n hn hv =>
      rw [attached_set hv.branches, hv.branches, List.length_set]
      refine ⟨hk, ?_⟩
      rw [List.mem_filter, decide_eq_true_iff, ne_eq, ne_eq, Action.detach.injEq, eq_comm]

/-- **A branch stays attached until it is detached itself**, whatever becomes of the graphs. -/
theorem mem_attached_performAll (hk : k < b.branches.length) (as : List Action) :
    k ∈ (b.performAll as).attached ↔ k ∈ b.attached ∧ .detach k ∉ as := by
  induction as generalizing b with
  | nil => simp [performAll]
  | cons a as ih =>
      obtain ⟨hl, hm⟩ := (b.turn_perform a).mem_attached hk
      have ha : b.performAll (a :: as) = (b.perform a).1.performAll as := rfl
      rw [ha, ih hl, hm, List.mem_cons, not_or, and_assoc, ne_comm]

/-- A branch that is handed out has the next number and the name for it. -/
lemma Accounted.perform_attach (h : Accounted b) {spec : BranchSpec} {branch : Branch}
    (hr : (b.perform (.attach n spec)).2 = .attached branch) :
    branch.attachPoint = attachPointName b.branches.length ∧
      (b.perform (.attach n spec)).1.branches = b.branches ++ [some branch] := by
  cases hg : b.graph? n with
  | none =>
      simp only [perform, hg] at hr
      cases hr
  | some g =>
      rcases ha : b.host.backend.attach g spec with ⟨backend, e | branch'⟩
      · simp only [perform, hg, ha] at hr
        cases hr
      · simp only [perform, hg, ha] at hr ⊢
        cases hr
        refine ⟨?_, rfl⟩
        rw [(Backend.of_attach_ok ha).1, Backend.nextAttachPoint, h.issued, attachPointName]

/-- To tear a graph down takes the graph away, and no branch. -/
lemma perform_teardown (b : Bench) (n : Nat) :
    (b.perform (.teardown n)).1.graph? n = none ∧
      (b.perform (.teardown n)).1.branches = b.branches ∧
      (b.perform (.teardown n)).1.host.backend.attachPoints = b.host.backend.attachPoints := by
  cases hg : b.graph? n with
  | none =>
      have hv : (b.perform (.teardown n)).1 = b := by simp only [perform, hg]
      rw [hv]
      exact ⟨hg, rfl, rfl⟩
  | some g =>
      simp only [perform, hg]
      refine ⟨?_, rfl, rfl⟩
      rw [graph?, List.getElem?_set_self']
      cases b.graphs[n]? <;> rfl

/-- **What is in use after some actions**: the attach points of the branches that were attached
and not detached since, be their graphs alive or not.  So many are counted, as branches and as
attach points, and none are left if and only if all branches were detached; the counts of graphs
are those of the graphs that were built, that are alive, and that were torn down.  To tear a graph
down, as it happens to a graph that is dropped too, takes the graph away and none of its branches;
and a recorder that ends its session without a graph leaves its branch where it is. -/
theorem leftovers_of_actions (as : List Action) :
    let b : Bench := performAll {} as
    let c := b.host.backend
    (c.attachPoints = b.attached.map attachPointName ∧
      c.stats.attachPointsLive = b.attached.length ∧ c.stats.branchesLive = b.attached.length ∧
      c.stats.attachPointsIssued = b.branches.length) ∧
    (c.stats.builds = b.graphs.length ∧ c.stats.liveGraphs = b.alive.count true ∧
      c.stats.teardowns = b.alive.count false) ∧
    (c.attachPoints = [] ∧ c.stats.attachPointsLive = 0 ∧ c.stats.branchesLive = 0 ↔
      ∀ k, b.branch? k = none) ∧
    (∀ n spec branch, (b.perform (.attach n spec)).2 = .attached branch →
      let v := (b.perform (.attach n spec)).1
      branch.attachPoint = attachPointName b.branches.length ∧
        v.branch? b.branches.length = some branch ∧
        v.attached = b.attached ++ [b.branches.length]) ∧
    (∀ n, let v := (b.perform (.teardown n)).1
      v.graph? n = none ∧ v.branches = b.branches ∧ v.attached = b.attached ∧
        v.host.backend.attachPoints = c.attachPoints) ∧
    (∀ k < b.branches.length, ∀ later,
      k ∈ (b.performAll later).attached ↔ k ∈ b.attached ∧ .detach k ∉ later) ∧
    ∀ (s : Studio) (reason : String), (s.detach none reason).backend = s.backend := by
  intro b c
  have h : Accounted b := accounted_performAll accounted_empty as
  refine ⟨⟨h.points, h.pointsLive, h.branchesLive, h.issued⟩,
    ⟨h.builds.trans (List.length_map _), h.liveGraphs, h.teardowns⟩, ?_, ?_, ?_,
    fun k hk later => mem_attached_performAll hk later, Studio.backend_detach_none⟩
  · rw [h.points, h.pointsLive, h.branchesLive, List.map_eq_nil_iff, List.length_eq_zero_iff,
      and_self, and_self, List.eq_nil_iff_forall_not_mem]
    simp only [Bench.mem_attached, Option.not_isSome_iff_eq_none]
  · intro n spec branch hr v
    obtain ⟨hp, hv⟩ := h.perform_attach hr
    exact ⟨hp, by rw [branch?_concat hv, if_pos rfl], attached_concat hv⟩
  · intro n v
    obtain ⟨hg, hv, hp⟩ := b.perform_teardown n
    exact ⟨hg, hv, attached_congr hv, hp⟩

/-- A branch is left behind by its graph. -/
example :
    let b : Bench := performAll {}
      [.build 1 (.receiver 5600 96 .h264), .attach 0 ⟨1, "a.mp4"⟩, .teardown 0]
    b.host.backend.attachPoints = ["tee.src_0"] ∧ b.host.backend.stats =
      { builds := 1, teardowns := 1, attachPointsIssued := 1, attachPointsLive := 1,
        branchesLive := 1 } := by
  decide +kernel

end Drill.Bench

end StreamWarden
