import StreamWarden.Proofs.Effects

/-!
# The ledger of a backend

The counts of a backend are cut off at zero, so that they would hide a graph that is
torn down twice.  The ledger hides nothing: it is sound if a graph is built, or asked for
in vain, only when there is none, if what is torn down and detached was there, and if the
numbers of graphs and the names of attach points are those of the next.

* `tally`: the counts that a ledger comes to; `Deed.Timely`: what a deed presumes of them.
* `Sound`: a sound ledger, and what it leaves alive.
* `Sound.balanced`, `Sound.timely`, `Sound.count_built`, `Sound.nodup_points`: what holds
  of a sound ledger, at every moment that it tells of.
* `Backend.Books`: a backend whose books are in order; its operations keep them so, if
  they are called at the right time.
-/

namespace StreamWarden

/-- The name of the attach point with a number. -/
def attachPointName (n : Nat) : String := "tee.src_" ++ String.ofList (Text.Decimal.print n)

lemma attachPointName_injective : Function.Injective attachPointName := by
  intro n m h
  have hd : Nat.toDigits 10 n = Nat.toDigits 10 m := by
    simpa [attachPointName, Text.Decimal.print] using congrArg String.toList h
  rw [← Nat.ofDigitChars_ten_toDigits (n := n), hd, Nat.ofDigitChars_ten_toDigits]

/-! ### The counts of a ledger -/

/-- The counts after one more deed. -/
def BackendStats.after (c : BackendStats) : Deed → BackendStats
  | .built _ => { c with builds := c.builds + 1, liveGraphs := c.liveGraphs + 1 }
  | .buildRefused _ => { c with failedBuilds := c.failedBuilds + 1 }
  | .toreDown _ => { c with liveGraphs := c.liveGraphs - 1, teardowns := c.teardowns + 1 }
  | .attached _ _ =>
    { c with
      attachPointsIssued := c.attachPointsIssued + 1
      attachPointsLive := c.attachPointsLive + 1
      branchesLive := c.branchesLive + 1 }
  | .drained => { c with drains := c.drains + 1 }
  | .detached _ =>
    { c with
      branchesLive := c.branchesLive - 1
      attachPointsLive := c.attachPointsLive - 1 }
  | .driven _ _ | .playRefused _ | .attachRefused _ | .activated | .activateRefused => c

/-- The counts that a ledger comes to, the newest deed first. -/
def tally : List Deed → BackendStats
  | [] => {}
  | d :: ds => (tally ds).after d

namespace Deed

/-- The deed comes at a time when the counts allow it: no graph is built, and none is
refused, while another is alive, and nothing is released that is not there. -/
def Timely (c : BackendStats) : Deed → Prop
  | .built _ | .buildRefused _ => c.liveGraphs = 0
  | .toreDown _ => 0 < c.liveGraphs
  | .detached _ => 0 < c.branchesLive ∧ 0 < c.attachPointsLive
  | _ => True

/-- The attach point that is given out. -/
def point? : Deed → Option String
  | .attached _ p => some p
  | _ => none

/-- The deed leaves alive what was alive before. -/
def isIdle : Deed → Bool
  | .driven _ _ | .attachRefused _ | .activated | .activateRefused | .drained => true
  | _ => false

end Deed

namespace Deed

variable {d e : Deed}

lemma ne_of_isIdle (hd : d.isIdle = true) (he : e.isIdle = false) : d ≠ e := by
  rintro rfl
  rw [hd] at he
  cases he

/-- What leaves alive what was alive before can be done at any time. -/
lemma timely_of_isIdle (hd : d.isIdle = true) (c : BackendStats) : d.Timely c := by
  cases d with
  | driven | attachRefused | activated | activateRefused | drained => trivial
  | built | buildRefused | playRefused | toreDown | attached | detached => cases hd

lemma point?_of_isIdle (hd : d.isIdle = true) : d.point? = none := by
  cases d with
  | driven | attachRefused | activated | activateRefused | drained => rfl
  | built | buildRefused | playRefused | toreDown | attached | detached => cases hd

end Deed

/-- What leaves alive what was alive before is counted at most as a drain. -/
lemma BackendStats.after_of_isIdle (c : BackendStats) {d : Deed} (hd : d.isIdle = true) :
    ∃ n, c.after d = { c with drains := n } := by
  cases d with
  | driven | attachRefused | activated | activateRefused => exact ⟨c.drains, rfl⟩
  | drained => exact ⟨c.drains + 1, rfl⟩
  | built | buildRefused | playRefused | toreDown | attached | detached => cases hd

/-! ### Sound ledgers -/

/-- What a ledger leaves: the number of attempts to build a graph, the graph that is
alive, and the attach point that is in use. -/
structure Stock where
  attempts : Nat := 0
  graph : Option Nat := none
  point : Option String := none

/-- **A sound ledger**, with what it leaves. -/
inductive Sound : List Deed → Stock → Prop where
  | begin : Sound [] {}
  | built {ds : List Deed} {n : Nat} (h : Sound ds ⟨n, none, none⟩) :
      Sound (.built (n + 1) :: ds) ⟨n + 1, some (n + 1), none⟩
  | buildRefused {ds : List Deed} {n : Nat} (h : Sound ds ⟨n, none, none⟩) :
      Sound (.buildRefused (n + 1) :: ds) ⟨n + 1, none, none⟩
  | playRefused {ds : List Deed} {n g : Nat} (h : Sound ds ⟨n, some g, none⟩) :
      Sound (.playRefused g :: ds) ⟨n, some g, none⟩
  | toreDown {ds : List Deed} {n g : Nat} {p? : Option String} (h : Sound ds ⟨n, some g, p?⟩) :
      Sound (.toreDown g :: ds) ⟨n, none, p?⟩
  | attached {ds : List Deed} {n g session : Nat} (h : Sound ds ⟨n, some g, none⟩) :
      Sound (.attached session (attachPointName (tally ds).attachPointsIssued) :: ds)
        ⟨n, some g, some (attachPointName (tally ds).attachPointsIssued)⟩
  | detached {ds : List Deed} {n g : Nat} {p : String} (h : Sound ds ⟨n, some g, some p⟩) :
      Sound (.detached p :: ds) ⟨n, some g, none⟩
  | idle {ds : List Deed} {k : Stock} {d : Deed} (hd : d.isIdle = true) (h : Sound ds k) :
      Sound (d :: ds) k

/-- The counts agree with what is left: a graph that was built is alive or torn down,
and each attempt has built one or failed. -/
structure Balanced (c : BackendStats) (k : Stock) : Prop where
  builds : c.builds = c.teardowns + c.liveGraphs
  attempts : c.builds + c.failedBuilds = k.attempts
  liveGraphs : c.liveGraphs = k.graph.toList.length
  attachPointsLive : c.attachPointsLive = k.point.toList.length
  branchesLive : c.branchesLive = k.point.toList.length

/-- What releases or drains nothing keeps the balance. -/
lemma Balanced.idle {c : BackendStats} {k : Stock} (h : Balanced c k) {d : Deed}
    (hd : d.isIdle = true) : Balanced (c.after d) k := by
  obtain ⟨n, hn⟩ := c.after_of_isIdle hd
  rw [hn]
  exact ⟨h.builds, h.attempts, h.liveGraphs, h.attachPointsLive, h.branchesLive⟩

namespace Sound

variable {ds before : List Deed} {k : Stock} {d : Deed}

/-- A sound ledger is balanced. -/
lemma balanced (h : Sound ds k) : Balanced (tally ds) k := by
  induction h with
  | begin => exact ⟨rfl, rfl, rfl, rfl, rfl⟩
  | playRefused _ ih => exact ih
  | idle hd _ ih => exact ih.idle hd
  | built _ ih | buildRefused _ ih | toreDown _ ih | attached _ ih | detached _ ih =>
      obtain ⟨hb, ha, hl, hp, hr⟩ := ih
      simp only [Option.toList_none, Option.toList_some, List.length_nil,
        List.length_singleton] at ha hl hp hr
      refine ⟨?_, ?_, ?_, ?_, ?_⟩ <;>
        simp only [tally, BackendStats.after, Option.toList_none, Option.toList_some,
          List.length_nil, List.length_singleton] <;> omega

/-- At no moment that a sound ledger tells of were there two graphs. -/
lemma liveGraphs_le_one (h : Sound ds k) : (tally ds).liveGraphs ≤ 1 := by
  rw [h.balanced.liveGraphs]
  exact Option.length_toList_le

/-- Every part of a sound ledger was a sound ledger in its time. -/
lemma of_suffix (h : Sound ds k) (hs : before <:+ ds) : ∃ k, Sound before k := by
  induction h with
  | begin => exact ⟨{}, List.suffix_nil.1 hs ▸ .begin⟩
  | built h ih | buildRefused h ih | playRefused h ih | toreDown h ih | attached h ih
  | detached h ih =>
      rcases List.suffix_cons_iff.1 hs with rfl | hs
      · exact ⟨_, by constructor; exact h⟩
      · exact ih hs
  | idle hd h ih =>
      rcases List.suffix_cons_iff.1 hs with rfl | hs
      · exact ⟨_, .idle hd h⟩
      · exact ih hs

/-- The newest deed of a sound ledger was done at the right time. -/
lemma timely (h : Sound (d :: ds) k) : d.Timely (tally ds) := by
  cases h with
  | built h | buildRefused h => exact h.balanced.liveGraphs
  | toreDown h => exact Nat.one_pos.trans_eq h.balanced.liveGraphs.symm
  | detached h =>
      exact ⟨Nat.one_pos.trans_eq h.balanced.branchesLive.symm,
        Nat.one_pos.trans_eq h.balanced.attachPointsLive.symm⟩
  | playRefused | attached => trivial
  | idle hd => exact Deed.timely_of_isIdle hd _

/-! #### Graphs, by their numbers -/

lemma le_attempts (h : Sound ds k) {g : Nat} (hg : .built g ∈ ds) : g ≤ k.attempts := by
  induction h with
  | begin => cases hg
  | built _ ih =>
      rcases List.mem_cons.1 hg with hg | hg
      · cases hg
        exact le_rfl
      · exact (ih hg).trans (Nat.le_succ _)
  | buildRefused _ ih =>
      rcases List.mem_cons.1 hg with hg | hg
      · cases hg
      · exact (ih hg).trans (Nat.le_succ _)
  | playRefused _ ih | toreDown _ ih | attached _ ih | detached _ ih =>
      rcases List.mem_cons.1 hg with hg | hg
      · cases hg
      · exact ih hg
  | idle hd _ ih => exact ih (List.mem_of_ne_of_mem (Deed.ne_of_isIdle hd rfl).symm hg)

/-- A graph that is alive was built. -/
lemma built_of_graph (h : Sound ds k) {g : Nat} (hg : k.graph = some g) : .built g ∈ ds := by
  induction h with
  | begin | buildRefused | toreDown => cases hg
  | built =>
      cases hg
      exact List.mem_cons_self
  | playRefused _ ih | attached _ ih | detached _ ih | idle _ _ ih =>
      exact List.mem_cons_of_mem _ (ih hg)

/-- A graph that refused to play was built. -/
lemma built_of_playRefused (h : Sound ds k) {g : Nat} (hg : .playRefused g ∈ ds) :
    .built g ∈ ds := by
  induction h with
  | begin => cases hg
  | playRefused h ih =>
      rcases List.mem_cons.1 hg with hg | hg
      · cases hg
        exact List.mem_cons_of_mem _ (h.built_of_graph rfl)
      · exact List.mem_cons_of_mem _ (ih hg)
  | built _ ih | buildRefused _ ih | toreDown _ ih | attached _ ih | detached _ ih =>
      rcases List.mem_cons.1 hg with hg | hg
      · cases hg
      · exact List.mem_cons_of_mem _ (ih hg)
  | idle hd _ ih =>
      have hm := List.mem_of_ne_of_mem (Deed.ne_of_isIdle hd rfl).symm hg
      exact List.mem_cons_of_mem _ (ih hm)

/-- A graph is torn down as often as it is built, unless it is alive. -/
lemma count_built (h : Sound ds k) (g : Nat) :
    ds.count (.built g) = ds.count (.toreDown g) + if k.graph = some g then 1 else 0 := by
  induction h with
  | begin => rfl
  | built _ ih | toreDown _ ih =>
      simp only [List.count_cons, beq_iff_eq, Deed.built.injEq, Deed.toreDown.injEq,
        reduceCtorEq, Option.some.injEq, if_false] at ih ⊢
      omega
  | buildRefused _ ih | playRefused _ ih | attached _ ih | detached _ ih =>
      simpa [List.count_cons] using ih
  | idle hd _ ih =>
      rw [List.count_cons_of_ne (Deed.ne_of_isIdle hd rfl),
        List.count_cons_of_ne (Deed.ne_of_isIdle hd rfl)]
      exact ih

/-- No number is used twice. -/
lemma count_built_le_one (h : Sound ds k) (g : Nat) : ds.count (.built g) ≤ 1 := by
  induction h with
  | begin => exact Nat.zero_le 1
  | @built ds n h ih =>
      rw [List.count_cons]
      by_cases hg : .built g ∈ ds
      · have hn : g ≤ n := h.le_attempts hg
        rw [if_neg]
        · exact ih
        · rw [beq_iff_eq, Deed.built.injEq]
          omega
      · rw [List.count_eq_zero_of_not_mem hg]
        split <;> omega
  | buildRefused _ ih | playRefused _ ih | toreDown _ ih | attached _ ih | detached _ ih =>
      simpa [List.count_cons] using ih
  | idle hd _ ih =>
      rw [List.count_cons_of_ne (Deed.ne_of_isIdle hd rfl)]
      exact ih

/-- A graph that was built and is not alive was torn down once. -/
lemma count_toreDown (h : Sound ds k) {g : Nat} (hb : .built g ∈ ds) (hg : k.graph ≠ some g) :
    ds.count (.toreDown g) = 1 := by
  have h₁ := h.count_built g
  have h₂ := h.count_built_le_one g
  have h₃ := List.count_pos_iff.2 hb
  rw [if_neg hg] at h₁
  omega

/-! #### Attach points, by their names -/

/-- Every attach point was given out under one of the numbers so far. -/
lemma exists_name (h : Sound ds k) {p : String} (hp : p ∈ ds.filterMap Deed.point?) :
    ∃ i < (tally ds).attachPointsIssued, p = attachPointName i := by
  induction h with
  | begin => cases hp
  | attached _ ih =>
      rcases List.mem_cons.1 hp with rfl | hp
      · exact ⟨_, Nat.lt_succ_self _, rfl⟩
      · obtain ⟨i, hi, rfl⟩ := ih hp
        exact ⟨i, hi.trans (Nat.lt_succ_self _), rfl⟩
  | built _ ih | buildRefused _ ih | playRefused _ ih | toreDown _ ih | detached _ ih =>
      exact ih hp
  | @idle ds _ d hd _ ih =>
      obtain ⟨n, hn⟩ := (tally ds).after_of_isIdle hd
      rw [List.filterMap_cons_none (Deed.point?_of_isIdle hd)] at hp
      rw [tally, hn]
      exact ih hp

/-- No name is given out twice. -/
lemma nodup_points (h : Sound ds k) : (ds.filterMap Deed.point?).Nodup := by
  induction h with
  | begin => exact List.nodup_nil
  | attached h ih =>
      refine List.nodup_cons.2 ⟨fun hp => ?_, ih⟩
      obtain ⟨i, hi, he⟩ := h.exists_name hp
      exact hi.ne' (attachPointName_injective he)
  | built _ ih | buildRefused _ ih | playRefused _ ih | toreDown _ ih | detached _ ih =>
      exact ih
  | idle hd _ ih =>
      rw [List.filterMap_cons_none (Deed.point?_of_isIdle hd)]
      exact ih

end Sound

/-! ### Backends with their books in order -/

namespace Backend

/-- **The books are in order**: the counts are those of the ledger, and the ledger is
sound; the graph and the attach points that the backend knows are those that the ledger
leaves; and a graph that is alive did not refuse to play. -/
structure Books (b : Backend) (k : Stock) : Prop where
  stats : b.stats = tally b.ledger
  sound : Sound b.ledger k
  current : b.current.map (·.generation) = k.graph
  points : b.attachPoints = k.point.toList
  willing : ∀ g, k.graph = some g → .playRefused g ∉ b.ledger

namespace Books

variable {b b' : Backend} {k : Stock} {n g : Nat} {p : String}

lemma balanced (h : b.Books k) : Balanced b.stats k := by
  rw [h.stats]
  exact h.sound.balanced

/-- A deed that leaves alive what was alive before keeps the books in order. -/
lemma idle (h : b.Books k) {d : Deed} (hd : d.isIdle = true)
    (hs : b'.stats = b.stats.after d) (hc : b'.current = b.current)
    (hp : b'.attachPoints = b.attachPoints) (hl : b'.ledger = d :: b.ledger) : b'.Books k where
  stats := by rw [hs, hl, h.stats, tally]
  sound := hl ▸ .idle hd h.sound
  current := hc ▸ h.current
  points := hp ▸ h.points
  willing g hg hm := by
    rw [hl] at hm
    rcases List.mem_cons.1 hm with rfl | hm
    · cases hd
    · exact h.willing g hg hm

/-- An attempt that succeeds builds a graph, with the next number. -/
lemma raise_ok (h : b.Books ⟨n, none, none⟩) {profile : Profile} {context : GraphContext}
    (hn : context.generation = n + 1) {graph : Graph}
    (hr : b.raise profile context = (b', .ok graph)) :
    b'.Books ⟨n + 1, some (n + 1), none⟩ ∧ graph.generation = n + 1 := by
  simp only [raise, build] at hr
  cases hb : b.buildRefusals with
  | cons e rest => simp [hb] at hr
  | nil =>
      cases hp : b.playRefusals with
      | cons e rest => simp [hb, hp, setState] at hr
      | nil =>
          simp only [hb, hp, setState, Prod.mk.injEq, Except.ok.injEq] at hr
          obtain ⟨rfl, rfl⟩ := hr
          refine ⟨⟨?_, ?_, ?_, h.points, ?_⟩, hn⟩
          · simp [tally, BackendStats.after, h.stats]
          · rw [hn]
            exact .idle rfl (.built h.sound)
          · rw [Option.map_some, hn]
          · rintro g ⟨⟩ hm
            have hm : .playRefused (n + 1) ∈ b.ledger := by simpa using hm
            have hle : n + 1 ≤ n := h.sound.le_attempts (h.sound.built_of_playRefused hm)
            omega

/-- An attempt that fails leaves no graph: either it has built none, or the graph was torn
down. -/
lemma raise_error (h : b.Books ⟨n, none, none⟩) {profile : Profile} {context : GraphContext}
    (hn : context.generation = n + 1) {e : BuildError}
    (hr : b.raise profile context = (b', .error e)) : b'.Books ⟨n + 1, none, none⟩ := by
  simp only [raise, build] at hr
  cases hb : b.buildRefusals with
  | cons e rest =>
      simp only [hb, Prod.mk.injEq, Except.error.injEq] at hr
      obtain ⟨rfl, rfl⟩ := hr
      refine ⟨?_, ?_, h.current, h.points, by rintro g ⟨⟩⟩
      · simp [tally, BackendStats.after, h.stats]
      · rw [hn]
        exact .buildRefused h.sound
  | nil =>
      cases hp : b.playRefusals with
      | nil => simp [hb, hp, setState] at hr
      | cons e rest =>
          simp only [hb, hp, setState, teardown, Prod.mk.injEq, Except.error.injEq] at hr
          obtain ⟨rfl, rfl⟩ := hr
          refine ⟨?_, ?_, ?_, h.points, by rintro g ⟨⟩⟩
          · simp [tally, BackendStats.after, h.stats]
          · rw [hn]
            exact .toreDown (.playRefused (.built h.sound))
          · simp

/-- The graph that is alive can be torn down; the attach point of a branch that is left on it
stays in use. -/
lemma teardown {p? : Option String} (h : b.Books ⟨n, some g, p?⟩) {graph : Graph}
    (hg : graph.generation = g) : (b.teardown graph).Books ⟨n, none, p?⟩ where
  stats := by simp [Backend.teardown, tally, BackendStats.after, h.stats]
  sound := by
    rw [Backend.teardown, hg]
    exact .toreDown h.sound
  current := by
    obtain ⟨context, hc, hn⟩ := Option.map_eq_some_iff.1 h.current
    simp [Backend.teardown, hc, hn, hg]
  points := h.points
  willing := nofun

/-- A branch is attached where none is, under the next name. -/
lemma attach_ok (h : b.Books ⟨n, some g, none⟩) {graph : Graph} {spec : BranchSpec}
    {branch : Branch} (ha : b.attach graph spec = (b', .ok branch)) :
    b'.Books ⟨n, some g, some branch.attachPoint⟩ := by
  obtain ⟨hn, rfl⟩ := of_attach_ok ha
  have hp : branch.attachPoint = attachPointName (tally b.ledger).attachPointsIssued := by
    rw [hn, nextAttachPoint, h.stats, attachPointName]
  refine ⟨?_, ?_, h.current, ?_, ?_⟩
  · simp [tally, BackendStats.after, h.stats]
  · simp only [hp]
    exact .attached h.sound
  · simp [h.points]
  · intro g' hg' hm
    exact h.willing g' hg' (by simpa using hm)

lemma attach_error (h : b.Books k) {graph : Graph} {spec : BranchSpec} {e : BranchError}
    (ha : b.attach graph spec = (b', .error e)) : b'.Books k := by
  obtain ⟨rest, rfl⟩ := of_attach_error ha
  exact h.idle (d := .attachRefused spec.session) rfl rfl rfl rfl rfl

lemma activate (h : b.Books k) {r : Except BranchError Unit} (ha : b.activate = (b', r)) :
    b'.Books k := by
  simp only [Backend.activate] at ha
  split at ha
  · obtain ⟨rfl, _⟩ := Prod.mk.inj ha
    exact h.idle (d := .activateRefused) rfl rfl rfl rfl rfl
  · obtain ⟨rfl, _⟩ := Prod.mk.inj ha
    exact h.idle (d := .activated) rfl rfl rfl rfl rfl

lemma beginDrain (h : b.Books k) : b.beginDrain.Books k :=
  h.idle (d := .drained) rfl rfl rfl rfl rfl

/-- The branch that is attached can be detached. -/
lemma detach (h : b.Books ⟨n, some g, some p⟩) {branch : Branch} (hp : branch.attachPoint = p) :
    (b.detach branch).Books ⟨n, some g, none⟩ where
  stats := by simp [Backend.detach, tally, BackendStats.after, h.stats]
  sound := by
    rw [Backend.detach, hp]
    exact .detached h.sound
  current := h.current
  points := by simp [Backend.detach, h.points, hp]
  willing g' hg' hm := h.willing g' hg' (by simpa [Backend.detach] using hm)

end Books

end Backend

end StreamWarden
