import StreamWarden.Proofs.Onward

/-!
# Recording never disturbs the stream

A run with recordings and the same run without them, the plain one, are driven side by
side.  The first has more cues and more wake-ups, and each of these wake-ups looks after
the delays and the frames as well; but it comes before the deadlines of these, and finds
nothing to do.  So the two go through the same values and tell the same tale, each at its
own pace.

There is one way out: a drain whose end lies beyond the clock breaks the loop, and the
graph dies with it.

* `Coupled`: the plain course is where the one with recordings is, and not ahead of it.
* `Coupled.step`: both go on, or only the one with recordings does and comes nearer to
  where both must, or it comes to its end.
* **`undisturbed_of_course`**: what is to be seen of the two is the same, unless a drain
  is overdrawn; and where one is, only the plain course goes on.
-/

namespace StreamWarden.Supervisor

open State

/-! ### Side by side -/

/-- The course `c` is the course `d` without its recordings, and not ahead of it. -/
structure Coupled (c d : Course) : Prop where
  twin : Twin (c.state.waitTill d.state.now) d.state
  cues : c.cues = d.cues.filterMap Cue.lifecycle?
  sorted : d.cues.Pairwise Cue.Before
  still : ∀ x ∈ d.cues, x.stimulus.isTime = false
  behind : ∀ x ∈ d.cues, d.state.now ≤ max c.state.now x.instant
  spared : c.state.drainDeadline = none
  settled : Settled d.state
  punctual : Punctual d.state
  fit : d.state.isOverdrawn = false

/-- The course `d` has come to its end in an overdrawn drain, where the course `c` has
not. -/
structure Ruined (c d : Course) : Prop where
  overdrawn : d.state.isOverdrawn = true
  broken : d.isBroken = true
  whole : c.isBroken = false
  running : c.state.phase = .running
  lifecycle : c.state.lifecycle = d.state.lifecycle
  tale : c.state.tale = d.state.tale

namespace Coupled

variable {c d : Course}

lemma lifecycle (h : Coupled c d) : c.state.lifecycle = d.state.lifecycle := h.twin.lifecycle

lemma tale (h : Coupled c d) : c.state.tale = d.state.tale := h.twin.tale

lemma isBroken (h : Coupled c d) : c.isBroken = d.isBroken :=
  congrArg Option.isSome h.twin.excess

lemma history_zero (h : Coupled c d) : c.history 0 = d.history 0 := by
  have hl := h.lifecycle
  have ht := h.tale
  rw [Course.history, Course.history, Course.lives, Course.lives, hl]
  exact congrArg _ ht

/-- As long as no drain is overdrawn on the way, none is. -/
lemma fit_of (h : Coupled c d) {s : State}
    (hs : s.isOverdrawn = true → d.state.isOverdrawn = true) : s.isOverdrawn = false := by
  refine Bool.eq_false_iff.2 fun ho => ?_
  have hd := hs ho
  rw [h.fit] at hd
  cases hd

/-- Both can wait till the same instant. -/
lemma twin_waitTill (h : Coupled c d) {t : Nat} (ht : d.state.now ≤ max c.state.now t) :
    Twin (c.state.waitTill t) (d.state.waitTill t) := by
  have hw : c.state.waitTill (max d.state.now t) = c.state.waitTill t :=
    waitTill_congr c.state (by omega)
  have hd := h.twin.waitTill t
  rwa [waitTill_waitTill, hw] at hd

/-- What the plain course does not sleep past, the other does not sleep past either. -/
lemma exists_nextWake (h : Coupled c d) {t : Nat} (ht : c.state.nextWake = some t) :
    ∃ w ≤ t, d.state.nextWake = some w := by
  have hw : c.state.wakeAt = d.state.wakeAt := h.twin.wakeAt
  have hd : c.state.watchdog = d.state.watchdog := h.twin.watchdog
  rcases nextWake_cases ht with hc | hc | hc
  · exact exists_nextWake_le (.inl (hw ▸ hc))
  · exact exists_nextWake_le (.inr (hd ▸ hc))
  · rw [h.spared] at hc
    cases hc

/-- Where a deadline of the stream is the next of the course with recordings, it is the
next of the plain one. -/
lemma nextWake_eq (h : Coupled c d) {w : Nat} (hw : d.state.nextWake = some w)
    (hm : d.state.wakeAt = some w ∨ d.state.watchdog.deadline = some w) :
    c.state.nextWake = some w := by
  have hc : c.state.wakeAt = some w ∨ c.state.watchdog.deadline = some w := by
    have h₁ : c.state.wakeAt = d.state.wakeAt := h.twin.wakeAt
    have h₂ : c.state.watchdog = d.state.watchdog := h.twin.watchdog
    rwa [h₁, h₂]
  obtain ⟨v, hv, hn⟩ := exists_nextWake_le hc
  obtain ⟨u, hu, hd⟩ := h.exists_nextWake hn
  obtain rfl : w = u := Option.some.inj (hw.symm.trans hd)
  rw [hn, le_antisymm hv hu]

/-- Where nothing is due before a cue, nothing is due in the plain course. -/
lemma due_eq_none (h : Coupled c d) (hd : d.due? = none)
    (hx : ∀ x ∈ d.cues.head?, ∃ y ∈ c.cues.head?, y.limit = x.limit) : c.due? = none := by
  rw [Option.eq_none_iff_forall_ne_some]
  intro t ht
  obtain ⟨he, hn, hl⟩ := Course.due?_eq_some_iff.1 ht
  obtain ⟨w, hw, hn⟩ := h.exists_nextWake hn
  have hs : d.due? = some w := by
    refine Course.due?_eq_some_iff.2 ⟨h.twin.exited.symm.trans he, hn, fun x hm => ?_⟩
    obtain ⟨y, hy, hyx⟩ := hx x hm
    have hty := hl y hy
    omega
  rw [hd] at hs
  cases hs

/-! ### Steps -/

/-- Both meet the same. -/
lemma both (h : Coupled c d) {t : Nat} {x y : Stimulus} {xs : List Cue}
    (hx : x.lifecycle? = some y) (ht : x.isTime = false)
    (hb : d.state.now ≤ max c.state.now t) (hn : ∀ w ∈ d.state.nextWake, t ≤ w)
    (hxs : xs.Sublist d.cues) :
    Coupled ⟨(c.state.waitTill t).react y, xs.filterMap Cue.lifecycle?⟩
      ⟨(d.state.waitTill t).react x, xs⟩ := by
  have ha := (h.twin_waitTill hb).react hx
  refine ⟨?_, rfl, h.sorted.sublist hxs, fun z hz => h.still z (hxs.subset hz), fun z _ => ?_,
    ?_, settled_react (h.settled.host _) x,
    (h.punctual.waitTill hn).react (h.settled.host _) ht,
    h.fit_of (spares_react (d.state.waitTill t) hx).isOverdrawn⟩
  · rw [waitTill_of_le _ ha.now.ge]
    exact ha
  · exact ha.now.ge.trans (le_max_left _ _)
  · rcases (spares_react (c.state.waitTill t) (Stimulus.lifecycle?_idem hx)).deadline with hs | hs
    · exact hs.trans h.spared
    · exact hs

/-- Only the course with recordings meets something, and it is not to be seen. -/
lemma one (h : Coupled c d) {t : Nat} {s : State} {xs : List Cue}
    (hu : Unseen (d.state.waitTill t) s) (hs : Settled s) (hp : Punctual s)
    (hc : xs.filterMap Cue.lifecycle? = d.cues.filterMap Cue.lifecycle?)
    (hxs : xs.Sublist d.cues) (ht : ∀ x ∈ xs, t ≤ x.instant) : Coupled c ⟨s, xs⟩ := by
  have hn : s.now = max d.state.now t := by rw [hu.1.now, now_waitTill]
  refine ⟨?_, h.cues.trans hc.symm, h.sorted.sublist hxs, fun x hx => h.still x (hxs.subset hx),
    fun x hx => ?_, h.spared, hs, hp, h.fit_of hu.2⟩
  · have hd := h.twin.waitTill t
    rw [waitTill_waitTill, ← hn] at hd
    exact hd.trans hu.1.symm
  · have h₁ := h.behind x (hxs.subset hx)
    have h₂ := ht x hx
    rw [hn]
    omega

/-- A wake-up for the end of a drain alone is none of the plain course. -/
lemma of_drain (h : Coupled c d) {w : Nat} (he : d.state.exited = false)
    (hw : d.state.nextWake = some w) (hl : ∀ x ∈ d.cues, w ≤ x.instant)
    (hm : ¬(d.state.wakeAt = some w ∨ d.state.watchdog.deadline = some w)) :
    Coupled c ⟨(d.state.waitTill w).react .wake, d.cues⟩ ∧
      ((d.state.waitTill w).react .wake).drainDeadline = none ∧
      d.state.drainDeadline.isSome = true := by
  have hn : (d.state.waitTill w).now = w := by
    rw [now_waitTill]
    exact max_eq_right (punctual_iff.1 h.punctual w hw)
  have hp : Punctual (d.state.waitTill w) :=
    h.punctual.waitTill fun t ht => (Option.some.inj (hw.symm.trans ht)).le
  obtain ⟨h₁, h₂, -⟩ := nextWake_le hw
  have hd : d.state.drainDeadline = some w := by
    rcases nextWake_cases hw with hc | hc | hc
    · exact absurd (.inl hc) hm
    · exact absurd (.inr hc) hm
    · exact hc
  have hr : (d.state.waitTill w).react .wake = (d.state.waitTill w).onWake := by
    have hx : (d.state.waitTill w).exited = false := he
    rw [react, hx]
    rfl
  have hi : (d.state.waitTill w).isDrained (d.state.waitTill w).now = true := by
    have hd' : (d.state.waitTill w).drainDeadline = some w := hd
    rw [Studio.isDrained, hd', hn]
    simp
  obtain ⟨hu, ho⟩ := onWake_of_early (s := d.state.waitTill w)
    (fun t ht => hn.trans_lt (lt_of_le_of_ne (h₁ t ht) fun e => hm (.inl (e ▸ ht))))
    (fun t ht => hn.trans_lt (lt_of_le_of_ne (h₂ t ht) fun e => hm (.inr (e ▸ ht)))) hi
  rw [hr]
  refine ⟨h.one hu ?_ ?_ rfl (List.Sublist.refl _) hl, ho, by rw [hd]; rfl⟩
  · rw [← hr]
    exact settled_react (h.settled.host _) .wake
  · rw [← hr]
    exact hp.react (h.settled.host _) rfl

/-- Cues come after the wake-ups that are due before them. -/
lemma lt_limit (h : Coupled c d) {w : Nat} (hd : d.due? = some w) :
    ∀ x ∈ d.cues, w < x.limit := by
  obtain ⟨-, -, hl⟩ := Course.due?_eq_some_iff.1 hd
  have hs := h.sorted
  cases hc : d.cues with
  | nil => simp
  | cons x xs =>
      rw [hc] at hs hl
      have hx : w < x.limit := hl x rfl
      intro y hy
      rcases List.mem_cons.1 hy with rfl | hy
      · exact hx
      · exact hx.trans_le ((List.pairwise_cons.1 hs).1 y hy).2

/-- Cues come before the deadlines that are not yet due. -/
lemma instant_le (h : Coupled c d) (hd : d.due? = none) {x : Cue} (hx : x ∈ d.cues.head?) :
    ∀ w ∈ d.state.nextWake, x.instant ≤ w := by
  intro w hw
  cases he : d.state.exited with
  | true =>
      have hn : d.state.nextWake.isSome = true := by rw [hw]; rfl
      exact absurd (h.settled.exited he) ((isSome_nextWake_iff h.settled).1 hn)
  | false =>
      by_contra hlt
      have hs : d.due? = some w := by
        refine Course.due?_eq_some_iff.2 ⟨he, hw, fun y hy => ?_⟩
        obtain rfl : x = y := Option.some.inj (hx.symm.trans hy)
        have hl := x.instant_le_limit
        omega
      rw [hd] at hs
      cases hs

/-- Both courses wake up for a deadline of the stream. -/
lemma step_of_wake (h : Coupled c d) (hb : d.isBroken = false) {w : Nat} (hd : d.due? = some w)
    (hm : d.state.wakeAt = some w ∨ d.state.watchdog.deadline = some w) :
    Coupled c.step d.step := by
  obtain ⟨he, hw, -⟩ := Course.due?_eq_some_iff.1 hd
  have hcd : c.due? = some w := by
    refine Course.due?_eq_some_iff.2 ⟨h.twin.exited.trans he, h.nextWake_eq hw hm, ?_⟩
    intro y hy
    have hyc : y ∈ c.cues := List.mem_of_mem_head? hy
    rw [h.cues] at hyc
    obtain ⟨x, hx, hxy⟩ := List.mem_filterMap.1 hyc
    obtain ⟨stimulus, -, rfl⟩ := Option.map_eq_some_iff.1 hxy
    exact h.lt_limit hd x hx
  rw [Course.step_of_due hb hd, Course.step_of_due (h.isBroken.trans hb) hcd, h.cues]
  have hn : d.state.now ≤ w := punctual_iff.1 h.punctual w hw
  exact h.both rfl rfl (hn.trans (le_max_right _ _))
    (fun t ht => (Option.some.inj (hw.symm.trans ht)).le) (List.Sublist.refl _)

/-- Both courses meet the next cue. -/
lemma step_of_cue (h : Coupled c d) (hb : d.isBroken = false) (hd : d.due? = none) {x : Cue}
    {xs : List Cue} (hc : d.cues = x :: xs) {y : Stimulus}
    (hx : x.stimulus.lifecycle? = some y) : Coupled c.step d.step := by
  have hl : x.lifecycle? = some { x with stimulus := y } := by
    rw [Cue.lifecycle?, hx]
    rfl
  have hm : x ∈ d.cues := by
    rw [hc]
    exact List.mem_cons_self
  have hcc : c.cues = { x with stimulus := y } :: xs.filterMap Cue.lifecycle? := by
    rw [h.cues, hc, List.filterMap_cons_some hl]
  have hcd : c.due? = none := by
    refine h.due_eq_none hd fun z hz => ⟨{ x with stimulus := y }, by rw [hcc]; rfl, ?_⟩
    rw [hc] at hz
    cases hz
    rfl
  rw [Course.step_of_cons hb hd hc, Course.step_of_cons (h.isBroken.trans hb) hcd hcc]
  have hi := h.instant_le hd (x := x) (by rw [hc]; rfl)
  refine h.both hx (h.still x hm) (h.behind x hm) hi ?_
  rw [hc]
  exact List.sublist_cons_self x xs

end Coupled

/-- How much a course may still do on its own until the other must go on as well: its
cues, each of which may begin a drain, and the drain that is under way. -/
def Course.weight (d : Course) : Nat :=
  2 * d.cues.length + if d.state.drainDeadline.isSome then 1 else 0

namespace Coupled

variable {c d : Course}

/-- The course with recordings meets a cue that is none of the plain one. -/
lemma step_of_aside (h : Coupled c d) (hb : d.isBroken = false) (hd : d.due? = none) {x : Cue}
    {xs : List Cue} (hc : d.cues = x :: xs) (hx : x.stimulus.lifecycle? = none) :
    Coupled c d.step ∧ d.step.weight < d.weight ∨ Ruined c d.step := by
  have hl : x.lifecycle? = none := by
    rw [Cue.lifecycle?, hx]
    rfl
  have hm : x ∈ d.cues := by
    rw [hc]
    exact List.mem_cons_self
  have hs : Settled ((d.state.waitTill x.instant).react x.stimulus) :=
    settled_react (h.settled.host _) _
  have hi := h.instant_le hd (x := x) (by rw [hc]; rfl)
  rw [Course.step_of_cons hb hd hc]
  rcases react_unseen_or_overdraws (d.state.waitTill x.instant) hx with hu | ⟨ho, ht⟩
  · refine .inl ⟨h.one hu hs ?_ ?_ ?_ ?_, ?_⟩
    · exact (h.punctual.waitTill hi).react (h.settled.host _) (h.still x hm)
    · rw [hc, List.filterMap_cons_none hl]
    · rw [hc]
      exact List.sublist_cons_self x xs
    · have hp := h.sorted
      rw [hc] at hp
      exact fun y hy => ((List.pairwise_cons.1 hp).1 y hy).1
    · rw [Course.weight, Course.weight, hc, List.length_cons]
      dsimp only
      split <;> omega
  · have hl' := h.lifecycle.trans ht.lifecycle.symm
    refine .inr ⟨ho, ?_, h.isBroken.trans hb, ?_, hl', h.tale.trans ht.tale.symm⟩
    · have hx := congrArg Option.isSome (ht.excess.trans (Host.excess_put _ _))
      exact hx.trans (Option.isSome_or.trans (Bool.or_true _))
    · have hn := session_of_drainDeadline (Option.isSome_of_any ho)
      exact (congrArg Lifecycle.phase hl').trans (hs.session hn)

/-- **Side by side**: both courses go on, or only the one with recordings does, which
cannot last, or that one comes to its end in an overdrawn drain. -/
theorem step (h : Coupled c d) : Coupled c.step d.step ∨
    (Coupled c d.step ∧ d.step.weight < d.weight) ∨ Ruined c d.step := by
  cases hb : d.isBroken with
  | true =>
      rw [Course.step_of_broken hb, Course.step_of_broken (h.isBroken.trans hb)]
      exact .inl h
  | false =>
      cases hd : d.due? with
      | some w =>
          obtain ⟨he, hw, -⟩ := Course.due?_eq_some_iff.1 hd
          have hl := h.lt_limit hd
          have hi : ∀ x ∈ d.cues, w ≤ x.instant := fun x hx => Cue.le_instant (hl x hx)
          -- a deadline of the stream is the next one of both; that of a drain is not
          by_cases hm : d.state.wakeAt = some w ∨ d.state.watchdog.deadline = some w
          · exact .inl (h.step_of_wake hb hd hm)
          · obtain ⟨hc, hn, hs⟩ := h.of_drain he hw hi hm
            rw [Course.step_of_due hb hd]
            refine .inr (.inl ⟨hc, ?_⟩)
            rw [Course.weight, Course.weight, hs]
            dsimp only
            rw [hn]
            simp
      | none =>
          cases hc : d.cues with
          | nil =>
              have hcc : c.cues = [] := by rw [h.cues, hc]; rfl
              have hcd : c.due? = none := h.due_eq_none hd (by rw [hc]; simp)
              rw [Course.step_of_nil hb hd hc, Course.step_of_nil (h.isBroken.trans hb) hcd hcc]
              exact .inl h
          | cons x xs =>
              cases hx : x.stimulus.lifecycle? with
              | some y => exact .inl (h.step_of_cue hb hd hc hx)
              | none => exact .inr (h.step_of_aside hb hd hc hx)

end Coupled

/-! ### Whole runs -/

namespace Course

variable {c d : Course} {k n : Nat}

/-- Histories that were the same stay so when both courses go on to the same. -/
lemma history_both (h : c.history k = d.history n)
    (h₀ : (c.after k).state.lifecycle = (d.after n).state.lifecycle)
    (h₁ : (c.after (k + 1)).state.lifecycle = (d.after (n + 1)).state.lifecycle)
    (ht : (c.after (k + 1)).state.tale = (d.after (n + 1)).state.tale) :
    c.history (k + 1) = d.history (n + 1) := by
  have hl : c.lives k = d.lives n := congrArg Prod.fst h
  rw [history, history, lives, lives, h₀, h₁, hl, ht]

/-- They stay so when only one of them goes on, and nothing is to be seen of it. -/
lemma history_one (h : c.history k = d.history n)
    (h₀ : (c.after k).state.lifecycle = (d.after n).state.lifecycle)
    (h₁ : (c.after k).state.lifecycle = (d.after (n + 1)).state.lifecycle)
    (ht : (c.after k).state.tale = (d.after (n + 1)).state.tale) :
    c.history k = d.history (n + 1) := by
  have hl : c.lives k = d.lives n := congrArg Prod.fst h
  rw [history, history, lives, if_pos (h₁.symm.trans h₀), hl, ht]

lemma after_of_broken (h : (c.after n).isBroken = true) {m : Nat} (hm : n ≤ m) :
    c.after m = c.after n := by
  induction m, hm using Nat.le_induction with
  | base => rfl
  | succ m _ ih => rw [after, ih, step_of_broken h]

/-- What is to be seen of a course grows. -/
lemma length_lives_le (c : Course) {m n : Nat} (h : m ≤ n) :
    (c.lives m).length ≤ (c.lives n).length := by
  induction n, h using Nat.le_induction with
  | base => exact le_rfl
  | succ n _ ih =>
      rw [lives]
      split
      · exact ih
      · rw [List.length_append]
        omega

/-- Of a course that is broken nothing more is to be seen. -/
lemma lives_of_broken (h : (c.after n).isBroken = true) {m : Nat} (hm : n ≤ m) :
    c.lives m = c.lives n := by
  induction m, hm using Nat.le_induction with
  | base => rfl
  | succ m hm ih =>
      rw [lives, if_pos, ih]
      rw [after_of_broken h hm, after_of_broken h (Nat.le_succ_of_le hm)]

end Course

/-- Two courses begin side by side. -/
lemma coupled_begin (u : Setup) (y : Schedule) :
    Coupled (u.lifecycle.course y.lifecycle) (u.course y) where
  twin := by
    have hw : (u.lifecycle.course y.lifecycle).state.waitTill (u.course y).state.now
        = (u.lifecycle.course y.lifecycle).state := waitTill_of_le _ le_rfl
    rw [hw]
    rfl
  cues := rfl
  sorted := y.sorted
  still := y.still
  behind := fun _ _ => le_max_left _ _
  spared := rfl
  settled := settled_begin u
  punctual := ⟨by rintro _ ⟨⟩, by rintro _ ⟨⟩, by rintro _ ⟨⟩⟩
  fit := rfl

section Runs

variable {c d : Course}

/-- The plain course comes to wherever the other one comes. -/
lemma exists_second (h : Coupled c d) (n : Nat) : ∃ k, c.history k = d.history n ∧
    (Coupled (c.after k) (d.after n) ∨ Ruined (c.after k) (d.after n)) := by
  induction n with
  | zero => exact ⟨0, h.history_zero, .inl h⟩
  | succ n ih =>
      obtain ⟨k, hh, hc | hr⟩ := ih
      · rcases hc.step with hs | ⟨hs, -⟩ | hs
        · exact ⟨k + 1, Course.history_both hh hc.lifecycle hs.lifecycle hs.tale, .inl hs⟩
        · exact ⟨k, Course.history_one hh hc.lifecycle hs.lifecycle hs.tale, .inl hs⟩
        · exact ⟨k, Course.history_one hh hc.lifecycle hs.lifecycle hs.tale, .inr hs⟩
      · have hs : d.after (n + 1) = d.after n := Course.step_of_broken hr.broken
        refine ⟨k, Course.history_one hh hr.lifecycle ?_ ?_, .inr (hs ▸ hr)⟩
        · rw [hs]
          exact hr.lifecycle
        · rw [hs]
          exact hr.tale

/-- The course with recordings comes to where both must go on. -/
lemma exists_both (hd : ∀ n, (d.after n).state.isOverdrawn = false) {k : Nat} (w : Nat) :
    ∀ n, (d.after n).weight = w → c.history k = d.history n → Coupled (c.after k) (d.after n) →
      ∃ m, c.history (k + 1) = d.history m ∧ Coupled (c.after (k + 1)) (d.after m) := by
  -- the plain course stands still meanwhile, and the weight counts what the other may do
  induction w using Nat.strong_induction_on with
  | _ w ih =>
      intro n hw hh hc
      rcases hc.step with hs | ⟨hs, hl⟩ | hs
      · exact ⟨n + 1, Course.history_both hh hc.lifecycle hs.lifecycle hs.tale, hs⟩
      · exact ih _ (hw ▸ hl) (n + 1) rfl
          (Course.history_one hh hc.lifecycle hs.lifecycle hs.tale) hs
      · have ho : (d.after (n + 1)).state.isOverdrawn = true := hs.overdrawn
        rw [hd] at ho
        cases ho

/-- The course with recordings comes to wherever the plain one comes. -/
lemma exists_first (h : Coupled c d) (hd : ∀ n, (d.after n).state.isOverdrawn = false)
    (k : Nat) : ∃ n, c.history k = d.history n ∧ Coupled (c.after k) (d.after n) := by
  induction k with
  | zero => exact ⟨0, h.history_zero, h⟩
  | succ k ih =>
      obtain ⟨n, hh, hc⟩ := ih
      exact exists_both hd _ n rfl hh hc

/-- The plain course goes on to what the other one never comes to. -/
lemma range_ne_of_ruined {interval k n : Nat} (hc : Bare interval c) (hi : 0 < interval)
    (hr : Ruined (c.after k) (d.after n)) (hh : c.history k = d.history n) :
    Set.range d.history ≠ Set.range c.history := by
  obtain ⟨j, hj⟩ := (hc.after k).exists_change hi hr.whole hr.running
  rw [Course.after_add, Course.after_add, ← Nat.add_assoc] at hj
  have hl : (c.lives (k + j + 1)).length = (c.lives (k + j)).length + 1 := by
    rw [Course.lives, if_neg hj, List.length_append]
    rfl
  have hk := c.length_lives_le (Nat.le_add_right k j)
  have hn : c.lives k = d.lives n := congrArg Prod.fst hh
  intro he
  obtain ⟨m, hm⟩ : c.history (k + j + 1) ∈ Set.range d.history := by
    rw [he]
    exact ⟨_, rfl⟩
  have hm' : d.lives m = c.lives (k + j + 1) := congrArg Prod.fst hm
  have hle : (d.lives m).length ≤ (d.lives n).length := by
    rcases le_total m n with h | h
    · exact d.length_lives_le h
    · rw [Course.lives_of_broken hr.broken h]
  rw [hm', hl, ← hn] at hle
  omega

end Runs

/-- **Recording never disturbs the stream**, unless a drain ends beyond the clock.  Of a
run with recordings nothing is to be seen but what is to be seen of the same run without
them; all of that is to be seen if no drain ends beyond the clock, and, with settings that
are in order, only then.  Where one does, the run comes to its end, at a point where the
other one goes on with its graph. -/
theorem undisturbed_of_course (u : Setup) (y : Schedule) :
    let c := u.lifecycle.course y.lifecycle
    let d := u.course y
    Set.range d.history ⊆ Set.range c.history ∧
      ((∀ n, (d.after n).state.isOverdrawn = false) → Set.range d.history = Set.range c.history) ∧
      (u.settings.check = .ok () → Set.range d.history = Set.range c.history →
        ∀ n, (d.after n).state.isOverdrawn = false) ∧
      ∀ n, (d.after n).state.isOverdrawn = true →
        (d.after n).isBroken = true ∧ (∀ m, n ≤ m → d.after m = d.after n) ∧
          ∃ k, c.history k = d.history n ∧ (c.after k).isBroken = false ∧
            (c.after k).state.phase = .running := by
  intro c d
  have h : Coupled c d := coupled_begin u y
  have hs : Set.range d.history ⊆ Set.range c.history := by
    rintro _ ⟨n, rfl⟩
    obtain ⟨k, hk, -⟩ := exists_second h n
    exact ⟨k, hk⟩
  have hr : ∀ n, (d.after n).state.isOverdrawn = true →
      ∃ k, c.history k = d.history n ∧ Ruined (c.after k) (d.after n) := by
    intro n ho
    obtain ⟨k, hk, hc | hr⟩ := exists_second h n
    · rw [hc.fit] at ho
      cases ho
    · exact ⟨k, hk, hr⟩
  refine ⟨hs, fun hd => hs.antisymm ?_, fun hu he n => ?_, fun n ho => ?_⟩
  · rintro _ ⟨k, rfl⟩
    obtain ⟨n, hn, -⟩ := exists_first h hd k
    exact ⟨n, hn.symm⟩
  · refine Bool.eq_false_iff.2 fun ho => ?_
    obtain ⟨k, hk, hr⟩ := hr n ho
    exact range_ne_of_ruined (bare_begin u y) (Settings.check_eq_ok_iff.1 hu).1 hr hk he
  · obtain ⟨k, hk, hr⟩ := hr n ho
    exact ⟨hr.broken, fun m hm => Course.after_of_broken hr.broken hm, k, hk, hr.whole,
      hr.running⟩

end StreamWarden.Supervisor
