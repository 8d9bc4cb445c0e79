import Mathlib.Tactic
import StreamWarden.Liveness.Watchdog

/-!
# How often a watchdog looks

Whoever has a watchdog may arm it, disarm it, and ask it to look, at any instants and in any
order.  What it answers can be told from what it was asked and has answered before: it looks
exactly if it was armed, and not disarmed since, and has found no stall since, and a full interval
has passed since then and since each of its looks.  How late it is asked makes no difference, and
one that has found a stall does not look again until it is armed.

Each look that finds no stall sets the instant of the next one.  The clock has an end, and where
that instant lies behind it, the machine meets a limit instead of giving an answer.

* `run?`: some calls of a watchdog on a clock that has an end.
* `Due`: a look is due after what has been answered so far.
* `Standing`: what the deadline says of the answers so far; `Standing.call`: so it is after every
  call.
* **`cadence_of_calls`**: which calls are answered by a look, and where the clock ends.
-/

namespace StreamWarden.Watchdog

/-! ### Calls and answers -/

/-- A call that was answered, and what was found. -/
structure Entry where
  call : Call
  verdict : Option Verdict

/-- Some calls, one after the other, with their answers, on a clock that has this end. -/
def run? (horizon : Nat) (w : Watchdog) (cs : List Call) : Except Excess (Watchdog × List Entry) :=
  cs.foldlM (fun (v, h) c => do
    let (u, verdict) ← v.call? horizon c
    return (u, h ++ [⟨c, verdict⟩])) (w, [])

/-- An answer leaves a watchdog armed that was armed before. -/
def Entry.isCalm : Entry → Bool
  | ⟨.arm _, _⟩ | ⟨.disarm, _⟩ | ⟨.check _ _, some (.stalled _)⟩ => false
  | ⟨.check _ _, _⟩ => true

/-- The watchdog was armed at `t`, and these answers since then have left it so. -/
def Armed (h : List Entry) (t : Nat) (since : List Entry) : Prop :=
  (∃ before, h = before ++ ⟨.arm t, none⟩ :: since) ∧ ∀ e ∈ since, e.isCalm = true

/-- A full interval has passed since the watchdog was armed, and since each of its looks. -/
def Rested (interval t : Nat) (since : List Entry) (now : Nat) : Prop :=
  t + interval ≤ now ∧
    ∀ t' probe v, ⟨.check t' probe, some v⟩ ∈ since → t' + interval ≤ now

/-- A look is due after these answers. -/
def Due (interval : Nat) (h : List Entry) (now : Nat) : Prop :=
  ∃ t since, Armed h t since ∧ Rested interval t since now

/-- The latest frame of the probe is older than the threshold. -/
def Stale (threshold now : Nat) (probe : FrameProbe) : Prop :=
  ∃ last, probe.lastFrame? = some last ∧ threshold < now - last

variable {w u : Watchdog} {h : List Entry} {horizon t now : Nat} {probe : FrameProbe}

/-! ### The latest call to arm -/

lemma armed_concat_iff {e : Entry} {since : List Entry} :
    Armed (h ++ [e]) t since ↔ e = ⟨.arm t, none⟩ ∧ since = [] ∨
      ∃ s, since = s ++ [e] ∧ Armed h t s ∧ e.isCalm = true := by
  constructor
  · rintro ⟨⟨before, hb⟩, hc⟩
    rcases List.eq_nil_or_concat' since with rfl | ⟨s, e', rfl⟩
    · obtain ⟨-, he⟩ := List.append_inj' hb rfl
      exact .inl ⟨List.singleton_inj.1 he, rfl⟩
    · rw [← List.cons_append, ← List.append_assoc] at hb
      obtain ⟨hh, he⟩ := List.append_inj' hb rfl
      cases he
      exact .inr ⟨s, rfl, ⟨⟨before, hh⟩, fun e he => hc e (List.mem_append_left _ he)⟩,
        hc e (by simp)⟩
  · rintro (⟨rfl, rfl⟩ | ⟨s, rfl, ⟨⟨before, rfl⟩, hc⟩, he⟩)
    · exact ⟨⟨h, rfl⟩, List.forall_mem_nil _⟩
    · refine ⟨⟨before, by simp⟩, fun e' he' => ?_⟩
      rcases List.mem_append.1 he' with he' | he'
      · exact hc e' he'
      · exact List.mem_singleton.1 he' ▸ he

/-- There is one latest call to arm. -/
lemma Armed.unique {t' : Nat} {s s' : List Entry} (ha : Armed h t s) (ha' : Armed h t' s') :
    t = t' ∧ s = s' := by
  induction h using List.reverseRecOn generalizing s s' with
  | nil =>
      obtain ⟨⟨before, hb⟩, -⟩ := ha
      simp at hb
  | append_singleton h e ih =>
      rcases armed_concat_iff.1 ha with ⟨he, rfl⟩ | ⟨s, rfl, hs, hc⟩ <;>
        rcases armed_concat_iff.1 ha' with ⟨he', rfl⟩ | ⟨s', rfl, hs', hc'⟩
      · rw [he] at he'
        cases he'
        exact ⟨rfl, rfl⟩
      · rw [he] at hc'
        cases hc'
      · rw [he'] at hc
        cases hc
      · obtain ⟨rfl, rfl⟩ := ih hs hs'
        exact ⟨rfl, rfl⟩

/-! ### What the deadline says -/

/-- **What the deadline says of the answers so far**: without one, the watchdog is not armed;
otherwise it is the first instant at which the watchdog has rested. -/
inductive Standing (interval : Nat) (h : List Entry) : Option Nat → Prop where
  | off (hn : ∀ t since, ¬Armed h t since) : Standing interval h none
  | on {t d : Nat} {since : List Entry} (ha : Armed h t since)
      (hd : ∀ now, d ≤ now ↔ Rested interval t since now) : Standing interval h (some d)

namespace Standing

variable {interval : Nat}

/-- So the deadline says whether a look is due. -/
lemma due_iff {deadline : Option Nat} (hs : Standing interval h deadline) (now : Nat) :
    deadline.any (· ≤ now) = true ↔ Due interval h now := by
  cases hs with
  | off hn => simp [Due, hn]
  | on ha hd =>
      simp only [Option.any_some, decide_eq_true_eq, hd]
      constructor
      · exact fun hr => ⟨_, _, ha, hr⟩
      · rintro ⟨t, since, ha', hr⟩
        obtain ⟨rfl, rfl⟩ := ha.unique ha'
        exact hr

/-- What is not calm leaves nothing armed, unless it is a call to arm. -/
lemma off_concat {e : Entry} (hc : e.isCalm = false) (hn : ∀ t, e ≠ ⟨.arm t, none⟩) :
    Standing interval (h ++ [e]) none := by
  refine .off fun t since ha => ?_
  rcases armed_concat_iff.1 ha with ⟨he, -⟩ | ⟨-, -, -, he⟩
  · exact hn t he
  · exact Bool.noConfusion (hc.symm.trans he)

/-- A look that is not due leaves all as it is. -/
lemma concat_none {deadline : Option Nat} (hs : Standing interval h deadline) :
    Standing interval (h ++ [⟨.check now probe, none⟩]) deadline := by
  cases hs with
  | off hn =>
      refine .off fun t since ha => ?_
      rcases armed_concat_iff.1 ha with ⟨he, -⟩ | ⟨s, -, hs, -⟩
      · cases he
      · exact hn t s hs
  | on ha hd =>
      refine .on (armed_concat_iff.2 (.inr ⟨_, rfl, ha, rfl⟩)) fun n => (hd n).trans ?_
      simp [Rested]

/-- A look that finds no stall is the latest that counts. -/
lemma concat_some (hd : Due interval h now) {v : Verdict} (hv : ∀ age, v ≠ .stalled age) :
    Standing interval (h ++ [⟨.check now probe, some v⟩]) (some (now + interval)) := by
  obtain ⟨t, since, ha, ht, hr⟩ := hd
  have hc : Entry.isCalm ⟨.check now probe, some v⟩ = true := by
    cases v with
    | stalled age => exact absurd rfl (hv age)
    | noFrameYet | healthy => rfl
  refine .on (armed_concat_iff.2 (.inr ⟨_, rfl, ha, hc⟩)) fun n => ⟨fun hn => ⟨?_, ?_⟩, ?_⟩
  · omega
  · intro t' probe' v' hm
    rcases List.mem_append.1 hm with hm | hm
    · have := hr t' probe' v' hm
      omega
    · cases List.mem_singleton.1 hm
      exact hn
  · exact fun hn => hn.2 now probe v (by simp)

/-- **After every call the deadline says what it should.** -/
theorem call (hs : Standing interval h w.deadline) (hi : w.interval = interval) (c : Call) :
    Standing interval (h ++ [⟨c, (w.call c).2⟩]) (w.call c).1.deadline := by
  cases c with
  | arm now =>
      refine .on (armed_concat_iff.2 (.inl ⟨rfl, rfl⟩)) fun n => ?_
      rw [hi]
      simp [Rested]
  | disarm => exact off_concat rfl (by simp)
  | check now probe =>
      rw [Watchdog.call]
      cases hd : w.isDue now with
      | false =>
          have he : w.check now probe = (w, none) := by rw [check, hd]; rfl
          rw [he]
          exact hs.concat_none
      | true =>
          by_cases hv : ∃ age, w.judge now probe = .stalled age
          · obtain ⟨age, hv⟩ := hv
            rw [check_of_stalled hd hv]
            exact off_concat rfl (by simp)
          · rw [check_of_due hd (not_exists.1 hv), arm, hi]
            exact concat_some ((hs.due_iff now).1 hd) (not_exists.1 hv)

end Standing

/-! ### The end of the clock -/

/-- No call changes the settings. -/
lemma settings_call (w : Watchdog) (c : Call) :
    (w.call c).1.interval = w.interval ∧ (w.call c).1.threshold = w.threshold := by
  cases c with
  | arm | disarm => exact ⟨rfl, rfl⟩
  | check now probe =>
      refine ⟨w.interval_check now probe, ?_⟩
      rw [call, check]
      split
      · split <;> rfl
      · rfl

lemma call_eq_of_call? {c : Call} {v : Option Verdict} (hc : w.call? horizon c = .ok (u, v)) :
    w.call c = (u, v) ∧ ∀ d ∈ u.deadline, d < horizon := by
  rw [call?] at hc
  split at hc
  case isTrue => cases hc
  case isFalse hn =>
    have he := Except.ok.inj hc
    rw [he] at hn
    exact ⟨he, fun d hd => not_le.1 fun hle => hn (by simp [Option.mem_def.1 hd, hle])⟩

lemma call?_eq_error_iff {c : Call} :
    (∃ e, w.call? horizon c = .error e) ↔ ∃ d ∈ (w.call c).1.deadline, horizon ≤ d := by
  rw [call?]
  cases (w.call c).1.deadline with
  | none => simp
  | some d =>
      by_cases hd : horizon ≤ d
      · simp [hd]
      · simp [hd]

/-- A call to arm breaks exactly where the first look lies behind the end of the clock. -/
lemma arm_breaks_iff :
    (∃ e, w.call? horizon (.arm now) = .error e) ↔ horizon ≤ now + w.interval := by
  rw [call?_eq_error_iff]
  simp [call, arm]

/-- A look that is due is taken, unless it finds no stall and the next one lies behind the end of
the clock. -/
lemma call?_check (horizon : Nat) (probe : FrameProbe) (hd : w.isDue now = true) :
    (∃ age, w.judge now probe = .stalled age ∧
      w.call? horizon (.check now probe) = .ok (w.disarm, some (.stalled age))) ∨
    (∀ age, w.judge now probe ≠ .stalled age) ∧
      w.call? horizon (.check now probe) =
        if horizon ≤ now + w.interval then .error .instant
        else .ok (w.arm now, some (w.judge now probe)) := by
  by_cases hv : ∃ age, w.judge now probe = .stalled age
  · obtain ⟨age, hv⟩ := hv
    refine .inl ⟨age, hv, ?_⟩
    rw [call?, call, check_of_stalled hd hv]
    simp [disarm]
  · refine .inr ⟨not_exists.1 hv, ?_⟩
    rw [call?, call, check_of_due hd (not_exists.1 hv)]
    simp [arm]

lemma stale_iff : Stale w.threshold now probe ↔ ∃ age, w.judge now probe = .stalled age := by
  simp only [judge_eq_stalled_iff, Stale, Option.mem_def]
  constructor
  · rintro ⟨last, hl, ht⟩
    exact ⟨_, last, hl, rfl, ht⟩
  · rintro ⟨_, last, hl, rfl, ht⟩
    exact ⟨last, hl, ht⟩

/-! ### Runs -/

/-- What holds of a watchdog and of its answers in every run: the settings stay, the deadline
lies before the end of the clock and says what it should, and what has looked was due. -/
structure Kept (horizon interval threshold : Nat) (w : Watchdog) (h : List Entry) : Prop where
  interval_eq : w.interval = interval
  threshold_eq : w.threshold = threshold
  within : ∀ d ∈ w.deadline, d < horizon
  standing : Standing interval h w.deadline
  faithful : ∀ before now probe v after, h = before ++ ⟨.check now probe, v⟩ :: after →
    (v.isSome = true ↔ Due interval before now)

namespace Kept

variable {interval threshold : Nat}

lemma new (interval threshold : Nat) : Kept horizon interval threshold { interval, threshold } [] where
  interval_eq := rfl
  threshold_eq := rfl
  within := nofun
  standing := .off fun t since ha => by
    obtain ⟨⟨before, hb⟩, -⟩ := ha
    simp at hb
  faithful before now probe v after hb := by simp at hb

lemma isDue_iff (hk : Kept horizon interval threshold w h) (now : Nat) :
    w.isDue now = true ↔ Due interval h now :=
  hk.standing.due_iff now

/-- A call to look is answered by a look exactly if one is due. -/
lemma isSome_check_iff (hk : Kept horizon interval threshold w h) (now : Nat) (probe : FrameProbe) :
    (w.check now probe).2.isSome = true ↔ Due interval h now := by
  rw [← hk.isDue_iff]
  cases hd : w.isDue now with
  | false => simp [check, hd]
  | true =>
      by_cases hv : ∃ age, w.judge now probe = .stalled age
      · obtain ⟨age, hv⟩ := hv
        simp [check_of_stalled hd hv]
      · simp [check_of_due hd (not_exists.1 hv)]

theorem call (hk : Kept horizon interval threshold w h) {c : Call} {v : Option Verdict}
    (hc : w.call? horizon c = .ok (u, v)) : Kept horizon interval threshold u (h ++ [⟨c, v⟩]) := by
  obtain ⟨he, hw⟩ := call_eq_of_call? hc
  have hs := hk.standing.call hk.interval_eq c
  obtain ⟨hi, ht⟩ := settings_call w c
  rw [he] at hs hi ht
  refine ⟨hi.trans hk.interval_eq, ht.trans hk.threshold_eq, hw, hs, ?_⟩
  intro before now probe v' after hb
  rcases List.eq_nil_or_concat' after with rfl | ⟨after, e, rfl⟩
  · obtain ⟨rfl, hx⟩ := List.append_inj' hb rfl
    cases hx
    have hv : (w.check now probe).2 = v := congrArg Prod.snd he
    rw [← hv]
    exact hk.isSome_check_iff now probe
  · rw [← List.cons_append, ← List.append_assoc] at hb
    obtain ⟨hh, -⟩ := List.append_inj' hb rfl
    exact hk.faithful before now probe v' after hh

/-- A look that is due is taken, unless it finds no stall and the next one would lie behind the
end of the clock. -/
lemma looks_iff (hk : Kept horizon interval threshold w h) :
    (∃ u v, w.call? horizon (.check now probe) = .ok (u, some v)) ↔
      Due interval h now ∧ (now + interval < horizon ∨ Stale threshold now probe) := by
  rw [← hk.isDue_iff, ← hk.threshold_eq, stale_iff, ← hk.interval_eq]
  constructor
  · rintro ⟨u, v, hc⟩
    have hd : w.isDue now = true := by
      rw [hk.isDue_iff, ← hk.isSome_check_iff now probe]
      exact congrArg (fun a => a.2.isSome) (call_eq_of_call? hc).1
    refine ⟨hd, or_iff_not_imp_right.2 fun hs => ?_⟩
    obtain ⟨age, hv, -⟩ | ⟨-, he⟩ := call?_check horizon probe hd
    · exact absurd ⟨age, hv⟩ hs
    · rw [he] at hc
      split at hc
      · cases hc
      · omega
  · rintro ⟨hd, hx⟩
    obtain ⟨age, -, he⟩ | ⟨hv, he⟩ := call?_check horizon probe hd
    · exact ⟨_, _, he⟩
    · rw [if_neg (not_le.2 (hx.resolve_right (not_exists.2 hv)))] at he
      exact ⟨_, _, he⟩

lemma breaks_iff (hk : Kept horizon interval threshold w h) :
    (∃ e, w.call? horizon (.check now probe) = .error e) ↔
      Due interval h now ∧ horizon ≤ now + interval ∧ ¬Stale threshold now probe := by
  rw [← hk.isDue_iff, ← hk.threshold_eq, stale_iff, ← hk.interval_eq]
  cases hd : w.isDue now with
  | false =>
      have he : w.call (.check now probe) = (w, none) := by rw [Watchdog.call, check, hd]; rfl
      rw [call?_eq_error_iff, he]
      simpa using hk.within
  | true =>
      obtain ⟨age, hv, he⟩ | ⟨hv, he⟩ := call?_check horizon probe hd
      · simp [he, hv]
      · simp only [he, not_exists.2 hv, not_false_eq_true, and_true, true_and]
        by_cases hh : horizon ≤ now + w.interval
        · simp [hh]
        · simp [hh]

end Kept

lemma run?_concat {cs : List Call} {c : Call} {h' : List Entry}
    (hr : w.run? horizon (cs ++ [c]) = .ok (u, h')) :
    ∃ v h a, w.run? horizon cs = .ok (v, h) ∧ v.call? horizon c = .ok (u, a) ∧ h' = h ++ [⟨c, a⟩] := by
  rw [run?, List.foldlM_append] at hr
  cases hv : w.run? horizon cs with
  | error e =>
      rw [run?] at hv
      rw [hv] at hr
      cases hr
  | ok vh =>
      obtain ⟨v, h⟩ := vh
      rw [run?] at hv
      rw [hv] at hr
      cases ha : v.call? horizon c with
      | error e => simp [List.foldlM, ha, bind, Except.bind] at hr
      | ok ua =>
          have he : (ua.1, h ++ [⟨c, ua.2⟩]) = (u, h') := by
            simpa [List.foldlM, ha, bind, Except.bind, pure, Except.pure] using hr
          cases he
          exact ⟨v, h, ua.2, rfl, ha, rfl⟩

/-- So it is in every run. -/
lemma run_kept {interval threshold : Nat} {cs : List Call}
    (hr : run? horizon { interval, threshold } cs = .ok (w, h)) :
    Kept horizon interval threshold w h ∧ h.map Entry.call = cs := by
  induction cs using List.reverseRecOn generalizing w h with
  | nil =>
      cases hr
      exact ⟨.new interval threshold, rfl⟩
  | append_singleton cs c ih =>
      obtain ⟨v, h, a, hv, hc, rfl⟩ := run?_concat hr
      obtain ⟨hk, rfl⟩ := ih hv
      exact ⟨hk.call hc, by simp⟩

/-- A watchdog that is armed has been armed since anything that disarmed it. -/
lemma Armed.mem {e : Entry} {before between since : List Entry}
    (ha : Armed (before ++ e :: between) t since) (hc : e.isCalm = false)
    (hn : ∀ t, e ≠ ⟨.arm t, none⟩) : ⟨.arm t, none⟩ ∈ between := by
  induction between using List.reverseRecOn generalizing since with
  | nil =>
      rcases armed_concat_iff.1 ha with ⟨he, -⟩ | ⟨-, -, -, he⟩
      · exact absurd he (hn t)
      · exact Bool.noConfusion (hc.symm.trans he)
  | append_singleton between x ih =>
      rw [← List.cons_append, ← List.append_assoc] at ha
      rcases armed_concat_iff.1 ha with ⟨rfl, -⟩ | ⟨s, -, hs, -⟩
      · exact List.mem_append_right _ (List.mem_singleton_self _)
      · exact List.mem_append_left _ (ih hs)

/-- **How often a watchdog looks**, after any calls at any instants that the clock has got through.
A call to look was answered by a look exactly if the watchdog had been armed, and since then been
left armed, and a full interval had passed since then and since each of its looks; so between
two calls to arm there is at most one stall, and no look after it.  And that is what comes of the
next call: one to arm is in vain exactly if the first look would lie behind the end of the clock,
and one to look, however late it comes, is answered exactly if a look is due, unless no stall is
found and the next look would lie behind the end of the clock. -/
theorem cadence_of_calls {interval threshold : Nat} {cs : List Call}
    (hr : run? horizon { interval, threshold } cs = .ok (w, h)) :
    h.map Entry.call = cs ∧
    (∀ before now probe v after, h = before ++ ⟨.check now probe, v⟩ :: after →
      (v.isSome = true ↔ Due interval before now)) ∧
    (∀ before t probe age between t' probe' v after,
      h = before ++ ⟨.check t probe, some (.stalled age)⟩ :: between ++
        ⟨.check t' probe', some v⟩ :: after → ∃ a, ⟨.arm a, none⟩ ∈ between) ∧
    (∀ now, (∃ e, w.call? horizon (.arm now) = .error e) ↔ horizon ≤ now + interval) ∧
    ∀ now probe,
      ((∃ u v, w.call? horizon (.check now probe) = .ok (u, some v)) ↔
        Due interval h now ∧ (now + interval < horizon ∨ Stale threshold now probe)) ∧
      ((∃ e, w.call? horizon (.check now probe) = .error e) ↔
        Due interval h now ∧ horizon ≤ now + interval ∧ ¬Stale threshold now probe) := by
  obtain ⟨hk, hcs⟩ := run_kept hr
  refine ⟨hcs, hk.faithful, ?_, fun now => ?_, fun now probe => ⟨hk.looks_iff, hk.breaks_iff⟩⟩
  · intro before t probe age between t' probe' v after hb
    obtain ⟨a, since, ha, -⟩ := (hk.faithful _ t' probe' (some v) after hb).1 rfl
    exact ⟨a, ha.mem rfl nofun⟩
  · rw [arm_breaks_iff, hk.interval_eq]

/-- Once it is armed, a watchdog looks at the end of the first second, or whenever it is asked
after that. -/
theorem cadence_of_calls_armed :
    let w : Watchdog :=
      { interval := Time.seconds 1, threshold := Time.millis 300, deadline := some (Time.seconds 1) }
    run? Time.horizon { interval := Time.seconds 1, threshold := Time.millis 300 } [.arm 0] =
        .ok (w, [⟨.arm 0, none⟩]) ∧
      ∀ now probe, (∃ u v, w.call? Time.horizon (.check now probe) = .ok (u, some v)) ↔
        Time.seconds 1 ≤ now ∧
          (now + Time.seconds 1 < Time.horizon ∨ Stale (Time.millis 300) now probe) := by
  intro w
  have hr : run? Time.horizon { interval := Time.seconds 1, threshold := Time.millis 300 } [.arm 0] =
      .ok (w, [⟨.arm 0, none⟩]) := by rfl
  refine ⟨hr, fun now probe => ?_⟩
  rw [((cadence_of_calls hr).2.2.2.2 now probe).1]
  refine and_congr_left' ⟨?_, fun hn => ?_⟩
  · rintro ⟨t, since, ⟨⟨before, hb⟩, -⟩, ht, -⟩
    exact le_of_add_le_right ht
  · exact ⟨0, [], ⟨⟨[], rfl⟩, List.forall_mem_nil _⟩, by simpa [Rested] using hn⟩

/-- A look may be due, and the next one lie behind the end of every clock. -/
example {horizon : Nat} (hh : horizon ≤ Time.clockRange) :
    let d := Time.seconds 5000000000000000000
    call? horizon { interval := d, threshold := 1, deadline := some d }
      (.check d (FrameProbe.new 0)) = .error .instant :=
  if_pos (decide_eq_true (hh.trans (by decide)))

end StreamWarden.Watchdog
