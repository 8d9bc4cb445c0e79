import StreamWarden.Proofs.Vigil

/-!
# What a probe keeps of the frames

A probe keeps the instant of the latest frame in whole microseconds since it was made,
rounded down.  It may therefore take a frame for older than it is, by less than a
microsecond as long as its word can count them, and never takes one for younger.

* `FrameProbe.kept`: what a probe keeps of an instant; `kept_le`, `lt_kept`, `kept_eq`.
* `State.arrivals`: the instants at which frames have passed a probe in a run.
* `Marked`: a probe is what its frames have made of it; `run_marked`: so it is in every run.
-/

namespace StreamWarden

namespace FrameProbe

/-- What a probe keeps of an instant: the microsecond below, as far as its word can count. -/
def kept (p : FrameProbe) (m : Nat) : Nat :=
  p.epoch + Time.micros (min (Time.wholeMicros (m - p.epoch)) (Time.maxCount - 1))

/-- The word of the probe can count the microseconds until this instant. -/
def Counts (p : FrameProbe) (m : Nat) : Prop := Time.wholeMicros (m - p.epoch) < Time.maxCount

variable {p : FrameProbe} {m : Nat}

/-- No frame is taken for younger than it is. -/
lemma kept_le (h : p.epoch ≤ m) : p.kept m ≤ m := by
  simp only [kept, Time.micros, Time.wholeMicros]
  omega

/-- Nor for older by a microsecond. -/
lemma lt_kept (hc : p.Counts m) : m < p.kept m + Time.micros 1 := by
  simp only [Counts, kept, Time.micros, Time.wholeMicros] at hc ⊢
  omega

/-- A frame that comes at a whole microsecond of the probe is taken for as old as it is. -/
lemma kept_eq (h : p.epoch ≤ m) (hc : p.Counts m) (hm : Time.micros 1 ∣ m - p.epoch) :
    p.kept m = m := by
  simp only [Counts, kept, Time.micros, Time.wholeMicros] at hc hm ⊢
  omega

lemma kept_congr {q : FrameProbe} (h : p.epoch = q.epoch) (m : Nat) : p.kept m = q.kept m := by
  rw [kept, kept, h]

/-- Frames do not change when a probe was made. -/
@[simp] lemma epoch_marks (p : FrameProbe) (ms : List Nat) : (ms.foldl mark p).epoch = p.epoch := by
  induction ms generalizing p with
  | nil => rfl
  | cons m ms ih => exact ih _

/-- The latest frame is kept. -/
lemma lastFrame?_marks (e : Nat) (ms : List Nat) :
    (ms.foldl mark (new e)).lastFrame? = ms.getLast?.map (new e).kept := by
  induction ms using List.reverseRecOn with
  | nil => rfl
  | append_singleton ms m =>
      rw [List.foldl_append, List.getLast?_concat]
      refine (lastFrame?_mark _ m).trans ?_
      rw [epoch_marks]
      rfl

end FrameProbe

namespace Supervisor

open State

/-! ### The frames of a run -/

namespace State

/-- The instant of the stimulus, if it is a frame that passes this probe. -/
def arrival? (g : Nat) (s : State) : Stimulus → Option Nat
  | .frame number => if number = g ∧ g < s.probes.length then some s.now else none
  | _ => none

/-- The instants at which frames have passed a probe in a run. -/
def arrivals (g : Nat) : State → List Stimulus → List Nat
  | _, [] => []
  | s, x :: xs => (s.arrival? g x).toList ++ (s.react x).arrivals g xs

lemma arrivals_append (g : Nat) (s : State) (xs ys : List Stimulus) :
    s.arrivals g (xs ++ ys) = s.arrivals g xs ++ (s.run xs).arrivals g ys := by
  induction xs generalizing s with
  | nil => rfl
  | cons x xs ih =>
      rw [List.cons_append, arrivals, ih, arrivals, List.append_assoc]
      rfl

end State

/-! ### Answers and probes -/

section Answers

variable {s : State}

/-- No look marks a probe. -/
lemma probed_watch (hs : Settled s) : Probed s s.watch := by
  cases hv : s.verdict with
  | none =>
      rw [watch_of_none hv]
      exact .of_eq rfl rfl
  | some v =>
      by_cases hn : ∀ age, v ≠ .stalled age
      · exact .of_told (told_watch hv hn) (.of_eq rfl rfl)
      · obtain ⟨age, rfl⟩ := not_forall_not.1 hn
        have hp : s.phase = .running := hs.watchdog.1 (isArmed_of_verdict hv)
        exact .of_told (told_watch_of_stalled hp hv) (.of_eq rfl rfl)

/-- No wake-up marks a probe. -/
lemma probed_onWake (hs : Settled s) : Probed s s.onWake := by
  obtain ⟨es, ha⟩ := Studio.act_finishDrain s.toStudio s.now s.graph
  have hd : Settled s.drained := hs.act ha
  obtain ⟨fs, hm⟩ := moves_endDelay hd
  have h := (calm_drained s).toProbed.trans (calm_endDelay hd).toProbed
  exact h.trans (probed_watch (hm.settled hd))

/-- **Only a frame marks a probe.** -/
theorem probed_react (hs : Settled s) {x : Stimulus} (ht : x.isTime = false)
    (hf : ∀ number, x ≠ .frame number) : Probed s (s.react x) := by
  by_cases hw : x = .wake
  · subst hw
    rw [react]
    split
    · exact .of_eq rfl rfl
    · exact probed_onWake hs
  · exact (calm_react hs ht hw hf).toProbed

end Answers

/-! ### Probes and their frames -/

/-- **A probe is what its frames have made of it**: as long as it was not made, none came,
and then none came before it was made. -/
inductive Marked (g : Nat) (s : State) : List Nat → Prop where
  | unmade (hg : s.probes.length ≤ g) : Marked g s []
  | made {ms : List Nat} (e : Nat)
      (hp : s.probes[g]? = some (ms.foldl FrameProbe.mark (FrameProbe.new e)))
      (he : e ≤ s.now) (hm : ∀ m ∈ ms, e ≤ m) : Marked g s ms

namespace Marked

variable {g : Nat} {s t : State} {ms : List Nat}

lemma probed (hk : Marked g s ms) (h : Probed s t) : Marked g t ms := by
  obtain ⟨⟨n, hp⟩, hn⟩ := h
  cases hk with
  | unmade hg =>
      by_cases hl : t.probes.length ≤ g
      · exact .unmade hl
      · have hi : g - s.probes.length < n := by
          simp only [hp, List.length_append, List.length_replicate] at hl
          omega
        refine .made s.now ?_ hn.ge (List.forall_mem_nil _)
        rw [hp, List.getElem?_append_right hg, List.getElem?_replicate, if_pos hi]
        rfl
  | made e he hle hm =>
      refine .made e ?_ (hn ▸ hle) hm
      rw [hp, List.getElem?_append_left (List.getElem?_eq_some_iff.1 he).1, he]

/-- A frame marks the probe that it passes, and no other. -/
lemma frame (hk : Marked g s ms) (number : Nat) :
    Marked g (s.onHost (Host.markProbe · number)) (ms ++ (s.arrival? g (.frame number)).toList) := by
  have hp : (s.onHost (Host.markProbe · number)).probes[g]? =
      (fun p => if number = g then p.mark s.now else p) <$> s.probes[g]? :=
    List.getElem?_modify _ _ _ _
  cases hk with
  | unmade hg =>
      have ha : s.arrival? g (.frame number) = none := if_neg fun h => Nat.not_lt.2 hg h.2
      rw [ha]
      exact .unmade (by simpa [onHost, onStudio, Studio.onHost, Host.markProbe] using hg)
  | made e he hle hm =>
      rw [he] at hp
      by_cases hn : number = g
      · have ha : s.arrival? g (.frame number) = some s.now :=
          if_pos ⟨hn, (List.getElem?_eq_some_iff.1 he).1⟩
        rw [ha]
        refine .made e ?_ hle fun m hi => ?_
        · rw [hp, List.foldl_append]
          simp [hn]
        · rcases List.mem_append.1 hi with hi | hi
          · exact hm m hi
          · exact List.mem_singleton.1 hi ▸ hle
      · have ha : s.arrival? g (.frame number) = none := if_neg fun h => hn h.1
        rw [ha]
        refine .made e ?_ hle (by simpa using hm)
        simpa [hn] using hp

lemma react (hk : Marked g s ms) (hs : Settled s) (x : Stimulus) :
    Marked g (s.react x) (ms ++ (s.arrival? g x).toList) := by
  have still : s.arrival? g x = none → Marked g (s.react x) ms →
      Marked g (s.react x) (ms ++ (s.arrival? g x).toList) := by
    intro ha h
    rwa [ha, Option.toList_none, List.append_nil]
  cases x with
  | frame number =>
      rw [react_of_not_isIteration s rfl]
      exact hk.frame number
  | pass span =>
      refine still rfl ?_
      rw [react_pass]
      cases hk with
      | unmade hg => exact .unmade hg
      | made e he hle hm => exact .made e he (hle.trans (Nat.le_add_right _ _)) hm
  | request | abandoned | status | wake | files | script =>
      exact still rfl (hk.probed (probed_react hs rfl nofun))

/-- The probe keeps the latest frame. -/
lemma lastFrame? (hk : Marked g s ms) :
    (s.probe g).lastFrame? = ms.getLast?.map (s.probe g).kept := by
  cases hk with
  | unmade hg =>
      rw [Host.probe, List.getD_eq_getElem?_getD, List.getElem?_eq_none hg]
      rfl
  | made e he _ _ =>
      rw [Host.probe, List.getD_eq_getElem?_getD, he, Option.getD_some,
        FrameProbe.lastFrame?_marks]
      refine congrArg (ms.getLast?.map ·) (funext fun m => FrameProbe.kept_congr ?_ m)
      rw [FrameProbe.epoch_marks]

/-- The probe was made before the frames came. -/
lemma epoch_le (hk : Marked g s ms) {m : Nat} (hm : m ∈ ms) : (s.probe g).epoch ≤ m := by
  cases hk with
  | unmade => cases hm
  | made e he _ hle =>
      rw [Host.probe, List.getD_eq_getElem?_getD, he, Option.getD_some, FrameProbe.epoch_marks]
      exact hle m hm

end Marked

/-- **In every run the probes are what their frames have made of them.** -/
theorem run_marked (u : Setup) (xs : List Stimulus) (g : Nat) :
    Marked g (u.begin.run xs) (u.begin.arrivals g xs) := by
  induction xs using List.reverseRecOn with
  | nil =>
      cases g with
      | zero => exact .made u.now rfl le_rfl (List.forall_mem_nil _)
      | succ g => exact .unmade (Nat.succ_le_succ (Nat.zero_le g))
  | append_singleton xs x ih =>
      have ha : (u.begin.run xs).arrivals g [x] = ((u.begin.run xs).arrival? g x).toList :=
        List.append_nil _
      rw [arrivals_append, ha, State.run_concat]
      exact ih.react (run_settled u xs) x

end Supervisor

end StreamWarden
