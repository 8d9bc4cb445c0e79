import StreamWarden.Proofs.Inert
import StreamWarden.Proofs.Milestones
import StreamWarden.Proofs.Veil

/-!
# A graph that is gone has no effect

When a graph is torn down, its messages may still wait in the queue, and its frames may
still pass its probe.  They have no effect any more.  A message is told from those of the
live graph by the number with which it is stamped, and the watchdog looks at the probe of
the live graph alone; so a graph that is gone can do and say what it likes, in whatever
order with all the rest, and nothing but the log and its own probe will show it.

* `Studio.forget`: what is left of a studio without its log and one of its probes; it is a veil,
  and can be followed through all that a supervisor does.
* `Numbered`: the graph that is alive plays, and its probe is the one that is looked at.
* `Departed`: a graph is gone; `Left.run` says that this is for good.
* `Alike.react_forget`: two supervisors that differ in the probe of such a graph stay alike.
* **`departed_of_run`**: in a run, nothing depends on a graph that is gone.
-/

namespace StreamWarden

/-- What is left of a studio without its log, and with a blank probe in the place of one. -/
def Studio.forget (g : Nat) : Studio → Studio :=
  veil (List.filter (·.record?.isNone)) (·.set g (FrameProbe.new 0))

/-! ### Studios that differ in what is forgotten -/

namespace Studio

variable {g : Nat} {a b : Studio}

/-- What is left of the probes is the same. -/
lemma probes_eq_of_forget (h : a.forget g = b.forget g) :
    a.probes.set g (FrameProbe.new 0) = b.probes.set g (FrameProbe.new 0) :=
  congrArg (fun c : Studio => c.probes) h

lemma length_probes_of_forget (h : a.forget g = b.forget g) :
    a.probes.length = b.probes.length := by
  simpa using congrArg List.length (probes_eq_of_forget h)

/-- Other probes that differ in the one that is forgotten. -/
lemma withProbes_forget (h : a.forget g = b.forget g) {ps qs : List FrameProbe}
    (hp : ps.set g (FrameProbe.new 0) = qs.set g (FrameProbe.new 0)) :
    ({ a with probes := ps } : Studio).forget g = ({ b with probes := qs } : Studio).forget g :=
  congrArg₂ (fun (c : Studio) (rs : List FrameProbe) => { c with probes := rs }) h hp

/-- One more probe comes after the others. -/
lemma newProbe_forget (h : a.forget g = b.forget g) (probe : FrameProbe) :
    ({ a with probes := a.probes ++ [probe] } : Studio).forget g =
      ({ b with probes := b.probes ++ [probe] } : Studio).forget g := by
  have hp := probes_eq_of_forget h
  have hl := length_probes_of_forget h
  refine withProbes_forget h ?_
  rw [List.set_append, List.set_append, ← hl]
  split
  · rw [hp]
  · rename_i hg
    rw [List.set_eq_of_length_le (Nat.le_of_not_lt hg),
      List.set_eq_of_length_le (hl ▸ Nat.le_of_not_lt hg)] at hp
    rw [hp]

/-- A mark on the probe that is forgotten is not to be seen. -/
lemma markProbe_forget (a : Studio) : (a.onHost (Host.markProbe · g)).forget g = a.forget g := by
  have hp : (a.probes.modify g fun p => p.mark a.now).set g (FrameProbe.new 0) =
      a.probes.set g (FrameProbe.new 0) := by
    refine List.ext_getElem (by simp) fun n _ _ => ?_
    by_cases hn : g = n <;> simp [hn]
  exact withProbes_forget (rfl : a.forget g = a.forget g) hp

/-- A mark on another probe is the same on both. -/
lemma markProbe_forget_congr (h : a.forget g = b.forget g) {number : Nat} (hn : number ≠ g) :
    (a.onHost (Host.markProbe · number)).forget g =
      (b.onHost (Host.markProbe · number)).forget g := by
  have hm : ∀ c : Studio, (c.onHost (Host.markProbe · number)).forget g =
      (c.forget g).onHost (Host.markProbe · number) := by
    intro c
    have hp : (c.probes.modify number fun p => p.mark c.now).set g (FrameProbe.new 0) =
        (c.probes.set g (FrameProbe.new 0)).modify number fun p => p.mark c.now := by
      refine List.ext_getElem (by simp) fun k _ _ => ?_
      by_cases hk : g = k
      · subst hk
        simp [hn]
      · simp [List.getElem_modify, hk]
    exact congrArg (fun ps => { c.forget g with probes := ps }) hp
  rw [hm, hm, h]

/-- Another probe than the one that is forgotten is the same on both. -/
lemma probe_of_forget (h : a.forget g = b.forget g) {number : Nat} (hn : number ≠ g) :
    a.probe number = b.probe number := by
  have hp := congrArg (fun ps : List FrameProbe => ps.getD number (FrameProbe.new 0))
    (probes_eq_of_forget h)
  simpa [Host.probe, List.getD_eq_getElem?_getD, List.getElem?_set_ne hn.symm] using hp

end Studio

/-- What is left of a studio without one probe and without the log can be followed. -/
instance eraser_forget (g : Nat) : Eraser (Studio.forget g) (Studio.forget g) := by
  refine eraser_of_raise fun {a b} h profile generation => ?_
  have hl := Studio.length_probes_of_forget h
  have hp := Studio.newProbe_forget h (FrameProbe.new b.now)
  obtain ⟨ps, js, rfl⟩ := Studio.exists_of_veil h
  simp only [Host.raise_eq, Studio.onHost, ← hl, and_true]
  exact Studio.map_veil hp (fun c => { c with
    backend := (a.backend.raise profile ⟨generation, a.probes.length⟩).1 }) fun _ _ _ => rfl

namespace Supervisor

open State

/-! ### Graphs and their probes -/

/-- Attempts, graphs and probes are numbered alike: the probe of an attempt has its number,
a graph that is alive plays, and it is at its probe that the watchdog looks. -/
structure Numbered (s : State) : Prop where
  probes : s.probes.length = s.generation + 1
  watched : s.graph.isSome = true → s.watched = s.generation
  playing : s.graph.isSome = true → .playing s.generation ∈ s.events

namespace Numbered

variable {s t : State} {es : List Event}

/-- What is told does not matter. -/
lemma told (hn : Numbered s) (h : Told s es t) : Numbered t := by
  have he := h.events
  obtain ⟨files, outs, rfl, -⟩ := h
  exact ⟨hn.probes, hn.watched, fun hg => he ▸ List.mem_append_left _ (hn.playing hg)⟩

/-- Where no graph is alive, only the probes have to be counted. -/
lemma of_none (hg : t.graph = none) (hp : t.probes.length = t.generation + 1) :
    Numbered t :=
  ⟨hp, by simp [hg], by simp [hg]⟩

end Numbered

/-- Each attempt gets a probe. -/
lemma Move.numbered {s t : State} {es : List Event} (h : Move s es t) (hs : Settled s)
    (hn : Numbered s) : Numbered t := by
  cases h with
  | remark _ h => exact hn.told h
  | look _ h =>
      have hl : Numbered { s with watchdog := s.watchdog.arm s.now } :=
        ⟨hn.probes, hn.watched, hn.playing⟩
      exact hl.told h
  | leave _ h =>
      have hl : Numbered { s with exited := true } := ⟨hn.probes, hn.watched, hn.playing⟩
      exact hl.told h
  | @record _ a h =>
      have he : (s.onStudio fun _ => a).events = s.events ++ es := h.events
      refine ⟨?_, hn.watched, fun hg => he ▸ List.mem_append_left _ (hn.playing hg)⟩
      exact (congrArg List.length h.probes_eq).trans hn.probes
  | launch _ _ _ h =>
      have he := h.events
      obtain ⟨files, outs, rfl, -⟩ := h
      refine ⟨?_, fun _ => rfl, fun _ => he ▸ List.mem_append_right _ (by simp [launched, tried])⟩
      simp [launched, tried, hn.probes]
  | miss _ hx _ h =>
      obtain ⟨files, outs, rfl, -⟩ := h
      refine .of_none (hs.graph_eq_none (Phase.ne_running_of_next hx)) ?_
      simp [parked, tried, hn.probes]
  | restart hp h =>
      obtain ⟨files, outs, rfl, -⟩ := h
      exact .of_none rfl hn.probes
  | stop _ h =>
      obtain ⟨files, outs, rfl, -⟩ := h
      exact .of_none rfl hn.probes
  | frame number =>
      refine ⟨?_, hn.watched, hn.playing⟩
      simpa [onHost, onStudio, Studio.onHost, Host.markProbe] using hn.probes
  | script => exact ⟨hn.probes, hn.watched, hn.playing⟩

/-- **Every run numbers its graphs and probes alike.** -/
theorem run_numbered (u : Setup) (xs : List Stimulus) : Numbered (u.begin.run xs) :=
  run_keeps (P := Numbered) (fun hs hn h => h.numbered hs hn)
    (fun _ hn => ⟨hn.probes, hn.watched, hn.playing⟩) u (.of_none rfl rfl) xs

/-! ### A graph that is gone stays so -/

/-- The graph with this number is gone: it is not the one that is alive, and no attempt to
come will have its number. -/
structure Departed (g : Nat) (s : State) : Prop where
  le : g ≤ s.generation
  live : s.liveGeneration ≠ some g

/-- Where no graph is alive, only the attempts have to be counted. -/
lemma Departed.of_none {g : Nat} {s : State} (hg : s.graph = none) (hl : g ≤ s.generation) :
    Departed g s :=
  ⟨hl, by simp [liveGeneration, hg]⟩

/-- The number of a graph is not given twice. -/
lemma Move.departed {g : Nat} {s t : State} {es : List Event} (h : Move s es t)
    (hs : Settled s) (hd : Departed g s) : Departed g t := by
  cases h with
  | remark _ h | look _ h | leave _ h =>
      obtain ⟨files, outs, rfl, -⟩ := h
      exact ⟨hd.le, hd.live⟩
  | launch _ _ _ h =>
      obtain ⟨files, outs, rfl, -⟩ := h
      refine ⟨Nat.le_succ_of_le hd.le, ?_⟩
      have hg : s.generation + 1 ≠ g := Nat.ne_of_gt (Nat.lt_succ_of_le hd.le)
      simpa [liveGeneration, launched, tried] using hg
  | miss _ hx _ h =>
      obtain ⟨files, outs, rfl, -⟩ := h
      exact .of_none (hs.graph_eq_none (Phase.ne_running_of_next hx)) (Nat.le_succ_of_le hd.le)
  | restart hp h | stop _ h =>
      obtain ⟨files, outs, rfl, -⟩ := h
      exact .of_none rfl hd.le
  | record | frame | script => exact ⟨hd.le, hd.live⟩

lemma Departed.react {g : Nat} {s : State} (hd : Departed g s) (hs : Settled s) (x : Stimulus) :
    Departed g (s.react x) :=
  react_keeps (fun hs hd h => h.departed hs hd) (fun _ hd => ⟨hd.le, hd.live⟩) hs hd x

/-- A supervisor, in what a run keeps, after the end of a graph. -/
structure Left (g : Nat) (s : State) : Prop where
  settled : Settled s
  numbered : Numbered s
  departed : Departed g s

namespace Left

variable {g : Nat} {p s t : State}

lemma moves (hl : Left g s) {es : List Event} (h : Moves s es t) : Left g t where
  settled := h.settled hl.settled
  numbered := h.keep (fun hs hn h => h.numbered hs hn) hl.settled hl.numbered
  departed := h.keep (fun hs hd h => h.departed hs hd) hl.settled hl.departed

lemma react (hl : Left g s) (x : Stimulus) : Left g (s.react x) where
  settled := settled_react hl.settled x
  numbered := react_keeps (fun hs hn h => h.numbered hs hn)
    (fun _ hn => ⟨hn.probes, hn.watched, hn.playing⟩) hl.settled hl.numbered x
  departed := hl.departed.react hl.settled x

/-- **A graph that is gone stays so.** -/
theorem run (hl : Left g s) (xs : List Stimulus) : Left g (s.run xs) :=
  run_invariant (P := Left g) (fun _ x hl => hl.react x) hl xs

/-- The watchdog does not look at the probe of a graph that is gone. -/
lemma check_eq (hl : Left g s) (h : Alike (Studio.forget g) p s) :
    p.watchdog.check p.now (p.probe p.watched) =
      s.watchdog.check s.now (s.probe s.watched) := by
  rw [h.watchdog, h.now, h.watched]
  cases hg : s.graph with
  | none =>
      have hw : s.watchdog.deadline = none := by
        rw [← Option.not_isSome_iff_eq_none]
        intro hw
        have hr := hl.settled.graph.2 (hl.settled.watchdog.1 hw)
        rw [hg] at hr
        cases hr
      rw [Watchdog.check_of_disarmed hw, Watchdog.check_of_disarmed hw]
  | some graph =>
      have hw := hl.numbered.watched (by rw [hg]; rfl)
      have hn : s.generation ≠ g := by simpa [liveGeneration, hg] using hl.departed.live
      have hp : p.probe s.watched = s.probe s.watched :=
        Studio.probe_of_forget h.toStudio (hw ▸ hn)
      rw [hp]

end Left

/-! ### What a graph that is gone can do -/

/-- The stimulus comes from the graph with this number: it is a message of this graph, or a
frame that passes its probe. -/
def Stimulus.isOf (g : Nat) : Stimulus → Bool
  | .status m => m.generation == g
  | .frame number => number == g
  | _ => false

/-- What the watchdog finds when it is woken now. -/
def State.verdict (s : State) : Option Verdict :=
  (s.watchdog.check s.now (s.probe s.watched)).2

section Departure

variable {g : Nat} {p s t : State}

/-- Words that are no events are not to be seen. -/
lemma Alike.of_said (h : Said s [] t) : Alike (Studio.forget g) t s := by
  obtain ⟨outs, rfl, he, hw⟩ := h
  have hf : outs.filter (·.record?.isNone) = [] := by
    refine List.filter_eq_nil_iff.2 fun o ho => ?_
    have hw := hw o ho
    cases o with
    | record r => simp [Output.record?]
    | event e =>
        have hm : e ∈ outs.filterMap Output.event? := List.mem_filterMap.2 ⟨_, ho, rfl⟩
        rw [List.reverse_eq_nil_iff.1 he] at hm
        cases hm
    | level | excess => cases hw
  have hj : (outs ++ s.journal).filter (·.record?.isNone) =
      s.journal.filter (·.record?.isNone) := by
    rw [List.filter_append, hf, List.nil_append]
  exact congrArg (fun journal => { s.onStudio (Studio.forget g) with journal := journal }) hj

/-- A stimulus that comes from a graph that is gone is not to be seen. -/
lemma Alike.of_isOf (hd : Departed g s) {x : Stimulus} (hx : x.isOf g = true) :
    Alike (Studio.forget g) (s.react x) s := by
  rw [State.react]
  split
  · exact .refl s
  · cases x with
    | status m =>
        have hm : m.generation = g := by simpa [Stimulus.isOf] using hx
        exact .of_said (said_onStatus_of_stale (hm ▸ hd.live))
    | frame number =>
        have hm : number = g := by simpa [Stimulus.isOf] using hx
        subst hm
        exact (Alike.refl s).studio (Studio.markProbe_forget s.toStudio)
    | _ => cases hx

lemma Alike.onWake (h : Alike (Studio.forget g) p s) (hl : Left g s) :
    Alike (Studio.forget g) p.onWake s.onWake := by
  obtain ⟨es, ha⟩ := Studio.act_finishDrain s.toStudio s.now s.graph
  have hl₁ := hl.moves (.one (.record ha))
  obtain ⟨fs, hm⟩ := moves_endDelay hl₁.settled
  have h₂ := h.finishDrain.endDelay
  exact h₂.watch ((hl₁.moves hm).check_eq h₂)

/-- **Two supervisors that differ in the probe of a graph that is gone, and in the log, stay
alike.** -/
theorem Alike.react_forget (h : Alike (Studio.forget g) p s) (hl : Left g s) (x : Stimulus) :
    Alike (Studio.forget g) (p.react x) (s.react x) := by
  refine Matched.react (eraser_forget g) h (fun _ => h.onWake hl) fun number _ => ?_
  by_cases hn : number = g
  · subst hn
    exact (Studio.markProbe_forget _).trans
      (h.toStudio.trans (Studio.markProbe_forget _).symm)
  · exact Studio.markProbe_forget_congr h.toStudio hn

/-- What comes from a graph that is gone can be left out of a run. -/
theorem Alike.run_forget (hl : Left g s) (xs : List Stimulus) :
    Alike (Studio.forget g) (s.run xs) (s.run (xs.filter fun x => !x.isOf g)) := by
  induction xs using List.reverseRecOn with
  | nil => exact .refl s
  | append_singleton xs x ih =>
      rw [List.filter_append, run_concat]
      cases hx : x.isOf g with
      | true =>
          have hf : [x].filter (fun x => !x.isOf g) = [] := by simp [hx]
          rw [hf, List.append_nil]
          exact (Alike.of_isOf (hl.run xs).departed hx).trans ih
      | false =>
          have hf : [x].filter (fun x => !x.isOf g) = [x] := by simp [hx]
          rw [hf, run_concat]
          exact ih.react_forget (hl.run _) x

/-- The same events are told. -/
lemma Alike.events (h : Alike (Studio.forget g) p s) : p.events = s.events := by
  refine h.agree (fun t => t.events) fun t => ?_
  have hf : ((t.journal.filter (·.record?.isNone)).filterMap Output.event?) =
      t.journal.filterMap Output.event? := by
    rw [List.filterMap_filter]
    refine List.filterMap_congr fun o _ => ?_
    cases o <;> rfl
  exact congrArg List.reverse hf

end Departure

/-- **A graph that is gone has no effect.**  In every run:

* The probe of the next attempt has the number of the graph that may be built by it.
* A message of any graph but the one that is alive, and so of one that has never played,
  changes nothing and tells no event; at most it leaves a record in the log.
* A graph that is gone does not come back, whatever happens and in whatever order.  Its
  messages go on having no effect.  Had neither they come nor its frames, the watchdog
  would find the same as it does, the same events would be told, and everything but the
  log and the probe of that graph would be as it is. -/
theorem departed_of_run (u : Setup) (xs : List Stimulus) :
    let s := u.begin.run xs
    s.answerOf = s.backend.raise s.profile ⟨s.generation + 1, s.generation + 1⟩ ∧
      (∀ m, s.liveGeneration ≠ some m.generation ∨ .playing m.generation ∉ s.events →
        Said s [] (s.react (.status m))) ∧
      ∀ g ≤ s.generation, s.liveGeneration ≠ some g → ∀ ys,
        let t := s.run ys
        let v := s.run (ys.filter fun y => !y.isOf g)
        t.liveGeneration ≠ some g ∧
          (∀ m, m.generation = g → Said t [] (t.react (.status m))) ∧
          t.verdict = v.verdict ∧ t.events = v.events ∧ Alike (Studio.forget g) t v := by
  have hs := run_settled u xs
  have hn := run_numbered u xs
  generalize u.begin.run xs = s at hs hn
  have hsaid : ∀ {t : State} {m : StatusMessage}, t.liveGeneration ≠ some m.generation →
      Said t [] (t.react (.status m)) := by
    intro t m hm
    rw [react]
    split
    · exact .refl t
    · exact said_onStatus_of_stale hm
  refine ⟨?_, fun m hm => hsaid ?_, fun g hg hd ys => ?_⟩
  · rw [answerOf, hn.probes]
  · rcases hm with hm | hm
    · exact hm
    · intro hg
      obtain ⟨graph, hg, hm'⟩ := Option.map_eq_some_iff.1 hg
      exact hm (hm' ▸ hn.playing (by rw [hg]; rfl))
  · have hl : Left g s := ⟨hs, hn, hg, hd⟩
    have ha := Alike.run_forget hl ys
    have ht := hl.run ys
    exact ⟨ht.departed.live, fun m hm => hsaid (hm ▸ ht.departed.live),
      congrArg Prod.snd ((hl.run _).check_eq ha), ha.events, ha⟩

end Supervisor

end StreamWarden
