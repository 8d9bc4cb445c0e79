import StreamWarden.Proofs.Run
import StreamWarden.Supervisor.Loop

/-!
# What can happen to a loop

Requests wait in a queue until the loop takes them, one in a step.  Meanwhile anything can
happen: other requests and messages are posted, handles are dropped, time passes.  The next
step answers the request that waits, or a stop when nobody can post one any more, and turns
to messages and to the timer only when there is none; nothing that happens beside the steps
is work of the supervisor, and when the loop is over there are no more steps.

* `Happening`, `Loop.after`: what can happen, and a loop after it.
* `Loop.posted`, `Loop.handled`, `Loop.told`: the requests that were posted and taken
  meanwhile, and the events.
* `step_eq`, `happen_step`: a step is the answer to what comes next; `step_of_call`, `step_cases`:
  what it does with the request that waits; `Loop.Beside`: what is not a step.
* `still_after`: a loop that is over does nothing any more.
* `steps_eq`, `supervise_eq`: the turns of a supervisor are made of happenings.
-/

namespace StreamWarden.Supervisor

open State

/-- What can happen to a loop, one thing at a time. -/
inductive Happening where
  /-- The supervisor takes a step, if there is something to do. -/
  | step
  /-- What was put out is passed on. -/
  | publish
  /-- Somebody posts a request. -/
  | post (r : Request)
  /-- A graph posts a status message. -/
  | report (m : StatusMessage)
  /-- All handles outside are dropped. -/
  | dropHandles
  /-- The bridge ends. -/
  | endBridge
  /-- Something changes around the loop. -/
  | around (x : Stimulus) (hx : x.isIteration = false)

namespace Loop

/-- Somebody can still post requests. -/
def isHeld (l : Loop) : Bool := l.handles || l.bridge.isSome

/-- The request that the next step takes: the first that waits, or a stop when nobody can
post any more. -/
def call? (l : Loop) : Option Request :=
  if l.isOver then none
  else
    match l.requests with
    | r :: _ => some r
    | [] => if l.isHeld then none else some .stop

/-- The state that answers to the next request; that all handles are gone is noted first. -/
def heard (l : Loop) : State :=
  if l.requests = [] then l.state.log .debug "all supervisor handles dropped" [] else l.state

/-- A loop to which something has happened. -/
def happen (l : Loop) : Happening → Loop
  | .step => l.step?.getD l
  | .publish => l.publish
  | .post r => (l.post r).1
  | .report m => (l.postStatus m).1
  | .dropHandles => l.dropHandles
  | .endBridge => { l with bridge := none }
  | .around x _ => { l with state := l.state.answer x }

/-- The request that is accepted when something happens. -/
def accepts (l : Loop) : Happening → List Request
  | .post r => if l.isOver then [] else [r]
  | _ => []

/-- The request that is taken when something happens. -/
def takes (l : Loop) : Happening → List Request
  | .step => l.call?.toList
  | _ => []

/-- What the next step answers: the first request that waits, the end of all handles, a message,
and only then the timer. -/
def next? (l : Loop) : Option Stimulus :=
  if l.isOver then none
  else
    match l.requests with
    | r :: _ => some (.request r)
    | [] =>
      if l.isHeld then
        match l.statuses with
        | m :: _ => some (.status m)
        | [] => if isDue l.state then some .wake else none
      else some .abandoned

/-- The events that are passed on when something happens. -/
def passes (l : Loop) : Happening → List Event
  | .publish => l.state.events
  | _ => []

/-- A loop to which some things have happened. -/
def after (l : Loop) (ms : List Happening) : Loop := ms.foldl happen l

/-- The requests that are accepted meanwhile, in their order. -/
def posted : Loop → List Happening → List Request
  | _, [] => []
  | l, m :: ms => l.accepts m ++ (l.happen m).posted ms

/-- The requests that are taken meanwhile, in their order. -/
def handled : Loop → List Happening → List Request
  | _, [] => []
  | l, m :: ms => l.takes m ++ (l.happen m).handled ms

/-- The events that are told until then: those that were passed on, and those that still
have to be. -/
def told : Loop → List Happening → List Event
  | l, [] => l.state.events
  | l, m :: ms => l.passes m ++ (l.happen m).told ms

variable {l v : Loop} {r : Request}

/-! ### Steps -/

/-- A limit was met on the way to a new state, or none was. -/
lemma proceed_cases (l : Loop) (s : State) :
    (s.excess? = none ∧ l.proceed s = l.enter s) ∨
      ∃ e, s.excess? = some e ∧ l.proceed s = l.breakDown s e := by
  rw [proceed]
  cases s.excess? with
  | none => exact .inl ⟨rfl, rfl⟩
  | some e => exact .inr ⟨e, rfl, rfl⟩

/-- **A step is the answer to what comes next**, an iteration; and where nothing does there is no
step. -/
theorem step_eq (l : Loop) : (l.next? = none ∧ l.step? = none) ∨
    l.isOver = false ∧ ∃ x rs ms, l.next? = some x ∧ x.isIteration = true ∧
      l.step? = some (proceed { l with requests := rs, statuses := ms } (l.state.react x)) := by
  rw [next?, step?]
  cases ho : l.isOver with
  | true => exact .inl ⟨rfl, rfl⟩
  | false =>
      have hx : l.state.exited = false := (Bool.or_eq_false_iff.1 ho).1
      simp only [react_of_not_exited hx, Bool.false_eq_true, if_false, true_and]
      cases l.requests with
      | cons r rest => exact .inr ⟨_, rest, l.statuses, rfl, rfl, rfl⟩
      | nil =>
          cases hh : l.isHeld with
          | false =>
              have hh : ¬(l.handles || l.bridge.isSome) = true := Bool.eq_false_iff.1 hh
              exact .inr ⟨_, l.requests, l.statuses, rfl, rfl, if_neg hh⟩
          | true =>
              have hh : (l.handles || l.bridge.isSome) = true := hh
              simp only [hh, if_true]
              cases l.statuses with
              | cons m rest => exact .inr ⟨_, [], rest, rfl, rfl, rfl⟩
              | nil =>
                  cases isDue l.state with
                  | true => exact .inr ⟨_, l.requests, l.statuses, rfl, rfl, rfl⟩
                  | false => exact .inl ⟨rfl, rfl⟩

/-- What a loop keeps on its way to a new state. -/
lemma proceed_keeps (l : Loop) (s : State) : (l.proceed s).requests = l.requests ∧
    (l.proceed s).isHeld = l.isHeld ∧ (l.proceed s).state.exited = s.exited := by
  rcases l.proceed_cases s with ⟨-, h⟩ | ⟨e, -, h⟩ <;> rw [h] <;> exact ⟨rfl, rfl, rfl⟩

/-- **The next step answers the request that waits**, and nothing else. -/
theorem step_of_call (h : l.call? = some r) :
    l.step? = some (proceed { l with requests := l.requests.tail } (l.heard.onRequest r)) := by
  rw [call?] at h
  split at h
  · cases h
  · rename_i ho
    rw [step?, if_neg ho, heard]
    cases hq : l.requests with
    | cons q rest =>
        rw [hq] at h
        cases h
        rfl
    | nil =>
        rw [hq] at h
        dsimp only at h ⊢
        split at h
        · cases h
        · rename_i hh
          cases h
          have hl : { l with requests := ([] : List Request).tail } = l := by
            cases l
            cases hq
            rfl
          rw [isHeld] at hh
          rw [if_neg hh, hl]
          rfl

/-- Where there is nothing to do, no request waits. -/
lemma call_of_step (h : l.step? = none) : l.call? = none := by
  cases hc : l.call? with
  | none => rfl
  | some r =>
      rw [step_of_call hc] at h
      cases h

lemma happen_step_of_none (h : l.step? = none) : l.happen .step = l := by
  rw [happen, h]
  rfl

lemma happen_step_of_some (h : l.step? = some v) : l.happen .step = v := by
  rw [happen, h]
  rfl

/-- What happens at a step: nothing, or the answer to what comes next. -/
lemma happen_step (l : Loop) : (l.next? = none ∧ l.happen .step = l) ∨
    l.isOver = false ∧ ∃ x rs ms, l.next? = some x ∧ x.isIteration = true ∧
      l.happen .step = proceed { l with requests := rs, statuses := ms } (l.state.react x) := by
  rcases l.step_eq with ⟨hn, hv⟩ | ⟨ho, x, rs, ms, hn, hx, hv⟩
  · exact .inl ⟨hn, happen_step_of_none hv⟩
  · exact .inr ⟨ho, x, rs, ms, hn, hx, happen_step_of_some hv⟩

/-- What a step can be: the answer to a request, or, when none waits, to a message or to
the timer. -/
lemma step_cases (h : l.step? = some v) :
    (∃ r, l.call? = some r ∧
        v = proceed { l with requests := l.requests.tail } (l.heard.onRequest r)) ∨
      l.isOver = false ∧ l.call? = none ∧
        ((∃ m rest, v = proceed { l with statuses := rest } (l.state.onStatus m)) ∨
          v = l.proceed l.state.onWake) := by
  cases hc : l.call? with
  | some r =>
      rw [step_of_call hc] at h
      exact .inl ⟨r, rfl, (Option.some.inj h).symm⟩
  | none =>
      refine .inr ?_
      rw [step?] at h
      split at h
      · cases h
      · rename_i ho
        refine ⟨Bool.eq_false_iff.2 ho, rfl, ?_⟩
        rw [call?, if_neg ho] at hc
        split at h
        · rename_i hq
          rw [hq] at hc
          cases hc
        · split at h
          · split at h
            · exact .inl ⟨_, _, (Option.some.inj h).symm⟩
            · split at h
              · exact .inr (Option.some.inj h).symm
              · cases h
          · rename_i hq hh
            rw [hq] at hc
            dsimp only at hc
            rw [isHeld, if_neg hh] at hc
            cases hc

lemma isOver_eq_false_iff : l.isOver = false ↔ l.state.exited = false ∧ l.excess = none := by
  simp [isOver]

lemma isOver_of_call (h : l.call? = some r) : l.isOver = false := by
  rw [call?] at h
  split at h
  · cases h
  · rename_i ho
    exact Bool.eq_false_iff.2 ho

/-- The request that is taken is the first that waits, or a stop in the place of one. -/
lemma call_cases (h : l.call? = some r) : (∃ rest, l.requests = r :: rest) ∨
    r = .stop ∧ l.requests = [] ∧ l.isHeld = false := by
  rw [call?] at h
  split at h
  · cases h
  · split at h
    · rename_i q rest hq
      cases h
      exact .inl ⟨rest, hq⟩
    · rename_i hq
      split at h
      · cases h
      · rename_i hh
        cases h
        exact .inr ⟨rfl, hq, Bool.eq_false_iff.2 hh⟩

lemma call_of_cons {rest : List Request} (ho : l.isOver = false) (hq : l.requests = r :: rest) :
    l.call? = some r := by
  rw [call?, ho, hq]
  rfl

lemma call_of_nil (ho : l.isOver = false) (hq : l.requests = []) (hh : l.isHeld = false) :
    l.call? = some .stop := by
  rw [call?, ho, hq, hh]
  rfl

/-- No request is to be taken when the loop is over, or when none waits and one can still be
posted. -/
lemma call_eq_none_iff :
    l.call? = none ↔ l.isOver = true ∨ l.requests = [] ∧ l.isHeld = true := by
  rw [call?]
  split
  · rename_i ho
    simp [ho]
  · rename_i ho
    split
    · rename_i hq
      simp [ho, hq]
    · rename_i hq
      cases hh : l.isHeld <;> simp [ho, hq]

/-! ### The other happenings -/

lemma publish_keeps (l : Loop) : l.publish.state = l.state.onHost Host.clear ∧
    l.publish.requests = l.requests ∧ l.publish.excess = l.excess ∧
    l.publish.isHeld = l.isHeld := by
  rw [publish]
  dsimp only
  split <;> exact ⟨rfl, rfl, rfl, rfl⟩

lemma post_keeps (l : Loop) (r : Request) : (l.post r).1.state = l.state ∧
    (l.post r).1.requests = l.requests ++ l.accepts (.post r) ∧
    (l.post r).1.excess = l.excess ∧ (l.post r).1.isHeld = l.isHeld := by
  rw [post, accepts]
  split
  · exact ⟨rfl, (List.append_nil _).symm, rfl, rfl⟩
  · exact ⟨rfl, rfl, rfl, rfl⟩

lemma postStatus_keeps (l : Loop) (m : StatusMessage) : (l.postStatus m).1.state = l.state ∧
    (l.postStatus m).1.requests = l.requests ∧ (l.postStatus m).1.excess = l.excess ∧
    (l.postStatus m).1.isHeld = l.isHeld := by
  rw [postStatus]
  split <;> exact ⟨rfl, rfl, rfl, rfl⟩

end Loop

/-- What changes around a supervisor is told by nobody, and does not end its run. -/
lemma answer_keeps {s : State} {x : Stimulus} (hx : x.isIteration = false) :
    (s.answer x).journal = s.journal ∧ (s.answer x).exited = s.exited ∧
      (s.answer x).backend.ledger = s.backend.ledger := by
  cases x with
  | pass | frame | files | script => exact ⟨rfl, rfl, rfl⟩
  | request | abandoned | status | wake => cases hx

/-- Something happens that is no work of the supervisor: no request is taken, nothing new is
told, the backend is asked for nothing, and the run goes on as before. -/
structure Loop.Beside (l : Loop) (m : Happening) : Prop where
  takes : l.takes m = []
  told : l.passes m ++ (l.happen m).state.events = l.state.events
  exited : (l.happen m).state.exited = l.state.exited
  excess : (l.happen m).excess = l.excess
  requests : (l.happen m).requests = l.requests ++ l.accepts m
  ledger : (l.happen m).state.backend.ledger = l.state.backend.ledger

lemma Loop.beside (l : Loop) {m : Happening} (hm : m = .step → l.step? = none) :
    l.Beside m := by
  -- Where the state stays and nothing is passed on, only the requests are left to be seen.
  have plain : ∀ {m : Happening}, l.takes m = [] → l.passes m = [] →
      (l.happen m).state = l.state → (l.happen m).excess = l.excess →
      (l.happen m).requests = l.requests ++ l.accepts m → l.Beside m := by
    intro m ht hp hs he hr
    exact ⟨ht, by rw [hp, hs]; rfl, by rw [hs], he, hr, by rw [hs]⟩
  cases m with
  | step =>
      have hv := happen_step_of_none (hm rfl)
      refine plain (congrArg Option.toList (call_of_step (hm rfl))) rfl ?_ ?_ ?_ <;> rw [hv]
      exact (List.append_nil _).symm
  | publish =>
      obtain ⟨hs, hr, he, -⟩ := l.publish_keeps
      have hv : l.happen .publish = l.publish := rfl
      refine ⟨rfl, ?_, ?_, he, ?_, ?_⟩
      · rw [hv, hs]
        exact List.append_nil _
      · rw [hv, hs]
        rfl
      · rw [hv, hr]
        exact (List.append_nil _).symm
      · rw [hv, hs]
        rfl
  | post r =>
      obtain ⟨hs, hr, he, -⟩ := l.post_keeps r
      exact plain rfl rfl hs he hr
  | report m =>
      obtain ⟨hs, hr, he, -⟩ := l.postStatus_keeps m
      exact plain rfl rfl hs he (hr.trans (List.append_nil _).symm)
  | dropHandles | endBridge => exact plain rfl rfl rfl rfl (List.append_nil _).symm
  | around x hx =>
      obtain ⟨hj, hd, hb⟩ := answer_keeps (s := l.state) hx
      exact ⟨rfl, congrArg (fun j : List Output => (j.filterMap Output.event?).reverse) hj, hd,
        rfl, (List.append_nil _).symm, hb⟩

/-- What happens is a step, or no work of the supervisor. -/
lemma Loop.happen_cases (l : Loop) (m : Happening) :
    l.Beside m ∨ m = .step ∧ ∃ v, l.step? = some v := by
  by_cases hm : m = .step
  · cases hv : l.step? with
    | none => exact .inl (l.beside fun _ => hv)
    | some v => exact .inr ⟨hm, v, rfl⟩
  · exact .inl (l.beside fun h => absurd h hm)

/-! ### A loop that is over -/

namespace Loop

variable {l : Loop}

/-- Who cannot post any more does not get another handle. -/
lemma isHeld_happen (h : l.isHeld = false) (m : Happening) : (l.happen m).isHeld = false := by
  cases m with
  | step =>
      rcases l.happen_step with ⟨-, hv⟩ | ⟨-, x, rs, ms, -, -, hv⟩ <;> rw [hv]
      · exact h
      · exact (proceed_keeps _ _).2.1.trans h
  | publish => exact l.publish_keeps.2.2.2.trans h
  | post r => exact (l.post_keeps r).2.2.2.trans h
  | report m => exact (l.postStatus_keeps m).2.2.2.trans h
  | dropHandles => exact (Bool.or_eq_false_iff.1 h).2
  | endBridge => exact congrArg (· || false) (Bool.or_eq_false_iff.1 h).1
  | around => exact h

lemma isHeld_after (h : l.isHeld = false) (ms : List Happening) : (l.after ms).isHeld = false := by
  induction ms generalizing l with
  | nil => exact h
  | cons m ms ih => exact ih (isHeld_happen h m)

/-- One happening takes one request at most. -/
lemma takes_cases (l : Loop) (m : Happening) : l.takes m = [] ∨ ∃ r, l.takes m = [r] := by
  cases m with
  | step =>
      rw [takes]
      cases l.call? with
      | none => exact .inl rfl
      | some r => exact .inr ⟨r, rfl⟩
  | _ => exact .inl rfl

/-- What a loop that is over does not do any more, whatever happens. -/
structure Still (l v : Loop) : Prop where
  isOver : v.isOver = true
  requests : v.requests = l.requests
  ledger : v.state.backend.ledger = l.state.backend.ledger

lemma still_happen (h : l.isOver = true) (m : Happening) :
    Still l (l.happen m) ∧ l.accepts m = [] ∧ l.takes m = [] ∧
      l.passes m ++ (l.happen m).state.events = l.state.events := by
  have hb : l.Beside m := l.beside fun _ => by rw [step?, if_pos h]
  have ha : l.accepts m = [] := by
    cases m with
    | post r => exact if_pos h
    | _ => rfl
  refine ⟨⟨?_, ?_, hb.ledger⟩, ha, hb.takes, hb.told⟩
  · rw [isOver, hb.exited, hb.excess]
    exact h
  · rw [hb.requests, ha, List.append_nil]

/-- **A loop that is over does nothing any more**: it accepts no request and takes none, the
backend is asked for nothing, and nothing is told but what was told already. -/
theorem still_after (h : l.isOver = true) (ms : List Happening) :
    Still l (l.after ms) ∧ l.posted ms = [] ∧ l.handled ms = [] ∧ l.told ms = l.state.events := by
  induction ms generalizing l with
  | nil => exact ⟨⟨h, rfl, rfl⟩, rfl, rfl, rfl⟩
  | cons m ms ih =>
      obtain ⟨hs, ha, ht, hp⟩ := still_happen h m
      obtain ⟨hs', hq, hh, he⟩ := ih hs.isOver
      refine ⟨⟨hs'.isOver, hs'.requests.trans hs.requests, hs'.ledger.trans hs.ledger⟩, ?_, ?_, ?_⟩
      · rw [posted, ha, hq, List.append_nil]
      · rw [handled, ht, hh, List.append_nil]
      · rw [told, he, hp]

lemma after_append (l : Loop) (ms ns : List Happening) :
    l.after (ms ++ ns) = (l.after ms).after ns :=
  List.foldl_append ..

/-! ### Turns are made of happenings -/

/-- Where there is nothing to do, steps change nothing. -/
lemma after_steps_of_none (h : l.step? = none) (n : ℕ) :
    l.after (List.replicate n .step) = l := by
  induction n with
  | zero => rfl
  | succ n ih =>
      calc l.after (List.replicate (n + 1) .step)
          = (l.happen .step).after (List.replicate n .step) := rfl
        _ = l := by rw [happen_step_of_none h, ih]

/-- Steps in a row are happenings. -/
theorem steps_eq (n : ℕ) (l : Loop) : (steps n l).1 = l.after (List.replicate n .step) := by
  induction n generalizing l with
  | zero => rfl
  | succ n ih =>
      rw [steps]
      cases hv : l.step? with
      | none => exact (after_steps_of_none hv _).symm
      | some v =>
          calc (steps n v).1
              = v.after (List.replicate n .step) := ih v
            _ = l.after (List.replicate (n + 1) .step) := by
              rw [← happen_step_of_some hv]
              rfl

/-- A turn of the supervisor is some steps, and then what was put out is passed on. -/
theorem supervise_eq (l : Loop) :
    l.supervise = (l.after (List.replicate turnLength .step ++ [.publish])).restIf
      (steps turnLength l).2 .supervisor := by
  rw [supervise, after_append, ← steps_eq]
  rfl

end Loop

end StreamWarden.Supervisor
