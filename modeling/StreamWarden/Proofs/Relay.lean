import StreamWarden.Proofs.Delivery

/-!
# From the bus to the subscribers

A listener stands between the bus and the subscribers.  It takes one reading after the other
and passes on every event that it reads; it looks whether it is cancelled only when nothing
is left to be read.  Meanwhile the supervisor publishes, and the workers take their steps.
When the run is over the listener is cancelled, and it may have read nothing at all by then.
All this may come in any order.

* `Bus.Spans`: the items that some readings are about; `Bus.found_read`: one reading.
* `Relay`, `Relay.act`: a listener with what is around it, and what can happen there.
* `Relay.Since`: what the listener has passed on so far; `since_act`, `since_after`.
* `Since.of_ended`: what it has passed on when it has come to its end.
* `ended_of_polls`: a listener that is cancelled comes to its end.
* `after_publish`, `after_work`, `after_polls`: several things of one kind in a row.
-/

namespace StreamWarden

/-! ### Readings -/

namespace Bus

variable {α : Type} {b : Bus α} {rs : List (Reading α)} {items : List α}

/-- The item that is read. -/
def Reading.item? : Reading α → Option α
  | .item a => some a
  | _ => none

/-- How many items are missed. -/
def Reading.skipped : Reading α → ℕ
  | .missed count => count
  | _ => 0

/-- The readings are about these items, in their order: each is read, or is one of those that
are missed. -/
inductive Spans : List (Reading α) → List α → Prop where
  | nil : Spans [] []
  | item {rs : List (Reading α)} {items : List α} (h : Spans rs items) (a : α) :
      Spans (rs ++ [.item a]) (items ++ [a])
  | missed {rs : List (Reading α)} {items : List α} (h : Spans rs items) (skipped : List α) :
      Spans (rs ++ [.missed skipped.length]) (items ++ skipped)

/-- What is read comes in its order, and nothing is read twice. -/
lemma Spans.sublist (h : Spans rs items) : (rs.filterMap Reading.item?).Sublist items := by
  induction h with
  | nil => exact .slnil
  | item h a ih =>
      rw [List.filterMap_append]
      exact ih.append (List.Sublist.refl [a])
  | missed h skipped ih =>
      rw [List.filterMap_append]
      exact ih.append (List.nil_sublist skipped)

/-- What is not read is counted. -/
lemma Spans.length (h : Spans rs items) :
    (rs.filterMap Reading.item?).length + (rs.map Reading.skipped).sum = items.length := by
  induction h with
  | nil => rfl
  | item h a ih =>
      simp only [List.filterMap_append, List.map_append, List.length_append, List.sum_append,
        ← ih]
      simp only [List.filterMap_cons, List.filterMap_nil, Reading.item?, List.map_cons,
        List.map_nil, Reading.skipped, List.length_singleton, List.sum_singleton]
      omega
  | missed h skipped ih =>
      simp only [List.filterMap_append, List.map_append, List.length_append, List.sum_append,
        ← ih]
      simp only [List.filterMap_cons, List.filterMap_nil, Reading.item?, List.map_cons,
        List.map_nil, Reading.skipped, List.length_nil, List.sum_singleton]
      omega

/-- **What a reader finds** that has some items before it. -/
inductive Found (b : Bus α) (position : ℕ) : List α → Reading α × ℕ → Prop where
  | item (a : α) (rest : List α) (ho : b.oldest ≤ position) :
      Found b position (a :: rest) (.item a, position + 1)
  | missed (skipped rest : List α) (ho : position + skipped.length = b.oldest)
      (hs : 0 < skipped.length) :
      Found b position (skipped ++ rest) (.missed skipped.length, position + skipped.length)
  | empty (ho : b.oldest ≤ position) : Found b position [] (.empty, position)

lemma found_read {before waiting : List α} (hp : b.published.toList = before ++ waiting)
    (hb : b.closed = false) : Found b before.length waiting (b.read before.length) := by
  have hn : b.published.size = before.length + waiting.length := by
    rw [← Array.length_toList, hp, List.length_append]
  rw [read]
  split
  case isTrue ho =>
    have hl : (waiting.take (b.oldest - before.length)).length = b.oldest - before.length := by
      rw [List.length_take, oldest, hn]
      omega
    have hf := @Found.missed α b before.length (waiting.take (b.oldest - before.length))
      (waiting.drop (b.oldest - before.length)) (by omega) (by omega)
    rwa [List.take_append_drop, hl, Nat.add_sub_cancel' ho.le] at hf
  case isFalse ho =>
    rw [← Array.getElem?_toList, hp, List.getElem?_append_right le_rfl, Nat.sub_self, hb]
    cases waiting with
    | nil => exact .empty (not_lt.1 ho)
    | cons a rest => exact .item a rest (not_lt.1 ho)

lemma read_ne_closed (hb : b.closed = false) (position : ℕ) :
    (b.read position).1 ≠ .closed := by
  intro h
  rw [read] at h
  split at h
  · cases h
  · split at h
    · cases h
    · rw [hb] at h
      cases h

/-- To publish some items. -/
lemma publishAll (b : Bus α) (items : List α) :
    (items.foldl publish b).published.toList = b.published.toList ++ items ∧
      (items.foldl publish b).capacity = b.capacity ∧
      (items.foldl publish b).closed = b.closed := by
  induction items generalizing b with
  | nil => exact ⟨(List.append_nil _).symm, rfl, rfl⟩
  | cons a items ih =>
      obtain ⟨hp, hc, ho⟩ := ih (b.publish a)
      refine ⟨?_, hc, ho⟩
      rw [List.foldl_cons, hp, publish, Array.toList_push, List.append_assoc]
      rfl

end Bus

/-! ### The listener -/

/-- A listener between a bus and a set of subscribers, with the events that are still to be
published. -/
structure Relay where
  coming : List Event
  /-- After these the run is over. -/
  final : Bool
  bus : Bus Event
  /-- The position of the listener. -/
  position : ℕ
  set : SubscriberSet
  cancelled : Bool := false
  /-- The listener has come to its end. -/
  ended : Bool := false
  /-- What the listener has read. -/
  heard : List (Bus.Reading Event) := []

namespace Relay

/-- What can happen around a listener. -/
inductive Act where
  /-- The next event is published. -/
  | publish
  /-- The listener looks for something to do. -/
  | poll
  /-- The worker with this number takes a step. -/
  | work (number : ℕ)
  /-- The run is over, and the listener is cancelled. -/
  | cancel
  deriving DecidableEq, Repr

/-- A listener that begins behind all that was published. -/
def start (bus : Bus Event) (set : SubscriberSet) (coming : List Event) (final : Bool) : Relay :=
  { coming := coming, final := final, bus := bus, position := bus.subscribe, set := set }

/-- The listener takes what it finds on the bus; only where it finds nothing does it look
whether it is cancelled. -/
def poll (r : Relay) : Relay :=
  if r.ended then r
  else
    match r.bus.read r.position with
    | (.item e, next) =>
      { r with position := next, set := (r.set.emit e).1, heard := r.heard ++ [.item e] }
    | (.missed count, next) => { r with position := next, heard := r.heard ++ [.missed count] }
    | (.closed, _) => { r with ended := true }
    | (.empty, _) => { r with ended := r.cancelled }

/-- What comes of something that happens. -/
def act (r : Relay) : Act → Relay
  | .publish =>
    match r.coming with
    | [] => r
    | e :: rest => { r with coming := rest, bus := r.bus.publish e }
  | .poll => r.poll
  | .work number => { r with set := r.set.meet (.step number) }
  | .cancel => if r.final && r.coming.isEmpty then { r with cancelled := true } else r

/-- What comes of some things that happen, one after the other. -/
def after (r : Relay) (xs : List Act) : Relay := xs.foldl act r

/-- The events that were passed on to the subscribers. -/
def passed (r : Relay) : List Event := r.heard.filterMap Bus.Reading.item?

/-- How many events the listener has before it. -/
def unread (r : Relay) : ℕ := r.bus.published.size - r.position

/-- **What has come of a listener** since it began: it has some of the events behind it and
some before it, and others are still to be published. -/
structure Since (r₀ : Relay) (past waiting : List Event) (r : Relay) : Prop where
  coming : r₀.coming = past ++ waiting ++ r.coming
  final : r.final = r₀.final
  published : r.bus.published.toList = r₀.bus.published.toList ++ past ++ waiting
  capacity : r.bus.capacity = r₀.bus.capacity
  closed : r.bus.closed = false
  position : r.position = (r₀.bus.published.toList ++ past).length
  spans : Bus.Spans r.heard past
  /-- What lies behind the listener and is still on the bus was passed on. -/
  recent : past.drop (r.bus.oldest - r₀.bus.published.size) <:+ r.passed
  set : ∃ xs, r.set = r₀.set.meetAll xs ∧ SubscriberSet.emitted xs = r.passed
  cancelled : r.cancelled = true → r.final = true ∧ r.coming = []
  ended : r.ended = true → r.cancelled = true ∧ waiting = []

section Since

variable {r₀ r : Relay} {past waiting : List Event}

/-- A listener at the beginning. -/
lemma since_start (set : SubscriberSet) (coming : List Event) (final : Bool) {bus : Bus Event}
    (hb : bus.closed = false) :
    Since (start bus set coming final) [] [] (start bus set coming final) where
  coming := rfl
  final := rfl
  published := by simp
  capacity := rfl
  closed := hb
  position := by simp [start, Bus.subscribe]
  spans := .nil
  recent := by simp
  set := ⟨[], rfl, rfl⟩
  cancelled := nofun
  ended := nofun

lemma Since.publish (h : Since r₀ past waiting r) :
    ∃ waiting', Since r₀ past waiting' (r.act .publish) := by
  rw [act]
  cases hc : r.coming with
  | nil => exact ⟨waiting, h⟩
  | cons e rest =>
      have hd : r.ended = false := by
        refine Bool.eq_false_iff.2 fun he => ?_
        rw [(h.cancelled (h.ended he).1).2] at hc
        cases hc
      have ho : r.bus.oldest ≤ (r.bus.publish e).oldest := by
        simp only [Bus.oldest, Bus.publish, Array.size_push]
        omega
      refine ⟨waiting ++ [e], { h with
        coming := ?_
        published := ?_
        recent := ?_
        cancelled := fun hx => ?_
        ended := fun he => ?_ }⟩
      · rw [h.coming, hc]
        simp
      · simp only [Bus.publish, Array.toList_push, h.published, List.append_assoc]
      · exact (List.drop_suffix_drop_left past (Nat.sub_le_sub_right ho _)).trans h.recent
      · rw [(h.cancelled hx).2] at hc
        cases hc
      · rw [hd] at he
        cases he

/-- **One reading of the listener.** -/
lemma Since.poll (h : Since r₀ past waiting r) :
    ∃ past' waiting', Since r₀ past' waiting' r.poll := by
  by_cases he : r.ended = true
  · exact ⟨past, waiting, by rwa [Relay.poll, if_pos he]⟩
  have hf := Bus.found_read h.published h.closed
  have hl : (r₀.bus.published.toList ++ past).length = r₀.bus.published.size + past.length := by
    rw [List.length_append, Array.length_toList]
  rw [Relay.poll, if_neg he, h.position]
  generalize r.bus.read (r₀.bus.published.toList ++ past).length = found at hf ⊢
  cases hf with
  | item e rest ho =>
      dsimp only
      rw [hl] at ho
      have hp : ({ r with
          position := (r₀.bus.published.toList ++ past).length + 1
          set := (r.set.emit e).1
          heard := r.heard ++ [.item e] } : Relay).passed = r.passed ++ [e] :=
        List.filterMap_append
      obtain ⟨xs, hs, hx⟩ := h.set
      refine ⟨past ++ [e], rest, { h with
        coming := ?_
        published := ?_
        position := ?_
        spans := h.spans.item e
        recent := ?_
        set := ⟨xs ++ [.emit e], ?_, ?_⟩
        ended := fun hd => absurd hd he }⟩
      · simp [h.coming]
      · simp [h.published]
      · simp [Nat.add_assoc]
      · have hn : r.bus.oldest - r₀.bus.published.size ≤ past.length := by omega
        obtain ⟨front, hr⟩ := h.recent
        rw [hp, List.drop_append_of_le_length hn]
        exact ⟨front, by rw [← List.append_assoc, hr]⟩
      · rw [SubscriberSet.meetAll_append, ← hs]
        rfl
      · rw [hp, ← hx]
        exact List.filterMap_append
  | missed skipped rest ho hk =>
      dsimp only
      have hp : ({ r with
          position := (r₀.bus.published.toList ++ past).length + skipped.length
          heard := r.heard ++ [.missed skipped.length] } : Relay).passed = r.passed :=
        List.filterMap_append.trans (List.append_nil _)
      refine ⟨past ++ skipped, rest, { h with
        coming := ?_
        published := ?_
        position := ?_
        spans := h.spans.missed skipped
        recent := ?_
        set := hp ▸ h.set
        ended := fun hd => absurd hd he }⟩
      · simp [h.coming]
      · simp [h.published]
      · simp [Nat.add_assoc]
      · have hd : (past ++ skipped).drop (r.bus.oldest - r₀.bus.published.size) = [] := by
          refine List.drop_eq_nil_of_le ?_
          rw [List.length_append]
          omega
        rw [hd]
        exact List.nil_suffix
  | empty ho =>
      dsimp only
      exact ⟨past, [], { h with position := rfl, ended := fun hc => ⟨hc, rfl⟩ }⟩

lemma Since.work (h : Since r₀ past waiting r) (number : ℕ) :
    Since r₀ past waiting (r.act (.work number)) := by
  obtain ⟨xs, hs, hx⟩ := h.set
  refine { h with set := ⟨xs ++ [.step number], ?_, ?_⟩ }
  · rw [SubscriberSet.meetAll_append, ← hs]
    rfl
  · rw [SubscriberSet.emitted, List.filterMap_append]
    exact (List.append_nil _).trans hx

lemma Since.cancel (h : Since r₀ past waiting r) : Since r₀ past waiting (r.act .cancel) := by
  rw [act]
  split
  case isTrue hc =>
    rw [Bool.and_eq_true, List.isEmpty_iff] at hc
    exact { h with
      cancelled := fun _ => hc
      ended := fun he => ⟨rfl, (h.ended he).2⟩ }
  case isFalse => exact h

/-- **Whatever happens**, the listener goes on as it should. -/
theorem since_act (h : Since r₀ past waiting r) (x : Act) :
    ∃ past' waiting', Since r₀ past' waiting' (r.act x) := by
  cases x with
  | publish => exact ⟨past, h.publish⟩
  | poll => exact h.poll
  | work number => exact ⟨past, waiting, h.work number⟩
  | cancel => exact ⟨past, waiting, h.cancel⟩

/-- The same of all that happens, one thing after the other. -/
theorem since_after (h : Since r₀ past waiting r) (xs : List Act) :
    ∃ past' waiting', Since r₀ past' waiting' (r.after xs) := by
  induction xs generalizing past waiting r with
  | nil => exact ⟨past, waiting, h⟩
  | cons x xs ih =>
      obtain ⟨past', waiting', h'⟩ := since_act h x
      exact ih h'

/-- **A listener at its end** has everything behind it, and the latest events, as many as the
bus keeps, were all passed on. -/
theorem Since.of_ended (h : Since r₀ past waiting r) (he : r.ended = true) :
    r₀.final = true ∧ r.coming = [] ∧ Bus.Spans r.heard r₀.coming ∧
      r₀.coming.drop (r₀.coming.length - r₀.bus.capacity) <:+ r.passed := by
  obtain ⟨hc, rfl⟩ := h.ended he
  obtain ⟨hf, hn⟩ := h.cancelled hc
  have hp : r₀.coming = past := by rw [h.coming, hn, List.append_nil, List.append_nil]
  have ho : r.bus.oldest - r₀.bus.published.size = past.length - r₀.bus.capacity := by
    rw [Bus.oldest, h.capacity, ← Array.length_toList, h.published, List.append_nil,
      List.length_append, Array.length_toList]
    omega
  have hr := h.recent
  rw [ho] at hr
  rw [hp]
  exact ⟨h.final ▸ hf, hn, h.spans, hr⟩

end Since

/-! ### The end of a listener -/

section Ended

variable {r : Relay}

lemma act_of_ended (he : r.ended = true) (x : Act) : (r.act x).ended = true := by
  cases x with
  | publish =>
      rw [act]
      split <;> exact he
  | poll => rwa [act, poll, if_pos he]
  | work => exact he
  | cancel =>
      rw [act]
      split <;> exact he

/-- A listener that has come to its end does not go on. -/
lemma after_of_ended (he : r.ended = true) (xs : List Act) : (r.after xs).ended = true := by
  induction xs generalizing r with
  | nil => exact he
  | cons x xs ih => exact ih (act_of_ended he x)

/-- A listener that is cancelled takes a reading, or comes to its end. -/
lemma poll_of_cancelled (hc : r.cancelled = true) : r.poll.ended = true ∨
    r.poll.cancelled = true ∧ r.poll.coming = r.coming ∧ r.poll.unread < r.unread := by
  rw [poll]
  by_cases he : r.ended = true
  · exact .inl (by rwa [if_pos he])
  rw [if_neg he, Bus.read]
  by_cases hp : r.position < r.bus.oldest
  · have ho : r.bus.oldest ≤ r.bus.published.size := Nat.sub_le _ _
    rw [if_pos hp]
    refine .inr ⟨hc, rfl, ?_⟩
    simp only [unread]
    omega
  · rw [if_neg hp]
    cases hx : r.bus.published[r.position]? with
    | some e =>
        have hp := (Array.getElem?_eq_some_iff.1 hx).1
        refine .inr ⟨hc, rfl, ?_⟩
        simp only [unread]
        omega
    | none =>
        left
        cases r.bus.closed with
        | true => rfl
        | false => exact hc

/-- When nothing is to be published any more, only the listener changes how much is before
it. -/
lemma act_of_cancelled (hc : r.cancelled = true) (hn : r.coming = []) {x : Act}
    (hx : x ≠ .poll) : (r.act x).cancelled = true ∧ (r.act x).coming = [] ∧
      (r.act x).unread = r.unread := by
  cases x with
  | publish =>
      have hr : r.act .publish = r := by rw [act, hn]
      rw [hr]
      exact ⟨hc, hn, rfl⟩
  | poll => exact absurd rfl hx
  | work => exact ⟨hc, hn, rfl⟩
  | cancel =>
      rw [act]
      split
      · exact ⟨rfl, hn, rfl⟩
      · exact ⟨hc, hn, rfl⟩

/-- **A listener that is cancelled comes to its end** when it has looked for something to do
once more than there is something before it. -/
theorem ended_of_polls (hc : r.cancelled = true) (hn : r.coming = []) {xs : List Act}
    (hx : r.unread < xs.count .poll) : (r.after xs).ended = true := by
  -- The induction is on what happens; every poll leaves less before the listener.
  induction xs generalizing r with
  | nil => cases hx
  | cons x xs ih =>
      by_cases hp : x = .poll
      · subst hp
        rw [List.count_cons_self] at hx
        rcases poll_of_cancelled hc with he | ⟨hd, hm, hu⟩
        · exact after_of_ended he xs
        · exact ih (r := r.poll) hd (hm.trans hn) (by omega)
      · obtain ⟨hd, hm, hu⟩ := act_of_cancelled hc hn hp
        rw [List.count_cons_of_ne hp] at hx
        exact ih (r := r.act x) hd hm (hu ▸ hx)

/-- When all is published, the listener can be cancelled, and it comes to its end. -/
lemma ended_of_cancel (hf : r.final = true) (hn : r.coming = []) :
    (r.after (.cancel :: List.replicate (r.unread + 1) .poll)).ended = true := by
  have hr : r.act .cancel = { r with cancelled := true } := by rw [act, hf, hn]; rfl
  have hc : (r.act .cancel).cancelled = true := by rw [hr]
  have hm : (r.act .cancel).coming = [] := by rw [hr]; exact hn
  have hu : (r.act .cancel).unread = r.unread := by rw [hr]; rfl
  have hp : (r.act .cancel).unread < (List.replicate (r.unread + 1) Act.poll).count .poll := by
    rw [hu, List.count_replicate_self]
    exact Nat.lt_succ_self r.unread
  exact ended_of_polls hc hm hp

end Ended

/-- A listener is cancelled before it looks for the first time.  The bus keeps two events, so
that the first of three is missed, and nothing else is. -/
example : ((start (Bus.ofCapacity 2) (.of []) [.of .graphPlaying, .of .graphTornDown,
    .of .phaseChanged] true).after
      [.publish, .publish, .publish, .cancel, .poll, .poll, .poll, .poll]).heard =
    [.missed 1, .item (.of .graphTornDown), .item (.of .phaseChanged)] := by decide

/-! ### Turns of a listener -/

section Turns

variable (r : Relay)

lemma after_append (xs ys : List Act) : r.after (xs ++ ys) = (r.after xs).after ys :=
  List.foldl_append

lemma final_poll : r.poll.final = r.final := by
  rw [poll]
  split
  · rfl
  · split <;> rfl

/-- Whether the run is over after what is still to be published does not change. -/
lemma final_after (xs : List Act) : (r.after xs).final = r.final := by
  induction xs generalizing r with
  | nil => rfl
  | cons x xs ih =>
      refine (ih (r.act x)).trans ?_
      cases x with
      | publish =>
          rw [act]
          split <;> rfl
      | poll => exact r.final_poll
      | work => rfl
      | cancel =>
          rw [act]
          split <;> rfl

/-- Some events are published, one after the other. -/
lemma after_publish {es rest : List Event} (hc : r.coming = es ++ rest) :
    r.after (List.replicate es.length .publish) =
      { r with coming := rest, bus := es.foldl Bus.publish r.bus } := by
  induction es generalizing r with
  | nil =>
      rw [List.nil_append] at hc
      rw [← hc]
      rfl
  | cons e es ih =>
      have hr : r.act .publish = { r with coming := es ++ rest, bus := r.bus.publish e } := by
        rw [act, hc]
        rfl
      calc r.after (List.replicate (e :: es).length .publish)
          = (r.act .publish).after (List.replicate es.length .publish) := rfl
        _ = { r with coming := rest, bus := (e :: es).foldl Bus.publish r.bus } := by
          rw [hr, ih _ rfl]
          rfl

/-- When the run is over, the listener can come to its end: what is still to be published comes
first. -/
lemma exists_ended (hf : r.final = true) : ∃ xs, (r.after xs).ended = true := by
  have hv := r.after_publish (List.append_nil r.coming).symm
  refine ⟨List.replicate r.coming.length .publish ++ .cancel :: List.replicate
    ((r.after (List.replicate r.coming.length .publish)).unread + 1) .poll, ?_⟩
  rw [after_append]
  exact ended_of_cancel (by rw [hv]; exact hf) (by rw [hv])

/-- A worker takes some steps. -/
lemma after_work (number n : ℕ) : r.after (List.replicate n (.work number)) =
    { r with set := r.set.meetAll (List.replicate n (.step number)) } := by
  induction n generalizing r with
  | zero => rfl
  | succ n ih => exact ih (r.act (.work number))

variable {r}

/-- A listener that finds nothing to do goes on finding nothing. -/
lemma after_of_still (h : r.poll = r) (n : ℕ) : r.after (List.replicate n .poll) = r := by
  induction n with
  | zero => rfl
  | succ n ih =>
      calc r.after (List.replicate (n + 1) .poll)
          = r.poll.after (List.replicate n .poll) := rfl
        _ = r := by rw [h, ih]

lemma poll_of_ended (he : r.ended = true) : r.poll = r := by rw [poll, if_pos he]

/-- **A turn of a listener** is to look for something to do again and again. -/
theorem after_polls (n : ℕ) (he : r.ended = false) (hb : r.bus.closed = false) :
    r.after (List.replicate n .poll) =
      { r with
        position := (r.bus.readUpTo n r.position).2
        set := (r.set.hear (r.bus.readUpTo n r.position).1).1
        heard := r.heard ++ (r.bus.readUpTo n r.position).1
        ended := r.cancelled && decide ((r.bus.readUpTo n r.position).1.length < n) } := by
  induction n generalizing r with
  | zero =>
      have hr : { r with ended := false } = r := by rw [← he]
      simpa [after, Bus.readUpTo, SubscriberSet.hear] using hr.symm
  | succ n ih =>
      have hs : r.after (List.replicate (n + 1) .poll) =
          r.poll.after (List.replicate n .poll) := rfl
      rw [hs, Bus.readUpTo]
      cases hr : r.bus.read r.position with
      | mk reading next =>
          cases reading with
          | item e =>
              have hp : r.poll = { r with
                  position := next
                  set := (r.set.emit e).1
                  heard := r.heard ++ [.item e] } := by
                rw [poll, if_neg (Bool.eq_false_iff.1 he), hr]
              rw [ih (by rw [hp]; exact he) (by rw [hp]; exact hb), hp]
              simp [SubscriberSet.hear]
          | missed count =>
              have hp : r.poll = { r with
                  position := next
                  heard := r.heard ++ [.missed count] } := by
                rw [poll, if_neg (Bool.eq_false_iff.1 he), hr]
              rw [ih (by rw [hp]; exact he) (by rw [hp]; exact hb), hp]
              simp [SubscriberSet.hear]
          | empty =>
              have hp : r.poll = { r with ended := r.cancelled } := by
                rw [poll, if_neg (Bool.eq_false_iff.1 he), hr]
              have hq : r.poll.poll = r.poll := by
                cases hc : r.cancelled with
                | true => exact poll_of_ended (by rw [hp]; exact hc)
                | false =>
                    have hq : r.poll = r := hp.trans
                      (congrArg (fun d => { r with ended := d }) (hc.trans he.symm))
                    rw [hq, hq]
              rw [after_of_still hq, hp]
              simp [SubscriberSet.hear]
          | closed => exact absurd (congrArg Prod.fst hr) (Bus.read_ne_closed hb _)

end Turns

end Relay

end StreamWarden
