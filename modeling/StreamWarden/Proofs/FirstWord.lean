import Mathlib
import StreamWarden.Proofs.Ending

/-!
# Who owns the first word

A region owns the first word of its file and nothing else.  Whatever the file held when the region
was opened, its later bytes stay as they are, but for the zeros that make a short file as long as
a region, and the first word is the flag that was set last.  A supervisor sets the flag with its
session: the word is one while there is a session, and zero otherwise, and none of its answers
touches the bytes behind.  Only a loop that breaks down in the course of a session leaves the word
at one for good.

* `Region.setFlag_grown`: the bytes of a region by its flag and by what the file held.
* `Region.bytes_setAll`: of the flags that were set one after the other, the last one stays.
* `Files.Tree.Complete`, `Files.Tree.stock?`: trees in which files have their bytes, and what is
  found at a path that is opened for writing; `Region.exists_openAt` opens a region there.
* `Studio.Spells`: the word goes with the session; `spells_after` says that it does in a loop, as
  long as others leave it alone.
* **`first_word_of_region`**: the bytes of the file, for a region by itself and in the hands of a
  supervisor.
-/

namespace StreamWarden

/-! ### The bytes of a region -/

namespace Region

variable {bytes tail : List UInt8}

lemma length_word (on : Bool) : (word on).length = wordSize := rfl

/-- A region has room for its word. -/
lemma wordSize_le_length_grown (bytes : List UInt8) : wordSize ≤ (grown bytes).length := by
  rw [grown, List.length_append, List.length_replicate, wordSize, size]
  omega

lemma setFlag_of_le (h : wordSize ≤ bytes.length) (on : Bool) :
    setFlag on bytes = word on ++ bytes.drop wordSize := by
  rw [setFlag, List.take_of_length_le (by rwa [length_word])]

lemma drop_word_append (on : Bool) (tail : List UInt8) :
    (word on ++ tail).drop wordSize = tail := rfl

/-- The word that was there before does not matter. -/
lemma setFlag_word_append (on before : Bool) (tail : List UInt8) :
    setFlag on (word before ++ tail) = word on ++ tail := by
  rw [setFlag_of_le (by rw [List.length_append, length_word]; omega), drop_word_append]

lemma flagOf_word_append (on : Bool) (tail : List UInt8) : flagOf (word on ++ tail) = on := by
  cases on <;> rfl

/-- **A region has its word, then what the file held behind it, and then zeros.** -/
lemma setFlag_grown (on : Bool) (bytes : List UInt8) :
    setFlag on (grown bytes) =
      word on ++ (bytes.drop wordSize ++ List.replicate (size - max bytes.length wordSize) 0) := by
  rw [setFlag_of_le (wordSize_le_length_grown bytes), grown, List.drop_append,
    List.drop_replicate]
  congr 3
  rw [wordSize, size]
  omega

/-! ### The flag set again and again -/

variable {r : Region} {t : Files.Tree}

/-- Sets the flag to some values, one after the other. -/
def setAll (r : Region) (t : Files.Tree) (ons : List Bool) : Files.Tree := ons.foldl r.set t

lemma setAll_concat (r : Region) (t : Files.Tree) (ons : List Bool) (on : Bool) :
    r.setAll t (ons ++ [on]) = r.set (r.setAll t ons) on := by
  simp [setAll]

/-- **The flag that was set last is the one that stays**, before what was always there. -/
lemma bytes_setAll {on : Bool} (h : r.file < t.contents.length)
    (ht : t.bytes r.file = word on ++ tail) (ons : List Bool) :
    (r.setAll t ons).bytes r.file = word (ons.getLastD on) ++ tail ∧
      r.file < (r.setAll t ons).contents.length := by
  induction ons using List.reverseRecOn with
  | nil => exact ⟨ht, h⟩
  | append_singleton ons last ih =>
      rw [setAll_concat, List.getLastD_concat]
      refine ⟨?_, by simpa [set, Files.Tree.setBytes] using ih.2⟩
      rw [set, Files.Tree.bytes_setBytes ih.2, ih.1, setFlag_word_append]

/-- To set the flag neither moves anything nor touches another file. -/
lemma setAll_keeps (r : Region) (t : Files.Tree) (ons : List Bool) :
    (∀ path, (r.setAll t ons).lookup path = t.lookup path) ∧
      ∀ id, id ≠ r.file → (r.setAll t ons).bytes id = t.bytes id := by
  induction ons using List.reverseRecOn with
  | nil => exact ⟨fun _ => rfl, fun _ _ => rfl⟩
  | append_singleton ons last ih =>
      rw [setAll_concat]
      refine ⟨fun path => ?_, fun id hid => ?_⟩
      · rw [set, Files.Tree.lookup_setBytes, ih.1]
      · rw [set, Files.Tree.bytes_setBytes_of_ne hid, ih.2 id hid]

end Region

/-! ### Files and the places where they are made -/

namespace Files.Tree

variable {t : Tree} {path : String}

/-- Every file has its bytes. -/
def Complete (t : Tree) : Prop :=
  ∀ entry ∈ t.nodes, ∀ id, entry.2 = .file id → id < t.contents.length

/-- What somebody finds who opens a path for writing: the bytes of the file that is there, or
none if there is room for one. -/
def stock? (t : Tree) (path : String) : Option (List UInt8) :=
  match t.resolveForWriting path with
  | .ok (.taken _ (.file id)) => some (t.bytes id)
  | .ok (.free _) => some []
  | _ => none

/-- What is found at the end of a way stands there. -/
lemma node?_of_walk {slash : Bool} {here names place : List String} {node : Node}
    (h : t.walk slash here names = .ok (.taken place node)) : t.node? place = some node := by
  induction names generalizing here with
  | nil =>
      rw [walk] at h
      split at h
      · rename_i hn
        cases h
        exact hn
      · split at h
        · cases h
        · rename_i hn _ _
          cases h
          assumption
      · cases h
  | cons name rest ih =>
      rw [walk] at h
      split at h
      · cases h
      split at h
      · exact ih h
      split at h
      · exact ih h
      split at h
      · cases h
      split at h
      · exact ih h
      split at h <;> cases h

/-- A file that is opened for writing has its bytes. -/
lemma Complete.lt (ht : t.Complete) {place : List String} {id : Nat}
    (h : t.resolveForWriting path = .ok (.taken place (.file id))) : id < t.contents.length := by
  have hr := (lookup_of_resolveForWriting h).1
  rw [resolve] at hr
  split at hr
  · cases hr
  · have hn := node?_of_walk hr
    cases place with
    | nil => cases hn
    | cons name rest =>
        obtain ⟨entry, hf, he⟩ := Option.map_eq_some_iff.1 hn
        exact ht entry (List.mem_of_find?_eq_some hf) id he

/-- **What is found is a file from the moment of opening on**, and all other files are as they
were. -/
lemma exists_of_stock? (ht : t.Complete) {bytes : List UInt8} (h : t.stock? path = some bytes) :
    ∃ t' id, t.openFile path = .ok (t', .file id) ∧ t'.lookup path = .ok (.file id) ∧
      id < t'.contents.length ∧ t'.bytes id = bytes ∧ ∀ other, other ≠ id →
        t'.bytes other = t.bytes other := by
  rw [stock?] at h
  split at h
  case h_1 place id hr =>
    cases h
    exact ⟨t, id, by rw [openFile, hr], (lookup_of_resolveForWriting hr).2, ht.lt hr, rfl,
      fun _ _ => rfl⟩
  case h_2 place hr =>
    cases h
    refine ⟨(t.create place).1, t.contents.length, by rw [openFile, hr]; rfl,
      (resolveForWriting_create hr).2, by simp [create], by simp [Tree.bytes, create],
      fun other ho => ?_⟩
    rcases Nat.lt_or_ge other t.contents.length with hlt | hge
    · simp [Tree.bytes, create, List.getElem?_append_left hlt]
    · have hlen : (t.contents ++ [[]]).length ≤ other := by
        rw [List.length_append, List.length_singleton]
        omega
      rw [Tree.bytes, Tree.bytes, create, List.getD_eq_getElem?_getD, List.getD_eq_getElem?_getD,
        List.getElem?_eq_none hge, List.getElem?_eq_none hlen]
  case h_3 => cases h

end Files.Tree

namespace Region

/-- **A region that is opened has its flag cleared**, and all other files are as they were. -/
lemma exists_openAt {t : Files.Tree} (ht : t.Complete) {path : String} {bytes : List UInt8}
    (h : t.stock? path = some bytes) :
    ∃ t' r, openAt t path = .ok (t', r) ∧ t'.lookup path = .ok (.file r.file) ∧
      r.file < t'.contents.length ∧ t'.bytes r.file = setFlag false (grown bytes) ∧
      ∀ id, id ≠ r.file → t'.bytes id = t.bytes id := by
  obtain ⟨t₀, id, ho, hl, hid, hb, hk⟩ := t.exists_of_stock? ht h
  have hlen : id < (t₀.setBytes id (grown bytes)).contents.length := by
    simpa [Files.Tree.setBytes] using hid
  refine ⟨_, ⟨path, id⟩, by rw [openAt, ho], ?_, ?_, ?_, fun other ho => ?_⟩
  · rw [set, Files.Tree.lookup_setBytes, Files.Tree.lookup_setBytes, hl]
  · simpa [set, Files.Tree.setBytes] using hid
  · rw [set, hb, Files.Tree.bytes_setBytes hlen, Files.Tree.bytes_setBytes hid]
  · rw [set, Files.Tree.bytes_setBytes_of_ne ho, Files.Tree.bytes_setBytes_of_ne ho, hk other ho]

end Region

/-! ### The word in the hands of a recorder -/

namespace Studio

variable {r : Region} {tail : List UInt8} {s : Studio}

/-- The first word tells whether there is a session, and this stands behind it. -/
structure Spells (r : Region) (tail : List UInt8) (s : Studio) : Prop extends Wired r s where
  spelled : s.files.bytes r.file = Region.word s.session.isSome ++ tail

/-- **A recorder changes the word with its session, and nothing behind it.** -/
instance outward_spells (r : Region) (tail : List UInt8) : Outward (Spells r tail) where
  of_eq h hr hf hi hs :=
    { region := hr.trans h.region
      here := hf ▸ h.here
      bytes := hf ▸ h.bytes
      apart := hf ▸ hi ▸ h.apart
      spelled := by rw [hf, h.spelled, hs] }
  announced {s} h n b session := by
    have hw : Wired r { s with sessionsStarted := n, backend := b, session := session } :=
      ⟨h.region, h.here, h.bytes, h.apart⟩
    obtain ⟨ha, hb⟩ := hw.bytes_announce session.isSome
    refine ⟨ha, ?_⟩
    rw [hb, announce_session]
    exact (congrArg (Region.setFlag session.isSome) h.spelled).trans
      (Region.setFlag_word_append _ _ _)

end Studio

namespace Supervisor

open State

variable {l : Loop} {r : Region} {t : Files.Tree}

/-- The files that somebody leaves, if that is what happens. -/
def Happening.files? : Happening → Option Files.Tree
  | .around (.files tree) _ => some tree
  | _ => none

/-- The files as whoever changed them last left them. -/
def filesLeft (t : Files.Tree) (ms : List Happening) : Files.Tree :=
  (ms.filterMap Happening.files?).getLastD t

lemma filesLeft_cons (t : Files.Tree) (m : Happening) (ms : List Happening) :
    filesLeft t (m :: ms) = filesLeft (m.files?.getD t) ms := by
  rw [filesLeft, List.filterMap_cons]
  cases m.files? with
  | none => rfl
  | some tree => exact List.getLastD_cons ..

/-- Who leaves the word alone may leave other bytes behind it. -/
lemma spells_files {s : State} {tree : Files.Tree} {tail : List UInt8}
    (ha : s.Allows r tree) (h : Studio.Spells r tail s.toStudio) :
    Studio.Spells r ((tree.bytes r.file).drop Region.wordSize)
      (s.answer (.files tree)).toStudio := by
  have hw : (tree.bytes r.file).take Region.wordSize = Region.word s.session.isSome := by
    rw [ha.word, h.spelled]
    rfl
  refine ⟨h.toWired.files ha, ?_⟩
  calc tree.bytes r.file
      = (tree.bytes r.file).take Region.wordSize ++ (tree.bytes r.file).drop Region.wordSize :=
        (List.take_append_drop _ _).symm
    _ = Region.word s.session.isSome ++ (tree.bytes r.file).drop Region.wordSize := by rw [hw]

/-- The bytes of the region after something has happened: those behind the word are as they were,
or as they were left. -/
lemma spells_happen (h : Studio.Spells r ((t.bytes r.file).drop Region.wordSize) l.state.toStudio)
    {m : Happening} (hm : ∀ tree hx, m = .around (.files tree) hx → l.state.Allows r tree) :
    Studio.Spells r (((m.files?.getD t).bytes r.file).drop Region.wordSize)
      (l.happen m).state.toStudio := by
  by_cases hf : ∃ tree hx, m = .around (.files tree) hx
  · obtain ⟨tree, hx, rfl⟩ := hf
    exact spells_files (hm tree hx rfl) h
  · have hn : m.files? = none := by
      cases m with
      | around x hx =>
          cases x with
          | files tree => exact absurd ⟨tree, hx, rfl⟩ hf
          | _ => rfl
      | _ => rfl
    rw [hn]
    exact keeps_happen h fun tree hx ht => absurd ⟨tree, hx, ht⟩ hf

/-- **The word goes with the session, and what others left stays behind it**, whatever happens
to a loop. -/
theorem spells_after
    (h : Studio.Spells r ((t.bytes r.file).drop Region.wordSize) l.state.toStudio)
    {ms : List Happening} (hm : l.Unwritten r ms) :
    Studio.Spells r (((filesLeft t ms).bytes r.file).drop Region.wordSize)
      (l.after ms).state.toStudio := by
  induction ms generalizing l t with
  | nil => exact h
  | cons m ms ih =>
      rw [filesLeft_cons]
      exact ih (spells_happen h hm.1) hm.2

/-- A loop that is over has no other session than the one it had. -/
lemma session_after_of_isOver (h : l.isOver = true) (ms : List Happening) :
    (l.after ms).state.session = l.state.session := by
  induction ms generalizing l with
  | nil => rfl
  | cons m ms ih =>
      have hs : (l.happen m).state.session = l.state.session := by
        cases m with
        | step => rw [Loop.happen_step_of_none (by rw [Loop.step?, if_pos h])]
        | publish =>
            rw [Loop.happen, l.publish_keeps.1]
            rfl
        | post q => rw [Loop.happen, (l.post_keeps q).1]
        | report m => rw [Loop.happen, (l.postStatus_keeps m).1]
        | dropHandles | endBridge => rfl
        | around x hx => cases x <;> first | rfl | cases hx
      exact (ih (Loop.still_happen h m).1.isOver).trans hs

/-- **A region owns the first word of its file and nothing else.**  If a region is opened where
there is a file, or room for one, then whatever the bytes of the file were and however often the
flag is set, the file has the word for the flag that was set last, none being set at first, then
the bytes that it had behind its first word, and zeros if it was short of a region; and no other
file changes.  In the hands of a supervisor, as long as nobody else writes the first word, this
word tells whether there is a session, and all that is behind it stays as others leave it.  There
is no session when a run is over.  A loop that breaks down, which it does only at a limit of the
machine that one of its delays goes beyond, has the session that it had there for good, and the
word for it. -/
theorem first_word_of_region {path : String} {bytes : List UInt8} (ht : t.Complete)
    (hc : t.stock? path = some bytes) :
    ∃ t' r, Region.openAt t path = .ok (t', r) ∧
      (∀ ons : List Bool,
        (r.setAll t' ons).lookup path = .ok (.file r.file) ∧
        (r.setAll t' ons).bytes r.file =
          Region.word (ons.getLastD false) ++ (bytes.drop Region.wordSize ++
            List.replicate (Region.size - max bytes.length Region.wordSize) 0) ∧
        r.isSet (r.setAll t' ons) = ons.getLastD false ∧
        ∀ id, id ≠ r.file → (r.setAll t' ons).bytes id = t.bytes id) ∧
      ∀ (u : Setup) (capacity : ℕ) (subscribers : List Subscriber)
        (bridge : Option Signal.Bindings) (ms : List Happening),
        u.files = t' → u.region = some r →
        (∀ lamp, u.indicator = .file lamp → t'.Avoids lamp r.file) →
        let l := u.loop capacity subscribers bridge
        let v := l.after ms
        l.Unwritten r ms →
          v.state.files.bytes r.file = Region.word v.state.session.isSome ++
            ((filesLeft t' ms).bytes r.file).drop Region.wordSize ∧
          r.isSet v.state.files = v.state.session.isSome ∧
          (v.state.exited = true → v.state.session = none ∧ v.excess = none) ∧
          (∀ e, v.excess = some e → (u.settings.pace u.horizon v.state.now).Exceeds e) ∧
          (v.isOver = true → ∀ ys, (v.after ys).state.session = v.state.session ∧
            (v.Unwritten r ys → r.isSet (v.after ys).state.files = v.state.session.isSome)) := by
  obtain ⟨t', r, ho, hl, hr, hb, hk⟩ := Region.exists_openAt ht hc
  rw [Region.setFlag_grown] at hb
  refine ⟨t', r, ho, fun ons => ?_, ?_⟩
  · obtain ⟨hs, -⟩ := Region.bytes_setAll hr hb ons
    obtain ⟨hp, hother⟩ := r.setAll_keeps t' ons
    refine ⟨(hp path).trans hl, hs, ?_, fun id hid => (hother id hid).trans (hk id hid)⟩
    rw [Region.isSet, hs, Region.flagOf_word_append]
  intro u capacity subscribers bridge ms hu hur ha l v hm
  have hd : (t'.bytes r.file).drop Region.wordSize = bytes.drop Region.wordSize ++
      List.replicate (Region.size - max bytes.length Region.wordSize) 0 := by
    rw [hb, Region.drop_word_append]
  have hf : l.state.files = t' := hu
  have hl₀ : Studio.Spells r ((t'.bytes r.file).drop Region.wordSize) l.state.toStudio :=
    { region := hur
      here := by rwa [hf]
      bytes := by
        rw [hf, hb]
        exact List.cons_ne_nil _ _
      apart := by rwa [hf]
      spelled := by
        rw [hf, hd]
        exact hb }
  have told : ∀ {w : Loop} {tail : List UInt8}, Studio.Spells r tail w.state.toStudio →
      r.isSet w.state.files = w.state.session.isSome := by
    intro w tail hw
    rw [Region.isSet, hw.spelled, Region.flagOf_word_append]
  have hv := spells_after hl₀ hm
  have sound : Sound l := sound_loop u capacity subscribers bridge
  have soundv : Sound v := sound.after ms
  refine ⟨hv.spelled, told hv, fun hx => ?_, fun e he => ?_, fun hover ys => ?_⟩
  · obtain ⟨hrest, hn⟩ := soundv.atRest hx
    exact ⟨hrest.session, hn⟩
  · have hp : v.state.pace = u.settings.pace u.horizon v.state.now := pace_after l ms
    rw [← hp]
    exact sound.overdue_after (fun _ hx => by cases hx) ms e he
  · have hs := session_after_of_isOver hover ys
    exact ⟨hs, fun hy => by rw [told (spells_after hv hy), hs]⟩

/-- A file with a stale flag and one byte more. -/
def staleFlag : Files.Tree :=
  { nodes := [(["flag"], .file 0)]
    contents := [[1, 0, 0, 0, 171]]
    home := [] }

/-- A stale flag is cleared, the byte behind it stays, and a supervisor has the word for its
session. -/
theorem first_word_of_region_stale :
    staleFlag.Complete ∧ staleFlag.stock? "flag" = some [1, 0, 0, 0, 171] ∧
      ∃ t' r, Region.openAt staleFlag "flag" = .ok (t', r) ∧
        t'.read "flag" = .ok ([0, 0, 0, 0, 171] ++ List.replicate 4091 0) ∧
        (r.setAll t' [true]).read "flag" = .ok ([1, 0, 0, 0, 171] ++ List.replicate 4091 0) ∧
        let u : Setup := { files := t', profile := .receiver 5600 96 .h264, region := some r }
        let v := (u.loop 16 [] none).after [.post .start, .step]
        v.state.files.bytes r.file =
          Region.word v.state.session.isSome ++ ([171] ++ List.replicate 4091 0) := by
  have ht : staleFlag.Complete := by simp [Files.Tree.Complete, staleFlag]
  have hn : Files.Tree.names "flag" = ["flag"] := by cbv
  have hc : staleFlag.stock? "flag" = some [1, 0, 0, 0, 171] := by
    simp only [Files.Tree.stock?, Files.Tree.resolveForWriting, Files.Tree.resolve,
      Files.Tree.namedDirectory?, hn]
    decide +kernel
  obtain ⟨t', r, ho, hs, hu⟩ := first_word_of_region ht hc
  obtain ⟨hl₀, hb₀, -⟩ := hs []
  obtain ⟨hl₁, hb₁, -⟩ := hs [true]
  have hb : t'.bytes r.file = Region.word false ++ ([171] ++ List.replicate 4091 0) := hb₀
  refine ⟨ht, hc, t', r, ho, ?_, ?_, ?_⟩
  · exact (Files.Tree.read_of_lookup hl₀).trans (congrArg _ hb)
  · exact (Files.Tree.read_of_lookup hl₁).trans (congrArg _ hb₁)
  · intro u v
    have hm : (u.loop 16 [] none).Unwritten r [.post .start, .step] := by
      simp [Loop.Unwritten]
    have hv := (hu u 16 [] none [.post .start, .step] rfl rfl (by simp [u]) hm).1
    have hf : filesLeft t' [.post .start, .step] = t' := rfl
    rw [hv, hf, hb, Region.drop_word_append]

end Supervisor

end StreamWarden
