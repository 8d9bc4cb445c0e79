import Mathlib.Tactic
import StreamWarden.Files.Tree

/-!
# A path that is written to

Where a path leads depends on the names in the tree alone, and not on the bytes of the
files.  To write to a path can make one new name, which is that of the path itself: from
then on the path leads to the new file.  So whoever writes to the same path again and again
never comes to write to a file that the path did not lead to at the beginning, unless it is
the new one.

* `resolve_setBytes`: bytes and names are apart.
* `walk_create`: a path that led to a free name leads to the file that was made there.
* **`Avoids.write`**: to write to a path leaves the files alone to which the path does not
  lead, and it goes on not leading to them.
-/

namespace StreamWarden.Files

namespace Tree

variable {t : Tree}

/-! ### Bytes and names are apart -/

@[simp] lemma walk_setBytes (t : Tree) (id : Nat) (content : List UInt8) (slash : Bool)
    (here names : List String) :
    (t.setBytes id content).walk slash here names = t.walk slash here names := by
  induction names generalizing here with
  | nil => simp only [walk, node?_setBytes]
  | cons name rest ih => simp only [walk, node?_setBytes, ih]

@[simp] lemma lookup_setBytes (t : Tree) (id : Nat) (content : List UInt8) (path : String) :
    (t.setBytes id content).lookup path = t.lookup path := by
  simp only [lookup, resolve, walk_setBytes]
  rfl

/-- What is read at a path that leads to a file. -/
lemma read_of_lookup {path : String} {id : Nat} (h : t.lookup path = .ok (.file id)) :
    t.read path = .ok (t.bytes id) := by
  simp only [read, h]

@[simp] lemma resolveForWriting_setBytes (t : Tree) (id : Nat) (content : List UInt8)
    (path : String) :
    (t.setBytes id content).resolveForWriting path = t.resolveForWriting path := by
  simp only [resolveForWriting, resolve, walk_setBytes]
  rfl

/-! ### A file that is made -/

/-- The name at which a file is made leads to it. -/
lemma node?_create_self {place : List String} (hp : t.node? place = none) :
    (t.create place).1.node? place = some (.file t.contents.length) := by
  cases place with
  | nil => cases hp
  | cons name rest =>
      have hf : t.nodes.find? (fun entry => entry.1 == name :: rest) = none :=
        Option.map_eq_none_iff.1 hp
      simp [node?, create, List.find?_append, hf]

/-- The names that were taken lead where they led. -/
lemma node?_create_of_isSome {place other : List String} (h : (t.node? other).isSome = true) :
    (t.create place).1.node? other = t.node? other := by
  cases other with
  | nil => rfl
  | cons name rest =>
      obtain ⟨node, hn⟩ := Option.isSome_iff_exists.1 h
      obtain ⟨entry, hf, -⟩ := Option.map_eq_some_iff.1 hn
      simp [node?, create, List.find?_append, hf]

/-- A path that led to a free name leads to the file that was made there, unless it asks for
a directory. -/
lemma walk_create {slash : Bool} {here names place : List String}
    (h : t.walk slash here names = .ok (.free place)) :
    (t.create place).1.walk slash here names =
      if slash then .error .notDirectory else .ok (.taken place (.file t.contents.length)) := by
  induction names generalizing here with
  | nil =>
      rw [walk] at h
      split at h
      · cases h
      · split at h <;> cases h
      · cases h
  | cons name rest ih =>
      rw [walk] at h ⊢
      by_cases hd : t.node? here = some .directory
      · have hc : (t.create place).1.node? here = some .directory := by
          rw [node?_create_of_isSome (by rw [hd]; rfl), hd]
        rw [if_neg (not_not.2 hd)] at h
        rw [if_neg (not_not.2 hc)]
        by_cases h₁ : name = "."
        · rw [if_pos h₁] at h ⊢
          exact ih h
        rw [if_neg h₁] at h ⊢
        by_cases h₂ : name = ".."
        · rw [if_pos h₂] at h ⊢
          exact ih h
        rw [if_neg h₂] at h ⊢
        by_cases h₃ : name.utf8ByteSize > maxNameBytes
        · rw [if_pos h₃] at h
          cases h
        rw [if_neg h₃] at h ⊢
        by_cases h₄ : (t.node? (here ++ [name])).isSome = true
        · rw [if_pos h₄] at h
          rw [node?_create_of_isSome h₄, if_pos h₄]
          exact ih h
        rw [if_neg h₄] at h
        by_cases h₅ : rest = []
        · -- here the free name has been found, which is now that of the new file
          rw [if_pos h₅] at h
          cases h
          have hn := node?_create_self (Option.not_isSome_iff_eq_none.1 h₄)
          rw [if_pos (by rw [hn]; rfl), h₅, walk, hn]
        · rw [if_neg h₅] at h
          cases h
      · rw [if_pos hd] at h
        cases h

/-- A free name is the last one of the path, and leads nowhere else. -/
lemma exists_of_walk_free {slash : Bool} {here names place : List String}
    (h : t.walk slash here names = .ok (.free place)) :
    ∃ name, names.getLast? = some name ∧ isDots name = false := by
  induction names generalizing here with
  | nil =>
      rw [walk] at h
      split at h
      · cases h
      · split at h <;> cases h
      · cases h
  | cons name rest ih =>
      have more : (∃ name, rest.getLast? = some name ∧ isDots name = false) →
          ∃ last, (name :: rest).getLast? = some last ∧ isDots last = false := by
        rintro ⟨last, hl, hd⟩
        exact ⟨last, by rw [List.getLast?_cons, hl]; rfl, hd⟩
      rw [walk] at h
      split at h
      · cases h
      split at h
      · exact more (ih h)
      split at h
      · exact more (ih h)
      rename_i h₁ h₂
      split at h
      · cases h
      split at h
      · exact more (ih h)
      split at h
      · rename_i hr
        exact ⟨name, by rw [hr]; rfl, by simp [isDots, h₁, h₂]⟩
      · cases h

/-- A path to a free name does not ask for a directory. -/
lemma walk_of_free {path : String} {place : List String}
    (h : t.resolveForWriting path = .ok (.free place)) :
    fault? path = none ∧ namedDirectory? path = none ∧ path.endsWith "/" = false ∧
      t.walk false (t.origin path) (names path) = .ok (.free place) := by
  cases hf : fault? path with
  | some e =>
      simp only [resolveForWriting, resolve, hf] at h
      cases h
  | none =>
      cases hn : namedDirectory? path with
      | some above =>
          simp only [resolveForWriting, hf, hn] at h
          split at h <;> cases h
      | none =>
          simp only [resolveForWriting, resolve, hf, hn] at h
          obtain ⟨name, hl, hd⟩ := exists_of_walk_free h
          have he : path.endsWith "/" = false := by
            cases he : path.endsWith "/" with
            | false => rfl
            | true => simp [namedDirectory?, hl, he, hd] at hn
          rw [he] at h
          exact ⟨rfl, rfl, he, h⟩

/-- **A path to a free name leads to the file that is made there**, for reading and for
writing. -/
lemma resolveForWriting_create {path : String} {place : List String}
    (h : t.resolveForWriting path = .ok (.free place)) :
    (t.create place).1.resolveForWriting path = .ok (.taken place (.file t.contents.length)) ∧
      (t.create place).1.lookup path = .ok (.file t.contents.length) := by
  obtain ⟨hf, hn, he, hw⟩ := walk_of_free h
  have hr : (t.create place).1.resolve path = .ok (.taken place (.file t.contents.length)) := by
    have ho : (t.create place).1.origin path = t.origin path := rfl
    simp only [resolve, hf, he]
    rw [ho, walk_create hw]
    rfl
  refine ⟨?_, by rw [lookup, hr]⟩
  rw [resolveForWriting, hf, hn]
  exact hr

/-- A file that is opened for writing is found there for reading. -/
lemma lookup_of_resolveForWriting {path : String} {place : List String} {id : Nat}
    (h : t.resolveForWriting path = .ok (.taken place (.file id))) :
    t.resolve path = .ok (.taken place (.file id)) ∧ t.lookup path = .ok (.file id) := by
  have hr : t.resolve path = .ok (.taken place (.file id)) := by
    rw [resolveForWriting] at h
    split at h
    · split at h <;> cases h
    · exact h
  exact ⟨hr, by rw [lookup, hr]⟩

/-! ### Files to which a path does not lead -/

/-- The path does not lead to this file. -/
def Avoids (t : Tree) (path : String) (id : Nat) : Prop :=
  ∀ place, t.resolveForWriting path ≠ .ok (.taken place (.file id))

lemma Avoids.setBytes {path : String} {id : Nat} (h : t.Avoids path id) (other : Nat)
    (content : List UInt8) : (t.setBytes other content).Avoids path id := by
  intro place
  rw [resolveForWriting_setBytes]
  exact h place

/-- **To write to a path leaves the files alone to which it does not lead**, and it goes on
not leading to them. -/
theorem Avoids.write {path : String} {id : Nat} (h : t.Avoids path id)
    (hid : id < t.contents.length) {content : List UInt8} {t' : Tree}
    (hw : t.write path content = .ok t') :
    t'.bytes id = t.bytes id ∧ id < t'.contents.length ∧ t'.Avoids path id := by
  cases hr : t.resolveForWriting path with
  | error e => simp [Tree.write, openFile, hr] at hw
  | ok spot =>
      cases spot with
      | taken place node =>
          cases node with
          | directory | full => simp [Tree.write, openFile, hr] at hw
          | sink =>
              obtain rfl : t = t' := by simpa [Tree.write, openFile, hr] using hw
              exact ⟨rfl, hid, h⟩
          | file n =>
              obtain rfl : t.setBytes n content = t' := by
                simpa [Tree.write, openFile, hr] using hw
              have hn : id ≠ n := by
                rintro rfl
                exact h place hr
              exact ⟨bytes_setBytes_of_ne hn content, by simpa [Tree.setBytes] using hid,
                h.setBytes n content⟩
      | free place =>
          obtain rfl : (t.create place).1.setBytes t.contents.length content = t' := by
            simpa [Tree.write, openFile, hr, create] using hw
          refine ⟨?_, ?_, Avoids.setBytes (fun other ho => ?_) _ _⟩
          · rw [bytes_setBytes_of_ne hid.ne]
            simp [Tree.bytes, create, List.getElem?_append_left hid]
          · simp only [Tree.setBytes, create, List.length_set, List.length_append]
            omega
          · rw [(resolveForWriting_create hr).1] at ho
            cases ho
            exact lt_irrefl _ hid

end Tree

end StreamWarden.Files
