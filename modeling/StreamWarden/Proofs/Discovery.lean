import Mathlib.Data.List.DropRight
import StreamWarden.Proofs.Paths
import StreamWarden.Recording.Storage

/-!
# Where the storage is found

Storage is found if its helper is a file with a text in it, and that text, without the white
space and the NUL characters around it, names a directory.  In every other case exactly one
thing is missing, and that is what is reported.  What surrounds the name has no say in it.

* `Text.IsStripped`: what is left of a text without the characters around it, said without the
  function that takes them off; `Text.strip_eq_iff` says that this is what it leaves.
* `Storage.textOf?_eq_some_iff`: bytes are read as the text that they spell.
* `Storage.Finding`: what can come of a look for storage, and when; `Storage.find_eq_iff` says that
  this is what comes of it.
* `Storage.find_padded`, `Storage.locate_padded`: what surrounds the name.
* **`Storage.finding_of_helper`**: when storage is found, and what is reported when it is not.
-/

namespace StreamWarden

namespace Text

section Strip

variable {p : Char → Bool} {text core : List Char}

/-- `core` stands in a text with characters around it that satisfy `p`, and has none of those at
its ends. -/
structure IsStripped (p : Char → Bool) (text core : List Char) : Prop where
  around : ∃ u v, text = u ++ core ++ v ∧ (∀ c ∈ u, p c = true) ∧ ∀ c ∈ v, p c = true
  first : ∀ c ∈ core.head?, p c = false
  last : ∀ c ∈ core.getLast?, p c = false

/-- To strip a text is to drop characters from its left and then from its right. -/
lemma strip_eq_rdropWhile (p : Char → Bool) (text : List Char) :
    strip p text = (text.dropWhile p).rdropWhile p := rfl

/-- No unwanted character is left at the beginning. -/
lemma head?_strip : ∀ c ∈ (strip p text).head?, p c = false := by
  intro c hc
  obtain ⟨rest, hr⟩ := List.rdropWhile_prefix p (text.dropWhile p)
  have hd : (text.dropWhile p).head? = some c := by
    rw [← hr, List.head?_append, ← strip_eq_rdropWhile, hc]
    rfl
  have hn := List.head?_dropWhile_not p text
  rwa [hd] at hn

/-- No unwanted character is left at the end. -/
lemma getLast?_strip : ∀ c ∈ (strip p text).getLast?, p c = false := by
  intro c hc
  rw [strip_eq_rdropWhile] at hc
  obtain ⟨hne, rfl⟩ := List.mem_getLast?_eq_getLast hc
  exact Bool.eq_false_iff.2 (List.rdropWhile_last_not p (text.dropWhile p) hne)

lemma isStripped_strip (p : Char → Bool) (text : List Char) :
    IsStripped p text (strip p text) where
  around := by
    refine ⟨text.takeWhile p, (text.dropWhile p).rtakeWhile p, ?_,
      fun _ => List.mem_takeWhile_imp, fun _ => List.mem_rtakeWhile_imp⟩
    rw [strip_eq_rdropWhile, List.append_assoc, List.rdropWhile_append_rtakeWhile,
      List.takeWhile_append_dropWhile]
  first := head?_strip
  last := getLast?_strip

/-- There is nothing to be taken off a text with no unwanted character at its ends. -/
lemma strip_eq_self (hf : ∀ c ∈ core.head?, p c = false) (hl : ∀ c ∈ core.getLast?, p c = false) :
    strip p core = core := by
  have hd : core.dropWhile p = core := by
    cases core with
    | nil => rfl
    | cons c rest => simp [List.dropWhile, hf c rfl]
  rw [strip_eq_rdropWhile, hd, List.rdropWhile_eq_self_iff]
  intro hne
  rw [hl _ (List.getLast_mem_getLast? hne)]
  exact Bool.false_ne_true

/-- **To strip a text leaves its core**, of which there is one alone. -/
theorem strip_eq_iff : strip p text = core ↔ IsStripped p text core := by
  constructor
  · rintro rfl
    exact isStripped_strip p text
  · rintro ⟨⟨u, v, rfl, hu, hv⟩, hf, hl⟩
    rw [strip_append hu hv, strip_eq_self hf hl]

/-- Of a text that is all to be taken off nothing is left, and of no other. -/
lemma strip_eq_nil_iff : strip p text = [] ↔ ∀ c ∈ text, p c = true := by
  rw [strip_eq_iff]
  constructor
  · rintro ⟨⟨u, v, rfl, hu, hv⟩, -, -⟩
    intro c hc
    rw [List.append_nil] at hc
    exact (List.mem_append.1 hc).elim (hu c) (hv c)
  · intro h
    exact ⟨⟨text, [], by simp, h, nofun⟩, nofun, nofun⟩

end Strip

/-- The bytes of a text. -/
def bytesOf (text : String) : List UInt8 := text.toUTF8.data.toList

end Text

namespace Storage

open Text (bytesOf)

variable {v : Files.View} {helper : String} {text mount : String} {bytes : List UInt8}

/-- **Bytes are read as the text that they spell**, and as no other. -/
lemma textOf?_eq_some_iff : textOf? bytes = some text ↔ bytes = bytesOf text := by
  rw [textOf?, String.fromUTF8?]
  constructor
  · intro h
    split at h
    · cases h
      rfl
    · cases h
  · rintro rfl
    have hv : (ByteArray.mk (bytesOf text).toArray).IsValidUTF8 := text.isValidUTF8
    rw [dif_pos hv]
    rfl

lemma textOf?_eq_none_iff : textOf? bytes = none ↔ ∀ text, bytes ≠ bytesOf text := by
  simp only [Option.eq_none_iff_forall_ne_some, ne_eq, textOf?_eq_some_iff]

/-- What can come of looking for storage through what a file system shows. -/
inductive Finding (v : Files.View) (helper : String) : Except StorageError String → Prop where
  /-- The helper is a file with a text that names a directory. -/
  | found {text mount : String} (hf : v.IsRegular helper) (hr : v.read helper = .ok (bytesOf text))
      (hm : Text.IsStripped isPadding text.toList mount.toList) (hne : mount ≠ "")
      (hd : v.isDirectory mount = true) : Finding v helper (.ok mount)
  /-- There is no helper. -/
  | absent (hf : ¬v.IsRegular helper) : Finding v helper (.error (.helperAbsent helper))
  /-- The helper is a file that cannot be read. -/
  | unreadable {e : Files.Error} (hf : v.IsRegular helper) (hr : v.read helper = .error e) :
      Finding v helper (.error (.helperUnreadable helper e))
  /-- The helper is a file whose bytes are those of no text. -/
  | notText {bytes : List UInt8} (hf : v.IsRegular helper) (hr : v.read helper = .ok bytes)
      (ht : ∀ text, bytes ≠ bytesOf text) :
      Finding v helper (.error (.helperUnreadable helper .notText))
  /-- The helper is a file with a text that names nothing. -/
  | notMounted {text : String} (hf : v.IsRegular helper) (hr : v.read helper = .ok (bytesOf text))
      (hm : ∀ c ∈ text.toList, isPadding c = true) : Finding v helper (.error .notMounted)
  /-- The helper is a file with a text that names something that is no directory. -/
  | notDirectory {text mount : String} (hf : v.IsRegular helper)
      (hr : v.read helper = .ok (bytesOf text))
      (hm : Text.IsStripped isPadding text.toList mount.toList) (hne : mount ≠ "")
      (hd : v.isDirectory mount = false) : Finding v helper (.error (.notADirectory mount))

/-- What comes of a helper with a text in it. -/
lemma find_of_text (hf : v.IsRegular helper) (hr : v.read helper = .ok (bytesOf text)) :
    find v helper =
      let mount := String.ofList (mountName text.toList)
      if mount = "" then .error .notMounted
      else if v.isDirectory mount then .ok mount
      else .error (.notADirectory mount) := by
  rw [find, if_pos hf.1, hr]
  simp only [textOf?_eq_some_iff.2 rfl]

lemma find_of_finding {r : Except StorageError String} (h : Finding v helper r) :
    find v helper = r := by
  have named : ∀ {text mount : String}, Text.IsStripped isPadding text.toList mount.toList →
      String.ofList (mountName text.toList) = mount := by
    intro text mount hm
    rw [mountName, Text.strip_eq_iff.2 hm, String.ofList_toList]
  cases h with
  | found hf hr hm hne hd =>
      simp only [find_of_text hf hr, named hm, hne, hd, if_true, if_false]
  | absent hf =>
      rw [find]
      split
      · rename_i hf'
        have hr : v.read helper = .error .notFound := not_not.1 fun hr => hf ⟨hf', hr⟩
        rw [hr]
      · rfl
  | unreadable hf hr =>
      rw [find, if_pos hf.1, hr]
      split
      · exact absurd (by simp_all) hf.2
      · simp_all
      · simp_all
  | notText hf hr ht =>
      rw [find, if_pos hf.1, hr]
      simp only [textOf?_eq_none_iff.2 ht]
  | notMounted hf hr hm =>
      rw [find_of_text hf hr, mountName, Text.strip_eq_nil_iff.2 hm]
      rfl
  | notDirectory hf hr hm hne hd =>
      simp only [find_of_text hf hr, named hm, hne, hd, if_false, Bool.false_eq_true]

/-- Something is found in every case. -/
lemma exists_finding (v : Files.View) (helper : String) : ∃ r, Finding v helper r := by
  by_cases hf : v.IsRegular helper
  · cases hr : v.read helper with
    | error e => exact ⟨_, .unreadable hf hr⟩
    | ok bytes =>
        cases ht : textOf? bytes with
        | none => exact ⟨_, .notText hf hr (textOf?_eq_none_iff.1 ht)⟩
        | some text =>
            rw [textOf?_eq_some_iff.1 ht] at hr
            obtain ⟨mount, hm⟩ : ∃ mount : String, mount.toList = mountName text.toList :=
              ⟨String.ofList _, String.toList_ofList⟩
            have hs : Text.IsStripped isPadding text.toList mount.toList :=
              Text.strip_eq_iff.1 hm.symm
            by_cases hne : mount = ""
            · subst hne
              exact ⟨_, .notMounted hf hr (Text.strip_eq_nil_iff.1 hm.symm)⟩
            cases hd : v.isDirectory mount with
            | true => exact ⟨_, .found hf hr hs hne hd⟩
            | false => exact ⟨_, .notDirectory hf hr hs hne hd⟩
  · exact ⟨_, .absent hf⟩

/-- **What is found is what there is to be found.** -/
theorem find_eq_iff {r : Except StorageError String} : find v helper = r ↔ Finding v helper r := by
  refine ⟨?_, find_of_finding⟩
  rintro rfl
  obtain ⟨r, h⟩ := exists_finding v helper
  rwa [find_of_finding h]

/-- **What surrounds the name does not matter**, as long as all else is as it was. -/
lemma find_padded {w : Files.View} {a b : String} (ha : ∀ c ∈ a.toList, isPadding c = true)
    (hb : ∀ c ∈ b.toList, isPadding c = true) (hv : v.read helper = .ok (bytesOf text))
    (hw : w.read helper = .ok (bytesOf (a ++ text ++ b))) (hf : w.isFile helper = v.isFile helper)
    (hd : w.isDirectory = v.isDirectory) : find w helper = find v helper := by
  have hm : mountName (a ++ text ++ b).toList = mountName text.toList := by
    rw [String.toList_append, String.toList_append, mountName_append ha hb]
  by_cases h : v.isFile helper = true
  · have hv' : v.IsRegular helper := ⟨h, by rw [hv]; exact nofun⟩
    have hw' : w.IsRegular helper := ⟨hf.trans h, by rw [hw]; exact nofun⟩
    rw [find_of_text hv' hv, find_of_text hw' hw, hm, hd]
  · have h' : ¬w.isFile helper = true := by rwa [hf]
    rw [find, find, if_neg h, if_neg h']

/-- The helper of a tree gets another text with the same name in it. -/
lemma locate_padded {t : Files.Tree} {id : Nat} {a b : String}
    (ha : ∀ c ∈ a.toList, isPadding c = true) (hb : ∀ c ∈ b.toList, isPadding c = true)
    (hl : t.lookup helper = .ok (.file id)) (ht : t.bytes id = bytesOf text) :
    locate (t.setBytes id (bytesOf (a ++ text ++ b))) helper = locate t helper := by
  by_cases hid : id < t.contents.length
  · have hr : t.read helper = .ok (bytesOf text) := by
      rw [Files.Tree.read_of_lookup hl, ht]
    have hw : (t.setBytes id (bytesOf (a ++ text ++ b))).read helper =
        .ok (bytesOf (a ++ text ++ b)) := by
      have hl' := (t.lookup_setBytes id (bytesOf (a ++ text ++ b)) helper).trans hl
      rw [Files.Tree.read_of_lookup hl', Files.Tree.bytes_setBytes hid]
    refine find_padded ha hb hr hw ?_ ?_
    · simp only [Files.Tree.view, Files.Tree.isFile, Files.Tree.lookup_setBytes]
    · funext path
      simp only [Files.Tree.view, Files.Tree.isDirectory, Files.Tree.lookup_setBytes]
  · have hs : t.setBytes id (bytesOf (a ++ text ++ b)) = t := by
      rw [Files.Tree.setBytes, List.set_eq_of_length_le (not_lt.1 hid)]
    rw [hs]

/-- **Storage is found exactly if its helper is a file of text that names a directory**, and in
every other case the first thing that is missing is reported.  The name that is found has no
white space and no NUL at its ends, and any of these may stand around it in the helper. -/
theorem finding_of_helper (v : Files.View) (helper : String) :
    (∀ r, find v helper = r ↔ Finding v helper r) ∧
      (∀ mount, find v helper = .ok mount →
        (∀ c ∈ mount.toList.head?, isPadding c = false) ∧
          ∀ c ∈ mount.toList.getLast?, isPadding c = false) ∧
      (∀ (w : Files.View) (a text b : String), (∀ c ∈ a.toList, isPadding c = true) →
        (∀ c ∈ b.toList, isPadding c = true) → v.read helper = .ok (bytesOf text) →
        w.read helper = .ok (bytesOf (a ++ text ++ b)) → w.isFile helper = v.isFile helper →
        w.isDirectory = v.isDirectory → find w helper = find v helper) ∧
      ∀ t : Files.Tree,
        (∀ r, locate t helper = r ↔ Finding t.view helper r) ∧
          (t.view.IsRegular helper ↔ t.isFile helper = true) ∧
          ∀ (id : Nat) (a text b : String), (∀ c ∈ a.toList, isPadding c = true) →
            (∀ c ∈ b.toList, isPadding c = true) → t.lookup helper = .ok (.file id) →
            t.bytes id = bytesOf text →
            locate (t.setBytes id (bytesOf (a ++ text ++ b))) helper = locate t helper := by
  refine ⟨fun _ => find_eq_iff, fun mount h => ?_,
    fun w a text b ha hb hv hw hf hd => find_padded ha hb hv hw hf hd,
    fun t => ⟨fun _ => find_eq_iff, t.view_isRegular_iff helper,
      fun id a text b ha hb hl ht => locate_padded ha hb hl ht⟩⟩
  cases find_eq_iff.1 h with
  | found _ _ hm _ _ => exact ⟨hm.first, hm.last⟩

end Storage

end StreamWarden
