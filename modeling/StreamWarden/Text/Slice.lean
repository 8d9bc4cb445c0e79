/-!
# Parts of a text by bytes

A text takes one to four bytes for each of its characters. A part of it can be
asked for by the number of bytes before its beginning and before its end; there
is one only if neither falls within a character.

* `takeBytes?_append` and `dropBytes?_append`: the bytes of whole characters can
  be taken and dropped.
* `slice?_append`: a part that lies between whole characters is found.
-/

namespace StreamWarden.Text

/-- The number of bytes of a text. -/
def byteLength : List Char → Nat
  | [] => 0
  | c :: rest => c.utf8Size + byteLength rest

/-- The first `n` bytes of a text. -/
def takeBytes? : Nat → List Char → Option (List Char)
  | 0, _ => some []
  | _ + 1, [] => none
  | n + 1, c :: rest =>
    if c.utf8Size ≤ n + 1 then (takeBytes? (n + 1 - c.utf8Size) rest).map (c :: ·) else none

/-- A text without its first `n` bytes. -/
def dropBytes? : Nat → List Char → Option (List Char)
  | 0, text => some text
  | _ + 1, [] => none
  | n + 1, c :: rest =>
    if c.utf8Size ≤ n + 1 then dropBytes? (n + 1 - c.utf8Size) rest else none

/-- The part of a text between two numbers of bytes. -/
def slice? (text : List Char) (start stop : Nat) : Option (List Char) :=
  (dropBytes? start text).bind (takeBytes? (stop - start))

theorem takeBytes?_cons (n : Nat) (c : Char) (rest : List Char) :
    takeBytes? (c.utf8Size + n) (c :: rest) = (takeBytes? n rest).map (c :: ·) := by
  have h := c.utf8Size_pos
  obtain ⟨m, hm⟩ : ∃ m, c.utf8Size + n = m + 1 := ⟨c.utf8Size + n - 1, by omega⟩
  rw [hm, takeBytes?, if_pos (by omega), ← hm, Nat.add_sub_cancel_left]

theorem dropBytes?_cons (n : Nat) (c : Char) (rest : List Char) :
    dropBytes? (c.utf8Size + n) (c :: rest) = dropBytes? n rest := by
  have h := c.utf8Size_pos
  obtain ⟨m, hm⟩ : ∃ m, c.utf8Size + n = m + 1 := ⟨c.utf8Size + n - 1, by omega⟩
  rw [hm, dropBytes?, if_pos (by omega), ← hm, Nat.add_sub_cancel_left]

theorem takeBytes?_append (u v : List Char) : takeBytes? (byteLength u) (u ++ v) = some u := by
  induction u with
  | nil => cases v <;> rfl
  | cons c u ih => rw [List.cons_append, byteLength, takeBytes?_cons, ih, Option.map_some]

theorem dropBytes?_append (u v : List Char) : dropBytes? (byteLength u) (u ++ v) = some v := by
  induction u with
  | nil => cases v <;> rfl
  | cons c u ih => rw [List.cons_append, byteLength, dropBytes?_cons, ih]

theorem slice?_append (u v w : List Char) :
    slice? (u ++ (v ++ w)) (byteLength u) (byteLength u + byteLength v) = some v := by
  rw [slice?, dropBytes?_append, Option.bind_some, Nat.add_sub_cancel_left, takeBytes?_append]

end StreamWarden.Text
