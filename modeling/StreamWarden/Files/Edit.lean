import StreamWarden.Files.Tree

/-!
# Edits of a file tree

What somebody else does to the files while a program runs: directories come,
files are written, and things disappear. An edit that is not possible changes
nothing.
-/

namespace StreamWarden.Files

/-- An edit. -/
inductive Edit where
  /-- Makes a directory and those on the way to it. -/
  | directory (path : String)
  /-- Writes a file. -/
  | file (path : String) (content : List UInt8)
  /-- Writes into a file from a position on, without cutting the rest. -/
  | poke (path : String) (position : Nat) (content : List UInt8)
  /-- Removes a file or a directory with all it holds. -/
  | remove (path : String)
  deriving DecidableEq, Repr

/-- Bytes with others written over them from a position on; a gap is filled with
zeros. -/
def overwrite (old : List UInt8) (position : Nat) (new : List UInt8) : List UInt8 :=
  old.take position ++ List.replicate (position - old.length) 0 ++ new ++
    old.drop (position + new.length)

/-- A tree after an edit. -/
def Tree.edit (t : Tree) : Edit → Tree
  | .directory path => t.makeDirectories path
  | .file path content => (t.write path content).toOption.getD t
  | .poke path position content =>
    match t.read path with
    | .ok old => (t.write path (overwrite old position content)).toOption.getD t
    | .error _ => t
  | .remove path => t.remove path

/-- A tree after some edits. -/
def Tree.editAll (t : Tree) (edits : List Edit) : Tree := edits.foldl Tree.edit t

end StreamWarden.Files
