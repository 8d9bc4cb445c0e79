import StreamWarden.Files.Error

/-!
# File trees

A tree of directories and files with one working directory. A place in the tree
is the list of names on the way from the root; a path is text, and `resolve`
says where it leads: to a node, or to a name that is still free in an existing
directory. Contents are kept apart from names, so that whoever holds a file's
number keeps reaching its bytes after the name has gone.

* `bytes_setBytes` and `bytes_setBytes_of_ne`: writing to one file changes that
  file's bytes and no other's.
* `node?_setBytes`: writing moves nothing.
-/

namespace StreamWarden.Files

/-- What can stand at a place. -/
inductive Node where
  /-- A directory. -/
  | directory
  /-- A file, by the number of its contents. -/
  | file (id : Nat)
  /-- The device that is always empty and swallows what is written. -/
  | sink
  /-- The device that is always full. -/
  | full
  deriving DecidableEq, Repr

/-- A tree of files; `home` is the working directory. -/
structure Tree where
  nodes : List (List String × Node)
  contents : List (List UInt8)
  home : List String
  deriving Repr

/-- Where a path leads. -/
inductive Spot where
  /-- To a node. -/
  | taken (place : List String) (node : Node)
  /-- To a free name in an existing directory. -/
  | free (place : List String)
  deriving Repr

/-- The most bytes that a name may have. -/
def maxNameBytes : Nat := 255

/-- The most bytes that a path may have. -/
def maxPathBytes : Nat := 4095

namespace Tree

/-- The node at a place; the root is always a directory. -/
def node? (t : Tree) : List String → Option Node
  | [] => some .directory
  | place => (t.nodes.find? fun entry => entry.1 == place).map (·.2)

/-- Follows `names` from the place `here`; `slash` tells whether they have to lead
to a directory. -/
def walk (t : Tree) (slash : Bool) : List String → List String → Except Error Spot
  | here, [] =>
    match t.node? here with
    | some .directory => .ok (.taken here .directory)
    | some node => if slash then .error .notDirectory else .ok (.taken here node)
    | none => .error .notFound
  | here, name :: rest =>
    if t.node? here ≠ some .directory then .error .notDirectory
    else if name = "." then walk t slash here rest
    else if name = ".." then walk t slash here.dropLast rest
    else if name.utf8ByteSize > maxNameBytes then .error .nameTooLong
    else if (t.node? (here ++ [name])).isSome then
      walk t slash (here ++ [name]) rest
    else if rest = [] then .ok (.free (here ++ [name]))
    else .error .notFound

/-- The names in a path, without the empty ones between repeated slashes. -/
def names (path : String) : List String :=
  ((path.splitOn "/").filter (· ≠ ""))

/-- The place from which a path starts. -/
def origin (t : Tree) (path : String) : List String :=
  if path.startsWith "/" then [] else t.home

/-- Why a text is no path, if it is none. -/
def fault? (path : String) : Option Error :=
  if path.toList.contains '\x00' then some .containsNul
  else if path = "" then some .notFound
  else if path.utf8ByteSize > maxPathBytes then some .nameTooLong
  else none

/-- Where a path leads; one that ends in a slash asks for a directory. -/
def resolve (t : Tree) (path : String) : Except Error Spot :=
  match fault? path with
  | some e => .error e
  | none => t.walk (path.endsWith "/") (t.origin path) (names path)

/-- The node to which a path leads. -/
def lookup (t : Tree) (path : String) : Except Error Node :=
  match t.resolve path with
  | .ok (.taken _ node) => .ok node
  | .ok (.free _) => .error .notFound
  | .error e => .error e

/-- A path leads to a file. -/
def isFile (t : Tree) (path : String) : Bool :=
  match t.lookup path with
  | .ok (.file _) => true
  | _ => false

/-- A path leads to a directory. -/
def isDirectory (t : Tree) (path : String) : Bool :=
  match t.lookup path with
  | .ok .directory => true
  | _ => false

/-- The bytes of the file numbered `id`. -/
def bytes (t : Tree) (id : Nat) : List UInt8 := t.contents.getD id []

/-- Gives the file numbered `id` new bytes. -/
def setBytes (t : Tree) (id : Nat) (content : List UInt8) : Tree :=
  { t with contents := t.contents.set id content }

/-- The bytes of the file at a path. -/
def read (t : Tree) (path : String) : Except Error (List UInt8) :=
  match t.lookup path with
  | .ok (.file id) => .ok (t.bytes id)
  | .ok .sink | .ok .full => .ok []
  | .ok .directory => .error .isDirectory
  | .error e => .error e

/-- Makes an empty file at a free place; its number comes with the tree. -/
def create (t : Tree) (place : List String) : Tree × Nat :=
  ({ t with
      nodes := t.nodes ++ [(place, .file t.contents.length)]
      contents := t.contents ++ [[]] },
    t.contents.length)

/-- A name that leads to the place where it stands or to the one above. -/
def isDots (name : String) : Bool := name == "." || name == ".."

/-- The directory that a path is about, if it ends in the name of one with a slash
behind it. -/
def namedDirectory? (path : String) : Option (List String) :=
  match (names path).getLast? with
  | some name => if path.endsWith "/" && !isDots name then some (names path).dropLast else none
  | none => none

/-- Where a path leads that is opened for writing. A name with a slash behind it
is taken for that of a directory, without a look whether there is one. -/
def resolveForWriting (t : Tree) (path : String) : Except Error Spot :=
  match fault? path, namedDirectory? path with
  | none, some above =>
    match t.walk true (t.origin path) above with
    | .ok (.free _) => .error .notFound
    | .ok (.taken _ _) => .error .isDirectory
    | .error e => .error e
  | _, _ => t.resolve path

/-- Opens a path for writing; a missing file is made, an existing one is kept as
it is. -/
def openFile (t : Tree) (path : String) : Except Error (Tree × Node) :=
  match t.resolveForWriting path with
  | .ok (.taken _ .directory) => .error .isDirectory
  | .ok (.taken _ node) => .ok (t, node)
  | .ok (.free place) =>
    let (t', id) := t.create place
    .ok (t', .file id)
  | .error e => .error e

/-- Replaces the contents of the file at a path, which is made if missing. -/
def write (t : Tree) (path : String) (content : List UInt8) : Except Error Tree :=
  match t.openFile path with
  | .ok (t', .file id) => .ok (t'.setBytes id content)
  | .ok (_, .full) => .error .storageFull
  | .ok (t', _) => .ok t'
  | .error e => .error e

/-- Makes the directories `names` on from `here` that are missing, up to the first
name that cannot be one. -/
def makeDirectoriesAt (t : Tree) : List String → List String → Tree
  | _, [] => t
  | here, name :: rest =>
    if name = "." then makeDirectoriesAt t here rest
    else if name = ".." then makeDirectoriesAt t here.dropLast rest
    else if name.utf8ByteSize > maxNameBytes then t
    else
      match t.node? (here ++ [name]) with
      | some .directory => makeDirectoriesAt t (here ++ [name]) rest
      | some _ => t
      | none =>
        makeDirectoriesAt { t with nodes := t.nodes ++ [(here ++ [name], .directory)] }
          (here ++ [name]) rest

/-- The names of the directories that are made for a path, in order. No directory
can be made under the name of a dot, and with dots at the end the one before them
is not made either. -/
def namesToMake (path : String) : List String :=
  let rest := ((names path).reverse.dropWhile (· == ".")).reverse
  if rest.length < (names path).length then rest.dropLast else rest

/-- Makes the directory at a path together with those on the way. -/
def makeDirectories (t : Tree) (path : String) : Tree :=
  match fault? path with
  | some _ => t
  | none => t.makeDirectoriesAt (t.origin path) (namesToMake path)

/-- Removes what stands at a path, with all that is below it. A path that ends in
dots names no place that could go, so that only what is below goes. -/
def remove (t : Tree) (path : String) : Tree :=
  match t.resolve path with
  | .ok (.taken place _) =>
    let stays (other : List String) : Bool :=
      !place.isPrefixOf other || (names path).getLast?.any isDots && other == place
    { t with nodes := t.nodes.filter fun entry => stays entry.1 }
  | _ => t

/-- The directories that every system has at its root. -/
def systemDirectories : List String :=
  ["bin", "boot", "dev", "etc", "home", "lib", "media", "mnt", "opt", "proc", "root", "run",
    "sbin", "srv", "sys", "tmp", "usr", "var"]

/-- The tree in which a program starts: an empty working directory of its own among
the directories of the system. -/
def fresh : Tree :=
  { nodes := systemDirectories.map (fun name => ([name], .directory)) ++
      [(["dev", "null"], .sink), (["dev", "full"], .full), (["dev", "shm"], .directory),
        (["tmp", "work"], .directory)]
    contents := []
    home := ["tmp", "work"] }

/-! ### Bytes and names are apart -/

theorem bytes_setBytes {t : Tree} {id : Nat} (h : id < t.contents.length)
    (content : List UInt8) : (t.setBytes id content).bytes id = content := by
  simp [bytes, setBytes, h]

theorem bytes_setBytes_of_ne {t : Tree} {id other : Nat} (h : other ≠ id)
    (content : List UInt8) : (t.setBytes id content).bytes other = t.bytes other := by
  simp [bytes, setBytes, List.getElem?_set_ne (Ne.symm h)]

@[simp] theorem node?_setBytes (t : Tree) (id : Nat) (content : List UInt8)
    (place : List String) : (t.setBytes id content).node? place = t.node? place := by
  cases place <;> rfl

end Tree

/-- A name below a directory; a slash goes between unless the directory's path
ends in one. -/
def join (directory name : String) : String :=
  if directory = "" then name
  else if directory.endsWith "/" then directory ++ name
  else directory ++ "/" ++ name

end StreamWarden.Files
