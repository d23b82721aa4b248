import FailurePrompt.Files.Basic

/-!
# File trees

A file tree is a finite picture of the files below a working directory. Outside of it only
directories are known: the ones above the working directory and the root. `Tree.read` follows a
path name by name, as a system does, so that the first thing wrong on the way decides the error.
The main statement, `at?_write_self`, is that a written entry is found at its names.
-/

namespace FailurePrompt

/-- What stands at a place in a tree. -/
inductive Entry
  | directory
  | file (bytes : List UInt8)
  deriving Repr, DecidableEq

/-- The entries below a working directory, each with the names that lead to it. -/
structure Tree where
  entries : List (List (List Char) × Entry)

namespace Tree

/-- The tree of an empty working directory. -/
def empty : Tree := ⟨[]⟩

/-- The entry that the names lead to; the working directory itself is one. -/
def at? (t : Tree) (names : List (List Char)) : Option Entry :=
  if names = [] then some .directory else t.entries.lookup names

/-- The tree with an entry put in place, replacing what was there. -/
def put (t : Tree) (names : List (List Char)) (entry : Entry) : Tree :=
  ⟨(names, entry) :: t.entries.filter fun e => e.1 ≠ names⟩

/-- The tree with a directory at the names, unless something is there already. -/
def ensureDirectory (t : Tree) (names : List (List Char)) : Tree :=
  match t.at? names with
  | none => t.put names .directory
  | some _ => t

/-- The tree with an entry put in place and every directory above it created. -/
def write (t : Tree) (names : List (List Char)) (entry : Entry) : Tree :=
  let parents := (List.range names.length).map names.take
  (parents.foldl ensureDirectory t).put names entry

/-! ### Following a path -/

/-- A place that a path leads to: below the working directory, the last name first; some levels
above it; or the root. -/
inductive Place
  | within (names : List (List Char))
  | above (levels : Nat)
  | top
  deriving Repr, DecidableEq

/-- The longest name, in bytes. -/
def maxNameBytes : Nat := 255

/-- The longest path, in bytes. -/
def maxPathBytes : Nat := 4095

/-- The number of bytes of a text in UTF-8. -/
def byteLength (cs : List Char) : Nat :=
  cs.foldl (fun n c => n + c.utf8Size) 0

/-- The name of the directory above. -/
def parentName : List Char := ['.', '.']

/-- What is found at a place. -/
def found (t : Tree) : Place → Option Entry
  | .within names => t.at? names.reverse
  | .above _ => some .directory
  | .top => some .directory

/-- The place above. -/
def Place.parent : Place → Place
  | .within [] => .above 1
  | .within (_ :: names) => .within names
  | .above levels => .above (levels + 1)
  | .top => .top

/-- Follows one name from a place that exists. -/
def follow (t : Tree) (place : Place) (name : List Char) : Except FileError Place :=
  match t.found place with
  | some .directory =>
    if name = parentName then .ok place.parent
    else if maxNameBytes < byteLength name then .error .nameTooLong
    else match place with
      | .within names =>
        match t.at? (name :: names).reverse with
        | some _ => .ok (.within (name :: names))
        | none => .error .notFound
      | _ => .error .notFound
  | _ => .error .notDirectory

/-- The place that a path leads to. -/
def locate (t : Tree) (p : Path) : Except FileError Place :=
  if p.chars.contains '\x00' then .error .nulInName
  else if maxPathBytes < byteLength p.chars then .error .nameTooLong
  else p.names.foldlM t.follow (if p.root = .relative then .within [] else .top)

/-- Reads the file that a path leads to. -/
def read (t : Tree) (p : Path) : Except FileError (List UInt8) :=
  match t.locate p with
  | .error e => .error e
  | .ok place =>
    match t.found place with
    | some (.file bytes) => .ok bytes
    | some .directory => .error .isDirectory
    | none => .error .notFound

/-- The tree without the file that a path leads to. -/
def remove (t : Tree) (p : Path) : Except FileError Tree :=
  match t.locate p with
  | .error e => .error e
  | .ok place =>
    match place, t.found place with
    | .within names, some (.file _) =>
      .ok ⟨t.entries.filter fun e => e.1 ≠ names.reverse⟩
    | _, some _ => .error .isDirectory
    | _, none => .error .notFound

/-- The tree as a source of files. -/
def files (t : Tree) : Files := ⟨t.read⟩

/-! ### Reading after writing -/

theorem at?_put_self {t : Tree} {names : List (List Char)} {entry : Entry}
    (h : names ≠ []) : (t.put names entry).at? names = some entry := by
  simp [at?, put, h]

/-- A written entry is found at its names. -/
theorem at?_write_self {t : Tree} {names : List (List Char)} {entry : Entry}
    (h : names ≠ []) : (t.write names entry).at? names = some entry :=
  at?_put_self h

end Tree

end FailurePrompt
