/-!
# Files and folders

A tree of folders and files as a value. Paths are texts with slashes. A
path that begins with a slash is followed from the top, and any other
from the current folder. It is followed step by step: an empty step or a
single dot stays, two dots go up, and any other step goes to the entry of
that name. A step needs a folder to start from, so a path that goes on
after a file, if only with a slash, leads nowhere.

The tree holds each entry under its full list of names. The folder at the
top is there without an entry. A name has 255 bytes at most, and no path
holds the character of number zero.
-/

namespace TableProfile.Storage

/-- **Why a path cannot be used.** -/
inductive PathFault where
  /-- There is nothing of that name. -/
  | notFound
  /-- There is a folder where a file is wanted. -/
  | isFolder
  /-- There is a file where a folder is wanted. -/
  | notFolder
  /-- There can be nothing of so long a name. -/
  | tooLong
  /-- The path holds the character of number zero. -/
  | zeroCharacter
  deriving DecidableEq, Repr

/-- The wording of a fault. -/
def PathFault.message : PathFault → String
  | notFound => "No such file or directory (os error 2)"
  | isFolder => "Is a directory (os error 21)"
  | notFolder => "Not a directory (os error 20)"
  | tooLong => "File name too long (os error 36)"
  | zeroCharacter => "file name contained an unexpected NUL byte"

/-- A file with its bytes, or a folder. -/
inductive Entry where
  /-- A file. -/
  | file (content : List UInt8)
  /-- A folder. -/
  | folder
  deriving DecidableEq, Repr

/-- The names from the top folder down to an entry. -/
abbrev Names := List String

/-- **A tree of folders and files.** -/
structure FileTree where
  /-- The entries, each with its names; the first of several counts. -/
  entries : List (Names × Entry) := []
  /-- The names from the top folder down to the current one. -/
  home : Names := []
  deriving Repr

/-- The most bytes a name can have. -/
def maxNameSize : Nat := 255

/-- The steps of a path. -/
def pathSteps (path : String) : List String :=
  path.splitOn "/"

/-- **The path of something in a folder.** An absolute path stands for
itself, and an empty folder path adds nothing. -/
def joinPath (folder path : String) : String :=
  if path.startsWith "/" || folder.isEmpty then path
  else if folder.endsWith "/" then folder ++ path
  else folder ++ "/" ++ path

namespace FileTree

/-- The entry with these names. -/
def entry? (tree : FileTree) (names : Names) : Option Entry :=
  if names = [] then some .folder else (tree.entries.find? (·.1 == names)).map (·.2)

/-- Adds an entry, or replaces the one with its names. -/
def put (tree : FileTree) (names : Names) (entry : Entry) : FileTree :=
  { tree with entries := (names, entry) :: tree.entries.filter (·.1 != names) }

/-- Adds an entry and the folders it lies in. -/
def plant (tree : FileTree) (names : Names) (entry : Entry) : FileTree :=
  let tree := (List.range names.length).foldl (fun (tree : FileTree) n =>
    let above := names.take n
    if (tree.entry? above).isNone then tree.put above .folder else tree) tree
  tree.put names entry

/-- Follows steps from an entry. -/
def follow (tree : FileTree) (names : Names) (entry : Entry) :
    List String → Except PathFault (Names × Entry)
  | [] => .ok (names, entry)
  | step :: steps =>
    match entry with
    | .file _ => .error .notFolder
    | .folder =>
      if step = "" ∨ step = "." then tree.follow names entry steps
      else if step = ".." then tree.follow names.dropLast .folder steps
      else
        let names := names ++ [step]
        match tree.entry? names with
        | some entry => tree.follow names entry steps
        | none => .error (if maxNameSize < step.utf8ByteSize then .tooLong else .notFound)

/-- The folder from which a path is followed. -/
def origin (tree : FileTree) (path : String) : Names :=
  if path.startsWith "/" then [] else tree.home

/-- The names a path spells out, whether there is anything of these names
or not. -/
def namesOf (tree : FileTree) (path : String) : Names :=
  (pathSteps path).foldl (fun names step =>
    if step = "" ∨ step = "." then names
    else if step = ".." then names.dropLast
    else names ++ [step]) (tree.origin path)

/-- Whether a path holds the character of number zero. -/
def hasZero (path : String) : Bool :=
  path.toList.any (·.toNat == 0)

/-- **What a path leads to.** -/
def resolve (tree : FileTree) (path : String) : Except PathFault (Names × Entry) :=
  if hasZero path then .error .zeroCharacter
  else if path.isEmpty then .error .notFound
  else tree.follow (tree.origin path) .folder (pathSteps path)

/-- The bytes of the file that a path leads to. -/
def read (tree : FileTree) (path : String) : Except PathFault (List UInt8) :=
  match tree.resolve path with
  | .ok (_, .file content) => .ok content
  | .ok (_, .folder) => .error .isFolder
  | .error fault => .error fault

/-- The names and entries in the folder that a path leads to, in ascending
order. -/
def list (tree : FileTree) (path : String) : Except PathFault (List (String × Entry)) :=
  match tree.resolve path with
  | .ok (_, .file _) => .error .notFolder
  | .ok (names, .folder) =>
    let inside := tree.entries.filterMap fun (full, entry) =>
      match full.getLast? with
      | some name => if full.dropLast = names then some (name, entry) else none
      | none => none
    .ok (inside.mergeSort fun a b => a.1 ≤ b.1)
  | .error fault => .error fault

/-- Whether a path leads anywhere. -/
def exists? (tree : FileTree) (path : String) : Bool :=
  match tree.resolve path with
  | .ok _ => true
  | .error _ => false

/-- The steps of a path to a file that is written: those to its folder,
and the name of the file. A path that ends with a slash names no file. -/
def splitLast (steps : List String) : List String × Option String :=
  match steps.reverse with
  | [] => ([], none)
  | "" :: before => ((before.dropWhile (· == "")).tail.reverse, none)
  | name :: before => (before.reverse, if name = "." ∨ name = ".." then none else some name)

/-- **Writes a file**, in a folder that is there. -/
def write (tree : FileTree) (path : String) (content : List UInt8) :
    Except PathFault FileTree :=
  if hasZero path then .error .zeroCharacter
  else if path.isEmpty then .error .notFound
  else
    let (above, name) := splitLast (pathSteps path)
    match tree.follow (tree.origin path) .folder above with
    | .error fault => .error fault
    | .ok (_, .file _) => .error .notFolder
    | .ok (names, .folder) =>
      match name with
      | none => .error .isFolder
      | some name =>
        match tree.entry? (names ++ [name]) with
        | some .folder => .error .isFolder
        | some (.file _) => .ok (tree.put (names ++ [name]) (.file content))
        | none =>
          if maxNameSize < name.utf8ByteSize then .error .tooLong
          else .ok (tree.put (names ++ [name]) (.file content))

end FileTree

end TableProfile.Storage
