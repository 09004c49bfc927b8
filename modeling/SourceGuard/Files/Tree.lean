import SourceGuard.Files
import SourceGuard.Text.Utf8

/-!
# File trees

A file system held in memory: a tree of folders with files at its leaves, in which everyone may read
and write. A path that starts with a slash leads from the top of the tree, any other from the
current folder.

## Main definitions

* `FileTree`: the tree
* `FileTree.locate`: the place of a path, if its folders are there
* `FileTree.system`: the file system of a tree with a current folder
-/

namespace SourceGuard

/-- A file or a folder. -/
inductive FileTree where
  /-- The bytes of a file. -/
  | file (bytes : List UInt8)
  /-- A folder with named parts. -/
  | folder (parts : List (String × FileTree))

namespace FileTree

/-- The folder without parts. -/
def empty : FileTree := folder []

/-- The part of a name. -/
def part? (name : String) : FileTree → Option FileTree
  | file _ => none
  | folder parts => (parts.find? (·.1 = name)).map (·.2)

/-- The tree at a place, which is a list of names from the top. -/
def find : List String → FileTree → Option FileTree
  | [], tree => some tree
  | name :: place, tree => (tree.part? name).bind (find place)

/-- A tree with another part of a name. -/
def setPart (top : FileTree) (name : String) (tree : FileTree) : FileTree :=
  match top with
  | file _ => folder [(name, tree)]
  | folder parts => folder (parts.filter (·.1 ≠ name) ++ [(name, tree)])

/-- The tree with something at a place; folders that are missing on the way are made. -/
def put (top : FileTree) : List String → FileTree → FileTree
  | [], tree => tree
  | name :: place, tree => top.setPart name (put ((top.part? name).getD empty) place tree)

mutual

/-- The files of a tree, with their places. -/
def files : FileTree → List (List String × List UInt8)
  | file bytes => [([], bytes)]
  | folder parts => filesOf parts

/-- The files of named trees, with their places. -/
def filesOf : List (String × FileTree) → List (List String × List UInt8)
  | [] => []
  | (name, tree) :: rest =>
    tree.files.map (fun (place, bytes) => (name :: place, bytes)) ++ filesOf rest

end

/-! ### Paths -/

/-- The components of a path. -/
def components (path : String) : List String := (Path.components path.toList).map String.ofList

/-- The place from which a path leads. -/
def start (current : List String) (path : String) : List String :=
  if path.toList.head? = some '/' then [] else current

/-- The greatest length of a name, in bytes. -/
def longestName : Nat := 255

/-- The greatest length of a path, in bytes. -/
def longestPath : Nat := 4095

/-- Whether a path has a character that no path has. -/
def hasNul (path : String) : Bool := path.toList.contains '\x00'

/-- The place at the end of components, starting from a place. All but the last component lead to
folders that are there. -/
def walk (top : FileTree) : (place : List String) → List String → Except FileFault (List String)
  | place, [] => .ok place
  | place, part :: rest =>
    match top.find place with
    | none => .error .notFound
    | some (file _) => .error .notADirectory
    | some (folder _) =>
      if part = "" ∨ part = "." then walk top place rest
      else if part = ".." then walk top place.dropLast rest
      else if longestName < part.utf8ByteSize then .error .nameTooLong
      else walk top (place ++ [part]) rest

/-- What is wrong with a path whatever the tree. -/
def pathFault? (path : String) : Option FileFault :=
  if hasNul path then some .nulInName
  else if path = "" then some .notFound
  else if longestPath < path.utf8ByteSize then some .nameTooLong
  else none

/-- The place of a path. -/
def locate (top : FileTree) (current : List String) (path : String) :
    Except FileFault (List String) :=
  match pathFault? path with
  | some fault => .error fault
  | none => walk top (start current path) (components path)

/-- What is at a place. -/
def at? (top : FileTree) (place : List String) : Except FileFault FileTree :=
  match top.find place with
  | some tree => .ok tree
  | none => .error .notFound

/-- What a path leads to. -/
def resolve (top : FileTree) (current : List String) (path : String) :
    Except FileFault FileTree := do
  let place ← top.locate current path
  top.at? place

/-! ### Operations -/

/-- Whether a path leads somewhere. -/
def isThere (top : FileTree) (current : List String) (path : String) : Bool :=
  (top.resolve current path).toOption.isSome

/-- The text of a file. -/
def read (top : FileTree) (current : List String) (path : String) : Except FileFault String := do
  match ← top.resolve current path with
  | folder _ => .error .isADirectory
  | file bytes =>
    match Text.Utf8.strict? bytes with
    | some text => .ok text
    | none => .error .notText

/-- The components of a path without the empty ones at its end. -/
def named (path : String) : List String := ((components path).reverse.dropWhile (· = "")).reverse

/-- Whether a path ends in a name, and not in a slash or in points. -/
def endsInName (path : String) : Bool :=
  match (components path).getLast? with
  | some part => part ≠ "" && part ≠ "." && part ≠ ".."
  | none => false

/-- What the folder of a path leads to. -/
def holder (top : FileTree) (current : List String) (path : String) :
    Except FileFault FileTree := do
  let place ← walk top (start current path) (named path).dropLast
  top.at? place

/-- Give a file the content that a function makes of the bytes that it has, which are none unless it
is there. -/
def update (top : FileTree) (current : List String) (path : String)
    (f : List UInt8 → List UInt8) : Except FileFault FileTree :=
  match pathFault? path with
  | some fault => .error fault
  | none => do
    match ← top.holder current path with
    | file _ => .error .notADirectory
    | folder _ =>
      if !endsInName path then .error .isADirectory
      else
        let place ← top.locate current path
        match top.find place with
        | some (folder _) => .error .isADirectory
        | some (file bytes) => .ok (top.put place (file (f bytes)))
        | none => .ok (top.put place (file (f [])))

/-- Whether a path leads to a folder. -/
def isFolder (top : FileTree) (current : List String) (path : String) : Bool :=
  match top.resolve current path with
  | .ok (folder _) => true
  | _ => false

/-- Make a folder in one that is there. -/
def makeFolder (top : FileTree) (current : List String) (path : String) :
    Except FileFault FileTree :=
  match pathFault? path with
  | some fault => .error fault
  | none => do
    match ← top.holder current path with
    | file _ => .error .notADirectory
    | folder _ =>
      let name := (named path).getLast?.getD "."
      if name = "." ∨ name = ".." then .error .alreadyExists
      else
        let place ← walk top (start current path) (named path)
        match top.find place with
        | some _ => .error .alreadyExists
        | none => .ok (top.put place empty)

/-- Make a folder in one that is there, unless it is there itself. -/
def ensureFolder (current : List String) (path : String) :
    StateM FileTree (Except FileFault Unit) := fun top =>
  match top.makeFolder current path with
  | .ok next => (.ok (), next)
  | .error fault =>
    if fault = .alreadyExists ∧ top.isFolder current path then (.ok (), top)
    else (.error fault, top)

/-- Make the first of some folders, each of which is in the next, and the others as far as they are
missing. Those that were made stay when one fails. -/
def ensureFolders (current : List String) : List String → StateM FileTree (Except FileFault Unit)
  | [] => pure (.ok ())
  | path :: around => do
    match ← ensureFolder current path with
    | .error .notFound =>
      match ← ensureFolders current around with
      | .ok () => ensureFolder current path
      | .error fault => pure (.error fault)
    | made => pure made

/-- The bytes of a text. -/
def bytesOf (text : String) : List UInt8 := text.toUTF8.data.toList

/-- The state after an operation that changes the tree unless it fails. -/
def attempt (f : FileTree → Except FileFault FileTree) : StateM FileTree (Except FileFault Unit) :=
  fun top =>
    match f top with
    | .ok next => (.ok (), next)
    | .error fault => (.error fault, top)

/-- The file system of a tree with a current folder. -/
def system (current : List String) : FileSystem (StateM FileTree) where
  isThere path := fun top => (top.isThere current path, top)
  read path := fun top => (top.read current path, top)
  makeFolders path := ensureFolders current (Path.outward path)
  write path content := attempt (·.update current path fun _ => bytesOf content)
  append path content := attempt (·.update current path (· ++ bytesOf content))

end FileTree

end SourceGuard
