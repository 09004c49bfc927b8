import SourceGuard.Fault

/-!
# Files

The guard reads and writes files through a file system of which it knows five operations. A path is
a text of components with slashes between them; empty components and single points, except a
leading one, do not count.

## Main definitions

* `FileSystem`: the operations, in any monad
* `Path.parent?`, `Path.name?`: the folder and the name of a path
* `Path.outward`: a path and those of the folders around it
-/

namespace SourceGuard

/-- The operations on files, as actions of a monad. -/
structure FileSystem (m : Type → Type) where
  /-- Whether a path leads somewhere. -/
  isThere : String → m Bool
  /-- The text of a file. -/
  read : String → m (Except FileFault String)
  /-- Make a folder, and the folders on the way to it, unless it is there. -/
  makeFolders : String → m (Except FileFault Unit)
  /-- Give a file a content; the file is made unless it is there, its folder is not. -/
  write : String → String → m (Except FileFault Unit)
  /-- Add to the end of a file, which is made unless it is there. -/
  append : String → String → m (Except FileFault Unit)

namespace Path

/-- The components of a path as it is written. -/
def components (path : List Char) : List (List Char) := path.splitOn '/'

/-- Whether a component counts only at the head of a path, if there. -/
def isIdle (part : List Char) : Bool := part = [] || part = ['.']

/-- Written components in reverse, without the idle ones at their head; a single point at the head
of the path counts. -/
def dropIdle : List (List Char) → List (List Char)
  | [] => []
  | [part] => if part = [] then [] else [part]
  | part :: rest => if isIdle part then dropIdle rest else part :: rest

/-- The components of a path in reverse, without the idle ones at their head. -/
def reversed (path : List Char) : List (List Char) := dropIdle (components path).reverse

/-- The text of components in reverse below a root or below the current folder. -/
def unreversed (rooted : Bool) (parts : List (List Char)) : List Char :=
  let text := List.intercalate ['/'] parts.reverse
  if rooted && (parts.all (· = [])) then ['/'] else text

/-- The folder of a path, which is empty for the current folder; a path without components has
none. -/
def parent? (path : String) : Option String :=
  let rooted := path.toList.head? = some '/'
  match reversed path.toList with
  | [] => none
  | _ :: rest => some (String.ofList (unreversed rooted (dropIdle rest)))

/-- The paths that end at components in reverse or earlier, the longest first. -/
def endings (rooted : Bool) : List (List Char) → List String
  | [] => []
  | part :: rest =>
    -- an idle component ends no path of its own
    if dropIdle (part :: rest) = part :: rest then
      String.ofList (unreversed rooted (part :: rest)) :: endings rooted rest
    else endings rooted rest

/-- A path and the paths of the folders around it, from the inside out, up to the top or the current
folder, which do not count. -/
def outward (path : String) : List String :=
  match endings (path.toList.head? = some '/') (reversed path.toList) with
  | [] => []
  | _ :: around => path :: around

/-- The name at the end of a path. -/
def name? (path : String) : Option String :=
  match reversed path.toList with
  | [] => none
  | part :: _ => if part = ['.'] ∨ part = ['.', '.'] then none else some (String.ofList part)

/-- The folder of a path if it is another than the current one. -/
def folder? (path : String) : Option String :=
  match parent? path with
  | some folder => if folder = "" then none else some folder
  | none => none

/-- The path of a name in a folder. -/
def join (folder name : String) : String := folder ++ "/" ++ name

end Path

end SourceGuard
