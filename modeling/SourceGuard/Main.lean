import SourceGuard.CommandLine.Session
import SourceGuard.Text.Utf8
import Std.Time

/-!
# The program

A session on the files of the machine, which gives it no interface. What the session prints and
complains about goes to the standard streams, and so does its log unless it has a file.

## Main definitions

* `Disk.system`: the files of the machine
* `main`: the program
-/

namespace SourceGuard

namespace Disk

/-- The cause of a failed operation. -/
def cause : IO.Error → FileFault
  | .noFileOrDirectory .. => .notFound
  | .permissionDenied .. => .permissionDenied
  | .alreadyExists .. => .alreadyExists
  | .inappropriateType _ code details =>
    if code = 20 then .notADirectory else if code = 21 then .isADirectory else .other details
  | e => .other (toString e)

/-- An operation with its failure as a value. -/
def attempt {α : Type} (operation : IO α) : IO (Except FileFault α) := do
  try
    let value ← operation
    pure (.ok value)
  catch e => pure (.error (cause e))

/-- The text of a file. -/
def read (path : String) : IO (Except FileFault String) := do
  match ← attempt (IO.FS.readBinFile path) with
  | .error fault => pure (.error fault)
  | .ok bytes =>
    match Text.Utf8.strict? bytes.toList with
    | some text => pure (.ok text)
    | none => pure (.error .notText)

/-- Whether a path leads somewhere. -/
def isThere (path : String) : IO Bool := do
  match ← attempt (IO.FS.Handle.mk path .read) with
  | .ok _ => pure true
  | .error fault => pure (fault ≠ .notFound && fault ≠ .notADirectory)

/-- Add to the end of a file. -/
def append (path content : String) : IO Unit := do
  let handle ← IO.FS.Handle.mk path .append
  handle.putStr content

/-- The files of the machine. -/
def system : FileSystem IO where
  isThere
  read
  makeFolders path := attempt (IO.FS.createDirAll path)
  write path content := attempt (IO.FS.writeFile path content)
  append path content := attempt (append path content)

end Disk

/-- What a session finds around it on this machine today. -/
def surroundings : IO (Surroundings Unit) := do
  let now ← Std.Time.Timestamp.now
  pure
    { filter := ← IO.getEnv "RUST_LOG"
      date := (Std.Time.PlainDate.ofEpochDay now.toDaysSinceUnixEpoch).format "uuuu-MM-dd"
      shell := fun _ machine => (.notStarted FileFault.notFound.message, machine)
      machine := () }

/-- Show the end of a session. -/
def SessionEnd.print (e : SessionEnd) : IO Unit := do
  IO.print e.printed
  for complaint in e.complaints do
    IO.eprintln complaint
  match e.log with
  | some ⟨.screen, format, events⟩ => IO.eprint (SessionLog.text ⟨.screen, format, events⟩)
  | _ => pure ()

end SourceGuard

/-- The program. -/
def main (arguments : List String) : IO UInt32 := do
  let around ← SourceGuard.surroundings
  match ← SourceGuard.Session.run SourceGuard.Disk.system around arguments with
  | .error refusal =>
    if refusal.code = 0 then IO.print refusal.message else IO.eprintln refusal.message
    pure (UInt32.ofNat refusal.code)
  | .ok e =>
    e.print
    pure (UInt32.ofNat (e.code?.getD 0))
