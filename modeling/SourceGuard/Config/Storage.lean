import SourceGuard.Config.Reader
import SourceGuard.Config.Validation
import SourceGuard.Config.Writer
import SourceGuard.Files

/-!
# Configuration files

A configuration is loaded from a file and saved to one. Saving makes the folder of the file; a
configuration that cannot be written touches nothing.

## Main definitions

* `ConfigError`: what can go wrong with a configuration
* `Config.load`, `Config.loadOrDefault`, `Config.save`: the operations, on any file system
-/

namespace SourceGuard

/-- What can go wrong with a configuration. -/
inductive ConfigError where
  | notRead (path : String) (cause : FileFault)
  | notWritten (path : String) (cause : FileFault)
  /-- The file does not say a configuration. -/
  | notToml
  /-- A number is too large to be written. -/
  | tooLarge
  | invalid (fault : Invalid)
deriving DecidableEq, Repr

/-- The message about a setting and what is wrong with it. -/
def Invalid.wording (field reason : String) : String :=
  "Invalid value for " ++ field ++ ": " ++ reason

namespace ConfigError

/-- A cause in words. -/
def message : ConfigError → String
  | notRead path cause => "Failed to read " ++ path ++ ": " ++ cause.message
  | notWritten path cause => "Failed to write " ++ path ++ ": " ++ cause.message
  | notToml => "Invalid TOML"
  | tooLarge => "Failed to serialize config: out-of-range value for u64 type"
  | invalid fault => Invalid.wording fault.field fault.reason

/-- A message about the configuration in the words of the program. -/
def reported (message : String) : String := "Configuration error: " ++ message

/-- A cause in the words of the program. -/
def report (e : ConfigError) : String := reported e.message

end ConfigError

namespace Config

variable {m : Type → Type} [Monad m]

/-- The configuration that a text says, or the fault that it says none. -/
def parse (text : String) : Except ConfigError Config :=
  match ofText? text with
  | some c => .ok c
  | none => .error .notToml

/-- The configuration of a file. -/
def load (fs : FileSystem m) (path : String) : m (Except ConfigError Config) := do
  match ← fs.read path with
  | .error fault => pure (.error (.notRead path fault))
  | .ok text => pure (parse text)

/-- The configuration of a file and `true`, or the default configuration and `false` if there is no
file. -/
def loadOrDefault (fs : FileSystem m) (path : String) : m (Except ConfigError (Config × Bool)) := do
  if ← fs.isThere path then
    match ← load fs path with
    | .ok c => pure (.ok (c, true))
    | .error e => pure (.error e)
  else pure (.ok ({}, false))

/-- Write a text to a file, after making its folder. -/
def store (fs : FileSystem m) (path text : String) : m (Except ConfigError Unit) := do
  let made ← match Path.folder? path with
    | some folder => do
      match ← fs.makeFolders folder with
      | .error fault => pure (some (ConfigError.notWritten folder fault))
      | .ok () => pure none
    | none => pure none
  match made with
  | some e => pure (.error e)
  | none =>
    match ← fs.write path text with
    | .error fault => pure (.error (.notWritten path fault))
    | .ok () => pure (.ok ())

/-- Save a configuration to a file. -/
def save (fs : FileSystem m) (c : Config) (path : String) : m (Except ConfigError Unit) :=
  match c.toText? with
  | some text => store fs path text
  | none => pure (.error .tooLarge)

/-- Nothing is touched if a configuration cannot be written. -/
theorem save_of_not_isWritable (fs : FileSystem m) {c : Config} (path : String)
    (h : c.isWritable = false) : c.save fs path = pure (.error .tooLarge) := by
  simp [save, toText?, h]

end Config

end SourceGuard
