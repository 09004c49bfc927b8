/-!
# Faults

What can go wrong around the monitor, as causes; every cause has one wording.

## Main definitions

* `FileFault`: why a file operation failed
* `CaptureError`: why capturing failed
-/

namespace SourceGuard

/-- Why an operation on files failed. -/
inductive FileFault where
  | notFound
  | permissionDenied
  | alreadyExists
  | notADirectory
  | isADirectory
  | nameTooLong
  | nulInName
  | notText
  /-- Any other cause, in the words of the system. -/
  | other (text : String)
deriving DecidableEq, Repr

namespace FileFault

/-- A cause in words. -/
def message : FileFault → String
  | notFound => "No such file or directory (os error 2)"
  | permissionDenied => "Permission denied (os error 13)"
  | alreadyExists => "File exists (os error 17)"
  | notADirectory => "Not a directory (os error 20)"
  | isADirectory => "Is a directory (os error 21)"
  | nameTooLong => "File name too long (os error 36)"
  | nulInName => "file name contained an unexpected NUL byte"
  | notText => "stream did not contain valid UTF-8"
  | other text => text

end FileFault

/-- Why capturing failed. -/
inductive CaptureError where
  | interfaceNotFound (name : String)
  | unsupportedChannel (name : String)
  | notOpened (name : String) (cause : FileFault)
  | notRead (name : String) (cause : FileFault)
deriving DecidableEq, Repr

namespace CaptureError

/-- A cause in words. -/
def message : CaptureError → String
  | interfaceNotFound name => "Interface " ++ name ++ " not found"
  | unsupportedChannel name => "Interface " ++ name ++ " does not provide an Ethernet channel"
  | notOpened name cause => "Failed to open capture on " ++ name ++ ": " ++ cause.message
  | notRead name cause => "Capture read failed on " ++ name ++ ": " ++ cause.message

/-- A cause in the words of the program. -/
def report (e : CaptureError) : String := "Capture error: " ++ e.message

end CaptureError

/-- A failed file operation in the words of the program. -/
def FileFault.report (f : FileFault) : String := "IO error: " ++ f.message

end SourceGuard
