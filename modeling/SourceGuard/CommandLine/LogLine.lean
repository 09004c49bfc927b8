import SourceGuard.Event
import SourceGuard.Json
import SourceGuard.Text.Quoted
import SourceGuard.Text.Terminal

/-!
# Lines of the log

An event is shown as a line of text, with its level, its message and its fields, or as a JSON
object on a line of its own.

## Main definitions

* `LogFormat`, `LogFormat.line`: the forms of an event
-/

namespace SourceGuard

/-- The forms of an event. -/
inductive LogFormat where
  /-- A line of text. -/
  | text
  /-- A JSON object. -/
  | json
deriving DecidableEq, Repr

/-- The value of a field in a line of text. -/
def FieldValue.inLine : FieldValue → String
  | number n => String.ofList (Text.decimal n)
  | quoted s => Text.quoted s
  | plain s => s

/-- The name of a level, filled up with spaces on its left. -/
def Level.aligned (level : Level) : String :=
  String.ofList (List.replicate (5 - level.name.length) ' ') ++ level.name

/-- An event as a line of text, which is safe to show on a terminal. -/
def Event.line (e : Event) : String :=
  e.level.aligned ++ " " ++ Text.defused e.message ++
    String.join (e.fields.map fun (name, value) => " " ++ name ++ "=" ++ value.inLine)

/-- An event as a JSON object with its level, its fields and the target that emits it. -/
def Event.objectLine (target : String) (e : Event) : String :=
  (Json.object [("level", .text e.level.name), ("fields", e.toJson), ("target", .text target)]).toText

namespace LogFormat

/-- An event as a line. -/
def line (format : LogFormat) (target : String) (e : Event) : String :=
  match format with
  | text => e.line
  | json => e.objectLine target

end LogFormat

end SourceGuard
