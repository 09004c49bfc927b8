/-!
# Log events

What the guard does is reported as events: a level, a message, and named fields.

## Main definitions

* `Level`, `FieldValue`, `Event`
-/

namespace SourceGuard

/-- The weight of an event, the heaviest first. -/
inductive Level where
  | error
  | warn
  | info
  | debug
  | trace
deriving DecidableEq, Repr, Inhabited

namespace Level

/-- The name of a level. -/
def name : Level → String
  | error => "ERROR"
  | warn => "WARN"
  | info => "INFO"
  | debug => "DEBUG"
  | trace => "TRACE"

/-- How much detail a level adds, from one for errors to five for traces. -/
def detail : Level → Nat
  | error => 1
  | warn => 2
  | info => 3
  | debug => 4
  | trace => 5

end Level

/-- The value of a field. -/
inductive FieldValue where
  /-- A number. -/
  | number (n : Nat)
  /-- A text, quoted where the line form of an event shows it. -/
  | quoted (text : String)
  /-- A text shown as it is. -/
  | plain (text : String)
deriving DecidableEq, Repr

/-- One entry of the log. -/
structure Event where
  /-- The weight of the event. -/
  level : Level
  /-- What happened. -/
  message : String
  /-- The circumstances, in the order in which they are shown. -/
  fields : List (String × FieldValue) := []
deriving DecidableEq, Repr

/-- Whether an event has a field of a name; its message is one. -/
def Event.hasField (e : Event) (name : String) : Bool :=
  name = "message" || e.fields.any (·.1 = name)

end SourceGuard
