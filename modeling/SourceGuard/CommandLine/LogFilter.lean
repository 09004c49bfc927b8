import SourceGuard.CommandLine.Directive

/-!
# Log filters

A filter is a list of directives with commas between them. Of several directives that are about an
event the most specific counts, and an event that none is about is not admitted. A text is read
strictly, so that one bad directive spoils it, or leniently, so that bad directives are left out; the
lenient filter without directives admits errors.

## Main definitions

* `LogFilter.ofText?`, `LogFilter.ofTextLenient`: the strict and the lenient reading
* `LogFilter.admits`: whether a filter admits an event
-/

namespace SourceGuard

/-- A filter: its directives, in the order in which they are written. -/
abbrev LogFilter := List Directive

namespace LogFilter

/-- The texts of the directives of a filter. -/
def parts (text : String) : List String :=
  ((text.toList.splitOn ',').filter (· ≠ [])).map String.ofList

/-- The filter that a text spells, if every directive is one. -/
def ofText? (text : String) : Option LogFilter := ((parts text).mapM Directive.ofText).toOption

/-- The filter that admits errors. -/
def errors : LogFilter := [{ detail := 1 }]

/-- The complaint about a text that is no directive. -/
def complaint (text : String) : Except DirectiveFault Directive → Option String
  | .ok _ => none
  | .error fault => some ("ignoring `" ++ text ++ "`: " ++ fault.message)

/-- The filter that a text spells without what is no directive, and the complaints about that. -/
def ofTextLenient (text : String) : LogFilter × List String :=
  let read := (parts text).map fun part => (part, Directive.ofText part)
  let directives := read.filterMap (·.2.toOption)
  (if directives = [] then errors else directives,
    read.filterMap fun (part, d) => complaint part d)

/-- The directive that counts for an event of a target, the last of equally specific ones. -/
def chosen (filter : LogFilter) (target : String) (e : Event) : Option Directive :=
  (filter.filter (·.covers target e)).foldl
    (fun best d => if best.all d.outranks then some d else best) none

/-- Whether a filter admits an event of a target. -/
def admits (filter : LogFilter) (target : String) (e : Event) : Bool :=
  (filter.chosen target e).any (e.level.detail ≤ ·.detail)

end LogFilter

end SourceGuard
