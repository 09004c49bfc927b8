import SourceGuard.Report.Mode

/-!
# Arguments

The program is called with switches, some of which take a value. A switch is written in full after
two dashes or, if it has one, as a letter after one dash; letters can be joined. A value follows its
switch as the next argument, after an equals sign, or right after its letter, and starts with a dash
only if it is one.

## Main definitions

* `Switch`: the switches; `Switch.manual`: the help about them
* `Arguments`: what a call asks for
* `Arguments.parse`: the reading of a call
-/

namespace SourceGuard

/-- The switches. -/
inductive Switch where
  | config
  | interface
  | dryRun
  | report
  | verbose
  | generate
  | help
deriving DecidableEq, Repr

namespace Switch

/-- All switches. -/
def all : List Switch := [config, interface, dryRun, report, verbose, generate, help]

/-- The full name of a switch. -/
def name : Switch → String
  | config => "config"
  | interface => "interface"
  | dryRun => "dry-run"
  | report => "report"
  | verbose => "verbose"
  | generate => "generate-config"
  | help => "help"

/-- The letter of a switch, if it has one. -/
def letter? : Switch → Option Char
  | config => some 'c'
  | interface => some 'i'
  | verbose => some 'v'
  | help => some 'h'
  | _ => none

/-- What stands for the value of a switch in the help, if it takes one. -/
def placeholder? : Switch → Option String
  | config => some "<CONFIG>"
  | interface => some "<INTERFACES>"
  | report => some "<REPORT>"
  | _ => none

/-- Whether a switch takes a value. -/
def takesValue (switch : Switch) : Bool := switch.placeholder?.isSome

/-- The file of the configuration unless a call names one. -/
def defaultPath : String := "gatewarden.toml"

/-- What the help says about a switch. -/
def about : Switch → String
  | config => "[default: " ++ defaultPath ++ "]"
  | interface => "Interface to capture on (repeatable, replaces the configured list)"
  | dryRun => "Log firewall changes instead of running iptables"
  | report => "Report mode: table, json, log or off"
  | verbose => ""
  | generate => ""
  | help => "Print help"

/-- The ways to write a switch, its full name in the same column whether it has a letter or not. -/
def usage (switch : Switch) : String :=
  switch.letter?.elim "    " (fun letter => String.ofList ['-', letter, ',', ' ']) ++
    "--" ++ switch.name ++ switch.placeholder?.elim "" (" " ++ ·)

/-- The switch of a full name. -/
def ofName? (name : String) : Option Switch := all.find? (·.name = name)

/-- The switch of a letter. -/
def ofLetter? (letter : Char) : Option Switch := all.find? (·.letter? = some letter)

/-- A text with spaces after it up to some length. -/
def padded (width : Nat) (text : String) : String :=
  text ++ String.ofList (List.replicate (width - text.length) ' ')

/-- The help: what the program does, and its switches in two columns. -/
def manual : String :=
  let width := (all.map (·.usage.length)).foldl max 0
  let line := fun (switch : Switch) =>
    "  " ++ padded width switch.usage ++ "  " ++ switch.about ++ "\n"
  "Gateway traffic monitor with automatic source blocking\n\n" ++
    "Usage: gatewarden [OPTIONS]\n\nOptions:\n" ++ String.join (all.map line)

end Switch

/-- What a call asks for. -/
structure Arguments where
  /-- The file of the configuration, if one is named. -/
  config? : Option String := none
  /-- The interfaces that replace those of the configuration, if there are any. -/
  interfaces : List String := []
  /-- Whether blocks are only reported. -/
  dryRun : Bool := false
  /-- The report mode that replaces that of the configuration. -/
  report? : Option ReportMode := none
  /-- Whether everything is logged. -/
  verbose : Bool := false
  /-- Whether the default configuration is to be written. -/
  generate : Bool := false
deriving DecidableEq, Repr

/-- Why a call is not carried out. -/
inductive Refusal where
  /-- It asks for help. -/
  | help
  | unknown (argument : String)
  | missingValue (switch : Switch)
  | unwantedValue (switch : Switch)
  | repeated (switch : Switch)
  | badMode (mode : ReportMode.Unknown)
deriving DecidableEq, Repr

namespace Refusal

/-- The exit code of a call that is not carried out. -/
def code : Refusal → Nat
  | help => 0
  | _ => 2

/-- The answer to a call that is not carried out: the help, or a complaint. -/
def message : Refusal → String
  | help => Switch.manual
  | unknown argument => "error: unexpected argument '" ++ argument ++ "' found"
  | missingValue switch => "error: a value is required for '--" ++ switch.name ++ "'"
  | unwantedValue switch => "error: '--" ++ switch.name ++ "' takes no value"
  | repeated switch => "error: '--" ++ switch.name ++ "' cannot be used multiple times"
  | badMode mode => "error: invalid value for '--report': " ++ mode.message

end Refusal

namespace Arguments

/-- The file of the configuration. -/
def config (a : Arguments) : String := a.config?.getD Switch.defaultPath

/-- A flag that is given now, and was given before or not. -/
def raise (switch : Switch) (before : Bool) (after : Arguments) : Except Refusal Arguments :=
  if before then .error (.repeated switch) else .ok after

/-- The arguments with one more switch, whose value is empty if it takes none. -/
def set (a : Arguments) (value : String) : Switch → Except Refusal Arguments
  | .config => raise .config a.config?.isSome { a with config? := some value }
  | .interface => .ok { a with interfaces := a.interfaces ++ [value] }
  | .dryRun => raise .dryRun a.dryRun { a with dryRun := true }
  | .report =>
    match ReportMode.ofText value with
    | .ok mode => raise .report a.report?.isSome { a with report? := some mode }
    | .error mode => .error (.badMode mode)
  | .verbose => raise .verbose a.verbose { a with verbose := true }
  | .generate => raise .generate a.generate { a with generate := true }
  | .help => .error .help

/-- The arguments after joined letters, and the switch that waits for a value. -/
def letters (a : Arguments) : List Char → Except Refusal (Arguments × Option Switch)
  | [] => .ok (a, none)
  | letter :: rest =>
    match Switch.ofLetter? letter with
    | none => .error (.unknown (String.ofList ['-', letter]))
    | some switch =>
      if switch.takesValue then
        match rest with
        | [] => .ok (a, some switch)
        | '=' :: value => do
          let a ← a.set (String.ofList value) switch
          .ok (a, none)
        | value => do
          let a ← a.set (String.ofList value) switch
          .ok (a, none)
      else do
        let a ← a.set "" switch
        letters a rest

/-- The arguments after a full name, after which an equals sign and a value may stand, and the
switch that waits for a value. -/
def named (a : Arguments) (text : List Char) : Except Refusal (Arguments × Option Switch) :=
  let name := String.ofList (text.takeWhile (· ≠ '='))
  match Switch.ofName? name, text.dropWhile (· ≠ '=') with
  | none, _ => .error (.unknown ("--" ++ name))
  | some switch, [] =>
    if switch.takesValue then .ok (a, some switch)
    else do
      let a ← a.set "" switch
      .ok (a, none)
  | some switch, _ :: value =>
    if switch.takesValue then do
      let a ← a.set (String.ofList value) switch
      .ok (a, none)
    else .error (.unwantedValue switch)

/-- Whether an argument can be a value. -/
def isValue (argument : String) : Bool :=
  argument = "-" || argument.toList.head? ≠ some '-'

/-- The arguments after the rest of a call; `waiting` is the switch whose value comes next. -/
def read : (waiting : Option Switch) → Arguments → List String → Except Refusal Arguments
  | none, a, [] => .ok a
  | some switch, _, [] => .error (.missingValue switch)
  | some switch, a, value :: rest =>
    if isValue value then do
      let a ← a.set value switch
      read none a rest
    else .error (.missingValue switch)
  | none, a, argument :: rest =>
    match argument.toList with
    | ['-', '-'] =>
      match rest with
      | [] => .ok a
      | extra :: _ => .error (.unknown extra)
    | '-' :: '-' :: text => do
      let (a, waiting) ← a.named text
      read waiting a rest
    | '-' :: letter :: text => do
      let (a, waiting) ← a.letters (letter :: text)
      read waiting a rest
    | _ => .error (.unknown argument)

/-- The reading of a call. -/
def parse (arguments : List String) : Except Refusal Arguments := read none {} arguments

end Arguments

end SourceGuard
