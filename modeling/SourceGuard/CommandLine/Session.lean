import SourceGuard.CommandLine.Arguments
import SourceGuard.CommandLine.LogFilter
import SourceGuard.CommandLine.LogLine
import SourceGuard.Config.Storage
import SourceGuard.Setup

/-!
# Sessions

A session is one call of the program: it reads the arguments, loads the configuration, sets up the
log and opens the interfaces. It stops with a complaint at the first step that fails. The first
interface that cannot be opened ends it with a report in the log; with all of them open, the daemon
goes to work, and the session ends when the daemon has left.

## Main definitions

* `Surroundings`: what a session finds around it
* `SessionEnd`: what a session printed, logged and did, and its exit code
* `Session.run`: a session, on any file system
-/

namespace SourceGuard

/-- What a session finds around it. -/
structure Surroundings (σ : Type) where
  /-- The filter that replaces the one of the configuration, if there is one. -/
  filter : Option String := none
  /-- The date in the names of log files. -/
  date : String
  /-- The interfaces that there are; the log names them when one cannot be opened. -/
  interfaces : List Interface := []
  /-- The machine that runs the commands of the firewall. -/
  shell : Shell σ
  /-- The state in which the machine is at first. -/
  machine : σ
  /-- The instant at which the daemon goes to work. -/
  start : Instant := 0
  /-- What happens while the daemon is at work. -/
  occurrences : List Occurrence := []

/-- Where a log goes. -/
inductive LogTarget where
  | screen
  /-- A file of a name in a folder. -/
  | file (folder name : String)
deriving DecidableEq, Repr

/-- The log of a session. -/
structure SessionLog where
  /-- Where it goes. -/
  target : LogTarget
  /-- The form of its events. -/
  format : LogFormat
  /-- Its events. -/
  events : List Event
deriving DecidableEq, Repr

/-- The end of a session. -/
structure SessionEnd where
  /-- The exit code, unless the daemon is still at work. -/
  code? : Option Nat
  /-- What it printed, the reports of the daemon apart. -/
  printed : String := ""
  /-- Its complaints, before the log. -/
  complaints : List String := []
  /-- Its log up to the begin of the daemon, if it came to one. -/
  log : Option SessionLog := none
  /-- What the daemon did, with all events, whether the filter of the log admits them or not. -/
  trace : List Emission := []
deriving DecidableEq

namespace SessionLog

/-- The target that emits the events of a session. -/
def emitter : String := "gatewarden"

/-- The lines of a log. -/
def lines (log : SessionLog) : List String := log.events.map (log.format.line emitter)

/-- A log as a text. -/
def text (log : SessionLog) : String := String.join (log.lines.map (· ++ "\n"))

end SessionLog

namespace Session

/-- The end of a session with a complaint. -/
def failed (complaint : String) : SessionEnd :=
  { code? := some 1, complaints := ["❌ " ++ complaint] }

/-- A configuration with the replacements that a call asks for. -/
def override (a : Arguments) (c : Config) : Config :=
  { c with
    monitor :=
      { c.monitor with
        interfaces := if a.interfaces.isEmpty then c.monitor.interfaces else a.interfaces }
    report := { c.report with mode := a.report?.getD c.report.mode } }

/-! ### Events -/

/-- The event about the file of the configuration, which was found or not. -/
def loadedEvent (path : String) : (found : Bool) → Event
  | true => ⟨.info, "✓ Loaded configuration from " ++ path, []⟩
  | false => ⟨.warn, "⚠️  " ++ path ++ " not found, using defaults", []⟩

/-- The event of a warning about the configuration. -/
def warningEvent (warning : String) : Event := ⟨.warn, "⚠️  " ++ warning, []⟩

/-- The event of the start. -/
def startEvent : Event := ⟨.info, "🚀 Gatewarden v0.3.2 (unknown)", []⟩

/-- The event with the rules and the main settings. -/
def rulesEvent (c : Config) (dryRun : Bool) : Event :=
  ⟨.info, "  └─ Rules: " ++ c.ruleSet.describe,
    [("interfaces", .plain (Text.quotedList c.monitor.interfaces)),
      ("window_secs", .number c.monitor.windowSeconds.toNat),
      ("block_secs", .number c.monitor.blockSeconds.toNat),
      ("enforcer", .quoted (c.enforcerName dryRun))]⟩

/-- The events of an interface that cannot be opened, with the interfaces that there are. -/
def openEvents (available : List String) (interface : String) (e : CaptureError) : List Event :=
  [⟨.error, "❌ Cannot capture on " ++ interface,
      [("available", .plain (Text.quotedList available))]⟩,
    ⟨.error, "❌ " ++ e.report, []⟩]

/-- The events of a session up to the opening of its interfaces. -/
def startEvents (a : Arguments) (c : Config) (found : Bool) : List Event :=
  loadedEvent a.config found :: c.warnings.map warningEvent ++
    [startEvent, rulesEvent c a.dryRun]

/-- The event of the end of a daemon that has left. -/
def leftEvent : ShutdownReason → Event
  | .signal => ⟨.info, "👋 Gatewarden stopped", []⟩
  | .internal => ⟨.error, "❌ Gatewarden stopped after a capture failure", []⟩

/-- The events of the end of a daemon, if it has left. -/
def leftEvents (d : Daemon) : List Event :=
  match d.main with
  | .left reason => [leftEvent reason]
  | .waiting | .stopping _ | .releasing _ => []

/-! ### The log -/

variable {σ : Type}

/-- The filter of a session, and the complaints about it. -/
def filter (around : Surroundings σ) (a : Arguments) (c : Config) : LogFilter × List String :=
  match around.filter.bind LogFilter.ofText? with
  | some filter => (filter, [])
  | none => LogFilter.ofTextLenient (if a.verbose then "trace" else c.logging.level)

/-- The form of the events. -/
def format (c : Config) : LogFormat := if c.logging.format = "json" then .json else .text

/-- Where the log goes. -/
def target (around : Surroundings σ) (c : Config) : LogTarget :=
  if c.logging.output = "file" then
    .file ((Path.folder? c.logging.file).getD ".")
      ((Path.name? c.logging.file).getD "gatewarden.log" ++ "." ++ around.date)
  else .screen

variable {m : Type → Type} [Monad m]

/-- Make the folder of a log. -/
def prepare (fs : FileSystem m) : LogTarget → m (Except FileFault Unit)
  | .screen => pure (.ok ())
  | .file folder _ => fs.makeFolders folder

/-- Add a log to its file, if it has one. -/
def record (fs : FileSystem m) (log : SessionLog) : m Unit :=
  match log.target with
  | .screen => pure ()
  | .file folder name => do
    let _ ← fs.append (Path.join folder name) log.text
    pure ()

/-! ### The session -/

/-- Write the default configuration. -/
def generate (fs : FileSystem m) (path : String) : m SessionEnd := do
  match ← ({} : Config).save fs path with
  | .ok () =>
    pure { code? := some 0, printed := "✅ Generated default config at: " ++ path ++ "\n" }
  | .error e => pure (failed ("Failed to generate config: " ++ e.message))

/-- The session with all interfaces open: the daemon at work. -/
def serve (around : Surroundings σ) (a : Arguments) (c : Config) : Option Nat × List Emission :=
  let E := Enforcer.ofConfig around.shell c a.dryRun
  let out := (Daemon.ofConfig c around.start).run E around.occurrences around.machine
  (out.value.main.code?, out.trace ++ (leftEvents out.value).map .event)

/-- The session with a valid configuration. -/
def work (fs : FileSystem m) (around : Surroundings σ) (a : Arguments) (c : Config) (found : Bool) :
    m SessionEnd := do
  let (filter, complaints) := filter around a c
  let target := target around c
  match ← prepare fs target with
  | .error fault =>
    let e := failed ("Failed to set up logging: " ++ fault.report)
    pure { e with complaints := complaints ++ e.complaints }
  | .ok () =>
    let logged (events : List Event) : SessionLog :=
      { target, format := format c, events := events.filter (filter.admits SessionLog.emitter) }
    match Interface.firstFault? around.interfaces c.monitor.interfaces with
    | some (interface, e) =>
      let log := logged (startEvents a c found ++
        openEvents (around.interfaces.map (·.name)) interface e)
      record fs log
      pure { code? := some 1, complaints, log := some log }
    | none =>
      let log := logged (startEvents a c found)
      record fs log
      let (code?, trace) := serve around a c
      pure { code?, complaints, log := some log, trace }

/-- The session with arguments that were read. -/
def start (fs : FileSystem m) (around : Surroundings σ) (a : Arguments) : m SessionEnd := do
  if a.generate then generate fs a.config
  else
    match ← Config.loadOrDefault fs a.config with
    | .error e => pure (failed ("Failed to load config: " ++ e.message))
    | .ok (c, found) =>
      let c := override a c
      match c.fault? with
      | some fault => pure (failed ("Invalid configuration: " ++ (ConfigError.invalid fault).message))
      | none => work fs around a c found

/-- A session with the arguments of its call. -/
def run (fs : FileSystem m) (around : Surroundings σ) (arguments : List String) :
    m (Except Refusal SessionEnd) :=
  match Arguments.parse arguments with
  | .error refusal => pure (.error refusal)
  | .ok a => do
    let e ← start fs around a
    pure (.ok e)

end Session

end SourceGuard
