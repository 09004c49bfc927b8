/-!
# Commands

A firewall command is started with a list of words, may fail to start, and otherwise ends with a
status and with bytes on its error output.

## Main definitions

* `Command`, `ExitStatus`, `CommandResult`
* `Shell`: a machine that runs commands
-/

namespace SourceGuard

/-- A program and its arguments. -/
structure Command where
  /-- The program. -/
  program : String
  /-- The arguments. -/
  arguments : List String
deriving DecidableEq, Repr

namespace Command

/-- The words of a command. -/
def words (c : Command) : List String := c.program :: c.arguments

/-- A command as one line. -/
def line (c : Command) : String := String.intercalate " " c.words

end Command

/-- How a command ended. -/
inductive ExitStatus where
  /-- It returned a code. -/
  | code (n : Nat)
  /-- A signal ended it, and perhaps its memory was written to a file. -/
  | signal (n : Nat) (dumped : Bool := false)
deriving DecidableEq, Repr

namespace ExitStatus

/-- The names of the signals, from the first. -/
def signalNames : List String :=
  ["SIGHUP", "SIGINT", "SIGQUIT", "SIGILL", "SIGTRAP", "SIGABRT", "SIGBUS", "SIGFPE", "SIGKILL",
    "SIGUSR1", "SIGSEGV", "SIGUSR2", "SIGPIPE", "SIGALRM", "SIGTERM", "SIGSTKFLT", "SIGCHLD",
    "SIGCONT", "SIGSTOP", "SIGTSTP", "SIGTTIN", "SIGTTOU", "SIGURG", "SIGXCPU", "SIGXFSZ",
    "SIGVTALRM", "SIGPROF", "SIGWINCH", "SIGIO", "SIGPWR", "SIGSYS"]

/-- A status in words. -/
def text : ExitStatus → String
  | code n => "exit status: " ++ toString n
  | signal n dumped =>
    let name :=
      match signalNames[n - 1]? with
      | some name => " (" ++ name ++ ")"
      | none => ""
    "signal: " ++ toString n ++ name ++ if dumped then " (core dumped)" else ""

example : text (.signal 6 true) = "signal: 6 (SIGABRT) (core dumped)" := by decide +kernel

end ExitStatus

/-- What became of a command. -/
inductive CommandResult where
  /-- It could not be started. -/
  | notStarted (cause : String)
  /-- It ran. -/
  | ended (status : ExitStatus) (complaint : List UInt8)
deriving DecidableEq, Repr

/-- A machine with states `σ` that runs commands. -/
abbrev Shell (σ : Type) := Command → σ → CommandResult × σ

end SourceGuard
