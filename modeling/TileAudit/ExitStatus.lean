/-!
# Exit statuses

How a program ended: with a code of its own, or by a signal.
-/

namespace TileAudit

inductive ExitStatus where
  | exited (code : Nat)
  | killed (signal : Nat) (dumped : Bool)
deriving DecidableEq, Repr

namespace ExitStatus

def signalNames : List String :=
  ["SIGHUP", "SIGINT", "SIGQUIT", "SIGILL", "SIGTRAP", "SIGABRT", "SIGBUS", "SIGFPE", "SIGKILL",
    "SIGUSR1", "SIGSEGV", "SIGUSR2", "SIGPIPE", "SIGALRM", "SIGTERM", "SIGSTKFLT", "SIGCHLD",
    "SIGCONT", "SIGSTOP", "SIGTSTP", "SIGTTIN", "SIGTTOU", "SIGURG", "SIGXCPU", "SIGXFSZ",
    "SIGVTALRM", "SIGPROF", "SIGWINCH", "SIGIO", "SIGPWR", "SIGSYS"]

def signalName? (signal : Nat) : Option String :=
  if signal = 0 then none else signalNames[signal - 1]?

/-- The number of a signal that is given by its name, with or without its first three letters. -/
def signalNumber? (name : String) : Option Nat :=
  (signalNames.findIdx? fun known => known = name || known = "SIG" ++ name).map (· + 1)

/-- The status that a wait for the program reports: the code in the second byte, or the
signal in the low seven bits and a mark for a core dump. -/
def ofWaitStatus (status : Nat) : ExitStatus :=
  if status % 128 = 0 then .exited (status / 256 % 256)
  else .killed (status % 128) (status / 128 % 2 = 1)

def isSuccess (status : ExitStatus) : Bool :=
  status = .exited 0

def code? : ExitStatus → Option Nat
  | exited code => some code
  | killed _ _ => none

def text : ExitStatus → String
  | exited code => "exit status: " ++ toString code
  | killed signal dumped =>
      "signal: " ++ toString signal ++
        ((signalName? signal).elim "" fun name => " (" ++ name ++ ")") ++
        (if dumped then " (core dumped)" else "")

end ExitStatus
end TileAudit
