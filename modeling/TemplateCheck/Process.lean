import TemplateCheck.Disk

/-!
Processes: what a program leaves behind, and what is kept of each one that was started.
-/
namespace TemplateCheck

/-- How a process ended. -/
inductive Status where
  | exited (code : Nat)
  | killed (signal : Nat)
  deriving DecidableEq, Repr

namespace Status

def isSuccess (s : Status) : Bool := s == exited 0

def signalName : Nat → Text
  | 1 => " (SIGHUP)"
  | 2 => " (SIGINT)"
  | 3 => " (SIGQUIT)"
  | 4 => " (SIGILL)"
  | 5 => " (SIGTRAP)"
  | 6 => " (SIGABRT)"
  | 7 => " (SIGBUS)"
  | 8 => " (SIGFPE)"
  | 9 => " (SIGKILL)"
  | 10 => " (SIGUSR1)"
  | 11 => " (SIGSEGV)"
  | 12 => " (SIGUSR2)"
  | 13 => " (SIGPIPE)"
  | 14 => " (SIGALRM)"
  | 15 => " (SIGTERM)"
  | 16 => " (SIGSTKFLT)"
  | 17 => " (SIGCHLD)"
  | 18 => " (SIGCONT)"
  | 19 => " (SIGSTOP)"
  | 20 => " (SIGTSTP)"
  | 21 => " (SIGTTIN)"
  | 22 => " (SIGTTOU)"
  | 23 => " (SIGURG)"
  | 24 => " (SIGXCPU)"
  | 25 => " (SIGXFSZ)"
  | 26 => " (SIGVTALRM)"
  | 27 => " (SIGPROF)"
  | 28 => " (SIGWINCH)"
  | 29 => " (SIGIO)"
  | 30 => " (SIGPWR)"
  | 31 => " (SIGSYS)"
  | _ => []

def message : Status → Text
  | exited code => "exit status: " ++ Text.decimal code
  | killed signal => "signal: " ++ Text.decimal signal ++ signalName signal

end Status

/-- What a process leaves behind. -/
structure Exit where
  status : Status
  stdout : List UInt8 := []
  stderr : List UInt8 := []
  deriving DecidableEq, Repr

/-- One start of a program: for which file, on which disk, and what came of it. -/
structure Process where
  program : Text
  args : List Text
  file : Path
  disk : Disk
  outcome : Except Fault Exit

/-- The programs that can be started: what each does with given arguments, or why it cannot be
started. Programs read the disk and do not change it. What they do may depend on all that was
started before, so the same call need not have the same outcome twice. -/
structure Programs where
  start : Array Process → Disk → Text → List Text → Except Fault Exit

end TemplateCheck
