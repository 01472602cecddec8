import TemplateCheck.Arguments
import TemplateCheck.Command.Starter

/-!
The command line as a whole: from arguments and surroundings to an exit status and two streams.
-/
namespace TemplateCheck.CommandLine

def indentLines (indent : Text) (t : Text) : Text := Text.replace "\n" ('\n' :: indent) t

def numbered (n : Nat) (t : Text) : Text :=
  Text.rightAligned 5 (Text.decimal n) ++ ": " ++ indentLines "       " t

def causeLines : List Text → List Text
  | [cause] => ["    " ++ indentLines "    " cause]
  | causes => causes.zipIdx.map fun (cause, n) => numbered n cause

def failureText : List Text → Text
  | [] => []
  | [headline] => "Error: " ++ headline ++ ['\n']
  | headline :: causes =>
    "Error: " ++ headline ++ "\n\nCaused by:\n" ++
      (causeLines causes).flatMap fun line => line ++ ['\n']

inductive Ended where
  | refused (error : ArgumentError)
  | finished (status : Nat) (stderr : Text)
  deriving DecidableEq, Repr

/-- The colours that are asked for: none at all, a mode, or what the surroundings say. -/
def colorMode (env : Environment) (plain : Bool) (color : Option ColorMode) : ColorMode :=
  if plain then .never else color.getD (ColorMode.ofEnvironment env)

def requestOf (env : Environment) (terminal : Bool) (a : CheckArguments) : Command.CheckRequest where
  dirs := a.dirs
  bootstrap := a.bootstrap
  compiledDir := a.compiledDir
  format := a.format
  verbosity := Verbosity.ofCount a.verbosity
  formatter := ⟨(colorMode env a.plain a.color).usesColor terminal⟩

def filterVariable : Text := "RUST_LOG"

def logText (filter : Text) (w : World) : Text :=
  (Log.complaints filter).flatten ++
    (w.log.toList.filter (Log.shows filter)).flatMap Log.Entry.line

def crashStatus : Nat := 101

def conclude {α : Type} (filter : Text) (status : α → Nat) :
    EStateM.Result (Halt Command.Failure) World α → Ended × World
  | .ok a w => (.finished (status a) (logText filter w), w)
  | .error (.failed f) w => (.finished 1 (logText filter w ++ failureText f.texts), w)
  | .error (.crashed c) w => (.finished crashStatus (logText filter w ++ c.report), w)

def run (programs : Programs) (medium : Medium) (terminal : Bool) (env : Environment)
    (args : List Text) (w : World) : Ended × World :=
  let filterOr := fun (v : Verbosity) => (env.get? filterVariable).getD v.logFilter
  match Arguments.read env args with
  | .error e => (.refused e, w)
  | .ok (.check a) =>
    conclude (filterOr (Verbosity.ofCount a.verbosity)) exitCode
      (Command.check programs (requestOf env terminal a) w)
  | .ok (.init a) =>
    conclude (filterOr .normal) (fun _ => 0) (Command.init medium a.path a.force w)

end TemplateCheck.CommandLine
