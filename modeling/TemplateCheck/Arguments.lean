import TemplateCheck.Environment
import TemplateCheck.Palette
import TemplateCheck.Path
import TemplateCheck.Rendering

/-!
Reading the arguments of the command line.

Values of an option or of a list of directories are collected first and judged when something else
follows, so the first fault is the one that comes up first in this order.
-/
namespace TemplateCheck

inductive ArgumentError where
  | help
  | version
  | nothingAsked
  | missingRequired
  | unknownArgument
  | unknownCommand
  | invalidValue
  | conflict
  | tooManyValues
  deriving DecidableEq, Repr

def ArgumentError.exitCode : ArgumentError → Nat
  | help => 0
  | version => 0
  | _ => 2

structure CheckArguments where
  dirs : List Path
  bootstrap : Option Path
  compiledDir : Path
  format : Format
  color : Option ColorMode
  plain : Bool
  verbosity : Nat
  deriving DecidableEq, Repr

structure InitArguments where
  path : Path
  force : Bool
  deriving DecidableEq, Repr

inductive Invocation where
  | check (arguments : CheckArguments)
  | init (arguments : InitArguments)
  deriving DecidableEq, Repr

namespace Arguments

inductive Switch where
  | bootstrap
  | compiledDir
  | format
  | color
  | plain
  | verbose
  | force
  | help
  deriving DecidableEq, Repr

def Switch.takesValue : Switch → Bool
  | bootstrap => true
  | compiledDir => true
  | format => true
  | color => true
  | _ => false

inductive Verb where
  | check
  | init
  deriving DecidableEq, Repr

def Verb.letter? (v : Verb) (c : Char) : Option Switch :=
  match v, c with
  | _, 'h' => some .help
  | .check, 'b' => some .bootstrap
  | .check, 'c' => some .compiledDir
  | .check, 'f' => some .format
  | .check, 'v' => some .verbose
  | .init, 'f' => some .force
  | _, _ => none

def Verb.word? (v : Verb) (name : Text) : Option Switch :=
  match v, String.ofList name with
  | _, "help" => some .help
  | .check, "bootstrap" => some .bootstrap
  | .check, "compiled-dir" => some .compiledDir
  | .check, "format" => some .format
  | .check, "color" => some .color
  | .check, "plain" => some .plain
  | .check, "verbose" => some .verbose
  | .init, "force" => some .force
  | _, _ => none

structure Given where
  paths : List Path := []
  bootstrap : Option Path := none
  compiledDir : Option Path := none
  format : Option Format := none
  color : Option ColorMode := none
  plain : Bool := false
  verbosity : Nat := 0
  force : Bool := false
  deriving DecidableEq, Repr

inductive Holder where
  | switch (switch : Switch)
  | paths
  deriving DecidableEq, Repr

structure State where
  given : Given := {}
  pending : Option (Holder × List Text) := none
  deriving DecidableEq, Repr

def path? (t : Text) : Except ArgumentError Path :=
  if t.isEmpty then .error .invalidValue else .ok (.ofText t)

def format? (t : Text) : Except ArgumentError Format :=
  match ([.terminal, .json] : List Format).find? fun f => f.name == t with
  | some f => .ok f
  | none => .error .invalidValue

def color? (t : Text) : Except ArgumentError ColorMode :=
  match ([.auto, .always, .never] : List ColorMode).find? fun m => m.name == t with
  | some m => .ok m
  | none => .error .invalidValue

def maxVerbosity : Nat := 255

def once {α β : Type} (old : Option α) (new : Except ArgumentError β) : Except ArgumentError β :=
  if old.isSome then .error .conflict else new

/-- Applies a switch with its values. That a value is there is judged before anything else, then that
the switch is not given twice, then the value itself. -/
def Given.apply (g : Given) (s : Switch) (values : List Text) : Except ArgumentError Given :=
  match s, values with
  | .help, _ => .error .help
  | .verbose, _ => .ok { g with verbosity := min (g.verbosity + 1) maxVerbosity }
  | .plain, _ => if g.plain then .error .conflict else .ok { g with plain := true }
  | .force, _ => if g.force then .error .conflict else .ok { g with force := true }
  | .bootstrap, [t] => do return { g with bootstrap := some (← once g.bootstrap (path? t)) }
  | .compiledDir, [t] => do return { g with compiledDir := some (← once g.compiledDir (path? t)) }
  | .format, [t] => do return { g with format := some (← once g.format (format? t)) }
  | .color, [t] => do return { g with color := some (← once g.color (color? t)) }
  | _, _ => .error .invalidValue

def State.settle (s : State) : Except ArgumentError State :=
  match s.pending with
  | none => .ok s
  | some (.switch switch, values) => do return ⟨← s.given.apply switch values, none⟩
  | some (.paths, values) => do
    let paths ← values.mapM path?
    return ⟨{ s.given with paths := s.given.paths ++ paths }, none⟩

def State.apply (s : State) (switch : Switch) (values : List Text) : Except ArgumentError State := do
  let s ← s.settle
  return { s with given := ← s.given.apply switch values }

def State.await (s : State) (switch : Switch) : Except ArgumentError State := do
  let s ← s.settle
  return { s with pending := some (.switch switch, []) }

def State.collect (s : State) (t : Text) : State :=
  match s.pending with
  | some (holder, values) => { s with pending := some (holder, values ++ [t]) }
  | none => s

def attached : Text → Text
  | '=' :: rest => rest
  | t => t

/-- The letters behind one hyphen. The answer also tells whether a value is awaited. -/
def readLetters (v : Verb) : State → Text → Except ArgumentError (State × Bool)
  | s, [] => .ok (s, false)
  | s, c :: rest =>
    match v.letter? c with
    | none => .error .unknownArgument
    | some switch =>
      if switch.takesValue then
        if rest.isEmpty then do return (← s.await switch, true)
        else do return (← s.apply switch [attached rest], false)
      else do readLetters v (← s.apply switch []) rest

def readLong (v : Verb) (s : State) (t : Text) : Except ArgumentError (State × Bool) :=
  let name := t.takeWhile (· != '=')
  let value : Option Text := match t.dropWhile (· != '=') with
    | [] => none
    | _ :: value => some value
  match v.word? name, value with
  | none, _ => .error .unknownArgument
  | some switch, some value =>
    if switch.takesValue then do return (← s.apply switch [value], false)
    else .error .tooManyValues
  | some switch, none =>
    if switch.takesValue then do return (← s.await switch, true)
    else do return (← s.apply switch [], false)

def readPath (v : Verb) (s : State) (t : Text) : Except ArgumentError State :=
  match v, s.pending with
  | .check, some (.paths, _) => .ok (s.collect t)
  | .init, some (.paths, _) => .error .unknownArgument
  | .init, _ =>
    if s.given.paths.isEmpty then do return { (← s.settle) with pending := some (.paths, [t]) }
    else .error .unknownArgument
  | .check, _ => do return { (← s.settle) with pending := some (.paths, [t]) }

def readAll (v : Verb) : (onlyPaths awaiting : Bool) → State → List Text → Except ArgumentError State
  | _, _, s, [] => s.settle
  | true, _, s, t :: rest => do readAll v true false (← readPath v s t) rest
  | false, awaiting, s, t :: rest =>
    match t with
    | ['-', '-'] => readAll v true false s rest
    | '-' :: '-' :: name => do
      let (s, awaiting) ← readLong v s name
      readAll v false awaiting s rest
    | '-' :: c :: letters => do
      let (s, awaiting) ← readLetters v s (c :: letters)
      readAll v false awaiting s rest
    | t =>
      if awaiting then readAll v false false (s.collect t) rest
      else do readAll v false false (← readPath v s t) rest

def bootstrapVariable : Text := "TPLCHECK_BOOTSTRAP"

def readCheck (env : Environment) (args : List Text) : Except ArgumentError Invocation := do
  let s ← readAll .check false false {} args
  let g := s.given
  let bootstrap ← match g.bootstrap, env.get? bootstrapVariable with
    | some path, _ => .ok (some path)
    | none, some value => (path? value).map some
    | none, none => .ok none
  if g.paths.isEmpty then .error .missingRequired
  else .ok (.check
    { dirs := g.paths
      bootstrap
      compiledDir := g.compiledDir.getD "tmp/compiled"
      format := g.format.getD .terminal
      color := g.color
      plain := g.plain
      verbosity := g.verbosity })

def readInit (args : List Text) : Except ArgumentError Invocation := do
  let s ← readAll .init false false {} args
  return .init ⟨s.given.paths.headD "tplcheck.toml", s.given.force⟩

def commandNames : List Text := ["check".toList, "init".toList, "help".toList]

/-- Arguments of the `help` command name a command, and commands have no commands of their own. -/
def readHelp : List Text → ArgumentError
  | [] => .help
  | [name] => if commandNames.contains name then .help else .unknownCommand
  | _ => .unknownCommand

def readTopLetter : Text → ArgumentError
  | 'h' :: _ => .help
  | 'V' :: _ => .version
  | _ => .unknownArgument

def readTopWord (t : Text) : ArgumentError :=
  let known := fun (e : ArgumentError) => if t.elem '=' then .tooManyValues else e
  match String.ofList (t.takeWhile (· != '=')) with
  | "help" => known .help
  | "version" => known .version
  | _ => .unknownArgument

def read (env : Environment) (args : List Text) : Except ArgumentError Invocation :=
  match args with
  | [] => .error .nothingAsked
  | first :: rest =>
    match String.ofList first with
    | "check" => readCheck env rest
    | "init" => readInit rest
    | "help" => .error (readHelp rest)
    | _ =>
      match first, rest with
      | ['-', '-'], [] => .error .nothingAsked
      | ['-', '-'], name :: _ =>
        .error (if commandNames.contains name then .unknownArgument else .unknownCommand)
      | '-' :: '-' :: name, _ => .error (readTopWord name)
      | '-' :: c :: letters, _ => .error (readTopLetter (c :: letters))
      | _, _ => .error .unknownCommand

end Arguments
end TemplateCheck
