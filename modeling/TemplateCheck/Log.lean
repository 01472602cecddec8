import TemplateCheck.Text

/-!
Log entries, and which of them are shown.

An entry belongs to an area. A filter is a list of directives: each gives a level for the areas whose
name starts with some text, and the longest start that fits an area decides.
-/
namespace TemplateCheck.Log

inductive Level where
  | error
  | warn
  | info
  | debug
  | trace
  deriving DecidableEq, Repr

namespace Level

def name : Level → Text
  | error => "ERROR"
  | warn => "WARN"
  | info => "INFO"
  | debug => "DEBUG"
  | trace => "TRACE"

def talk : Level → Nat
  | error => 1
  | warn => 2
  | info => 3
  | debug => 4
  | trace => 5

end Level

inductive Area where
  | bootstrap
  | tool
  | pipeline
  | discovery
  | compilation
  | linting
  | linterCommand
  | check
  deriving DecidableEq, Repr

def Area.name : Area → Text
  | bootstrap => "tplcheck::bootstrap"
  | tool => "tplcheck::tool"
  | pipeline => "tplcheck::pipeline"
  | discovery => "tplcheck::pipeline::discovery"
  | compilation => "tplcheck::pipeline::compile"
  | linting => "tplcheck::pipeline::lint"
  | linterCommand => "tplcheck::linter::command"
  | check => "tplcheck::commands::check"

structure Entry where
  level : Level
  area : Area
  message : Text
  deriving DecidableEq, Repr

def Entry.line (e : Entry) : Text :=
  let level := e.level.name ++ List.replicate (5 - e.level.name.length) ' '
  "[" ++ level ++ " " ++ e.area.name ++ "] " ++ Text.replace "\n" "\n    " e.message ++ ['\n']

structure Directive where
  start : Text
  talk : Nat
  deriving DecidableEq, Repr

def lowercase (t : Text) : Text := t.map Char.toLower

def talkNamed (t : Text) : Option Nat :=
  let name := lowercase t
  if name == "off".toList then some 0
  else ([.error, .warn, .info, .debug, .trace] : List Level).find?
    (fun level => lowercase level.name == name) |>.map Level.talk

def mostTalk : Nat := 5

/-- One directive: a level, an area with its level, or an area alone, which is shown in full. The
part that cannot be read is the error. -/
def readDirective (t : Text) : Except Text Directive :=
  match t.splitOn '=' with
  | [one] =>
    match talkNamed one with
    | some talk => .ok ⟨[], talk⟩
    | none => .ok ⟨one, mostTalk⟩
  | [start, level] =>
    if Text.trim level == [] then .ok ⟨start, mostTalk⟩
    else match talkNamed (Text.trim level) with
      | some talk => .ok ⟨start, talk⟩
      | none => .error (Text.trim level)
  | _ => .error t

def readFilter (filter : Text) : List (Except Text Directive) :=
  (filter.splitOn ',').filterMap fun part =>
    if Text.trim part == [] then none else some (readDirective (Text.trim part))

def directives (filter : Text) : List Directive :=
  let read := (readFilter filter).filterMap Except.toOption
  if read.isEmpty then [⟨[], Level.error.talk⟩] else read

def complaints (filter : Text) : List Text :=
  (readFilter filter).filterMap fun part => match part with
    | .ok _ => none
    | .error t => some ("warning: invalid logging spec '" ++ t ++ "', ignoring it\n")

/-- What a filter shows of an area: the longest fitting start decides, among equals the last. -/
def shownTalk (ds : List Directive) (area : Area) : Nat :=
  let fitting := ds.filter fun d => d.start.isPrefixOf area.name
  let best := fitting.foldl (fun best d => match best with
    | none => some d
    | some b => if b.start.length ≤ d.start.length then some d else some b) (none : Option Directive)
  match best with
  | some d => d.talk
  | none => 0

def shows (filter : Text) (e : Entry) : Bool := e.level.talk ≤ shownTalk (directives filter) e.area

end TemplateCheck.Log
