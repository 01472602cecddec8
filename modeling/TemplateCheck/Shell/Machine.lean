import TemplateCheck.Disk
import TemplateCheck.Shell.Printf
import TemplateCheck.Shell.Reader

/-!
Running a shell script on a disk that it reads and writes.
-/
namespace TemplateCheck.Shell

inductive Stream where
  | out
  | err
  | file (path : Path)
  | nowhere
  deriving DecidableEq, Repr

structure Machine where
  disk : Disk
  /-- The name that messages start with. -/
  name : Text
  params : List Text := []
  bindings : List (Text × Text) := []
  input : Text := []
  /-- What was printed, last piece first. -/
  out : List Text := []
  err : List Text := []
  stdout : Stream := .out
  stderr : Stream := .err
  status : Nat := 0

inductive Flow where
  | next
  | leave
  | killed (signal : Nat)
  | break
  | continue
  deriving DecidableEq, Repr

namespace Machine

def processId : Text := "4711"

def ok (m : Machine) : Machine := { m with status := 0 }

def withStatus (m : Machine) (status : Nat) : Machine := { m with status }

def extend (m : Machine) (path : Path) (t : Text) : Machine :=
  let body := (m.disk.readBytes path).toOption.getD .empty
  { m with disk := (m.disk.write path (body ++ ⟨(Text.octetBytes t).toArray⟩)).toOption.getD m.disk }

def send (m : Machine) (stream : Stream) (t : Text) : Machine :=
  match stream with
  | .out => { m with out := t :: m.out }
  | .err => { m with err := t :: m.err }
  | .file path => m.extend path t
  | .nowhere => m

def print (m : Machine) (t : Text) : Machine := m.send m.stdout t

def complain (m : Machine) (t : Text) : Machine :=
  m.send m.stderr (m.name ++ ": 1: " ++ t ++ ['\n'])

def assign (m : Machine) (name value : Text) : Machine :=
  { m with bindings := (name, value) :: m.bindings.filter (·.1 ≠ name) }

def lookup (m : Machine) (name : Text) : Text :=
  match name with
  | ['$'] => processId
  | ['?'] => Text.decimal m.status
  | ['#'] => Text.decimal m.params.length
  | ['@'] => Text.join " " m.params
  | ['*'] => Text.join " " m.params
  | ['0'] => m.name
  | [c] => if c.isDigit then m.params.getD (c.toNat - '1'.toNat) [] else (m.bindings.lookup name).getD []
  | _ =>
    if name.all Char.isDigit then m.params.getD (Text.digitsValue name - 1) []
    else (m.bindings.lookup name).getD []

def separators (m : Machine) : Text := (m.bindings.lookup "IFS".toList).getD [' ', '\t', '\n']

def formula (m : Machine) (t : Text) : Text := (Arithmetic.evaluate m.lookup t).getD []

def expandPiece (m : Machine) : Piece → Text
  | .literal text _ => text
  | .variable name _ => m.lookup name
  | .arithmetic f _ => m.formula f

def expandText (m : Machine) (w : Word) : Text := w.flatMap m.expandPiece

/-- Fields that are being collected: those that are complete, last one first, and the open one. -/
structure Fields where
  done : List Text := []
  current : Option Text := none

namespace Fields

def append (f : Fields) (t : Text) : Fields := { f with current := some (f.current.getD [] ++ t) }

def close (f : Fields) : Fields :=
  match f.current with
  | some t => ⟨t :: f.done, none⟩
  | none => f

def split (f : Fields) (separators : Text) : Text → Fields
  | [] => f
  | c :: rest => if separators.elem c then (f.close).split separators rest
    else (f.append [c]).split separators rest

def spread (f : Fields) : List Text → Fields
  | [] => f
  | [t] => f.append t
  | t :: rest => (f.append t).close.spread rest

def toList (f : Fields) : List Text := f.close.done.reverse

end Fields

def addPiece (m : Machine) (f : Fields) : Piece → Fields
  | .literal text _ => f.append text
  | .variable ['@'] true => f.spread m.params
  | .variable name true => f.append (m.lookup name)
  | .variable name false => f.split m.separators (m.lookup name)
  | .arithmetic t true => f.append (m.formula t)
  | .arithmetic t false => f.split m.separators (m.formula t)

def expandFields (m : Machine) (w : Word) : List Text := (w.foldl m.addPiece {}).toList

inductive Mark where
  | exact (c : Char)
  | any
  | many
  deriving DecidableEq, Repr

def markOf (c : Char) : Mark := if c == '*' then .many else if c == '?' then .any else .exact c

def pieceMarks (m : Machine) : Piece → List Mark
  | .literal text true => text.map .exact
  | .literal text false => text.map markOf
  | .variable name true => (m.lookup name).map .exact
  | .variable name false => (m.lookup name).map markOf
  | .arithmetic f _ => (m.formula f).map .exact

def anyTail (rest : Text → Bool) : Text → Bool
  | [] => rest []
  | c :: t => rest (c :: t) || anyTail rest t

def fits : List Mark → Text → Bool
  | [], t => t.isEmpty
  | .many :: marks, t => anyTail (fits marks) t
  | .any :: marks, _ :: t => fits marks t
  | .exact a :: marks, c :: t => a == c && fits marks t
  | _ :: _, [] => false

/-- Splits a line into as many fields as there are names; the last one takes the rest. -/
def assignFields (m : Machine) : List Text → Text → Machine
  | [], _ => m
  | [name], line =>
    let trimmed := (line.dropWhile m.separators.elem).reverse.dropWhile m.separators.elem
    m.assign name trimmed.reverse
  | name :: names, line =>
    let line := line.dropWhile m.separators.elem
    let field := line.takeWhile fun c => !m.separators.elem c
    (m.assign name field).assignFields names (line.drop field.length)

def readLine (m : Machine) (args : List Text) : Machine :=
  let raw := args.head? == some "-r".toList
  let names := args.filter fun a => a.head? != some '-'
  let line := m.input.takeWhile (· != '\n')
  let rest := m.input.dropWhile (· != '\n')
  let shown := (if raw then line else line.filter (· != '\\')).filter (· != '\x00')
  let m := { m with input := rest.drop 1 }
  (m.assignFields names shown).withStatus (if rest.isEmpty then 1 else 0)

def catFile (m : Machine) (file : Text) : Machine :=
  match m.disk.readBytes ⟨file⟩ with
  | .ok body => m.print (Text.octets body.toList)
  | .error fault =>
    let reason := fault.message.takeWhile (· != '(')
    (m.send m.stderr ("cat: " ++ file ++ ": " ++ Text.trimEnd reason ++ ['\n'])).withStatus 1

def cat (m : Machine) (files : List Text) : Machine :=
  if files.isEmpty then ({ m with input := [] }.print m.input).ok
  else files.foldl catFile m.ok

def echo (m : Machine) (args : List Text) : Machine :=
  match args with
  | ['-', 'n'] :: rest => (m.print (Printf.unescape (Text.join " " rest))).ok
  | args => (m.print (Printf.unescape (Text.join " " args) ++ ['\n'])).ok

def compareNumbers (op : Text) (a b : Int) : Option Bool :=
  match String.ofList op with
  | "-eq" => some (a == b)
  | "-ne" => some (a != b)
  | "-lt" => some (a < b)
  | "-le" => some (a ≤ b)
  | "-gt" => some (b < a)
  | "-ge" => some (b ≤ a)
  | _ => none

def test (m : Machine) : List Text → Bool
  | [] => false
  | ['!'] :: rest => !m.test rest
  | [t] => !t.isEmpty
  | [['-', c], t] =>
    match c with
    | 'n' => !t.isEmpty
    | 'z' => t.isEmpty
    | 'f' => m.disk.isFile ⟨t⟩
    | 'd' => m.disk.isDirectory ⟨t⟩
    | 'e' => m.disk.pathExists ⟨t⟩
    | 'r' => m.disk.pathExists ⟨t⟩
    | 's' => match m.disk.readBytes ⟨t⟩ with
      | .ok body => 0 < body.size
      | .error _ => false
    | _ => false
  | [a, op, b] =>
    if op == "=".toList then a == b
    else if op == "!=".toList then a != b
    else (compareNumbers op (Arithmetic.valueOf a) (Arithmetic.valueOf b)).getD false
  | _ => false

def signalOf (t : Text) : Option Nat :=
  match String.ofList t with
  | "-9" | "-KILL" | "-SIGKILL" => some 9
  | "-15" | "-TERM" | "-SIGTERM" => some 15
  | "-1" | "-HUP" => some 1
  | "-2" | "-INT" => some 2
  | "-6" | "-ABRT" => some 6
  | _ => none

def kill (m : Machine) (args : List Text) : Flow × Machine :=
  match args with
  | [signal, target] =>
    match signalOf signal with
    | some n => if target == processId then (.killed n, m) else (.next, m.withStatus 1)
    | none => (.next, m.withStatus 1)
  | [target] => if target == processId then (.killed 15, m) else (.next, m.withStatus 1)
  | _ => (.next, m.withStatus 2)

def call (m : Machine) (name : Text) (args : List Text) : Flow × Machine :=
  match String.ofList name with
  | "printf" => match args with
    | format :: args => (.next, (m.print (Printf.printf format args)).ok)
    | [] => (.next, (m.complain "printf: usage: printf format [arg ...]").withStatus 2)
  | "echo" => (.next, m.echo args)
  | "cat" => (.next, m.cat args)
  | "read" => (.next, m.readLine args)
  | "true" => (.next, m.ok)
  | ":" => (.next, m.ok)
  | "false" => (.next, m.withStatus 1)
  | "test" => (.next, m.withStatus (if m.test args then 0 else 1))
  | "[" => (.next, m.withStatus (if m.test args.dropLast then 0 else 1))
  | "kill" => m.kill args
  | "shift" => (.next, { m with params := m.params.drop 1 }.ok)
  | "set" => (.next, m.ok)
  | "break" => (.break, m.ok)
  | "continue" => (.continue, m.ok)
  | "exit" => match args with
    | code :: _ => (.leave, m.withStatus ((Arithmetic.valueOf code) % 256).toNat)
    | [] => (.leave, m)
  | _ => (.next, (m.complain (name ++ ": not found")).withStatus 127)

def setStream (m : Machine) (stream : Nat) (goal : Stream) : Machine :=
  if stream = 2 then { m with stderr := goal } else { m with stdout := goal }

/-- Why a file cannot be opened; `missing` is said where a name on the way is not there. -/
def reason (missing : Text) (fault : Fault) : Text :=
  if fault == .notFound || fault == .notADirectory then missing
  else Text.trimEnd (fault.message.takeWhile (· != '('))

def redirect (m : Machine) : List Redirect → Except Text Machine
  | [] => .ok m
  | .input w :: rest =>
    let file := m.expandText w
    if file == "/dev/null".toList then { m with input := [] }.redirect rest
    else match m.disk.readBytes ⟨file⟩ with
      | .ok body => { m with input := Text.octets body.toList }.redirect rest
      | .error .isADirectory => { m with input := [] }.redirect rest
      | .error fault => .error ("cannot open " ++ file ++ ": " ++ reason "No such file" fault)
  | .output stream w :: rest =>
    let file := m.expandText w
    if file == "/dev/null".toList then (m.setStream stream .nowhere).redirect rest
    else match m.disk.write ⟨file⟩ .empty with
      | .ok disk => ({ m with disk }.setStream stream (.file ⟨file⟩)).redirect rest
      | .error fault =>
        .error ("cannot create " ++ file ++ ": " ++ reason "Directory nonexistent" fault)
  | .copy stream target :: rest =>
    (m.setStream stream (if target = 2 then m.stderr else m.stdout)).redirect rest

/-- Puts the streams back as they were; input that was read from elsewhere is forgotten. -/
def restore (m before : Machine) (redirects : List Redirect) : Machine :=
  let inputChanged := redirects.any fun r => match r with
    | .input _ => true
    | _ => false
  { m with
    stdout := before.stdout
    stderr := before.stderr
    input := if inputChanged then before.input else m.input }

def assignAll (m : Machine) (assignments : List (Text × Word)) : Machine :=
  assignments.foldl (fun m (name, w) => m.assign name (m.expandText w)) m

def runSimple (m : Machine) (assignments : List (Text × Word)) (words : List Word)
    (redirects : List Redirect) : Flow × Machine :=
  match words.flatMap m.expandFields with
  | [] => (.next, (m.assignAll assignments).ok)
  | name :: args =>
    match m.redirect redirects with
    | .error message => (.next, (m.complain message).withStatus 2)
    | .ok redirected =>
      let (flow, after) := (redirected.assignAll assignments).call name args
      let kept := assignments.foldl (fun a (name, _) => a.assign name (m.lookup name)) after
      let unset := assignments.filter fun (name, _) => (m.bindings.lookup name).isNone
      let kept := { kept with
        bindings := kept.bindings.filter fun (name, _) => !unset.any (·.1 == name) }
      (flow, kept.restore m redirects)

def firstBranch (m : Machine) (subject : Text) :
    List (List Word × Command) → Option Command
  | [] => none
  | (patterns, body) :: rest =>
    if patterns.any fun w => fits (w.flatMap m.pieceMarks) subject then some body
    else m.firstBranch subject rest

/-- Runs a command. The number bounds the rounds of loops and the depth of commands. -/
def run : Nat → Command → Machine → Flow × Machine
  | 0, _, m => (.leave, m)
  | n + 1, command, m =>
    match command with
    | .simple assignments words redirects => m.runSimple assignments words redirects
    | .sequence a b =>
      match run n a m with
      | (.next, m) => run n b m
      | stopped => stopped
    | .and a b =>
      match run n a m with
      | (.next, m) => if m.status = 0 then run n b m else (.next, m)
      | stopped => stopped
    | .or a b =>
      match run n a m with
      | (.next, m) => if m.status = 0 then (.next, m) else run n b m
      | stopped => stopped
    | .not a =>
      match run n a m with
      | (.next, m) => (.next, m.withStatus (if m.status = 0 then 1 else 0))
      | stopped => stopped
    | .loop whileTrue test body => run n (.again whileTrue test body) m.ok
    | .again whileTrue test body =>
      match run n test m with
      | (.next, tested) =>
        if (tested.status = 0) == whileTrue then
          match run n body tested with
          | (.next, m) => run n command m
          | (.continue, m) => run n command m
          | (.break, m) => (.next, m)
          | stopped => stopped
        else (.next, tested.withStatus m.status)
      | stopped => stopped
    | .forEach name items body =>
      match items.flatMap m.expandFields with
      | [] => (.next, m.ok)
      | first :: rest =>
        match run n body (m.assign name first) with
        | (.break, m) => (.next, m)
        | (.leave, m) => (.leave, m)
        | (.killed s, m) => (.killed s, m)
        | (_, m) =>
          if rest.isEmpty then (.next, m)
          else run n (.forEach name (rest.map fun t => [.literal t true]) body) m
    | .choose test yes no =>
      match run n test m with
      | (.next, m) => if m.status = 0 then run n yes m else run n no m
      | stopped => stopped
    | .case subject branches =>
      match m.firstBranch (m.expandText subject) branches with
      | some body => run n body m
      | none => (.next, m.ok)
    | .redirected body redirects =>
      match m.redirect redirects with
      | .error message => (.next, (m.complain message).withStatus 2)
      | .ok redirected =>
        let (flow, after) := run n body redirected
        (flow, after.restore m redirects)

end Machine
end TemplateCheck.Shell
