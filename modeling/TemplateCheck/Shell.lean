import TemplateCheck.Shell.Machine
import TemplateCheck.Tool

/-!
The programs that come with a system as far as tools are made of them: the shell and a few small
commands.
-/
namespace TemplateCheck.Shell

def patience : Nat := 1000000

def exitOf (flow : Flow) (m : Machine) : Exit × Disk :=
  let status : Status := match flow with
    | .killed signal => .killed signal
    | _ => .exited m.status
  (⟨status, Text.octetBytes m.out.reverse.flatten, Text.octetBytes m.err.reverse.flatten⟩, m.disk)

def runScript (m : Machine) (script : Text) : Exit × Disk :=
  match read? script with
  | some command =>
    let (flow, m) := m.run patience command
    exitOf flow m
  | none => exitOf .next ((m.complain "Syntax error").withStatus 2)

/-- The shell itself: a script behind `-c`, a script file, or a script on its empty input. -/
def shell (d : Disk) (args : List Text) : Exit × Disk :=
  match args with
  | ['-', 'c'] :: script :: rest =>
    let rest := rest.map Text.spelling
    let m : Machine := { disk := d, name := rest.headD "sh", params := rest.drop 1 }
    runScript m (Text.spelling script)
  | [['-', 'c']] =>
    exitOf .next { disk := d, name := [], err := ["sh: 0: -c requires an argument\n".toList], status := 2 }
  | file :: rest =>
    match d.readBytes (.ofText file) with
    | .ok body =>
      let m : Machine := { disk := d, name := Text.spelling file, params := rest.map Text.spelling }
      runScript m (Text.octets body.toList)
    | .error _ =>
      let m : Machine := { disk := d, name := "sh" }
      exitOf .next
        ((m.send .err ("sh: 0: cannot open " ++ Text.spelling file ++ ": No such file\n")).withStatus 2)
  | [] => (⟨.exited 0, [], []⟩, d)

/-- A command that also exists as a program of its own. As a program, `echo` leaves escapes alone. -/
def builtin (d : Disk) (name : Text) (args : List Text) : Exit × Disk :=
  let m : Machine := { disk := d, name }
  let args := args.map Text.spelling
  if name == "echo".toList then exitOf .next (m.print (Text.join " " args ++ ['\n']))
  else
    let (flow, m) := m.call name args
    exitOf flow m

def standalone : List Text :=
  ["printf".toList, "echo".toList, "cat".toList, "true".toList, "false".toList, "test".toList,
    "[".toList]

def programDirectories : List Text := ["/bin/".toList, "/usr/bin/".toList]

def systemProgram? (program : Text) : Option Text :=
  let name := (programDirectories.findSome? fun dir =>
    if dir.isPrefixOf program then some (program.drop dir.length) else none).getD program
  if name == "sh".toList || standalone.contains name then some name else none

def startProgram (d : Disk) (name : Text) (args : List Text) : Exit × Disk :=
  if name == "sh".toList then shell d args else builtin d name args

/-- Why a program that is no part of the system does not start. Files on the disk are no programs. -/
def refusal (d : Disk) (program : Text) : Fault :=
  if program.elem '/' then
    match d.resolve (.ofText program) with
    | .ok _ => .permissionDenied
    | .error fault => fault
  else .notFound

def start (d : Disk) (program : Text) (args : List Text) : Except Fault (Exit × Disk) :=
  if program.elem '\x00' || args.any (·.elem '\x00') then .error .nulInArgument
  else match systemProgram? program with
    | some name => .ok (startProgram d name args)
    | none => .error (refusal d program)

def programs : Programs where
  start _ d program args := (start d program args).map Prod.fst

end TemplateCheck.Shell
