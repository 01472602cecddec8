import TemplateCheck.Crash
import TemplateCheck.Error
import TemplateCheck.Log
import TemplateCheck.Process
import TemplateCheck.Sink

/-!
The world of a check and the computations on it.

A computation reads and changes a `World`, and ends with a value, with an error or with a crash. What
has happened to the world by then stays, whichever way it ends.
-/
namespace TemplateCheck

/-- What a capability was asked for. -/
inductive Request where
  | compile (path : Path)
  | files (root : Path)
  | lint (files : List Path)
  deriving DecidableEq, Repr

/-- A request, and what the check was busy with when it was made. -/
structure Call where
  request : Request
  context : Context
  progress : Progress
  deriving DecidableEq, Repr

structure World where
  disk : Disk
  context : Context := {}
  progress : Progress := {}
  log : Array Log.Entry := #[]
  calls : Array Call := #[]
  processes : Array Process := #[]
  output : Sink := {}

/-- Puts the context of a guard back and keeps everything else. -/
def World.release (w : World) (guard : Guard) : World :=
  { w with context := w.context.release guard }

/-- How a computation ends early. -/
inductive Halt (ε : Type) where
  | failed (error : ε)
  | crashed (crash : Crash)
  deriving DecidableEq, Repr

abbrev CheckM (ε : Type) := EStateM (Halt ε) World

namespace CheckM

variable {ε δ α : Type}

def fail (error : ε) : CheckM ε α := throw (.failed error)

def crash (payload : Text) : CheckM ε α := do
  let w ← get
  throw (.crashed ⟨some payload, w.context, w.progress⟩)

def mapError (f : ε → δ) (action : CheckM ε α) : CheckM δ α := fun w =>
  match action w with
  | .ok a w' => .ok a w'
  | .error (.failed e) w' => .error (.failed (f e)) w'
  | .error (.crashed c) w' => .error (.crashed c) w'

def ofExcept (f : δ → ε) : Except δ α → CheckM ε α
  | .ok a => pure a
  | .error e => fail (f e)

def readDisk : CheckM ε Disk := return (← get).disk

def note (level : Log.Level) (area : Log.Area) (message : Text) : CheckM ε Unit :=
  modify fun w => { w with log := w.log.push ⟨level, area, message⟩ }

def record (request : Request) : CheckM ε Unit :=
  modify fun w => { w with calls := w.calls.push ⟨request, w.context, w.progress⟩ }

def launch (programs : Programs) (file : Path) (program : Text) (args : List Text) :
    CheckM ε (Except Fault Exit) := do
  let w ← get
  let outcome := programs.start w.processes w.disk program args
  set { w with processes := w.processes.push ⟨program, args, file, w.disk, outcome⟩ }
  return outcome

def setProgress (processed total : UInt64) : CheckM ε Unit :=
  modify fun w => { w with progress := ⟨processed, total⟩ }

def advance : CheckM ε Unit := modify fun w => { w with progress := w.progress.advance }

/-- Runs an action under a setting of the context and releases the guard on every way out. -/
def within (setting : Setting) (action : CheckM ε α) : CheckM ε α := fun w =>
  let (guard, context) := w.context.enter setting
  match action { w with context } with
  | .ok a w' => .ok a (w'.release guard)
  | .error halt w' => .error halt (w'.release guard)

end CheckM

abbrev Check := CheckM CheckError

namespace Check

open CheckM

def readText (path : Path) : Check Text := do
  match (← readDisk).readText path with
  | .ok text => return text
  | .error fault => fail (.io "Failed to read file" path (.fault fault))

def writeText (path : Path) (text : Text) : Check Unit := do
  match (← readDisk).write path (Text.bytes text) with
  | .ok disk => modify fun w => { w with disk }
  | .error fault => fail (.io "Failed to write file" path (.fault fault))

/-- Writes a text to a medium, which may have taken a part of it only when it fails. -/
def storeText (medium : Medium) (path : Path) (text : Text) : Check Unit := do
  let (result, disk) := (← readDisk).store medium path (Text.bytes text)
  modify fun w => { w with disk }
  match result with
  | .ok () => return ()
  | .error fault => fail (.io "Failed to write file" path (.fault fault))

/-- Creates a directory with its ancestors unless something is there already. -/
def ensureDirectory (path : Path) : Check Unit := do
  let disk ← readDisk
  if disk.pathExists path then return ()
  let (result, disk') := disk.makeDirectories path
  modify fun w => { w with disk := disk' }
  match result with
  | .ok () => return ()
  | .error fault => fail (.io "Failed to create directory" path (.fault fault))

def canonicalize (path : Path) : Check Path := do
  match (← readDisk).canonicalize path with
  | .ok canonical => return canonical
  | .error fault => fail (.io "Failed to resolve path" path (.fault fault))

end Check
end TemplateCheck
