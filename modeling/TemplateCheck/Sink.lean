import TemplateCheck.Error

/-!
Where a report goes: a sink keeps the bytes that it accepts, may be full after some of them, and may
refuse to be flushed.
-/
namespace TemplateCheck

structure Sink where
  held : ByteArray := .empty
  /-- How many bytes it accepts in all; none means that it accepts everything. -/
  limit : Option Nat := none
  flushFails : Bool := false

namespace Sink

/-- How many more bytes are accepted of `size` that are offered. -/
def room (s : Sink) (size : Nat) : Nat :=
  match s.limit with
  | none => size
  | some limit => limit - s.held.size

/-- Keeps as much as there is room for and fails if that is not all. -/
def put (s : Sink) (b : ByteArray) : Except Cause Unit × Sink :=
  let room := s.room b.size
  if b.size ≤ room then (.ok (), { s with held := s.held ++ b })
  else (.error (.other "sink full"), { s with held := s.held ++ b.extract 0 room })

/-- Writes pieces one after the other and stops at the first failure. -/
def putAll (s : Sink) : List Text → Except Cause Unit × Sink
  | [] => (.ok (), s)
  | piece :: rest =>
    match s.put (Text.bytes piece) with
    | (.ok (), s') => s'.putAll rest
    | (.error cause, s') => (.error cause, s')

def flush (s : Sink) : Except Cause Unit :=
  if s.flushFails then .error (.other "flush failed") else .ok ()

def deliver (s : Sink) (pieces : List Text) : Except Cause Unit × Sink :=
  match s.putAll pieces with
  | (.error cause, s') => (.error cause, s')
  | (.ok (), s') => (s'.flush, s')

end Sink
end TemplateCheck
