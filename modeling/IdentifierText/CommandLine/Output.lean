/-
Output of the commands. A sink takes bytes, all or only so many; a command writes to it piece by piece and ends at the first
failure, a full sink included. What was written before stays written.
-/
import IdentifierText.Escape.Read
import IdentifierText.Escape.Write

namespace IdentifierText.CommandLine

/-! ## Sinks -/

/-- the bytes taken so far, and how many fit at all if there is a limit -/
structure Sink where
  capacity : Option Nat := none
  written : ByteArray := .empty

namespace Sink

/-- how much of some bytes still fits -/
def fitting (sink : Sink) (bytes : ByteArray) : Nat :=
  match sink.capacity with
  | none => bytes.size
  | some n => min bytes.size (n - sink.written.size)

/-- the sink after it has taken as much of some bytes as fits -/
def take (sink : Sink) (bytes : ByteArray) : Sink :=
  { sink with written := sink.written ++ bytes.extract 0 (sink.fitting bytes) }

end Sink

/-! ## Ends -/

/-- how a command that came to its end went: a check fails if an identifier is not valid -/
inductive Status where
  | success
  | failure
  deriving DecidableEq, Repr

/-- why a command ends early -/
inductive Failure where
  /-- an identifier that is not well escaped -/
  | unreadable (argument : String) (fault : Escape.ReadFault)
  /-- an identifier that has no spelling -/
  | unwritable (fault : Escape.WriteFault)
  /-- output that does not fit -/
  | sinkFull
  deriving DecidableEq, Repr

namespace Failure

def cause? : Failure → Option String
  | unreadable _ fault => some fault.message
  | unwritable _ => none
  | sinkFull => some "sink full"

def message : Failure → String
  | unreadable argument fault => s!"cannot decode `{argument}`: {fault.message}"
  | unwritable fault => fault.message
  | sinkFull => "cannot write output: sink full"

end Failure

/-! ## Writing -/

/-- actions that write to a sink and may fail -/
abbrev Output (α : Type) := ExceptT Failure (StateM Sink) α

/-- write a text; fails after the part that fits if not all of it does -/
def put (text : String) : Output Unit := fun sink =>
  let bytes := text.toUTF8
  (if sink.fitting bytes = bytes.size then .ok () else .error .sinkFull, sink.take bytes)

end IdentifierText.CommandLine
