/-
Writing a text in escaped form.

Every code point is escaped, or only the first one and the rest is copied. Two things have no spelling: an unpaired half,
and a copied character that would open an escape. The first of them in the text is the fault reported; its position counts
units.
-/
import IdentifierText.Escape.Form
import IdentifierText.Quoted
import IdentifierText.Utf16.Text

namespace IdentifierText.Escape

open Utf16

inductive WriteFault where
  /-- half of a pair without its partner -/
  | unpaired (offset : Nat) (half : UInt16)
  /-- copied character that reads as the start of an escape -/
  | introducer (offset : Nat) (found : Char)
  deriving DecidableEq, Repr

def WriteFault.message : WriteFault → String
  | unpaired offset half =>
    s!"unpaired surrogate {(CodePoint.ofUnit half).label} at offset {offset} has no escaped spelling"
  | introducer offset found => s!"literal {Quoted.char found} at offset {offset} would start an escape"

def writeEscaped (form : Form) (placed : Placed) : Except WriteFault (List Char) :=
  match placed.point.toChar with
  | .error half => .error (.unpaired placed.offset half)
  | .ok _ => .ok (form.encode placed.point)

def writeLiteral (form : Form) (placed : Placed) : Except WriteFault (List Char) :=
  match placed.point.toChar with
  | .error half => .error (.unpaired placed.offset half)
  | .ok c => if c = form.grammar.introducer then .error (.introducer placed.offset c) else .ok [c]

def Coverage.writeLater : Coverage → Form → Placed → Except WriteFault (List Char)
  | all => writeEscaped
  | firstOnly => writeLiteral

/-- the pieces of the spelling, one for each code point -/
def writePoints (form : Form) (coverage : Coverage) : List Placed → Except WriteFault (List (List Char))
  | [] => .ok []
  | first :: rest => do
    let head ← writeEscaped form first
    let tail ← rest.mapM (coverage.writeLater form)
    return head :: tail

def write (form : Form) (coverage : Coverage) (text : List UInt16) : Except WriteFault String :=
  (writePoints form coverage (indexed text)).map fun pieces => .ofList pieces.flatten

def writeString (form : Form) (coverage : Coverage) (s : String) : Except WriteFault String :=
  write form coverage (ofString s)

end IdentifierText.Escape
