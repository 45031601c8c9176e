/-
Whether a text is an identifier, and if not, the first offence.

An identifier is a code point that may start one, followed by code points that may continue it. An unpaired half is
reported as such wherever it stands; positions count units of the text.
-/
import IdentifierText.Identifier.CharClass
import IdentifierText.Utf16.Text

namespace IdentifierText

open Utf16

inductive Verdict where
  | valid
  | empty
  /-- half of a pair without its partner -/
  | unpaired (offset : Nat) (half : UInt16)
  /-- first code point that may not start an identifier -/
  | badStart (found : CodePoint)
  /-- later code point that may not stand in an identifier -/
  | badPart (offset : Nat) (found : CodePoint)
  deriving DecidableEq, Repr

namespace Verdict

def isValid (v : Verdict) : Bool :=
  v = valid

def message : Verdict → String
  | valid => "valid identifier"
  | empty => "identifier is empty"
  | unpaired offset half => s!"unpaired surrogate {(CodePoint.ofUnit half).label} at offset {offset}"
  | badStart found => s!"{found.label} cannot start an identifier"
  | badPart offset found => s!"{found.label} at offset {offset} cannot appear in an identifier"

/-- the offence of the first code point of a text -/
def atStart? (placed : Placed) : Option Verdict :=
  match placed.point.half? with
  | some half => some (unpaired placed.offset half)
  | none => if placed.point.isStart then none else some (badStart placed.point)

/-- the offence of a later code point -/
def atPart? (placed : Placed) : Option Verdict :=
  match placed.point.half? with
  | some half => some (unpaired placed.offset half)
  | none => if placed.point.isPart then none else some (badPart placed.offset placed.point)

/-- the verdict on code points with their positions: the first offence, if there is one -/
def ofPoints : List Placed → Verdict
  | [] => empty
  | first :: rest => ((atStart? first).or (rest.findSome? atPart?)).getD valid

def ofText (text : List UInt16) : Verdict :=
  ofPoints (indexed text)

/-- the verdict on a string, with positions in its UTF-16 encoding -/
def ofString (s : String) : Verdict :=
  ofPoints (indexedString s)

end Verdict

def isIdentifier (text : List UInt16) : Bool :=
  (Verdict.ofText text).isValid

end IdentifierText
