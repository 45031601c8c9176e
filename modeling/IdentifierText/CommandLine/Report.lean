/-
The reports that the commands write about identifiers.

`check` gives a verdict on each, `classify` lists the code points of each in columns, `strip` gives the comparison form, and
`escape` the spellings. Identifiers given in escaped form are all read before anything is written.
-/
import IdentifierText.CommandLine.Invocation
import IdentifierText.CommandLine.Output
import IdentifierText.Escape.Spelling
import IdentifierText.Identifier.ComparisonForm
import IdentifierText.Identifier.Verdict

namespace IdentifierText.CommandLine.Report

open Utf16

/-! ## Texts in reports -/

/-- a text as far as it can be shown: unpaired halves are escaped -/
def shown (text : List UInt16) : String :=
  .ofList ((codePoints text).flatMap fun c =>
    match c.toChar with
    | .ok ch => [ch]
    | .error half => Escape.Form.unitEscape half)

def checkLine (text : List UInt16) : String :=
  let verdict := Verdict.ofText text
  shown text ++ if verdict.isValid then ": valid\n" else ": invalid (" ++ verdict.message ++ ")\n"

/-- the line above the code points of a text -/
def classifyHeading (text : List UInt16) : String :=
  shown text ++ ":\n"

/-- the class of a code point, or a hyphen -/
def className (c : CodePoint) : String :=
  match c.charClass? with
  | some charClass => charClass.name
  | none => "-"

/-- position, number, category and class of a code point, in columns -/
def classifyLine (placed : Placed) : String :=
  .ofList ([' ', ' '] ++ (Radix.decimal.numeral placed.offset).leftpad 3 ' '
    ++ [' ', ' '] ++ placed.point.label.toList.rightpad 9 ' '
    ++ [' '] ++ placed.point.category.name.toList.rightpad 22 ' '
    ++ [' '] ++ (className placed.point).toList ++ ['\n'])

def stripLine (text : List UInt16) : String :=
  shown (comparisonForm text) ++ "\n"

/-- form, coverage and text of a spelling, in columns -/
def escapeLine (s : Escape.Spelling) : String :=
  .ofList (s.form.name.toList.rightpad 14 ' ' ++ [' '] ++ s.coverage.name.toList.rightpad 10 ' '
    ++ [' '] ++ s.text.toList ++ ['\n'])

/-! ## Commands -/

def check (texts : List (List UInt16)) : Output Status := do
  texts.forM fun text => put (checkLine text)
  return if texts.all isIdentifier then .success else .failure

def classify (texts : List (List UInt16)) : Output Status := do
  texts.forM fun text => do
    put (classifyHeading text)
    (indexed text).forM fun placed => put (classifyLine placed)
  return .success

def strip (texts : List (List UInt16)) : Output Status := do
  texts.forM fun text => put (stripLine text)
  return .success

/-- the spellings of each text, with a blank line between two texts -/
def escape (entities : Bool) (texts : List (List UInt16)) : Output Status := do
  texts.zipIdx.forM fun (text, index) => do
    let spellings ← (Escape.spellings text entities).mapError Failure.unwritable
    if 0 < index then put "\n"
    spellings.forM fun s => put (escapeLine s)
  return .success

/-- the text that an argument stands for -/
def readIdentifier (escaped : Bool) (argument : String) : Except Failure (List UInt16) :=
  if escaped then (Escape.read .source argument).mapError (.unreadable argument)
  else .ok (ofString argument)

def ofCommand (command : Command) (entities : Bool) : List (List UInt16) → Output Status :=
  match command with
  | .check => check
  | .classify => classify
  | .strip => strip
  | .escape => escape entities

def ofInvocation (inv : Invocation) : Output Status := do
  let texts ← (inv.identifiers.mapM (readIdentifier inv.options.escaped) : Except Failure (List (List UInt16)))
  ofCommand inv.command inv.options.entities texts

end IdentifierText.CommandLine.Report
