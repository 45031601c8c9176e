/-
A test case for readers of identifiers: a text, whether it is an identifier, its comparison form, and its spellings, each of
which has to read as the text. The fields may be changed after the case is made; `verify` holds the spellings against the
text.
-/
import IdentifierText.Escape.Read
import IdentifierText.Escape.Spelling
import IdentifierText.Identifier.ComparisonForm
import IdentifierText.Identifier.Verdict

namespace IdentifierText.Escape

/-- a text and what is expected of it -/
structure Case where
  text : List UInt16
  isIdentifier : Bool
  comparisonForm : List UInt16
  spellings : List Spelling
  deriving DecidableEq, Repr

/-- a spelling that does not read as its text -/
inductive CaseFault where
  | unreadable (spelling : Spelling) (fault : ReadFault)
  | mismatch (spelling : Spelling)
  deriving DecidableEq, Repr

namespace CaseFault

def message : CaseFault → String
  | unreadable s _ => s!"{s.form.name} {s.coverage.name} spelling {Quoted.string s.text} does not decode"
  | mismatch s => s!"{s.form.name} {s.coverage.name} spelling {Quoted.string s.text} decodes to a different identifier"

end CaseFault

/-- whether a spelling reads as a text -/
def Spelling.verify (text : List UInt16) (s : Spelling) : Except CaseFault Unit :=
  match read s.form.grammar s.text with
  | .error fault => .error (.unreadable s fault)
  | .ok units => if units = text then .ok () else .error (.mismatch s)

namespace Case

def ofText (text : List UInt16) (entities : Bool) : Except WriteFault Case :=
  (Escape.spellings text entities).map fun spellings =>
    ⟨text, IdentifierText.isIdentifier text, IdentifierText.comparisonForm text, spellings⟩

def ofString (s : String) (entities : Bool) : Except WriteFault Case :=
  ofText (Utf16.ofString s) entities

def hasMarkup (c : Case) : Bool :=
  c.spellings.any (·.form.grammar = .markup)

/-- the first spelling, if any, that does not read as the text -/
def verify (c : Case) : Except CaseFault Unit :=
  c.spellings.forM (·.verify c.text)

end Case

end IdentifierText.Escape
