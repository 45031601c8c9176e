/-
All spellings of a text, in a fixed order: form by form, and for each form with everything escaped and with only the first
code point escaped. The two coincide for a text of one code point, and then only the former is listed. Character
references are optional.
-/
import IdentifierText.Escape.Write

namespace IdentifierText.Escape

/-- a text with the form and the coverage that it is written in -/
structure Spelling where
  form : Form
  coverage : Coverage
  text : String
  deriving DecidableEq, Repr

def forms (entities : Bool) : List Form :=
  [.numeric4, .numeric8] ++ if entities then [.entityDecimal, .entityHex] else []

/-- the coverages that tell spellings apart; `several` tells whether there is more than one code point -/
def coverages (several : Bool) : List Coverage :=
  .all :: if several then [.firstOnly] else []

/-- the form and the coverage of every spelling, in order -/
def plan (entities several : Bool) : List (Form × Coverage) :=
  (forms entities).flatMap fun form => (coverages several).map fun coverage => (form, coverage)

/-- the spellings of a text, or the fault of the first one that cannot be written -/
def spellings (text : List UInt16) (entities : Bool) : Except WriteFault (List Spelling) :=
  (plan entities (1 < (Utf16.codePoints text).length)).mapM fun (form, coverage) =>
    (write form coverage text).map fun spelled => ⟨form, coverage, spelled⟩

end IdentifierText.Escape
