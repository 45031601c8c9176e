/-
The escaped forms of a code point, and the two grammars that read them.

Source text has `\u` with four hexadecimal digits, one escape per unit, and `\U` with eight, one escape per code point.
Markup has character references in either radix, closed by a semicolon. Every code point has an escape in every form,
surrogates too.
-/
import IdentifierText.CodePoint

namespace IdentifierText.Escape

/-- the notations in which escapes are read -/
inductive Grammar where
  | source
  | markup
  deriving DecidableEq, Repr

/-- the character that opens every escape of a grammar -/
def Grammar.introducer : Grammar → Char
  | source => '\\'
  | markup => '&'

/-- the ways to spell a code point by number -/
inductive Form where
  | numeric4
  | numeric8
  | entityDecimal
  | entityHex
  deriving DecidableEq, Repr

namespace Form

def name : Form → String
  | numeric4 => "numeric-4"
  | numeric8 => "numeric-8"
  | entityDecimal => "entity-decimal"
  | entityHex => "entity-hex"

def grammar : Form → Grammar
  | numeric4 | numeric8 => .source
  | entityDecimal | entityHex => .markup

/-- the escape of one unit with four digits -/
def unitEscape (u : UInt16) : List Char :=
  ['\\', 'u'] ++ Radix.hexadecimal.fixedNumeral 4 u.toNat

def encode : Form → CodePoint → List Char
  | numeric4, c => c.units.flatMap unitEscape
  | numeric8, c => ['\\', 'U'] ++ Radix.hexadecimal.fixedNumeral 8 c.val
  | entityDecimal, c => ['&', '#'] ++ Radix.decimal.numeral c.val ++ [';']
  | entityHex, c => ['&', '#', 'x'] ++ Radix.hexadecimal.numeral c.val ++ [';']

end Form

/-- how much of a text is escaped -/
inductive Coverage where
  | all
  | firstOnly
  deriving DecidableEq, Repr

namespace Coverage

def name : Coverage → String
  | all => "all"
  | firstOnly => "first-only"

end Coverage

end IdentifierText.Escape
