/-
Characters and strings in quotation marks, as messages show them. The mark and the backslash get a backslash in front;
tab, line feed, return and NUL have a letter or digit each; other characters that do not show are given by their number in
hexadecimal, in lower case and without zeros in front.
-/
import IdentifierText.Unicode.Unprintable

namespace IdentifierText.Quoted

/-- whether a character is given by its number -/
def isNumbered (c : Char) : Bool :=
  c.toNat < 0x20 || c.toNat = 0x7F || (0x80 ≤ c.toNat && Unicode.Unprintable.contains c.toNat)

/-- one character between the given marks -/
def escape (mark c : Char) : List Char :=
  if c = mark ∨ c = '\\' then ['\\', c]
  else if c = '\t' then ['\\', 't']
  else if c = '\n' then ['\\', 'n']
  else if c = '\x0d' then ['\\', 'r']
  else if c = '\x00' then ['\\', '0']
  else if isNumbered c then ['\\', 'u', '\x7b'] ++ Nat.toDigits 16 c.toNat ++ ['\x7d']
  else [c]

def quote (mark : Char) (text : List Char) : String :=
  .ofList (mark :: text.flatMap (escape mark) ++ [mark])

def char (c : Char) : String :=
  quote '\x27' [c]

def string (s : String) : String :=
  quote '\x22' s.toList

end IdentifierText.Quoted
