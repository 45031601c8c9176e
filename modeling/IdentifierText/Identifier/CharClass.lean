/-
The classes of code points that identifiers are made of. A class is a group of general categories. ASCII is decided
without the table, and with the same result: `charClass?_eq`, `isStart_eq`, `isPart_eq` and `isFormatting_eq` give every
test in terms of the category alone. `category_of_isSurrogate`: every surrogate has the category of surrogates, which is in
no class.
-/
import IdentifierText.CodePoint
import IdentifierText.Unicode.CategoryTable

namespace IdentifierText

open Unicode

/-- classes of code points in identifiers; no category belongs to two of them -/
inductive CharClass where
  | letter
  | decimalDigit
  | connecting
  | combining
  | formatting
  deriving DecidableEq, Repr

namespace CharClass

def name : CharClass → String
  | letter => "letter"
  | decimalDigit => "decimal_digit"
  | connecting => "connecting"
  | combining => "combining"
  | formatting => "formatting"

/-- the class of a category; most categories have none -/
def ofCategory? : GeneralCategory → Option CharClass
  | .uppercaseLetter | .lowercaseLetter | .titlecaseLetter | .modifierLetter | .otherLetter | .letterNumber =>
    some letter
  | .decimalNumber => some decimalDigit
  | .connectorPunctuation => some connecting
  | .nonspacingMark | .spacingMark => some combining
  | .format => some formatting
  | _ => none

end CharClass

namespace CodePoint

def category (c : CodePoint) : GeneralCategory :=
  CategoryTable.lookup c.val

def isAsciiLetter (c : CodePoint) : Bool :=
  (65 ≤ c.val ∧ c.val ≤ 90) ∨ (97 ≤ c.val ∧ c.val ≤ 122)

def isAsciiDigit (c : CodePoint) : Bool :=
  48 ≤ c.val ∧ c.val ≤ 57

/-- the low line, which may start an identifier although it is no letter -/
def isLowLine (c : CodePoint) : Bool :=
  c.val = 0x5F

def asciiClass? (c : CodePoint) : Option CharClass :=
  if c.isAsciiLetter then some .letter
  else if c.isAsciiDigit then some .decimalDigit
  else if c.isLowLine then some .connecting
  else none

def charClass? (c : CodePoint) : Option CharClass :=
  if c.IsAscii then c.asciiClass? else CharClass.ofCategory? c.category

/-- may start an identifier: a letter or the low line -/
def isStart (c : CodePoint) : Bool :=
  if c.IsAscii then c.isAsciiLetter || c.isLowLine
  else CharClass.ofCategory? c.category = some .letter

/-- may stand in an identifier after its start: anything that has a class -/
def isPart (c : CodePoint) : Bool :=
  if c.IsAscii then c.isAsciiLetter || c.isAsciiDigit || c.isLowLine
  else (CharClass.ofCategory? c.category).isSome

/-- ignored when identifiers are compared; there is no such character in ASCII -/
def isFormatting (c : CodePoint) : Bool :=
  ¬c.IsAscii ∧ c.category = .format

/-! ## ASCII by the table -/

/-- The table agrees with the classes of ASCII. -/
theorem ofCategory?_of_ascii {c : CodePoint} (h : c.IsAscii) : CharClass.ofCategory? c.category = c.asciiClass? := by
  have hall : ∀ n, (hn : n < 0x80) →
      CharClass.ofCategory? (category ⟨n, by omega⟩) = asciiClass? ⟨n, by omega⟩ := by decide +kernel
  exact hall c.val h

theorem charClass?_eq (c : CodePoint) : c.charClass? = CharClass.ofCategory? c.category := by
  unfold charClass?
  split
  · rename_i h; exact (ofCategory?_of_ascii h).symm
  · rfl

theorem isStart_eq (c : CodePoint) :
    c.isStart = (decide (CharClass.ofCategory? c.category = some .letter) || c.isLowLine) := by
  unfold isStart
  split
  · rename_i h
    rw [ofCategory?_of_ascii h, asciiClass?]
    by_cases hl : c.isAsciiLetter <;> by_cases hd : c.isAsciiDigit <;> by_cases hu : c.isLowLine <;> simp [hl, hd, hu]
  · rename_i h
    have hu : c.isLowLine = false := by simp only [isLowLine, IsAscii, decide_eq_false_iff_not] at *; omega
    simp [hu]

theorem isPart_eq (c : CodePoint) : c.isPart = (CharClass.ofCategory? c.category).isSome := by
  unfold isPart
  split
  · rename_i h
    rw [ofCategory?_of_ascii h, asciiClass?]
    by_cases hl : c.isAsciiLetter <;> by_cases hd : c.isAsciiDigit <;> by_cases hu : c.isLowLine <;> simp [hl, hd, hu]
  · rfl

theorem isFormatting_eq (c : CodePoint) : c.isFormatting = decide (c.category = .format) := by
  unfold isFormatting
  by_cases h : c.IsAscii
  · have hne : c.category ≠ .format := by
      intro hf
      have ha := ofCategory?_of_ascii h
      rw [hf, asciiClass?] at ha
      by_cases hl : c.isAsciiLetter <;> by_cases hd : c.isAsciiDigit <;> by_cases hu : c.isLowLine <;>
        simp [hl, hd, hu, CharClass.ofCategory?] at ha
    simp [hne]
  · simp [h]

/-! ## Surrogates by the table -/

/-- the run of the surrogates in the table -/
theorem surrogates_mem_runs : (⟨0xD800, 0xDFFF, .surrogate⟩ : Run GeneralCategory) ∈ CategoryTable.runs := by
  decide +kernel

theorem category_of_isSurrogate {c : CodePoint} (h : c.IsSurrogate) : c.category = .surrogate := by
  have hholds : (⟨0xD800, 0xDFFF, .surrogate⟩ : Run GeneralCategory).holds c.val := by
    simpa [Run.holds, IsSurrogate] using h
  rw [category, CategoryTable.lookup_eq, Run.lookup?_of_mem CategoryTable.sorted_runs surrogates_mem_runs hholds,
    Option.getD_some]

theorem not_isSurrogate_of_format {c : CodePoint} (h : c.category = .format) : ¬c.IsSurrogate := by
  intro hs
  rw [category_of_isSurrogate hs] at h
  cases h

end CodePoint

end IdentifierText
