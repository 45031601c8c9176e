/-
The thirty general categories of code points in the Unicode Standard, with their long names.
-/

namespace IdentifierText.Unicode

/-- the General_Category values -/
inductive GeneralCategory where
  | uppercaseLetter
  | lowercaseLetter
  | titlecaseLetter
  | modifierLetter
  | otherLetter
  | nonspacingMark
  | spacingMark
  | enclosingMark
  | decimalNumber
  | letterNumber
  | otherNumber
  | connectorPunctuation
  | dashPunctuation
  | openPunctuation
  | closePunctuation
  | initialPunctuation
  | finalPunctuation
  | otherPunctuation
  | mathSymbol
  | currencySymbol
  | modifierSymbol
  | otherSymbol
  | spaceSeparator
  | lineSeparator
  | paragraphSeparator
  | control
  | format
  | surrogate
  | privateUse
  | unassigned
  deriving DecidableEq, Repr

namespace GeneralCategory

def name : GeneralCategory → String
  | uppercaseLetter => "UppercaseLetter"
  | lowercaseLetter => "LowercaseLetter"
  | titlecaseLetter => "TitlecaseLetter"
  | modifierLetter => "ModifierLetter"
  | otherLetter => "OtherLetter"
  | nonspacingMark => "NonspacingMark"
  | spacingMark => "SpacingMark"
  | enclosingMark => "EnclosingMark"
  | decimalNumber => "DecimalNumber"
  | letterNumber => "LetterNumber"
  | otherNumber => "OtherNumber"
  | connectorPunctuation => "ConnectorPunctuation"
  | dashPunctuation => "DashPunctuation"
  | openPunctuation => "OpenPunctuation"
  | closePunctuation => "ClosePunctuation"
  | initialPunctuation => "InitialPunctuation"
  | finalPunctuation => "FinalPunctuation"
  | otherPunctuation => "OtherPunctuation"
  | mathSymbol => "MathSymbol"
  | currencySymbol => "CurrencySymbol"
  | modifierSymbol => "ModifierSymbol"
  | otherSymbol => "OtherSymbol"
  | spaceSeparator => "SpaceSeparator"
  | lineSeparator => "LineSeparator"
  | paragraphSeparator => "ParagraphSeparator"
  | control => "Control"
  | format => "Format"
  | surrogate => "Surrogate"
  | privateUse => "PrivateUse"
  | unassigned => "Unassigned"

end GeneralCategory

end IdentifierText.Unicode
