import IdentifierText.Utf16.Cursor
import IdentifierText.Escape.ByteReading
import IdentifierText.Escape.Case
import IdentifierText.Main
import IdentifierText.Proofs.Traversal
import IdentifierText.Proofs.FormatDeletion
import IdentifierText.Proofs.IdentifierRules
import IdentifierText.Proofs.RoundTrip
import IdentifierText.Proofs.StrippedVerdict
import IdentifierText.Proofs.CaseCheck
import IdentifierText.Proofs.EscapeGrammar
import IdentifierText.Proofs.Spellable
import IdentifierText.Proofs.IdentifierCase
import IdentifierText.Proofs.Transcript
import IdentifierText.Proofs.FailingIdentifier
import IdentifierText.Proofs.ProgramOutcome
import IdentifierText.Proofs.StringText
import IdentifierText.Proofs.SpellingFaults
import IdentifierText.Proofs.ReadingInParts
import IdentifierText.Proofs.MixedSpelling
import IdentifierText.Proofs.ShownText
import IdentifierText.Proofs.StreamingEnumeration
import IdentifierText.Proofs.Concatenation
import IdentifierText.Proofs.DeletionRounds
import IdentifierText.Proofs.PairedHalves
import IdentifierText.Proofs.CommandLineGrammar
import IdentifierText.Proofs.DistinctSpellings
import IdentifierText.Proofs.UsageErrors
import IdentifierText.Proofs.ClassifyListing
import IdentifierText.Proofs.DigitRuns
import IdentifierText.Proofs.ByteSafety
