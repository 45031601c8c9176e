/-
The form in which identifiers are compared: the text without its formatting code points.

Deleting a formatting code point can bring a high and a low half together, and the pair can be a formatting code point
again. So a round deletes the formatting code points that the text has (`dropFormatFrom`), and rounds follow each other
until none is left (`settle`); each makes the text shorter (`length_dropFormatFrom_lt`).
-/
import IdentifierText.Identifier.CharClass
import IdentifierText.Utf16.Text

namespace IdentifierText.ComparisonForm

open Utf16

def firstFormat? (text : List UInt16) : Option Nat :=
  ((indexed text).find? (·.point.isFormatting)).map (·.offset)

/-- the code points that count in a comparison -/
def significant (points : List CodePoint) : List CodePoint :=
  points.filter (!·.isFormatting)

/-- one round, knowing that the first `first` units hold no formatting code point: they stay as they are -/
def dropFormatFrom (first : Nat) (text : List UInt16) : List UInt16 :=
  text.take first ++ encode (significant (codePoints (text.drop first)))

theorem significant_cons {c : CodePoint} (hc : c.isFormatting = false) (points : List CodePoint) :
    significant (c :: points) = c :: significant points := by
  simp [significant, hc]

theorem significant_cons_of_formatting {c : CodePoint} (hc : c.isFormatting = true) (points : List CodePoint) :
    significant (c :: points) = significant points := by
  simp [significant, hc]

theorem significant_append (points others : List CodePoint) :
    significant (points ++ others) = significant points ++ significant others :=
  List.filter_append points others

theorem significant_eq_self {points : List CodePoint} (h : ∀ c ∈ points, c.isFormatting = false) :
    significant points = points :=
  List.filter_eq_self.2 fun c hc => by rw [h c hc, Bool.not_false]

/-- Formatting code points and significant ones share the units. -/
theorem length_encode_formatting_add_significant (points : List CodePoint) :
    (encode (points.filter (·.isFormatting))).length + (encode (significant points)).length = (encode points).length := by
  induction points with
  | nil => rfl
  | cons c points ih =>
    rw [encode_cons, List.length_append, ← ih]
    by_cases hc : c.isFormatting = true
    · rw [List.filter_cons_of_pos hc, significant_cons_of_formatting hc, encode_cons, List.length_append, Nat.add_assoc]
    · rw [List.filter_cons_of_neg hc, significant_cons (eq_false_of_ne_true hc), encode_cons,
        List.length_append, Nat.add_left_comm]

theorem length_encode_significant_lt {points : List CodePoint} {c : CodePoint} (hc : c ∈ points)
    (hf : c.isFormatting = true) : (encode (significant points)).length < (encode points).length := by
  have hsum := length_encode_formatting_add_significant points
  have hpos : 0 < (points.filter (·.isFormatting)).length := List.length_pos_of_mem (List.mem_filter.2 ⟨hc, hf⟩)
  have hle := length_le_length_encode (points.filter (·.isFormatting))
  omega

/-- A round makes the text shorter. -/
theorem length_dropFormatFrom_lt {text : List UInt16} {first : Nat} (h : firstFormat? text = some first) :
    (dropFormatFrom first text).length < text.length := by
  obtain ⟨⟨p, c⟩, hfind, rfl⟩ := Option.map_eq_some_iff.1 h
  have hf : c.isFormatting = true := by simpa using List.find?_some hfind
  obtain ⟨_, hlt, hmem⟩ := mem_indexedFrom (List.mem_of_find?_eq_some hfind)
  rw [Nat.sub_zero] at hlt hmem
  have hs := length_encode_significant_lt hmem hf
  rw [encode_codePoints, List.length_drop] at hs
  simp only [dropFormatFrom, List.length_append, List.length_take]
  omega

/-- rounds until no formatting code point is left -/
def settle (text : List UInt16) : List UInt16 :=
  match _ : firstFormat? text with
  | none => text
  | some first => settle (dropFormatFrom first text)
termination_by text.length
decreasing_by exact length_dropFormatFrom_lt ‹_›

end IdentifierText.ComparisonForm

namespace IdentifierText

open ComparisonForm Utf16

/-- the comparison form, unless the text is in that form already -/
def comparisonForm? (text : List UInt16) : Option (List UInt16) :=
  (firstFormat? text).map fun first => settle (dropFormatFrom first text)

/-- the text without its formatting code points, those included that their removal brings about -/
def comparisonForm (text : List UInt16) : List UInt16 :=
  (comparisonForm? text).getD text

/-- as `comparisonForm?`, for a string: what stands before the first formatting character is kept as it is, and one pass
over the rest is enough, because a string has no unpaired halves -/
def comparisonString? (s : String) : Option String :=
  match s.toList.span fun c => !(CodePoint.ofChar c).isFormatting with
  | (_, []) => none
  | (front, rest) => some (.ofList (front ++ rest.filter fun c => !(CodePoint.ofChar c).isFormatting))

/-- whether two texts have the same comparison form; texts without unpaired halves are compared code point by code
point -/
def sameIdentifier (a b : List UInt16) : Bool :=
  if hasUnpaired a || hasUnpaired b then comparisonForm a = comparisonForm b
  else significant (codePoints a) = significant (codePoints b)

end IdentifierText
