/-
Strings as texts.

A string is made of characters, and no character is a surrogate. So nothing pairs up across two characters, the code points
of the encoding are the characters (`codePoints_ofString`), and a sum of widths is a count of units
(`indexed_ofString`). What is said of a string therefore agrees with what is said of its encoding, although the one goes
through characters and the other through units.

Results:
- `ofString_eq_ofText`: a string and its encoding get the same verdict, and it never is an unpaired half;
- `comparisonForm?_ofString`, `comparisonString_agrees`: the one pass over the characters and the rounds over the units end
  at the same comparison form, and one leaves its input as it is exactly when the other does.
-/
import Mathlib.Data.List.TakeDrop
import Mathlib.Data.List.TakeWhile
import IdentifierText.Proofs.FormatDeletion
import IdentifierText.Proofs.IdentifierRules

namespace IdentifierText

/-! ## Enumerating strings -/

namespace Utf16

theorem not_isSurrogate_of_mem_map_ofChar (chars : List Char) : ∀ c ∈ chars.map CodePoint.ofChar, ¬c.IsSurrogate := by
  intro c hc
  obtain ⟨ch, -, rfl⟩ := List.mem_map.1 hc
  exact CodePoint.not_isSurrogate_ofChar ch

/-- no pair forms across two characters -/
theorem codePoints_ofString (s : String) : codePoints (ofString s) = s.toList.map .ofChar :=
  codePoints_encode (not_isSurrogate_of_mem_map_ofChar _)

/-- **Both enumerations agree.** Characters with a running sum of their widths are the code points of the encoding with
the units read before them. -/
theorem indexed_ofString (s : String) : indexed (ofString s) = indexedString s := by
  rw [indexed_eq_placeFrom, codePoints_ofString, indexedString]

end Utf16

/-! ## Verdicts -/

namespace Verdict

open Utf16

/-- without surrogates no offence is an unpaired half -/
theorem ofText_ne_unpaired {text : List UInt16} (h : ∀ c ∈ codePoints text, ¬c.IsSurrogate) (offset : Nat)
    (half : UInt16) : ofText text ≠ .unpaired offset half := by
  intro hverdict
  rcases ofText_cases text with ⟨-, hempty⟩ | ⟨-, -, hvalid⟩ | ⟨before, c, after, hsplit, -, -, hoffence⟩
  · cases hempty.symm.trans hverdict
  · cases hvalid.symm.trans hverdict
  · have hc : ¬c.IsSurrogate := h c (by simp [hsplit])
    rw [hoffence, offence, if_neg hc] at hverdict
    split_ifs at hverdict

/-- **Strings and their encodings get the same verdict**, with the same position and the same code point in it. No verdict
on a string is an unpaired half. -/
theorem ofString_eq_ofText (s : String) :
    ofString s = ofText (Utf16.ofString s) ∧ ∀ offset half, ofString s ≠ .unpaired offset half := by
  have hsame : ofString s = ofText (Utf16.ofString s) := by rw [ofText, indexed_ofString, ofString]
  refine ⟨hsame, fun offset half => ?_⟩
  rw [hsame]
  apply ofText_ne_unpaired
  rw [codePoints_ofString]
  exact not_isSurrogate_of_mem_map_ofChar s.toList

/-- positions in a string count units: the letter in front of the plus sign is a pair -/
example : ofString "𝔸+" = .badPart 2 ⟨0x2B, by decide⟩ := by decide +kernel

end Verdict

/-! ## Comparison forms -/

namespace ComparisonForm

open Utf16

theorem takeWhile_append_filter_dropWhile {α : Type} (p : α → Bool) (xs : List α) :
    xs.takeWhile p ++ (xs.dropWhile p).filter p = xs.filter p := by
  have hfront : (xs.takeWhile p).filter p = xs.takeWhile p :=
    List.filter_eq_self.2 fun _ hx => List.mem_takeWhile_imp hx
  calc xs.takeWhile p ++ (xs.dropWhile p).filter p
      = (xs.takeWhile p).filter p ++ (xs.dropWhile p).filter p := by rw [hfront]
    _ = (xs.takeWhile p ++ xs.dropWhile p).filter p := (List.filter_append _ _).symm
    _ = xs.filter p := by rw [List.takeWhile_append_dropWhile]

/-- cutting a string before its first formatting character and filtering the rest is filtering the whole -/
theorem comparisonString?_cases (s : String) :
    comparisonString? s = none ∧ (∀ c ∈ s.toList, (CodePoint.ofChar c).category ≠ .format) ∨
    comparisonString? s = some (.ofList (s.toList.filter fun c => !(CodePoint.ofChar c).isFormatting)) ∧
      ∃ c ∈ s.toList, (CodePoint.ofChar c).category = .format := by
  have hrest : s.toList.dropWhile (fun c => !(CodePoint.ofChar c).isFormatting) = [] ↔
      ∀ c ∈ s.toList, (CodePoint.ofChar c).category ≠ .format := by
    simp [List.dropWhile_eq_nil_iff, CodePoint.isFormatting_eq]
  rw [comparisonString?, List.span_eq_takeWhile_dropWhile]
  split
  · rename_i hspan
    exact Or.inl ⟨rfl, hrest.1 (Prod.mk.inj hspan).2⟩
  · rename_i front rest hne hspan
    obtain ⟨rfl, rfl⟩ := Prod.mk.inj hspan
    have hformat : ¬∀ c ∈ s.toList, (CodePoint.ofChar c).category ≠ .format := fun h => hne (hrest.2 h)
    rw [takeWhile_append_filter_dropWhile]
    exact Or.inr ⟨rfl, by simpa using hformat⟩

theorem comparisonForm_ofString (s : String) :
    comparisonForm (Utf16.ofString s) =
      Utf16.ofString (.ofList (s.toList.filter fun c => !(CodePoint.ofChar c).isFormatting)) := by
  have hform := comparisonForm_encode (not_isSurrogate_of_mem_map_ofChar s.toList)
  rw [Utf16.ofString, hform, Utf16.ofString, String.toList_ofList, significant, List.filter_map]
  rfl

/-- **One pass is as good as all rounds.** The comparison form of the encoding of a string is the encoding of the one that
the string has by itself, if there is anything to delete. -/
theorem comparisonForm?_ofString (s : String) :
    comparisonForm? (Utf16.ofString s) = (comparisonString? s).map Utf16.ofString := by
  rcases comparisonString?_cases s with ⟨hstring, hnone⟩ | ⟨hstring, c, hc, hformat⟩
  · rw [hstring, Option.map_none, comparisonForm?_eq_none_iff, codePoints_ofString]
    exact List.forall_mem_map.2 hnone
  · have hmem : CodePoint.ofChar c ∈ codePoints (Utf16.ofString s) := by
      rw [codePoints_ofString]
      exact List.mem_map_of_mem hc
    rw [hstring, Option.map_some, comparisonForm?_eq_some ⟨_, hmem, hformat⟩, comparisonForm_ofString]

/-- **Strings and their encodings have the same comparison form**, and the one is in that form already exactly when the
other is. -/
theorem comparisonString_agrees (s : String) :
    Utf16.ofString ((comparisonString? s).getD s) = comparisonForm (Utf16.ofString s) ∧
    (comparisonString? s = none ↔ comparisonForm? (Utf16.ofString s) = none) := by
  have hform := comparisonForm?_ofString s
  constructor
  · rw [comparisonForm, hform]
    cases comparisonString? s <;> rfl
  · rw [hform, Option.map_eq_none_iff]

end ComparisonForm

end IdentifierText
