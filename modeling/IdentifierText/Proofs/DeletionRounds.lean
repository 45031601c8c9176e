/-
Deletion in rounds.

A round deletes the formatting code points that a text has when the round begins (`dropFormat`). It copies the units in
front of the first one and enumerates those behind afresh. The place between them is one between code points of the text,
where the rest is enumerated as it is in the whole, so a round leaves what filtering all code points leaves.

Units that stood around deleted code points can form new ones, so what is left may need another round. Each round that
deletes anything takes a unit at least, so the rounds come to an end, and they end at the comparison form.

Results:
- `firstFormat?_eq_some_iff`: the position that is found is where formatting begins (`FormatBegins`), and no other;
- `dropFormatFrom_filters`: a round from there is the filter of all code points, and it makes the text shorter;
- `exists_rounds`: the comparison form is what a certain number of rounds leaves, and there is a deleted unit for each;
- `comparisonForm_eq_self_iff`: a text is its own comparison form exactly when that form is left out of the result;
- `comparisonForm?_signals_change`: whether there is a form in the result tells whether the text changes at all.
-/
import Mathlib.Logic.Function.Iterate
import IdentifierText.Proofs.FormatDeletion

namespace IdentifierText.ComparisonForm

open Utf16

/-! ## Where formatting begins -/

/-- the enumeration can be cut behind `first` units, none of the code points in front of the cut is for formatting, and the
first one behind it is -/
structure FormatBegins (text : List UInt16) (first : Nat) : Prop where
  points_eq : codePoints text = codePoints (text.take first) ++ codePoints (text.drop first)
  front : ∀ c ∈ codePoints (text.take first), c.isFormatting = false
  head : ∃ c ∈ (codePoints (text.drop first)).head?, c.isFormatting = true

theorem FormatBegins.lt_length {text : List UInt16} {first : Nat} (h : FormatBegins text first) : first < text.length := by
  obtain ⟨c, hc, -⟩ := h.head
  by_contra hlt
  rw [List.drop_of_length_le (Nat.le_of_not_lt hlt)] at hc
  cases hc

theorem firstFormat?_eq_some_iff_split {text : List UInt16} {first : Nat} :
    firstFormat? text = some first ↔
      ∃ before c after, codePoints text = before ++ c :: after ∧ first = (encode before).length ∧
        c.isFormatting = true ∧ ∀ d ∈ before, d.isFormatting = false := by
  simp only [firstFormat?, Option.map_eq_some_iff, indexed_eq_placeFrom, find?_placeFrom_eq_some_iff, Nat.zero_add]
  constructor
  · rintro ⟨placed, ⟨before, after, hsplit, hoffset, hformat, hbefore⟩, rfl⟩
    exact ⟨before, placed.point, after, hsplit, hoffset, hformat, hbefore⟩
  · rintro ⟨before, c, after, hsplit, rfl, hformat, hbefore⟩
    exact ⟨⟨_, c⟩, ⟨before, after, hsplit, rfl, hformat, hbefore⟩, rfl⟩

/-- **Where a round begins.** The position that is found is a place between two code points of the text, whether or not
halves in it are paired. -/
theorem firstFormat?_eq_some_iff {text : List UInt16} {first : Nat} :
    firstFormat? text = some first ↔ FormatBegins text first := by
  rw [firstFormat?_eq_some_iff_split]
  constructor
  · rintro ⟨before, c, after, hsplit, rfl, hformat, hbefore⟩
    obtain ⟨hfront, hback, -⟩ := cut_codePoints hsplit
    have htext : text = encode before ++ encode (c :: after) := by
      rw [← encode_append, ← hsplit, encode_codePoints]
    have htake : codePoints (text.take (encode before).length) = before := by
      rw [htext, List.take_left, hfront]
    have hdrop : codePoints (text.drop (encode before).length) = c :: after := by
      rw [htext, List.drop_left, hback]
    refine ⟨?_, ?_, ?_⟩
    · rw [htake, hdrop, hsplit]
    · rwa [htake]
    · rw [hdrop]
      exact ⟨c, rfl, hformat⟩
  · intro h
    obtain ⟨c, hc, hformat⟩ := h.head
    obtain ⟨after, hafter⟩ := List.head?_eq_some_iff.1 hc
    refine ⟨codePoints (text.take first), c, after, ?_, ?_, hformat, h.front⟩
    · rw [h.points_eq, hafter]
    · rw [encode_codePoints, List.length_take, Nat.min_eq_left h.lt_length.le]

/-! ## One round -/

/-- copying what is in front and filtering the rest is filtering the whole -/
theorem FormatBegins.dropFormatFrom_eq {text : List UInt16} {first : Nat} (h : FormatBegins text first) :
    dropFormatFrom first text = encode (significant (codePoints text)) := by
  calc dropFormatFrom first text
    _ = encode (codePoints (text.take first)) ++ encode (significant (codePoints (text.drop first))) := by
      rw [dropFormatFrom, encode_codePoints]
    _ = encode (significant (codePoints (text.take first)) ++ significant (codePoints (text.drop first))) := by
      rw [encode_append, significant_eq_self h.front]
    _ = encode (significant (codePoints text)) := by
      rw [← significant_append, ← h.points_eq]

/-- **A round is the plain filter.** If a position is found, it lies in the text and formatting begins there. The round from
it leaves the encoding of all code points of the text that are not for formatting, and that is shorter than the text. If
none is found, that encoding is the text itself. -/
theorem dropFormatFrom_filters (text : List UInt16) :
    (∀ first, firstFormat? text = some first →
      first < text.length ∧ FormatBegins text first ∧
      dropFormatFrom first text = encode (significant (codePoints text)) ∧
      (dropFormatFrom first text).length < text.length) ∧
    (firstFormat? text = none → encode (significant (codePoints text)) = text) := by
  constructor
  · intro first hfirst
    have hbegins : FormatBegins text first := firstFormat?_eq_some_iff.1 hfirst
    exact ⟨hbegins.lt_length, hbegins, hbegins.dropFormatFrom_eq, length_dropFormatFrom_lt hfirst⟩
  · intro hnone
    have hall : ∀ c ∈ codePoints text, c.isFormatting = false := by
      simpa [CodePoint.isFormatting_eq] using firstFormat?_eq_none_iff.1 hnone
    rw [significant_eq_self hall, encode_codePoints]

/-- halves around a soft hyphen and a tag: the round joins two of them to a pair, which is not for formatting -/
theorem dropFormatFrom_filters_between_halves :
    firstFormat? [0xDC00, 0x61, 0xD83D, 0xAD, 0xDB40, 0xDC01, 0xDE00] = some 3 ∧
    dropFormatFrom 3 [0xDC00, 0x61, 0xD83D, 0xAD, 0xDB40, 0xDC01, 0xDE00] =
      encode (significant (codePoints [0xDC00, 0x61, 0xD83D, 0xAD, 0xDB40, 0xDC01, 0xDE00])) ∧
    dropFormatFrom 3 [0xDC00, 0x61, 0xD83D, 0xAD, 0xDB40, 0xDC01, 0xDE00] = [0xDC00, 0x61, 0xD83D, 0xDE00] ∧
    firstFormat? [0xDC00, 0x61, 0xD83D, 0xDE00] = none ∧
    encode (significant (codePoints [0xDC00, 0x61, 0xD83D, 0xDE00])) = [0xDC00, 0x61, 0xD83D, 0xDE00] := by
  obtain ⟨hfirst, hleft, hnone⟩ :
      firstFormat? [0xDC00, 0x61, 0xD83D, 0xAD, 0xDB40, 0xDC01, 0xDE00] = some 3 ∧
      dropFormatFrom 3 [0xDC00, 0x61, 0xD83D, 0xAD, 0xDB40, 0xDC01, 0xDE00] = [0xDC00, 0x61, 0xD83D, 0xDE00] ∧
      firstFormat? [0xDC00, 0x61, 0xD83D, 0xDE00] = none := by
    decide +kernel
  obtain ⟨hround, -⟩ := dropFormatFrom_filters [0xDC00, 0x61, 0xD83D, 0xAD, 0xDB40, 0xDC01, 0xDE00]
  obtain ⟨-, hsame⟩ := dropFormatFrom_filters [0xDC00, 0x61, 0xD83D, 0xDE00]
  obtain ⟨-, -, hfilter, -⟩ := hround 3 hfirst
  exact ⟨hfirst, hfilter, hleft, hnone, hsame hnone⟩

/-! ## Rounds -/

/-- the text behind a round; without formatting code points it stays as it is -/
def dropFormat (text : List UInt16) : List UInt16 :=
  match firstFormat? text with
  | none => text
  | some first => dropFormatFrom first text

/-- **Rounds come to an end.** The comparison form is what is left after some rounds, no more of them than units are
deleted. -/
theorem exists_rounds (text : List UInt16) :
    ∃ n, dropFormat^[n] text = comparisonForm text ∧ n + (comparisonForm text).length ≤ text.length := by
  rw [comparisonForm_eq_settle]
  fun_induction settle text with
  | case1 text h => exact ⟨0, rfl, by omega⟩
  | case2 text first h ih =>
    obtain ⟨n, hlast, hle⟩ := ih
    have hround : dropFormat text = dropFormatFrom first text := by rw [dropFormat, h]
    have hlt : (dropFormatFrom first text).length < text.length := length_dropFormatFrom_lt h
    refine ⟨n + 1, ?_, by omega⟩
    rw [Function.iterate_succ_apply, hround, hlast]

/-- the halves of a tag stand around a soft hyphen, so the tag takes a round of its own -/
example : dropFormat [0x61, 0xDB40, 0xAD, 0xDC01] = [0x61, 0xDB40, 0xDC01] ∧
    dropFormat [0x61, 0xDB40, 0xDC01] = [0x61] := by decide +kernel

/-! ## Texts that stay as they are -/

theorem comparisonForm_eq_self_iff {text : List UInt16} : comparisonForm text = text ↔ comparisonForm? text = none := by
  constructor
  · intro h
    have hend := (comparisonForm_spec text).2
    rw [h] at hend
    exact comparisonForm?_eq_none_iff.2 hend
  · intro h
    rw [comparisonForm, h, Option.getD_none]

/-- a comparison form other than the text is shorter -/
theorem length_comparisonForm_lt {text : List UInt16} (h : comparisonForm text ≠ text) :
    (comparisonForm text).length < text.length := by
  obtain ⟨n, hlast, hle⟩ := exists_rounds text
  cases n with
  | zero => exact absurd hlast.symm h
  | succ n => omega

theorem comparisonForm?_eq_some_iff {text form : List UInt16} :
    comparisonForm? text = some form ↔ form = comparisonForm text ∧ form.length < text.length := by
  constructor
  · intro h
    have hform : comparisonForm text = form := by rw [comparisonForm, h, Option.getD_some]
    have hchanged : comparisonForm text ≠ text := by
      intro hsame
      rw [comparisonForm_eq_self_iff.1 hsame] at h
      cases h
    rw [← hform]
    exact ⟨rfl, length_comparisonForm_lt hchanged⟩
  · rintro ⟨rfl, hlt⟩
    cases hform : comparisonForm? text with
    | none =>
      rw [comparisonForm_eq_self_iff.2 hform] at hlt
      exact absurd hlt (Nat.lt_irrefl _)
    | some form => rw [comparisonForm, hform, Option.getD_some]

/-- **A form in the result means a change.** The rounds come to an end, with nothing left to delete. A text is returned as
it is exactly when its comparison form is the text itself, and that is so exactly when no code point of it is for
formatting. Otherwise its comparison form is returned, and that is shorter. A comparison form is returned as it is. -/
theorem comparisonForm?_signals_change (text : List UInt16) :
    (∃ n, dropFormat^[n] text = comparisonForm text ∧ firstFormat? (dropFormat^[n] text) = none ∧
      n + (comparisonForm text).length ≤ text.length) ∧
    (comparisonForm? text = none ↔ comparisonForm text = text) ∧
    (comparisonForm? text = none ↔ ∀ c ∈ codePoints text, c.isFormatting = false) ∧
    (∀ form, comparisonForm? text = some form ↔ form = comparisonForm text ∧ form.length < text.length) ∧
    comparisonForm? (comparisonForm text) = none ∧ comparisonForm (comparisonForm text) = comparisonForm text := by
  have hend : ∀ c ∈ codePoints (comparisonForm text), c.category ≠ .format := (comparisonForm_spec text).2
  refine ⟨?_, comparisonForm_eq_self_iff.symm, ?_, fun form => comparisonForm?_eq_some_iff, ?_, ?_⟩
  · obtain ⟨n, hlast, hle⟩ := exists_rounds text
    refine ⟨n, hlast, ?_, hle⟩
    rw [hlast]
    exact firstFormat?_eq_none_iff.2 hend
  · simp only [comparisonForm?_eq_none_iff, CodePoint.isFormatting_eq, decide_eq_false_iff_not, ne_eq]
  · exact comparisonForm?_eq_none_iff.2 hend
  · exact comparisonForm_comparisonForm text

end IdentifierText.ComparisonForm
