/-
The verdict on a text and the verdict on its comparison form.

Formatting code points may stand anywhere behind the start of an identifier, so deleting them takes no offence away and
brings none about. What stands behind the first offence may be malformed, and rounds of deletion may join halves there, but
nothing crosses the offending code point: it is a barrier, and what is in front of it has no halves.

Results:
- `formatUnitsBefore_add`: the units in front of a code point are those of the formatting code points there and those of
  the others;
- `ofText_comparisonForm_of_offence`: the first offence in a text is the first one in its comparison form;
- `ofText_comparisonForm`: both have the same verdict, with the position of a bad part moved.
-/
import IdentifierText.Proofs.FormatDeletion
import IdentifierText.Proofs.IdentifierRules

namespace IdentifierText.Verdict

open Utf16 ComparisonForm

/-! ## In front of a position -/

/-- the code points enumerated in front of a position -/
def pointsBefore (text : List UInt16) (offset : Nat) : List CodePoint :=
  ((indexed text).filter (·.offset < offset)).map (·.point)

/-- the number of units that formatting code points in front of a position take up -/
def formatUnitsBefore (text : List UInt16) (offset : Nat) : Nat :=
  (encode ((pointsBefore text offset).filter (·.isFormatting))).length

theorem pointsBefore_of_split {text : List UInt16} {before after : List CodePoint}
    (hsplit : codePoints text = before ++ after) : pointsBefore text (encode before).length = before := by
  have hfront : ∀ placed ∈ placeFrom 0 before, placed.offset < (encode before).length := by
    intro placed hplaced
    obtain ⟨front, back, rfl, hoffset⟩ := mem_placeFrom.1 hplaced
    have hwidth := placed.point.width_pos
    rw [hoffset, encode_append, encode_cons, List.length_append, List.length_append, CodePoint.length_units]
    omega
  have hback : ∀ placed ∈ placeFrom (0 + (encode before).length) after, ¬placed.offset < (encode before).length := by
    intro placed hplaced
    obtain ⟨front, back, -, hoffset⟩ := mem_placeFrom.1 hplaced
    omega
  have hall : (placeFrom 0 before).filter (·.offset < (encode before).length) = placeFrom 0 before :=
    List.filter_eq_self.2 fun placed hplaced => decide_eq_true (hfront placed hplaced)
  have hnone : (placeFrom (0 + (encode before).length) after).filter (·.offset < (encode before).length) = [] :=
    List.filter_eq_nil_iff.2 fun placed hplaced => by simpa using hback placed hplaced
  rw [pointsBefore, indexed_eq_placeFrom, hsplit, placeFrom_append, List.filter_append, hall, hnone, List.append_nil,
    map_point_placeFrom]

/-- the units in front of a code point are those of the formatting code points there and those of the others -/
theorem formatUnitsBefore_add {text : List UInt16} {before after : List CodePoint}
    (hsplit : codePoints text = before ++ after) :
    formatUnitsBefore text (encode before).length + (encode (significant before)).length = (encode before).length := by
  rw [formatUnitsBefore, pointsBefore_of_split hsplit, length_encode_formatting_add_significant]

/-! ## Rules without formatting code points -/

theorem significant_ne_nil {points : List CodePoint} (hne : points ≠ [])
    (hfirst : ∀ c ∈ points.head?, c.isFormatting = false) : significant points ≠ [] := by
  obtain ⟨first, rest, rfl⟩ := List.exists_cons_of_ne_nil hne
  rw [significant_cons (hfirst first rfl)]
  exact List.cons_ne_nil _ _

theorem Obeys.significant {points : List CodePoint} (h : Obeys points)
    (hfirst : ∀ c ∈ points.head?, c.isFormatting = false) : Obeys (significant points) := by
  cases points with
  | nil => exact h
  | cons first rest =>
    rw [significant_cons (hfirst first rfl)]
    exact ⟨h.1, fun c hc => h.2 c (List.mem_filter.1 hc).1⟩

/-- a code point that breaks the rules behind others breaks them behind those of the others that are significant -/
theorem not_obeys_significant {before : List CodePoint} {c : CodePoint} (hbefore : Obeys before)
    (hfirst : ∀ d ∈ before.head?, d.isFormatting = false) (hc : ¬Obeys (before ++ [c])) :
    ¬Obeys (significant before ++ [c]) := by
  cases before with
  | nil => exact hc
  | cons first rest =>
    have hpart : ¬c.MayContinue := fun h => hc (obeys_snoc_iff.2 ⟨hbefore, h⟩)
    rw [significant_cons (hfirst first rfl)]
    exact fun h => hpart (obeys_snoc_iff.1 h).2

/-- formatting code points break no rule behind the start -/
theorem category_ne_format_of_not_obeys {before : List CodePoint} {c : CodePoint} (hne : before ≠ [])
    (hbefore : Obeys before) (hc : ¬Obeys (before ++ [c])) (hs : ¬c.IsSurrogate) : c.category ≠ .format := by
  obtain ⟨first, rest, rfl⟩ := List.exists_cons_of_ne_nil hne
  intro hformat
  have hpart : c.category ∈ CodePoint.partCategories := by rw [hformat]; decide
  exact hc (obeys_snoc_iff.2 ⟨hbefore, hs, hpart⟩)

/-! ## Verdicts -/

/-- the comparison form of a text around its first offence: what is in front of it is filtered once, whatever rounds of
deletion do behind it -/
theorem codePoints_comparisonForm_of_split {text : List UInt16} {before after : List CodePoint} {c : CodePoint}
    (hsplit : codePoints text = before ++ c :: after) (hbefore : ∀ d ∈ before, ¬d.IsSurrogate) (hs : ¬c.IsSurrogate)
    (hformat : c.category ≠ .format) :
    codePoints (comparisonForm text) = significant before ++ c :: codePoints (comparisonForm (encode after)) := by
  rw [eq_of_codePoints_split hsplit, comparisonForm_around hs hformat, comparisonForm_encode hbefore,
    codePoints_around hs, codePoints_encode (not_isSurrogate_significant hbefore)]

theorem head?_of_split {text : List UInt16} {before after : List CodePoint} {c : CodePoint}
    (hsplit : codePoints text = before ++ c :: after) (hfirst : ∀ d ∈ (codePoints text).head?, d.isFormatting = false) :
    ∀ d ∈ before.head?, d.isFormatting = false := by
  intro d hd
  refine hfirst d ?_
  rw [hsplit, List.head?_append, hd]
  rfl

theorem ofText_comparisonForm_of_obeys {text : List UInt16} (hne : text ≠ [])
    (hfirst : ∀ c ∈ (codePoints text).head?, c.isFormatting = false) (h : Obeys (codePoints text)) :
    ofText (comparisonForm text) = .valid := by
  have hform := comparisonForm_encode h.not_isSurrogate
  rw [encode_codePoints] at hform
  have hpoints := codePoints_encode (not_isSurrogate_significant h.not_isSurrogate)
  rw [← hform] at hpoints
  refine ofText_of_obeys ?_ (hpoints ▸ h.significant hfirst)
  rw [Ne, ← codePoints_eq_nil_iff, hpoints]
  exact significant_ne_nil (mt codePoints_eq_nil_iff.1 hne) hfirst

/-- **The offence stays.** The first offence in a text, if it is no unpaired half, is the first offence in the comparison
form, behind the significant ones of the code points before it. -/
theorem ofText_comparisonForm_of_offence {text : List UInt16} {before after : List CodePoint} {c : CodePoint}
    (hfirst : ∀ d ∈ (codePoints text).head?, d.isFormatting = false) (hsplit : codePoints text = before ++ c :: after)
    (hbefore : Obeys before) (hc : ¬Obeys (before ++ [c])) (hs : ¬c.IsSurrogate) :
    ofText (comparisonForm text) = offence (significant before) c := by
  have hformat : c.category ≠ .format := by
    by_cases hnil : before = []
    · rw [hsplit, hnil] at hfirst
      simpa [CodePoint.isFormatting_eq] using hfirst c rfl
    · exact category_ne_format_of_not_obeys hnil hbefore hc hs
  have hhead : ∀ d ∈ before.head?, d.isFormatting = false := head?_of_split hsplit hfirst
  exact ofText_of_offence (codePoints_comparisonForm_of_split hsplit hbefore.not_isSurrogate hs hformat)
    (hbefore.significant hhead) (not_obeys_significant hbefore hhead hc)

/-- the same verdict, with the position of a bad part moved towards the start -/
def movedBack (distance : Nat → Nat) : Verdict → Verdict
  | badPart offset found => badPart (offset - distance offset) found
  | verdict => verdict

/-- **Stripping preserves the verdict.** A text that does not start with a formatting code point, and in which the first
offence is no unpaired half, has the same verdict as its comparison form. Only the position of a bad part is less there, by
the units of the formatting code points in front of it. -/
theorem ofText_comparisonForm {text : List UInt16} (hfirst : ∀ c ∈ (codePoints text).head?, c.isFormatting = false)
    (hpaired : ∀ offset half, ofText text ≠ .unpaired offset half) :
    ofText (comparisonForm text) = (ofText text).movedBack (formatUnitsBefore text) ∧
    ∀ offset found, ofText text = .badPart offset found → formatUnitsBefore text offset ≤ offset := by
  rcases ofText_cases text with ⟨rfl, hempty⟩ | ⟨hne, hobeys, hvalid⟩ | ⟨before, c, after, hsplit, hbefore, hc, hoffence⟩
  · exact ⟨rfl, fun _ _ h => by cases hempty.symm.trans h⟩
  · rw [hvalid]
    exact ⟨ofText_comparisonForm_of_obeys hne hfirst hobeys, fun _ _ h => by cases h⟩
  · have hs : ¬c.IsSurrogate := by
      intro hs
      rw [offence, if_pos hs] at hoffence
      exact hpaired _ _ hoffence
    have hform := ofText_comparisonForm_of_offence hfirst hsplit hbefore hc hs
    rw [offence, if_neg hs] at hoffence hform
    by_cases hnil : before = []
    · subst hnil
      rw [if_pos rfl] at hoffence
      rw [hoffence]
      exact ⟨hform, fun _ _ h => by cases h⟩
    · have hsignificant := significant_ne_nil hnil (head?_of_split hsplit hfirst)
      have hunits := formatUnitsBefore_add hsplit
      rw [if_neg hnil] at hoffence
      rw [if_neg hsignificant] at hform
      rw [hoffence, hform, movedBack]
      refine ⟨?_, ?_⟩
      · congr 1
        omega
      · rintro _ _ ⟨⟩
        omega

/-- a soft hyphen in front of the offence, and behind it a tag that only deletion joins -/
theorem ofText_comparisonForm_soft_hyphen :
    ofText [0x61, 0xAD, 0x2B, 0xDB40, 0xAD, 0xDC01] = .badPart 2 ⟨0x2B, by decide⟩ ∧
    ofText (comparisonForm [0x61, 0xAD, 0x2B, 0xDB40, 0xAD, 0xDC01]) = .badPart 1 ⟨0x2B, by decide⟩ := by
  have hverdict : ofText [0x61, 0xAD, 0x2B, 0xDB40, 0xAD, 0xDC01] = .badPart 2 ⟨0x2B, by decide⟩ := by decide +kernel
  have hunits : formatUnitsBefore [0x61, 0xAD, 0x2B, 0xDB40, 0xAD, 0xDC01] 2 = 1 := by decide +kernel
  have hfirst : ∀ c ∈ (codePoints [0x61, 0xAD, 0x2B, 0xDB40, 0xAD, 0xDC01]).head?, c.isFormatting = false := by
    decide +kernel
  have hpaired : ∀ offset half, ofText [0x61, 0xAD, 0x2B, 0xDB40, 0xAD, 0xDC01] ≠ .unpaired offset half := by
    rw [hverdict]
    exact fun _ _ => Verdict.noConfusion
  have hform := (ofText_comparisonForm hfirst hpaired).1
  rw [hverdict, movedBack, hunits] at hform
  exact ⟨hverdict, hform⟩

end IdentifierText.Verdict
