/-
The test case of an identifier.

What makes a text an identifier rules out all that could go wrong with a case of it. Its halves are paired, and behind the
start it has no punctuation but connectors, so nothing in it opens an escape and every spelling can be written. Formatting
code points may continue an identifier but not start one, so the comparison form is an identifier again. Its own case ends
where the first one did, because in a comparison form nothing is left to delete.

Results:
- `Obeys.spellable`: a text that obeys the rules has all its spellings;
- `isIdentifier_comparisonForm`: the comparison form of an identifier is an identifier;
- `case_of_identifier`: the case of an identifier exists and agrees with itself in all its parts.
-/
import IdentifierText.Escape.Case
import IdentifierText.Proofs.Spellable
import IdentifierText.Proofs.StrippedVerdict

namespace IdentifierText

open Utf16 ComparisonForm Unicode

/-! ## What identifiers are made of -/

/-- the characters that open escapes are punctuation, of the kind that has no place in identifiers -/
theorem category_introducer (g : Escape.Grammar) :
    (CodePoint.ofChar g.introducer).category = .otherPunctuation := by
  cases g <;> decide +kernel

theorem CodePoint.MayContinue.ne_introducer {c : CodePoint} (h : c.MayContinue) (g : Escape.Grammar) :
    c ≠ .ofChar g.introducer := by
  rintro rfl
  have hpart := h.2
  rw [category_introducer] at hpart
  exact absurd hpart (by decide)

/-- a formatting code point starts no identifier -/
theorem CodePoint.MayStart.isFormatting_eq_false {c : CodePoint} (h : c.MayStart) : c.isFormatting = false := by
  rw [isFormatting_eq, decide_eq_false_iff_not]
  intro hformat
  rcases h.2 with hlow | hletter
  · have hlowLine : c = ⟨0x5F, by decide⟩ := CodePoint.ext hlow
    rw [hlowLine] at hformat
    exact absurd hformat (by decide +kernel)
  · rw [hformat] at hletter
    exact absurd hletter (by decide)

namespace Verdict

theorem Obeys.head_isFormatting {points : List CodePoint} (h : Obeys points) :
    ∀ c ∈ points.head?, c.isFormatting = false := by
  cases points with
  | nil => exact fun c hc => by cases hc
  | cons first rest =>
    rintro c ⟨⟩
    exact h.1.isFormatting_eq_false

/-- a text that obeys the rules has all its spellings -/
theorem Obeys.spellable {text : List UInt16} (h : Obeys (codePoints text)) (entities : Bool) :
    Escape.Spellable entities text := by
  refine ⟨h.not_isSurrogate, ?_, fun _ => ?_⟩
  · intro c hc
    exact (h.forall_mayContinue c (List.mem_of_mem_tail hc)).ne_introducer .source
  · intro c hc
    exact (h.forall_mayContinue c (List.mem_of_mem_tail hc)).ne_introducer .markup

theorem obeys_of_isIdentifier {text : List UInt16} (h : isIdentifier text = true) :
    text ≠ [] ∧ Obeys (codePoints text) :=
  obeys_of_valid (isIdentifier_iff_valid.1 h)

theorem isIdentifier_comparisonForm {text : List UInt16} (h : isIdentifier text = true) :
    isIdentifier (comparisonForm text) = true := by
  obtain ⟨hne, hobeys⟩ := obeys_of_isIdentifier h
  rw [isIdentifier_iff_valid]
  exact ofText_comparisonForm_of_obeys hne hobeys.head_isFormatting hobeys

end Verdict

/-! ## Cases of identifiers -/

namespace Escape

open Verdict

namespace Case

theorem comparisonForm_of_ofText {text : List UInt16} {entities : Bool} {c : Case} (h : ofText text entities = .ok c) :
    c.comparisonForm = IdentifierText.comparisonForm text := by
  obtain ⟨list, -, rfl⟩ := map_eq_ok_iff.1 h
  rfl

theorem exists_ofText_of_isIdentifier {text : List UInt16} (h : IdentifierText.isIdentifier text = true)
    (entities : Bool) :
    ∃ list, Escape.spellings text entities = .ok list ∧
      ofText text entities = .ok ⟨text, true, IdentifierText.comparisonForm text, list⟩ := by
  obtain ⟨list, hlist⟩ := exists_spellings_iff.2 ((obeys_of_isIdentifier h).2.spellable entities)
  refine ⟨list, hlist, map_eq_ok_iff.2 ⟨list, hlist, ?_⟩⟩
  rw [h]

/-- **Every identifier has a test case that agrees with itself.** The case of an identifier can be made, with and without
character references, and expects an identifier. Its spellings follow the plan, and each is read as a text with the verdict
and the comparison form of the identifier. The comparison form is the same identifier and valid, and the case that is made
of it has no other comparison form. -/
theorem case_of_identifier {text : List UInt16} (h : IdentifierText.isIdentifier text = true) (entities : Bool) :
    ∃ c, ofText text entities = .ok c ∧ c.text = text ∧ c.isIdentifier = true ∧
      c.spellings.map (fun s => (s.form, s.coverage)) = plan entities (1 < (codePoints text).length) ∧
      (∀ s ∈ c.spellings, ∃ units, read s.form.grammar s.text = .ok units ∧
        Verdict.ofText units = Verdict.ofText text ∧
        IdentifierText.comparisonForm units = IdentifierText.comparisonForm text) ∧
      IdentifierText.isIdentifier c.comparisonForm = true ∧
      sameIdentifier text c.comparisonForm = true ∧
      ∀ entities', ∃ c', ofText c.comparisonForm entities' = .ok c' ∧ c'.comparisonForm = c.comparisonForm := by
  have hform := isIdentifier_comparisonForm h
  obtain ⟨list, hlist, hcase⟩ := exists_ofText_of_isIdentifier h entities
  refine ⟨_, hcase, rfl, rfl, map_entry_of_spellings hlist, ?_, hform, sameIdentifier_comparisonForm text, ?_⟩
  · intro s hs
    exact ⟨text, read_of_mem_spellings hlist s hs, rfl, rfl⟩
  · intro entities'
    obtain ⟨_, _, hcase'⟩ := exists_ofText_of_isIdentifier hform entities'
    exact ⟨_, hcase', comparisonForm_comparisonForm text⟩

/-- a low line, a soft hyphen and a letter that takes a pair: two code points stay in the comparison form -/
theorem case_of_identifier_soft_hyphen :
    IdentifierText.isIdentifier [0x5F, 0xAD, 0xD835, 0xDD38] = true ∧
    ∃ c, ofText [0x5F, 0xAD, 0xD835, 0xDD38] true = .ok c ∧ c.isIdentifier = true ∧ c.spellings.length = 8 ∧
      c.comparisonForm = [0x5F, 0xD835, 0xDD38] ∧
      (∀ s ∈ c.spellings, ∃ units, read s.form.grammar s.text = .ok units ∧
        IdentifierText.comparisonForm units = [0x5F, 0xD835, 0xDD38]) ∧
      sameIdentifier [0x5F, 0xAD, 0xD835, 0xDD38] c.comparisonForm = true := by
  have hvalid : IdentifierText.isIdentifier [0x5F, 0xAD, 0xD835, 0xDD38] = true := by decide +kernel
  have hform : IdentifierText.comparisonForm [0x5F, 0xAD, 0xD835, 0xDD38] = [0x5F, 0xD835, 0xDD38] := by decide +kernel
  have hplan : (plan true (1 < (codePoints [0x5F, 0xAD, 0xD835, 0xDD38]).length)).length = 8 := by decide +kernel
  obtain ⟨c, hc, -, hexpected, hentries, hread, -, hsame, -⟩ := case_of_identifier hvalid true
  refine ⟨hvalid, c, hc, hexpected, ?_, (comparisonForm_of_ofText hc).trans hform, ?_, hsame⟩
  · rw [← hplan, ← hentries, List.length_map]
  · intro s hs
    obtain ⟨units, hunits, -, hunitsForm⟩ := hread s hs
    exact ⟨units, hunits, hunitsForm.trans hform⟩

end Case

end Escape

end IdentifierText
