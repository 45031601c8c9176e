/-
Which texts have spellings.

Writing fails for two reasons only: a half without its partner has no spelling at all, and a code point that is copied must
not open an escape. Both are properties of the text. Which form is tried first does not matter, nor where in the text an
offence stands.

Results:
- `exists_write_iff`: a text can be written in a form and a coverage exactly when it is `Writable`;
- `exists_spellings_iff`: a text has all its spellings exactly when it is `Spellable`: halves are paired, and behind the
  first code point no character opens an escape of a grammar in use.
-/
import IdentifierText.Escape.Spelling
import IdentifierText.Proofs.CodePointSpelling

namespace IdentifierText.Escape

open Utf16

/-! ## One spelling -/

/-- what the code points of a text have to be for one spelling: no unpaired halves, and none that opens an escape where
it would be copied -/
structure Writable (form : Form) (coverage : Coverage) (points : List CodePoint) : Prop where
  paired : ∀ c ∈ points, ¬c.IsSurrogate
  copied : coverage = .firstOnly → ∀ c ∈ points.tail, c ≠ .ofChar form.grammar.introducer

theorem writable_iff_forall_not_bad {form : Form} {coverage : Coverage} {points : List CodePoint} :
    Writable form coverage points ↔ ∀ i (h : i < points.length), ¬Bad form coverage i points[i] := by
  constructor
  · rintro h i hi (hs | ⟨hcoverage, hlater⟩)
    · exact h.paired _ (List.getElem_mem hi) hs
    · exact h.copied hcoverage _ (exists_later_iff.1 ⟨i, hi, hlater⟩) rfl
  · intro h
    refine ⟨fun c hc hs => ?_, fun hcoverage c hc => ?_⟩
    · obtain ⟨i, hi, rfl⟩ := List.mem_iff_getElem.1 hc
      exact h i hi (Or.inl hs)
    · rintro rfl
      obtain ⟨i, hi, hlater⟩ := exists_later_iff.2 hc
      exact h i hi (Or.inr ⟨hcoverage, hlater⟩)

/-- **Which texts can be written.** -/
theorem exists_write_iff {form : Form} {coverage : Coverage} {text : List UInt16} :
    (∃ s, write form coverage text = .ok s) ↔ Writable form coverage (codePoints text) := by
  rw [writable_iff_forall_not_bad]
  constructor
  · rintro ⟨s, hs⟩ i hi hbad
    obtain ⟨before, c, hfirst⟩ := exists_isFirst ⟨i, hi, hbad⟩
    cases (write_of_isFirst hfirst).symm.trans hs
  · intro h
    obtain ⟨s, -, hs⟩ := exists_write_of_forall_not_bad h
    exact ⟨s, hs⟩

/-! ## All spellings -/

theorem mem_forms_iff {form : Form} {entities : Bool} :
    form ∈ forms entities ↔ form.grammar = .source ∨ entities = true := by
  cases form <;> cases entities <;> decide

theorem mem_coverages_iff {coverage : Coverage} {several : Bool} :
    coverage ∈ coverages several ↔ coverage = .all ∨ several = true := by
  cases coverage <;> cases several <;> decide

theorem mem_plan_iff {form : Form} {coverage : Coverage} {entities several : Bool} :
    (form, coverage) ∈ plan entities several ↔ form ∈ forms entities ∧ coverage ∈ coverages several := by
  simp [plan]

/-- the spellings of a text follow the plan -/
theorem map_entry_of_spellings {text : List UInt16} {entities : Bool} {list : List Spelling}
    (h : spellings text entities = .ok list) :
    list.map (fun s => (s.form, s.coverage)) = plan entities (1 < (codePoints text).length) := by
  rw [spellings, mapM_eq_ok_iff] at h
  generalize plan entities (1 < (codePoints text).length) = entries at h ⊢
  induction h with
  | nil => rfl
  | @cons entry s entries list hentry _ ih =>
    obtain ⟨spelled, -, rfl⟩ := map_eq_ok_iff.1 hentry
    rw [List.map_cons, ih]

/-- what a text has to be to have all its spellings: no unpaired halves, and behind the first code point no backslash and,
with character references, no ampersand -/
structure Spellable (entities : Bool) (text : List UInt16) : Prop where
  paired : ∀ c ∈ codePoints text, ¬c.IsSurrogate
  backslash : ∀ c ∈ (codePoints text).tail, c ≠ .ofChar '\\'
  ampersand : entities = true → ∀ c ∈ (codePoints text).tail, c ≠ .ofChar '&'

instance (entities : Bool) (text : List UInt16) : Decidable (Spellable entities text) :=
  decidable_of_iff
    ((∀ c ∈ codePoints text, ¬c.IsSurrogate) ∧ (∀ c ∈ (codePoints text).tail, c ≠ .ofChar '\\') ∧
      (entities = true → ∀ c ∈ (codePoints text).tail, c ≠ .ofChar '&'))
    ⟨fun ⟨paired, backslash, ampersand⟩ => ⟨paired, backslash, ampersand⟩,
      fun ⟨paired, backslash, ampersand⟩ => ⟨paired, backslash, ampersand⟩⟩

theorem spellable_iff {text : List UInt16} {entities : Bool} :
    Spellable entities text ↔ (∀ c ∈ codePoints text, ¬c.IsSurrogate) ∧ .ofChar '\\' ∉ (codePoints text).tail ∧
      (entities = true → .ofChar '&' ∉ (codePoints text).tail) := by
  constructor
  · intro h
    exact ⟨h.paired, fun hmem => h.backslash _ hmem rfl, fun hentities hmem => h.ampersand hentities _ hmem rfl⟩
  · rintro ⟨hpaired, hbackslash, hampersand⟩
    refine ⟨hpaired, ?_, fun hentities => ?_⟩
    · rintro c hc rfl
      exact hbackslash hc
    · rintro c hc rfl
      exact hampersand hentities hc

/-- a form in use copies nothing that opens its escapes -/
theorem Spellable.ne_introducer {entities : Bool} {text : List UInt16} (h : Spellable entities text) {form : Form}
    (hform : form ∈ forms entities) : ∀ c ∈ (codePoints text).tail, c ≠ .ofChar form.grammar.introducer := by
  cases hgrammar : form.grammar with
  | source => exact h.backslash
  | markup =>
    refine h.ampersand ((mem_forms_iff.1 hform).resolve_left ?_)
    rw [hgrammar]
    exact Grammar.noConfusion

theorem exists_spellings_iff_forall_writable {text : List UInt16} {entities : Bool} :
    (∃ list, spellings text entities = .ok list) ↔
      ∀ form ∈ forms entities, ∀ coverage ∈ coverages (1 < (codePoints text).length),
        Writable form coverage (codePoints text) := by
  simp only [spellings, exists_mapM_eq_ok_iff, map_eq_ok_iff, ← exists_write_iff]
  constructor
  · intro h form hform coverage hcoverage
    obtain ⟨_, spelled, hspelled, -⟩ := h (form, coverage) (mem_plan_iff.2 ⟨hform, hcoverage⟩)
    exact ⟨spelled, hspelled⟩
  · rintro h ⟨form, coverage⟩ hentry
    obtain ⟨hform, hcoverage⟩ := mem_plan_iff.1 hentry
    obtain ⟨spelled, hspelled⟩ := h form hform coverage hcoverage
    exact ⟨_, spelled, hspelled, rfl⟩

/-- **Which texts have all their spellings.** With one code point nothing is copied, so the two conditions on later code
points are met whatever the plan leaves out. -/
theorem exists_spellings_iff {text : List UInt16} {entities : Bool} :
    (∃ list, spellings text entities = .ok list) ↔ Spellable entities text := by
  have hnumeric : Form.numeric4 ∈ forms entities := mem_forms_iff.2 (Or.inl rfl)
  rw [exists_spellings_iff_forall_writable]
  constructor
  · intro h
    have hcopied : ∀ form ∈ forms entities, ∀ c ∈ (codePoints text).tail, c ≠ .ofChar form.grammar.introducer := by
      intro form hform c hc
      have hseveral : 1 < (codePoints text).length := by
        have hpos := List.length_pos_of_mem hc
        rw [List.length_tail] at hpos
        omega
      have hfirst : Coverage.firstOnly ∈ coverages (1 < (codePoints text).length) :=
        mem_coverages_iff.2 (Or.inr (decide_eq_true hseveral))
      exact (h form hform .firstOnly hfirst).copied rfl c hc
    have hall : Coverage.all ∈ coverages (1 < (codePoints text).length) := mem_coverages_iff.2 (Or.inl rfl)
    refine ⟨(h .numeric4 hnumeric .all hall).paired, hcopied .numeric4 hnumeric, ?_⟩
    intro hentities
    exact hcopied .entityDecimal (mem_forms_iff.2 (Or.inr hentities))
  · intro h form hform coverage _
    exact ⟨h.paired, fun _ => h.ne_introducer hform⟩

/-- the first code point may open an escape, a later one may not -/
example : Spellable true [0x26, 0x61] ∧ ¬Spellable true [0x61, 0x26] ∧ Spellable false [0x61, 0x26] := by
  decide

end IdentifierText.Escape
