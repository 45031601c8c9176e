/-
The check that a test case makes of itself.

The spellings of a case are read in order, and the check ends at the first one that does not read as the text. Nothing is
assumed of the case: its fields may have been changed after it was made.

Results:
- `Spelling.verify_eq_error_iff`: a spelling fails in one of two ways (`Spelling.Fails`);
- `verify_by_reading`: a case passes exactly when all its spellings read as its text, otherwise its first bad spelling is
  reported with the way in which it fails, and a case that is left as it was made passes.
-/
import IdentifierText.Escape.Case
import IdentifierText.Proofs.RoundTrip

namespace IdentifierText.Escape

/-! ## One spelling -/

/-- how a spelling fails to read as a text -/
inductive Spelling.Fails (text : List UInt16) (s : Spelling) : CaseFault → Prop
  | unreadable {fault : ReadFault} (h : read s.form.grammar s.text = .error fault) : Fails text s (.unreadable s fault)
  | mismatch {units : List UInt16} (h : read s.form.grammar s.text = .ok units) (hne : units ≠ text) :
    Fails text s (.mismatch s)

theorem Spelling.verify_eq_ok_iff {text : List UInt16} {s : Spelling} :
    s.verify text = .ok () ↔ read s.form.grammar s.text = .ok text := by
  unfold Spelling.verify
  cases h : read s.form.grammar s.text with
  | error fault => simp
  | ok units => by_cases heq : units = text <;> simp [heq]

theorem Spelling.verify_eq_error_iff {text : List UInt16} {s : Spelling} {fault : CaseFault} :
    s.verify text = .error fault ↔ s.Fails text fault := by
  constructor
  · intro h
    unfold Spelling.verify at h
    split at h
    · rename_i cause hread
      cases h
      exact .unreadable hread
    · rename_i units hread
      split at h
      · cases h
      · rename_i hne
        cases h
        exact .mismatch hread hne
  · intro h
    unfold Spelling.verify
    cases h with
    | unreadable hread => rw [hread]
    | mismatch hread hne => rw [hread]; exact if_neg hne

namespace Case

/-- **What the check says.** A case passes exactly when every spelling in it reads as its text. Otherwise the fault is
that of the first spelling in the list that does not, unreadable or read as another text. A case made from a text, and left
as it is, passes. -/
theorem verify_by_reading :
    (∀ c : Case,
      (c.verify = .ok () ↔ ∀ s ∈ c.spellings, read s.form.grammar s.text = .ok c.text) ∧
      ∀ fault, c.verify = .error fault ↔ ∃ before s after, c.spellings = before ++ s :: after ∧
        (∀ t ∈ before, read t.form.grammar t.text = .ok c.text) ∧ s.Fails c.text fault) ∧
    ∀ text entities c, ofText text entities = .ok c → c.verify = .ok () := by
  have hok : ∀ c : Case, c.verify = .ok () ↔ ∀ s ∈ c.spellings, read s.form.grammar s.text = .ok c.text := fun c => by
    simp only [verify, forM_eq_ok_iff, Spelling.verify_eq_ok_iff]
  refine ⟨fun c => ⟨hok c, fun fault => ?_⟩, fun text entities c hc => ?_⟩
  · simp only [verify, forM_eq_error_iff, Spelling.verify_eq_ok_iff, Spelling.verify_eq_error_iff]
  · obtain ⟨list, hlist, rfl⟩ := map_eq_ok_iff.1 hc
    exact (hok _).2 (read_of_mem_spellings hlist)

/-- a case of a letter and a pair, as it was made and with a spelling of another text put in front -/
theorem verify_by_reading_tampered :
    ∃ c, ofText [0x61, 0xD83D, 0xDE00] true = .ok c ∧ c.verify = .ok () ∧
      { c with spellings := ⟨.numeric4, .firstOnly, "\\u0061c"⟩ :: c.spellings }.verify =
        .error (.mismatch ⟨.numeric4, .firstOnly, "\\u0061c"⟩) := by
  have hspellings : ∃ list, Escape.spellings [0x61, 0xD83D, 0xDE00] true = .ok list := ⟨_, rfl⟩
  have hread : read .source "\\u0061c" = .ok [0x61, 0x63] := by cbv
  have hne : ([0x61, 0x63] : List UInt16) ≠ [0x61, 0xD83D, 0xDE00] := by decide
  obtain ⟨list, hlist⟩ := hspellings
  have hcase : ofText [0x61, 0xD83D, 0xDE00] true =
      .ok ⟨_, IdentifierText.isIdentifier _, IdentifierText.comparisonForm _, list⟩ :=
    map_eq_ok_iff.2 ⟨list, hlist, rfl⟩
  refine ⟨_, hcase, verify_by_reading.2 _ _ _ hcase, ((verify_by_reading.1 _).2 _).2 ⟨[], _, list, rfl, ?_, ?_⟩⟩
  · exact fun s hs => absurd hs List.not_mem_nil
  · exact .mismatch hread hne

end Case

end IdentifierText.Escape
