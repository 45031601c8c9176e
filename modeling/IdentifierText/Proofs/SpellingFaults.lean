/-
Which fault is reported for a text that lacks its spellings.

The spellings of a text are written in the order of the plan, and the first one that cannot be written gives the fault.
Within one spelling the place in the text decides, but among the spellings the kind of the fault does: an unpaired half
stops the first spelling already, a backslash the second, and an ampersand only the sixth.

Results:
- `spellings_of_fault`: where the plan stops for each kind of fault;
- `spellings_eq_error_iff`: the fault of a text, by kind first and by place within a kind;
- `spellings_by_fault`: when a text lacks its spellings and why, and what they are otherwise.
-/
import IdentifierText.Proofs.Spellable

namespace IdentifierText.Escape

open Utf16

/-! ## The plan up to its first failure -/

/-- the fault for which a text has no spellings: the first unpaired half if there is one anywhere, else the first backslash
that would be copied, else, with character references, the first ampersand that would be -/
inductive SpellingsFault (entities : Bool) (points : List CodePoint) : WriteFault → Prop
  | unpaired {before : List CodePoint} {c : CodePoint} (h : IsFirst (fun _ d => d.IsSurrogate) points before c) :
    SpellingsFault entities points (.unpaired (encode before).length (.ofNat c.val))
  | backslash {before : List CodePoint} {c : CodePoint} (hpaired : ∀ d ∈ points, ¬d.IsSurrogate)
    (h : IsFirst (Later '\\') points before c) :
    SpellingsFault entities points (.introducer (encode before).length '\\')
  | ampersand {before : List CodePoint} {c : CodePoint} (hpaired : ∀ d ∈ points, ¬d.IsSurrogate)
    (hbackslash : .ofChar '\\' ∉ points.tail) (hentities : entities = true) (h : IsFirst (Later '&') points before c) :
    SpellingsFault entities points (.introducer (encode before).length '&')

variable {form : Form} {coverage : Coverage} {points before : List CodePoint} {c : CodePoint}

/-- where a later code point is first of a kind, there are several -/
theorem IsFirst.one_lt_length {ch : Char} (h : IsFirst (Later ch) points before c) : 1 < points.length := by
  obtain ⟨after, rfl⟩ := h.split
  have hpos := h.holds.1
  simp only [List.length_append, List.length_cons]
  omega

theorem write_all_of_first_half {text : List UInt16}
    (h : IsFirst (fun _ d => d.IsSurrogate) (codePoints text) before c) (form : Form) :
    write form .all text = .error (.unpaired (encode before).length (.ofNat c.val)) := by
  have hbad : IsFirst (Bad form .all) (codePoints text) before c := h.congr fun d _ i => by simp [Bad]
  rw [write_of_isFirst hbad, faultAt, if_pos h.holds]

theorem write_firstOnly_of_first_introducer {text : List UInt16} (hpaired : ∀ d ∈ codePoints text, ¬d.IsSurrogate)
    (h : IsFirst (Later form.grammar.introducer) (codePoints text) before c) :
    write form .firstOnly text = .error (.introducer (encode before).length form.grammar.introducer) := by
  have hbad : IsFirst (Bad form .firstOnly) (codePoints text) before c := h.congr fun d hd i => by
    simp [Bad, Later, hpaired d hd]
  have hs : ¬c.IsSurrogate := by
    rw [h.holds.2]
    exact CodePoint.not_isSurrogate_ofChar _
  rw [write_of_isFirst hbad, faultAt, if_neg hs]

/-- one step of the plan: where a spelling fails behind others that can be written, its fault is that of all -/
theorem spellings_eq_error {text : List UInt16} {entities : Bool} {done todo : List (Form × Coverage)} {fault : WriteFault}
    (hplan : plan entities (1 < (codePoints text).length) = done ++ (form, coverage) :: todo)
    (hdone : ∀ entry ∈ done, Writable entry.1 entry.2 (codePoints text))
    (hfault : write form coverage text = .error fault) : spellings text entities = .error fault := by
  rw [spellings, hplan, mapM_eq_error_iff]
  refine ⟨done, _, todo, rfl, fun entry hentry => ?_, ?_⟩
  · obtain ⟨s, hs⟩ := exists_write_iff.2 (hdone entry hentry)
    exact ⟨_, map_eq_ok_iff.2 ⟨s, hs, rfl⟩⟩
  · simp only [hfault]
    rfl

/-- the plan stops at its first, second or sixth spelling -/
theorem spellings_of_fault {text : List UInt16} {entities : Bool} {fault : WriteFault}
    (h : SpellingsFault entities (codePoints text) fault) : spellings text entities = .error fault := by
  cases h with
  | unpaired h =>
    obtain ⟨todo, hplan⟩ : ∃ todo, plan entities (1 < (codePoints text).length) = [] ++ (.numeric4, .all) :: todo :=
      ⟨_, rfl⟩
    refine spellings_eq_error hplan ?_ (write_all_of_first_half h .numeric4)
    exact fun entry hentry => absurd hentry List.not_mem_nil
  | backslash hpaired h =>
    have hseveral : decide (1 < (codePoints text).length) = true := decide_eq_true (IsFirst.one_lt_length h)
    have hplan : plan entities (1 < (codePoints text).length) =
        [(.numeric4, .all)] ++ (.numeric4, .firstOnly) :: (plan entities true).drop 2 := by
      rw [hseveral]
      cases entities <;> rfl
    refine spellings_eq_error hplan (fun entry hentry => ?_) (write_firstOnly_of_first_introducer hpaired h)
    obtain rfl := List.mem_singleton.1 hentry
    exact ⟨hpaired, Coverage.noConfusion⟩
  | ampersand hpaired hbackslash hentities h =>
    subst hentities
    have hseveral : decide (1 < (codePoints text).length) = true := decide_eq_true (IsFirst.one_lt_length h)
    have hplan : plan true (1 < (codePoints text).length) =
        (plan true true).take 5 ++ (.entityDecimal, .firstOnly) :: (plan true true).drop 6 := by
      rw [hseveral]
      rfl
    -- of the five spellings in front, those that copy anything are for source text
    have hcopied : ∀ entry ∈ (plan true true).take 5, entry.2 = .firstOnly → entry.1.grammar = .source := by decide
    refine spellings_eq_error hplan (fun entry hentry => ⟨hpaired, fun hfirst d hd => ?_⟩)
      (write_firstOnly_of_first_introducer hpaired h)
    rw [hcopied entry hentry hfirst]
    rintro rfl
    exact hbackslash hd

/-- a text without spellings has a fault -/
theorem exists_spellingsFault {text : List UInt16} {entities : Bool} (h : ¬Spellable entities text) :
    ∃ fault, SpellingsFault entities (codePoints text) fault := by
  by_cases hpaired : ∀ c ∈ codePoints text, ¬c.IsSurrogate
  · by_cases hbackslash : .ofChar '\\' ∈ (codePoints text).tail
    · obtain ⟨before, c, hfirst⟩ := exists_isFirst (exists_later_iff.2 hbackslash)
      exact ⟨_, .backslash hpaired hfirst⟩
    · have hampersand : entities = true ∧ .ofChar '&' ∈ (codePoints text).tail := by
        by_contra hnone
        exact h (spellable_iff.2 ⟨hpaired, hbackslash, fun hentities hmem => hnone ⟨hentities, hmem⟩⟩)
      obtain ⟨before, c, hfirst⟩ := exists_isFirst (exists_later_iff.2 hampersand.2)
      exact ⟨_, .ampersand hpaired hbackslash hampersand.1 hfirst⟩
  · simp only [not_forall, not_not] at hpaired
    obtain ⟨c, hc, hs⟩ := hpaired
    obtain ⟨i, hi, rfl⟩ := List.mem_iff_getElem.1 hc
    obtain ⟨before, c, hfirst⟩ := exists_isFirst (p := fun _ d => d.IsSurrogate) ⟨i, hi, hs⟩
    exact ⟨_, .unpaired hfirst⟩

theorem exists_spellings_eq_error_iff {text : List UInt16} {entities : Bool} :
    (∃ fault, spellings text entities = .error fault) ↔ ¬Spellable entities text := by
  rw [← exists_spellings_iff]
  cases spellings text entities <;> simp

theorem spellings_eq_error_iff {text : List UInt16} {entities : Bool} {fault : WriteFault} :
    spellings text entities = .error fault ↔ SpellingsFault entities (codePoints text) fault := by
  constructor
  · intro h
    obtain ⟨fault', hfault'⟩ := exists_spellingsFault (exists_spellings_eq_error_iff.1 ⟨fault, h⟩)
    obtain rfl : fault' = fault := Except.error.inj ((spellings_of_fault hfault').symm.trans h)
    exact hfault'
  · exact spellings_of_fault

/-- **All spellings, or the fault.** A text lacks its spellings exactly when a half in it is unpaired, or a code point behind
the first is a backslash or, with character references, an ampersand. Then the fault is decided by kind first and by place
only within a kind. Otherwise there is, form by form, the spelling with everything escaped and, if the text has several
code points, the one with only the first escaped. -/
theorem spellings_by_fault (text : List UInt16) (entities : Bool) :
    ((∃ fault, spellings text entities = .error fault) ↔
      (∃ c ∈ codePoints text, c.IsSurrogate) ∨ .ofChar '\\' ∈ (codePoints text).tail ∨
        entities = true ∧ .ofChar '&' ∈ (codePoints text).tail) ∧
    (∀ fault, spellings text entities = .error fault ↔ SpellingsFault entities (codePoints text) fault) ∧
    ∀ list, spellings text entities = .ok list →
      list.map (fun s => (s.form, s.coverage)) =
        ([Form.numeric4, Form.numeric8] ++ if entities then [Form.entityDecimal, Form.entityHex] else []).flatMap
          (fun form => (form, .all) :: if 1 < (codePoints text).length then [(form, .firstOnly)] else []) ∧
      ∀ s ∈ list, write s.form s.coverage text = .ok s.text := by
  refine ⟨?_, fun fault => spellings_eq_error_iff, fun list hlist => ⟨?_, write_of_mem_spellings hlist⟩⟩
  · rw [exists_spellings_eq_error_iff, spellable_iff]
    simp [imp_iff_not_or, -not_and, not_and_or]
  · rw [map_entry_of_spellings hlist]
    by_cases hseveral : 1 < (codePoints text).length <;> cases entities <;> simp [plan, forms, coverages, hseveral]

/-- an ampersand stands before the backslash, and an unpaired half behind both: each is the fault only without those that
take precedence -/
theorem spellings_by_fault_precedence :
    spellings [0x61, 0x26, 0x5C, 0xD800] true = .error (.unpaired 3 0xD800) ∧
    spellings [0x61, 0x26, 0x5C] true = .error (.introducer 2 '\\') ∧
    spellings [0x61, 0x26] true = .error (.introducer 1 '&') ∧
    ∃ list, spellings [0x61, 0x26] false = .ok list ∧ list.map (fun s => (s.form, s.coverage)) =
      [(.numeric4, .all), (.numeric4, .firstOnly), (.numeric8, .all), (.numeric8, .firstOnly)] := by
  have hlist : ∃ list, spellings [0x61, 0x26] false = .ok list := ⟨_, rfl⟩
  have hhalf : IsFirst (fun _ d => d.IsSurrogate) (codePoints [0x61, 0x26, 0x5C, 0xD800])
      (codePoints [0x61, 0x26, 0x5C]) (.ofUnit 0xD800) := ⟨⟨[], by decide⟩, by decide, by decide⟩
  have hbackslash : IsFirst (Later '\\') (codePoints [0x61, 0x26, 0x5C]) (codePoints [0x61, 0x26]) (.ofUnit 0x5C) :=
    ⟨⟨[], by decide⟩, by decide, by decide⟩
  have hampersand : IsFirst (Later '&') (codePoints [0x61, 0x26]) (codePoints [0x61]) (.ofUnit 0x26) :=
    ⟨⟨[], by decide⟩, by decide, by decide⟩
  refine ⟨?_, ?_, ?_, ?_⟩
  · exact ((spellings_by_fault _ true).2.1 _).2 (.unpaired hhalf)
  · exact ((spellings_by_fault _ true).2.1 _).2 (.backslash (by decide) hbackslash)
  · exact ((spellings_by_fault _ true).2.1 _).2 (.ampersand (by decide) (by decide) rfl hampersand)
  · obtain ⟨list, hlist⟩ := hlist
    exact ⟨list, hlist, ((spellings_by_fault _ false).2.2 list hlist).1⟩

end IdentifierText.Escape
