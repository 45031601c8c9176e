/-
Spellings that tell each other apart.

Every spelling opens with the escape of the first code point, and the first characters of an escape are those of one form
only. So spellings in two forms differ at once. In one form the spelling with everything escaped and the one with only the
first code point escaped differ behind that escape: the one goes on with the character that opens escapes, and the other
with a character that is copied and therefore is not it. Where there is no second code point nothing follows in either.

Results:
- `Form.ofOpening?_encode`: an escape tells its form, whatever is behind it;
- `length_le_one_of_spelledAs`: the two coverages give the same spelling of one code point at most;
- `eq_of_text_eq`: what is listed for a text has its own string;
- `spellings_distinct`: the spellings of a text differ, and what is left out would be there twice.
-/
import Mathlib.Data.List.Nodup
import IdentifierText.Proofs.Spellable

namespace IdentifierText.Escape

open Utf16

/-! ## How a spelling opens -/

namespace Form

/-- the form that the first characters of a spelling tell -/
def ofOpening? : List Char → Option Form
  | '\\' :: 'u' :: _ => some numeric4
  | '\\' :: 'U' :: _ => some numeric8
  | '&' :: '#' :: 'x' :: _ => some entityHex
  | '&' :: '#' :: _ => some entityDecimal
  | _ => none

theorem ofOpening?_encode (form : Form) (c : CodePoint) (rest : List Char) :
    ofOpening? (form.encode c ++ rest) = some form := by
  cases form with
  | numeric4 =>
    obtain ⟨u, us, hunits⟩ := List.exists_cons_of_ne_nil c.units_ne_nil
    simp [encode, hunits, unitEscape, ofOpening?]
  | numeric8 => simp [encode, ofOpening?]
  | entityDecimal =>
    -- a reference in decimal goes on with a digit, and that is no `x`
    obtain ⟨d, hd, more, hnumeral⟩ := Radix.numeral_eq_cons .decimal c.val
    have hx : Radix.digit d ≠ 'x' := Radix.digit_ne hd (by decide)
    simp [encode, hnumeral, hx, ofOpening?]
  | entityHex => simp [encode, ofOpening?]

theorem exists_encode_eq_cons (form : Form) (c : CodePoint) : ∃ more, form.encode c = form.grammar.introducer :: more := by
  cases form with
  | numeric4 =>
    obtain ⟨u, us, hunits⟩ := List.exists_cons_of_ne_nil c.units_ne_nil
    rw [encode, hunits]
    exact ⟨_, rfl⟩
  | numeric8 | entityDecimal | entityHex => exact ⟨_, rfl⟩

end Form

/-! ## One form and two coverages -/

variable {form : Form} {coverage : Coverage} {points : List CodePoint} {text : List UInt16} {s : String}

theorem SpelledAs.eq_flatMap (h : SpelledAs form .all points s) : s = .ofList (points.flatMap form.encode) := by
  cases h
  rfl

theorem SpelledAs.exists_copied {first : CodePoint} {rest : List CodePoint}
    (h : SpelledAs form .firstOnly (first :: rest) s) :
    ∃ chars : List Char, rest = chars.map .ofChar ∧ s = .ofList (form.encode first ++ chars) := by
  cases h with
  | firstOnly _ chars => exact ⟨chars, rfl, rfl⟩

/-- a spelling of anything tells its form -/
theorem SpelledAs.ofOpening?_eq (h : SpelledAs form coverage points s) (hne : points ≠ []) :
    Form.ofOpening? s.toList = some form := by
  cases h with
  | all =>
    obtain ⟨first, rest, rfl⟩ := List.exists_cons_of_ne_nil hne
    rw [String.toList_ofList, List.flatMap_cons, Form.ofOpening?_encode]
  | empty => exact absurd rfl hne
  | firstOnly first chars => rw [String.toList_ofList, Form.ofOpening?_encode]

/-- **Behind the first escape.** If no later code point opens an escape, both coverages give the same spelling of one code
point at most. -/
theorem length_le_one_of_spelledAs (hall : SpelledAs form .all points s) (hfirst : SpelledAs form .firstOnly points s)
    (hcopied : ∀ c ∈ points.tail, c ≠ .ofChar form.grammar.introducer) : points.length ≤ 1 := by
  cases points with
  | nil => exact Nat.zero_le 1
  | cons first rest =>
    obtain ⟨chars, rfl, hs⟩ := hfirst.exists_copied
    have htails : (chars.map .ofChar).flatMap form.encode = chars := by
      have hsame := hall.eq_flatMap.symm.trans hs
      rw [String.ofList_inj, List.flatMap_cons] at hsame
      exact List.append_cancel_left hsame
    cases chars with
    | nil => exact Nat.le_refl 1
    | cons ch chars =>
      obtain ⟨more, hmore⟩ := form.exists_encode_eq_cons (.ofChar ch)
      rw [List.map_cons, List.flatMap_cons, hmore] at htails
      have hch : form.grammar.introducer = ch := (List.cons.inj htails).1
      refine absurd ?_ (hcopied (.ofChar ch) (by simp))
      rw [hch]

theorem spelledAs_of_write (h : write form coverage text = .ok s) : SpelledAs form coverage (codePoints text) s := by
  have hgood := writable_iff_forall_not_bad.1 (exists_write_iff.1 ⟨s, h⟩)
  obtain ⟨s', hspelled, hwrite⟩ := exists_write_of_forall_not_bad hgood
  obtain rfl : s' = s := Except.ok.inj (hwrite.symm.trans h)
  exact hspelled

/-- with one code point there is nothing that coverage could change -/
theorem write_firstOnly_eq_all (h : (codePoints text).length ≤ 1) : write form .firstOnly text = write form .all text := by
  rw [write_eq_writePoints, write_eq_writePoints]
  match codePoints text, h with
  | [], _ => rfl
  | [c], _ => rfl

theorem write_firstOnly_eq_ok_iff (hall : write form .all text = .ok s) :
    write form .firstOnly text = .ok s ↔ (codePoints text).length ≤ 1 := by
  constructor
  · intro hfirst
    have hwritable := exists_write_iff.1 ⟨s, hfirst⟩
    exact length_le_one_of_spelledAs (spelledAs_of_write hall) (spelledAs_of_write hfirst) (hwritable.copied rfl)
  · intro hlength
    rw [write_firstOnly_eq_all hlength, hall]

/-! ## What is listed -/

theorem nodup_plan (entities several : Bool) : (plan entities several).Nodup := by
  cases entities <;> cases several <;> decide

variable {entities : Bool} {list : List Spelling}

theorem exists_mem_spellings_iff (h : spellings text entities = .ok list) :
    (∃ t ∈ list, t.form = form ∧ t.coverage = coverage) ↔
      form ∈ forms entities ∧ coverage ∈ coverages (1 < (codePoints text).length) := by
  rw [← mem_plan_iff, ← map_entry_of_spellings h, List.mem_map]
  simp only [Prod.mk.injEq]

/-- only texts of several code points have a spelling listed in which just the first one is escaped -/
theorem exists_firstOnly_iff (h : spellings text entities = .ok list) (hform : form ∈ forms entities) :
    (∃ t ∈ list, t.form = form ∧ t.coverage = .firstOnly) ↔ 1 < (codePoints text).length := by
  simp [exists_mem_spellings_iff h, hform, mem_coverages_iff]

/-- in one form the two coverages are listed only where their strings differ -/
theorem text_ne_of_coverages (h : spellings text entities = .ok list) {t u : Spelling} (ht : t ∈ list) (hu : u ∈ list)
    (hform : t.form = u.form) (hall : t.coverage = .all) (hfirst : u.coverage = .firstOnly) : t.text ≠ u.text := by
  intro hsame
  have ht_write : write u.form .all text = .ok u.text := by
    rw [← hform, ← hall, ← hsame]
    exact write_of_mem_spellings h t ht
  have hu_write : write u.form .firstOnly text = .ok u.text := by
    rw [← hfirst]
    exact write_of_mem_spellings h u hu
  have hlength : (codePoints text).length ≤ 1 := (write_firstOnly_eq_ok_iff ht_write).1 hu_write
  have hu_form : u.form ∈ forms entities := ((exists_mem_spellings_iff h).1 ⟨u, hu, rfl, rfl⟩).1
  have hseveral : 1 < (codePoints text).length := (exists_firstOnly_iff h hu_form).1 ⟨u, hu, rfl, hfirst⟩
  omega

/-- **Each has its own string.** Two spellings in the list of a text that are the same string are the same spelling. -/
theorem eq_of_text_eq (hne : text ≠ []) (h : spellings text entities = .ok list) {t u : Spelling} (ht : t ∈ list)
    (hu : u ∈ list) (hsame : t.text = u.text) : t = u := by
  have hform : t.form = u.form := by
    have hpoints : codePoints text ≠ [] := mt codePoints_eq_nil_iff.1 hne
    have ht_form := (spelledAs_of_write (write_of_mem_spellings h t ht)).ofOpening?_eq hpoints
    have hu_form := (spelledAs_of_write (write_of_mem_spellings h u hu)).ofOpening?_eq hpoints
    rw [hsame] at ht_form
    exact Option.some.inj (ht_form.symm.trans hu_form)
  have hcoverage : t.coverage = u.coverage := by
    cases ht_coverage : t.coverage <;> cases hu_coverage : u.coverage
    · rfl
    · exact absurd hsame (text_ne_of_coverages h ht hu hform ht_coverage hu_coverage)
    · exact absurd hsame.symm (text_ne_of_coverages h hu ht hform.symm hu_coverage ht_coverage)
    · rfl
  cases t
  cases u
  rw [Spelling.mk.injEq]
  exact ⟨hform, hcoverage, hsame⟩

/-- **The spellings of a text differ.** Those that are listed for a text that is not empty are different strings. What is
left out in a form is the spelling with only the first code point escaped, and that exactly where it would be the one with
everything escaped. In a text without unpaired halves it is that exactly if there is one code point at most. -/
theorem spellings_distinct (text : List UInt16) (entities : Bool) :
    (text ≠ [] → ∀ list, spellings text entities = .ok list → (list.map (·.text)).Nodup) ∧
    (∀ list, spellings text entities = .ok list → ∀ form ∈ forms entities,
      ((¬∃ s ∈ list, s.form = form ∧ s.coverage = .firstOnly) ↔ write form .firstOnly text = write form .all text)) ∧
    (hasUnpaired text = false → ∀ form, ∃ s, write form .all text = .ok s ∧
      (write form .firstOnly text = .ok s ↔ (codePoints text).length ≤ 1)) := by
  refine ⟨fun hne list h => ?_, fun list h form hform => ?_, fun hpaired form => ?_⟩
  · apply List.Nodup.map_on
    · intro t ht u hu hsame
      exact eq_of_text_eq hne h ht hu hsame
    · refine List.Nodup.of_map (fun s => (s.form, s.coverage)) ?_
      rw [map_entry_of_spellings h]
      exact nodup_plan entities _
  · have hpaired : ∀ c ∈ codePoints text, ¬c.IsSurrogate := (exists_spellings_iff.1 ⟨list, h⟩).paired
    rw [exists_firstOnly_iff h hform, Nat.not_lt, ← write_firstOnly_eq_ok_iff (write_all hpaired), write_all hpaired]
  · have hall : write form .all text = .ok _ := write_all (not_isSurrogate_of_not_hasUnpaired hpaired)
    exact ⟨_, hall, write_firstOnly_eq_ok_iff hall⟩

/-- an ampersand that is escaped and a letter that is or is not, in all eight spellings; and a pair, of which all four
forms leave out the spelling that would be the same -/
theorem spellings_distinct_ampersand :
    (∃ list, spellings [0x26, 0x78] true = .ok list ∧ list.length = 8 ∧ (list.map (·.text)).Nodup) ∧
    (∃ list, spellings [0xD83D, 0xDE00] true = .ok list ∧ list.length = 4 ∧
      write .entityHex .firstOnly [0xD83D, 0xDE00] = write .entityHex .all [0xD83D, 0xDE00]) ∧
    ∃ s, write .numeric4 .all [0xD83D, 0xDE00] = .ok s ∧ write .numeric4 .firstOnly [0xD83D, 0xDE00] = .ok s := by
  refine ⟨?_, ?_, ?_⟩
  · obtain ⟨list, hlist, hlength⟩ : ∃ list, spellings [0x26, 0x78] true = .ok list ∧ list.length = 8 := ⟨_, rfl, rfl⟩
    exact ⟨list, hlist, hlength, (spellings_distinct [0x26, 0x78] true).1 (by decide) list hlist⟩
  · obtain ⟨list, hlist, hlength, hnone⟩ : ∃ list, spellings [0xD83D, 0xDE00] true = .ok list ∧ list.length = 4 ∧
        ¬∃ s ∈ list, s.form = .entityHex ∧ s.coverage = .firstOnly := ⟨_, rfl, rfl, by decide⟩
    exact ⟨list, hlist, hlength,
      ((spellings_distinct [0xD83D, 0xDE00] true).2.1 list hlist .entityHex (by decide)).1 hnone⟩
  · obtain ⟨s, hall, hfirst⟩ := (spellings_distinct [0xD83D, 0xDE00] true).2.2 (by decide) .numeric4
    exact ⟨s, hall, hfirst.2 (by decide)⟩

end IdentifierText.Escape
