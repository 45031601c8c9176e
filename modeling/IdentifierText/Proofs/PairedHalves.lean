/-
Texts in which every half has its partner.

That a text is in order can be said in three ways: its enumeration yields no half, some string has it as its encoding, or,
unit by unit, each high half has a low one directly behind it and each low half a high one directly before it. The first is
the outcome of a walk from left to right in which a unit may be taken together with the next one; the last looks at
neighbours only. What relates them is that a half is enumerated on its own exactly where no partner stands beside it
(`exists_surrogate_iff`): in a row of halves the walk neither passes over one nor takes one twice.

Results:
- `exists_surrogate_iff`: the halves that an enumeration yields are those that stand apart from the units around them;
- `halvesPaired_iff`: the condition on neighbours says that there is no such half;
- `not_hasUnpaired_iff`: all three are the same.
-/
import IdentifierText.Proofs.CodePointSpelling
import IdentifierText.Proofs.StringText

namespace IdentifierText.Utf16

/-! ## Halves on their own -/

theorem isSurrogate_ofUnit_iff {u : UInt16} : (CodePoint.ofUnit u).IsSurrogate ↔ IsHigh u ∨ IsLow u := by
  simp only [CodePoint.IsSurrogate, CodePoint.val_ofUnit, IsHigh, IsLow]
  omega

/-! A high half can only make up a pair with what is behind it, and a low half with what is before it. -/

section

variable {u : UInt16} {front back : List UInt16}

theorem apart_behind_iff (h : IsHigh u) : Apart [u] back ↔ ¬∃ v ∈ back.head?, IsLow v := by
  simp [Apart, h]

theorem apart_before_iff (h : IsLow u) : Apart front [u] ↔ ¬∃ v ∈ front.getLast?, IsHigh v := by
  simp [Apart, h]

theorem apart_before_of_high (h : IsHigh u) : Apart front [u] := by
  simp [Apart, h.not_low]

theorem apart_behind_of_low (h : IsLow u) : Apart [u] back := by
  have hnot : ¬IsHigh u := fun hhigh => hhigh.not_low h
  simp [Apart, hnot]

end

/-- a unit that makes up no pair with its neighbours is enumerated on its own, and so is what stands around it -/
theorem codePoints_around_unit {front back : List UInt16} {u : UInt16} (hfront : Apart front [u]) (hback : Apart [u] back) :
    codePoints (front ++ u :: back) = codePoints front ++ .ofUnit u :: codePoints back := by
  have hrest : Apart front (u :: back) := hfront
  rw [codePoints_append hrest, codePoints_cons_of_apart hback]

/-- **Halves on their own.** An enumeration yields a half exactly where one stands apart from the units around it. -/
theorem exists_surrogate_iff {text : List UInt16} :
    (∃ c ∈ codePoints text, c.IsSurrogate) ↔
      ∃ front u back, text = front ++ u :: back ∧ (IsHigh u ∨ IsLow u) ∧ Apart front [u] ∧ Apart [u] back := by
  constructor
  · rintro ⟨c, hc, hs⟩
    obtain ⟨before, after, hsplit⟩ := List.append_of_mem hc
    have hunits : c.units = [.ofNat c.val] := CodePoint.units_of_isSurrogate hs
    have hpoint : CodePoint.ofUnit (.ofNat c.val) = c :=
      CodePoint.ext (CodePoint.toNat_ofNat_val fun hastral => hastral.not_isSurrogate hs)
    obtain ⟨-, hrest, hfront⟩ := cut_codePoints hsplit
    rw [← List.singleton_append] at hrest
    obtain ⟨-, -, hback⟩ := cut_codePoints hrest
    rw [encode_cons, hunits] at hfront
    rw [encode_cons, encode_nil, List.append_nil, hunits] at hback
    refine ⟨encode before, .ofNat c.val, encode after, ?_, ?_, hfront, hback⟩
    · rw [eq_of_codePoints_split hsplit, hunits, List.append_assoc, List.singleton_append]
    · rwa [← isSurrogate_ofUnit_iff, hpoint]
  · rintro ⟨front, u, back, rfl, hu, hfront, hback⟩
    refine ⟨.ofUnit u, ?_, isSurrogate_ofUnit_iff.2 hu⟩
    rw [codePoints_around_unit hfront hback]
    simp

/-! ## Neighbours -/

/-- every half stands by its partner: a high one directly before a low one, a low one directly behind a high one -/
def HalvesPaired (text : List UInt16) : Prop :=
  ∀ i u, text[i]? = some u →
    (IsHigh u → ∃ v, text[i + 1]? = some v ∧ IsLow v) ∧
    (IsLow u → ∃ j v, i = j + 1 ∧ text[j]? = some v ∧ IsHigh v)

/-- places are splits: the neighbours of a unit are the last one of what stands before it and the first one behind it -/
theorem halvesPaired_iff_split {text : List UInt16} :
    HalvesPaired text ↔
      ∀ front u back, text = front ++ u :: back →
        (IsHigh u → ∃ v ∈ back.head?, IsLow v) ∧ (IsLow u → ∃ v ∈ front.getLast?, IsHigh v) := by
  constructor
  · rintro h front u back rfl
    obtain ⟨hnext, hprevious⟩ := h front.length u (by simp)
    refine ⟨fun hhigh => ?_, fun hlow => ?_⟩
    · obtain ⟨v, hv, hlow⟩ := hnext hhigh
      rw [List.getElem?_append_right (Nat.le_add_right _ 1), Nat.add_sub_cancel_left, List.getElem?_cons_succ,
        ← List.head?_eq_getElem?] at hv
      exact ⟨v, hv, hlow⟩
    · obtain ⟨j, v, hj, hv, hhigh⟩ := hprevious hlow
      rw [List.getElem?_append_left (by omega)] at hv
      exact ⟨v, by simpa [List.getLast?_eq_getElem?, hj] using hv, hhigh⟩
  · intro h i u hu
    obtain ⟨hi, rfl⟩ := List.getElem?_eq_some_iff.1 hu
    have hsplit : text = text.take i ++ text[i] :: text.drop (i + 1) := by
      rw [List.getElem_cons_drop, List.take_append_drop]
    obtain ⟨hnext, hprevious⟩ := h _ _ _ hsplit
    refine ⟨fun hhigh => ?_, fun hlow => ?_⟩
    · obtain ⟨v, hv, hlow⟩ := hnext hhigh
      exact ⟨v, by simpa using hv, hlow⟩
    · obtain ⟨v, hv, hhigh⟩ := hprevious hlow
      cases i with
      | zero => simp at hv
      | succ j =>
        have hj : text[j]? = some text[j] := List.getElem?_eq_getElem (by omega)
        rw [List.take_add_one, hj, Option.toList_some, List.getLast?_concat] at hv
        exact ⟨j, v, rfl, hj.trans hv, hhigh⟩

/-- every half has its partner exactly where none is enumerated on its own -/
theorem halvesPaired_iff {text : List UInt16} : HalvesPaired text ↔ ¬∃ c ∈ codePoints text, c.IsSurrogate := by
  rw [halvesPaired_iff_split, exists_surrogate_iff]
  constructor
  · rintro h ⟨front, u, back, rfl, hu, hfront, hback⟩
    obtain ⟨hnext, hprevious⟩ := h front u back rfl
    rcases hu with hhigh | hlow
    · exact (apart_behind_iff hhigh).1 hback (hnext hhigh)
    · exact (apart_before_iff hlow).1 hfront (hprevious hlow)
  · rintro h front u back rfl
    constructor
    · intro hhigh
      by_contra hnone
      exact h ⟨front, u, back, rfl, Or.inl hhigh, apart_before_of_high hhigh, (apart_behind_iff hhigh).2 hnone⟩
    · intro hlow
      by_contra hnone
      exact h ⟨front, u, back, rfl, Or.inr hlow, (apart_before_iff hlow).2 hnone, apart_behind_of_low hlow⟩

/-! ## Texts that are strings -/

/-- code points that are no surrogates are characters, and characters no surrogates -/
theorem exists_string_iff {text : List UInt16} :
    (∃ s, text = ofString s) ↔ ¬∃ c ∈ codePoints text, c.IsSurrogate := by
  constructor
  · rintro ⟨s, rfl⟩ ⟨c, hc, hs⟩
    rw [codePoints_ofString] at hc
    exact not_isSurrogate_of_mem_map_ofChar s.toList c hc hs
  · intro h
    obtain ⟨chars, hchars⟩ := Escape.exists_chars fun c hc hs => h ⟨c, hc, hs⟩
    refine ⟨.ofList chars, ?_⟩
    rw [ofString, String.toList_ofList, hchars, encode_codePoints]

/-- **Texts in order.** No half is unpaired in a text exactly when the text is the encoding of a string, and exactly when
each high half in it is directly followed by a low one and each low half directly preceded by a high one. -/
theorem not_hasUnpaired_iff (text : List UInt16) :
    (hasUnpaired text = false ↔ ∃ s : String, text = ofString s) ∧ (hasUnpaired text = false ↔ HalvesPaired text) := by
  have hpaired : hasUnpaired text = false ↔ ¬∃ c ∈ codePoints text, c.IsSurrogate := by simp [hasUnpaired]
  rw [hpaired, exists_string_iff, halvesPaired_iff]
  exact ⟨Iff.rfl, Iff.rfl⟩

/-- two high halves before a low one: the first is left over -/
example : hasUnpaired [0xD800, 0xD83D, 0xDE00] = true ∧ hasUnpaired [0xD83D, 0xDE00] = false := by decide

end IdentifierText.Utf16
