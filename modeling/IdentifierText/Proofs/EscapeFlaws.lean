/-
What is wrong with an escape that cannot be read.

Digits are read from left to right, up to the first place that cannot be right. An escape of fixed width goes wrong where its
digits break off: at the end of the text, or at a character that is no digit. A character reference goes wrong as soon as
its digits so far are too large, and otherwise where they break off without a semicolon. The characters up to that place
tell what the flaw is. So it stays the same when more text is put behind, unless the place is the end of the text.

Results:
- `readFixed_eq_error_iff`, `readReference_eq_error_iff`: the flaw of digits, by how far they go and what stands behind them;
- `readEscape?_eq_error_iff`: behind an introducer an escape is refused exactly for the flaw that it has;
- `IsFlawed.append`: no more text repairs or changes a flaw, if it is not for the end of the text.
-/
import IdentifierText.Proofs.EscapeGrammar

namespace IdentifierText.Escape

variable {r : Radix} {width value : Nat} {any : Bool} {text : List Char} {flaw : Flaw}

/-- the flaws that are not for the end of the text -/
def Flaw.IsFinal : Flaw → Prop
  | badDigit _ | tooLarge | noDigits => True
  | truncated | unclosed => False

/-! ## Digits of a fixed width -/

/-- where hexadecimal digits break off before they are as many as the width -/
inductive FixedFlaw (width : Nat) : List Char → Flaw → Prop
  /-- the text ends -/
  | truncated {digits : List Char} {values : List Nat} (hdigits : List.Forall₂ Radix.hexadecimal.IsDigit digits values)
    (hshort : digits.length < width) : FixedFlaw width digits .truncated
  /-- another character follows -/
  | badDigit {digits : List Char} {values : List Nat} {c : Char}
    (hdigits : List.Forall₂ Radix.hexadecimal.IsDigit digits values) (hshort : digits.length < width)
    (hc : ∀ d, ¬Radix.hexadecimal.IsDigit c d) (rest : List Char) : FixedFlaw width (digits ++ c :: rest) (.badDigit c)

theorem FixedFlaw.cons {x : Char} {d : Nat} (hx : Radix.hexadecimal.IsDigit x d) (h : FixedFlaw width text flaw) :
    FixedFlaw (width + 1) (x :: text) flaw := by
  cases h with
  | truncated hdigits hshort => exact .truncated (.cons hx hdigits) (Nat.succ_lt_succ hshort)
  | badDigit hdigits hshort hc rest => exact .badDigit (.cons hx hdigits) (Nat.succ_lt_succ hshort) hc rest

/-- where there are too few digits, a digit is still asked for behind them -/
theorem readFixed_digits {digits : List Char} {values : List Nat}
    (hdigits : List.Forall₂ Radix.hexadecimal.IsDigit digits values) (hshort : digits.length < width) (value : Nat)
    (rest : List Char) :
    ∃ v more, readFixed value width (digits ++ rest) = readFixed v (more + 1) rest := by
  obtain ⟨more, rfl⟩ := Nat.exists_eq_add_of_lt hshort
  have hread : readFixed value digits.length (digits ++ rest) = .ok (_, rest) :=
    readFixed_eq_ok_iff.2 ⟨digits, values, rfl, rfl, hdigits, rfl⟩
  exact ⟨_, more, readFixed_add hread (more + 1)⟩

theorem readFixed_eq_error_iff : readFixed value width text = .error flaw ↔ FixedFlaw width text flaw := by
  constructor
  · intro h
    fun_induction readFixed value width text with
    | case1 => cases h
    | case2 =>
      cases h
      exact .truncated .nil (Nat.succ_pos _)
    | case3 value width c text hc =>
      cases h
      exact .badDigit .nil (Nat.succ_pos _) (Radix.digit?_eq_none_iff.1 hc) text
    | case4 value width c text d hd ih => exact (ih h).cons (Radix.digit?_eq_some_iff.1 hd)
  · intro h
    cases h with
    | truncated hdigits hshort =>
      obtain ⟨v, more, hread⟩ := readFixed_digits hdigits hshort value []
      rw [← List.append_nil text, hread, readFixed]
    | badDigit hdigits hshort hc rest =>
      obtain ⟨v, more, hread⟩ := readFixed_digits hdigits hshort value (_ :: rest)
      rw [hread, readFixed, Radix.digit?_eq_none_iff.2 hc]

/-! ## Digits of a reference -/

/-- what is wrong with a reference from a digit on, after digits of value `value` if there were `any` -/
inductive ReferenceFlaw (r : Radix) (value : Nat) (any : Bool) : List Char → Flaw → Prop
  /-- the digits up to some place are too large already -/
  | tooLarge {digits : List Char} {values : List Nat} (hdigits : List.Forall₂ r.IsDigit digits values)
    (hlarge : 0x10FFFF < r.accumulate value values) (rest : List Char) :
    ReferenceFlaw r value any (digits ++ rest) .tooLarge
  | noDigits (hany : any = false) (rest : List Char) : ReferenceFlaw r value any (';' :: rest) .noDigits
  /-- the text ends behind the digits -/
  | unclosed {digits : List Char} {values : List Nat} (hdigits : List.Forall₂ r.IsDigit digits values)
    (hsmall : r.accumulate value values ≤ 0x10FFFF) : ReferenceFlaw r value any digits .unclosed
  /-- a character follows that neither is a digit nor closes the reference -/
  | badDigit {digits : List Char} {values : List Nat} {c : Char} (hdigits : List.Forall₂ r.IsDigit digits values)
    (hsmall : r.accumulate value values ≤ 0x10FFFF) (hc : ∀ d, ¬r.IsDigit c d) (hsemicolon : c ≠ ';')
    (rest : List Char) : ReferenceFlaw r value any (digits ++ c :: rest) (.badDigit c)

theorem ReferenceFlaw.cons {x : Char} {d : Nat} (hx : r.IsDigit x d)
    (h : ReferenceFlaw r (value * r.base + d) true text flaw) : ReferenceFlaw r value any (x :: text) flaw := by
  cases h with
  | tooLarge hdigits hlarge rest => exact .tooLarge (.cons hx hdigits) hlarge rest
  | noDigits hany => cases hany
  | unclosed hdigits hsmall => exact .unclosed (.cons hx hdigits) hsmall
  | badDigit hdigits hsmall hc hsemicolon rest => exact .badDigit (.cons hx hdigits) hsmall hc hsemicolon rest

/-- digits are refused as soon as they are too large, and what stands behind them does not count -/
theorem readReference_of_large {value : CodePoint} {digits : List Char} {values : List Nat}
    (hdigits : List.Forall₂ r.IsDigit digits values) (hlarge : 0x10FFFF < r.accumulate value.val values) (any : Bool)
    (rest : List Char) : readReference r value any (digits ++ rest) = .error .tooLarge := by
  induction hdigits generalizing value any with
  | nil => exact absurd value.le_max (Nat.not_le_of_lt hlarge)
  | @cons x d digits values hx _ ih =>
    have hd : r.digit? x = some d := Radix.digit?_eq_some_iff.2 hx
    rw [List.cons_append]
    by_cases hmax : value.val * r.base + d ≤ 0x10FFFF
    · rw [readReference_cons hd hmax]
      exact ih hlarge true
    · rw [readReference, if_neg (Radix.ne_semicolon_of_digit? hd), hd]
      simp [CodePoint.ofNat?, hmax]

theorem readReference_eq_error_iff {value : CodePoint} :
    readReference r value any text = .error flaw ↔ ReferenceFlaw r value.val any text flaw := by
  constructor
  · intro h
    fun_induction readReference r value any text with
    | case1 value any =>
      cases h
      exact .unclosed .nil value.le_max
    | case2 => cases h
    | case3 value any text hany =>
      cases h
      exact .noDigits (Bool.eq_false_iff.2 hany) text
    | case4 value any c text hsemicolon hc =>
      cases h
      exact .badDigit .nil value.le_max (Radix.digit?_eq_none_iff.1 hc) hsemicolon text
    | case5 value any c text _ d hd hnone =>
      cases h
      have hlarge : 0x10FFFF < value.val * r.base + d := by
        by_contra hmax
        simp [CodePoint.ofNat?, Nat.le_of_not_lt hmax] at hnone
      exact .tooLarge (.cons (Radix.digit?_eq_some_iff.1 hd) .nil) hlarge text
    | case6 value any c text _ d hd value' hvalue ih =>
      have hflaw := ih h
      rw [CodePoint.ofNat?_eq_some_iff.1 hvalue] at hflaw
      exact hflaw.cons (Radix.digit?_eq_some_iff.1 hd)
  · intro h
    cases h with
    | tooLarge hdigits hlarge rest => exact readReference_of_large hdigits hlarge any rest
    | noDigits hany rest => simp [readReference, hany]
    | unclosed hdigits hsmall =>
      rw [← List.append_nil text, readReference_digits (c := ⟨_, hsmall⟩) hdigits rfl, readReference]
    | badDigit hdigits hsmall hc hsemicolon rest =>
      rw [readReference_digits (c := ⟨_, hsmall⟩) hdigits rfl, readReference, if_neg hsemicolon,
        Radix.digit?_eq_none_iff.2 hc]

/-! ## Escapes -/

/-- what is wrong with the escape that the text behind an introducer starts -/
inductive IsFlawed : Grammar → List Char → Flaw → Prop
  | unit {text : List Char} {flaw : Flaw} (h : FixedFlaw 4 text flaw) : IsFlawed .source ('u' :: text) flaw
  | point {text : List Char} {flaw : Flaw} (h : FixedFlaw 8 text flaw) : IsFlawed .source ('U' :: text) flaw
  /-- eight digits that name no code point -/
  | largePoint {digits : List Char} {n : Nat} (hlength : digits.length = 8) (h : Radix.hexadecimal.Spells digits n)
    (hlarge : 0x10FFFF < n) (rest : List Char) : IsFlawed .source ('U' :: (digits ++ rest)) .tooLarge
  | hexadecimal {x : Char} {text : List Char} {flaw : Flaw} (hx : x = 'x' ∨ x = 'X')
    (h : ReferenceFlaw .hexadecimal 0 false text flaw) : IsFlawed .markup ('#' :: x :: text) flaw
  | decimal {text : List Char} {flaw : Flaw} (hx : ∀ x ∈ text.head?, x ≠ 'x' ∧ x ≠ 'X')
    (h : ReferenceFlaw .decimal 0 false text flaw) : IsFlawed .markup ('#' :: text) flaw

theorem readUnit_eq_error_iff : readUnit text = .error flaw ↔ FixedFlaw 4 text flaw := by
  simp [readUnit, bind_eq_error_iff, readFixed_eq_error_iff, pure, Except.pure]

theorem readPoint_eq_error_iff : readPoint text = .error flaw ↔ FixedFlaw 8 text flaw ∨
    ∃ digits n rest, text = digits ++ rest ∧ digits.length = 8 ∧ Radix.hexadecimal.Spells digits n ∧ 0x10FFFF < n ∧
      flaw = .tooLarge := by
  simp only [readPoint, bind_eq_error_iff, readFixed_eq_error_iff, readFixed_zero_eq_ok_iff, Prod.exists]
  refine or_congr_right ⟨?_, ?_⟩
  · intro h
    obtain ⟨n, rest, ⟨digits, rfl, hlength, hspells⟩, hpoint⟩ := h
    by_cases hmax : n ≤ 0x10FFFF
    · rw [CodePoint.ofNat?, dif_pos hmax] at hpoint
      cases hpoint
    · rw [CodePoint.ofNat?, dif_neg hmax] at hpoint
      cases hpoint
      exact ⟨digits, n, rest, rfl, hlength, hspells, Nat.lt_of_not_le hmax, rfl⟩
  · intro h
    obtain ⟨digits, n, rest, rfl, hlength, hspells, hlarge, rfl⟩ := h
    refine ⟨n, rest, ⟨digits, rfl, hlength, hspells⟩, ?_⟩
    rw [CodePoint.ofNat?, dif_neg (Nat.not_le_of_lt hlarge)]
    rfl

theorem readEntity_eq_error_iff : readEntity r text = .error flaw ↔ ReferenceFlaw r 0 false text flaw := by
  simp [readEntity, bind_eq_error_iff, readReference_eq_error_iff, pure, Except.pure]

/-- **Why an escape is refused.** Behind an introducer an escape is refused exactly for the flaw that it has. -/
theorem readEscape?_eq_error_iff {g : Grammar} :
    g.readEscape? text = some (.error flaw) ↔ IsFlawed g text flaw := by
  constructor
  · intro h
    unfold Grammar.readEscape? at h
    split at h <;> simp only [Option.some.injEq, reduceCtorEq] at h
    · exact .unit (readUnit_eq_error_iff.1 h)
    · rcases readPoint_eq_error_iff.1 h with hfixed | ⟨digits, n, rest, rfl, hlength, hspells, hlarge, rfl⟩
      · exact .point hfixed
      · exact .largePoint hlength hspells hlarge rest
    · exact .hexadecimal (Or.inl rfl) (readEntity_eq_error_iff.1 h)
    · exact .hexadecimal (Or.inr rfl) (readEntity_eq_error_iff.1 h)
    · rename_i text hx hX
      refine .decimal ?_ (readEntity_eq_error_iff.1 h)
      intro x hhead
      obtain ⟨more, rfl⟩ := List.head?_eq_some_iff.1 hhead
      exact ⟨fun heq => hx more (heq ▸ rfl), fun heq => hX more (heq ▸ rfl)⟩
  · intro h
    cases h with
    | unit h => exact congrArg some (readUnit_eq_error_iff.2 h)
    | point h => exact congrArg some (readPoint_eq_error_iff.2 (Or.inl h))
    | largePoint hlength h hlarge rest =>
      exact congrArg some (readPoint_eq_error_iff.2 (Or.inr ⟨_, _, rest, rfl, hlength, h, hlarge, rfl⟩))
    | hexadecimal hx h =>
      rcases hx with rfl | rfl
      · exact congrArg some (readEntity_eq_error_iff.2 h)
      · exact congrArg some (readEntity_eq_error_iff.2 h)
    | @decimal text _ hx h =>
      cases text with
      | nil => exact congrArg some (readEntity_eq_error_iff.2 h)
      | cons x text =>
        obtain ⟨hlower, hupper⟩ := hx x rfl
        rw [readEscape?_markup_decimal hlower hupper, readEntity_eq_error_iff.2 h]

/-! ## More text -/

theorem FixedFlaw.append (h : FixedFlaw width text flaw) (hfinal : flaw.IsFinal) (more : List Char) :
    FixedFlaw width (text ++ more) flaw := by
  cases h with
  | truncated => exact hfinal.elim
  | badDigit hdigits hshort hc rest =>
    rw [List.append_assoc, List.cons_append]
    exact .badDigit hdigits hshort hc (rest ++ more)

theorem ReferenceFlaw.append (h : ReferenceFlaw r value any text flaw) (hfinal : flaw.IsFinal) (more : List Char) :
    ReferenceFlaw r value any (text ++ more) flaw := by
  cases h with
  | tooLarge hdigits hlarge rest =>
    rw [List.append_assoc]
    exact .tooLarge hdigits hlarge (rest ++ more)
  | noDigits hany rest => exact .noDigits hany (rest ++ more)
  | unclosed => exact hfinal.elim
  | badDigit hdigits hsmall hc hsemicolon rest =>
    rw [List.append_assoc, List.cons_append]
    exact .badDigit hdigits hsmall hc hsemicolon (rest ++ more)

/-- where no text is left, a reference is unclosed and nothing else -/
theorem ReferenceFlaw.ne_nil (h : ReferenceFlaw r 0 any text flaw) (hfinal : flaw.IsFinal) : text ≠ [] := by
  rintro rfl
  have hread : readReference r ⟨0, Nat.zero_le _⟩ any [] = .error flaw := readReference_eq_error_iff.2 h
  rw [readReference] at hread
  cases hread
  exact hfinal

/-- **A final flaw stays**, whatever is put behind the text. -/
theorem IsFlawed.append {g : Grammar} (h : IsFlawed g text flaw) (hfinal : flaw.IsFinal) (more : List Char) :
    IsFlawed g (text ++ more) flaw := by
  cases h with
  | unit h => exact .unit (h.append hfinal more)
  | point h => exact .point (h.append hfinal more)
  | largePoint hlength h hlarge rest =>
    rw [List.cons_append, List.append_assoc]
    exact .largePoint hlength h hlarge (rest ++ more)
  | hexadecimal hx h => exact .hexadecimal hx (h.append hfinal more)
  | @decimal text _ hx h =>
    -- the radix is told by the first character, and there is one
    have hhead : (text ++ more).head? = text.head? := List.head?_append_of_ne_nil text (h.ne_nil hfinal)
    exact .decimal (hhead ▸ hx) (h.append hfinal more)

end IdentifierText.Escape
