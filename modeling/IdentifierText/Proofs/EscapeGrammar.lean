/-
The grammar of escaped text, and what a text in it denotes.

A text is split into pieces: characters that stand for themselves, introducers that open no escape because of the character
behind them, and complete escapes (`Piece`). It denotes the units of its pieces, one after another (`Denotes`). The grammar
names digits by their values and numerals by the numbers that their digits make up, and knows nothing of reading from left
to right.

Results:
- `digit?_eq_some_iff`: the digits that are read are those of the radix, letters in either case;
- `readFixed_eq_ok_iff`, `readReference_eq_ok_iff`: what digit readers accept, and the value that they find, with the
  digits read before;
- `readEscape?_eq_ok_iff`: what is read behind an introducer is a complete escape;
- `read_eq_ok_iff_denotes`: a text is read without fault exactly when it splits into pieces, and as the units it denotes.
-/
import Mathlib.Tactic
import IdentifierText.Proofs.RoundTrip

namespace IdentifierText

/-! ## Numerals -/

namespace Radix

/-- a digit of value `d`; letters count in either case -/
def IsDigit (r : Radix) (c : Char) (d : Nat) : Prop :=
  d < r.base ∧ (c = Nat.digitChar d ∨ c = (Nat.digitChar d).toUpper)

/-- digits that make up a number, the most significant one first; zeros may stand in front -/
def Spells (r : Radix) (digits : List Char) (n : Nat) : Prop :=
  ∃ values, List.Forall₂ r.IsDigit digits values ∧ n = Nat.ofDigits r.base values.reverse

theorem digit?_digitChar (r : Radix) {d : Nat} (h : d < r.base) : r.digit? (Nat.digitChar d) = some d := by
  cases r
  · exact (by decide : ∀ d < 10, digit? decimal (Nat.digitChar d) = some d) d h
  · exact (by decide : ∀ d < 16, digit? hexadecimal (Nat.digitChar d) = some d) d h

theorem toNat_digitChar_of_ten_le {d : Nat} (h : 10 ≤ d) (hlt : d < 16) :
    (Nat.digitChar d).toNat = d + 87 ∧ (Nat.digitChar d).toUpper.toNat = d + 55 :=
  (by decide : ∀ d < 16, 10 ≤ d → (Nat.digitChar d).toNat = d + 87 ∧ (Nat.digitChar d).toUpper.toNat = d + 55) d hlt h

/-- **What counts as a digit.** Exactly the digits of the radix are read, each as its value. -/
theorem digit?_eq_some_iff {r : Radix} {c : Char} {d : Nat} : r.digit? c = some d ↔ r.IsDigit c d := by
  constructor
  · intro h
    refine ⟨digit?_lt h, ?_⟩
    unfold digit? at h
    split at h
    · rename_i hc
      cases h
      exact Or.inl (Char.toNat_inj.1 (by rw [Nat.toNat_digitChar_of_lt_ten (by omega)]; omega))
    · split at h
      · rename_i hc
        cases h
        exact Or.inr (Char.toNat_inj.1 (by rw [(toNat_digitChar_of_ten_le (by omega) (by omega)).2]; omega))
      · split at h
        · rename_i hc
          cases h
          exact Or.inl (Char.toNat_inj.1 (by rw [(toNat_digitChar_of_ten_le (by omega) (by omega)).1]; omega))
        · cases h
  · rintro ⟨hlt, rfl | rfl⟩
    · exact digit?_digitChar r hlt
    · exact digit?_digit r hlt

theorem digit?_eq_none_iff {r : Radix} {c : Char} : r.digit? c = none ↔ ∀ d, ¬r.IsDigit c d := by
  simp only [Option.eq_none_iff_forall_ne_some, ne_eq, digit?_eq_some_iff]

/-- the value of digits that are read behind others of value `value` -/
def accumulate (r : Radix) (value : Nat) (values : List Nat) : Nat :=
  values.foldl (fun value d => value * r.base + d) value

theorem accumulate_zero (r : Radix) (values : List Nat) : r.accumulate 0 values = Nat.ofDigits r.base values.reverse := by
  rw [accumulate, Nat.ofDigits_eq_foldr, List.foldr_reverse]
  congr 1
  funext value d
  rw [Nat.cast_id, Nat.add_comm, Nat.mul_comm]

/-- more digits never make a number less, so a number that is too large stays so -/
theorem le_accumulate (r : Radix) (value : Nat) (values : List Nat) : value ≤ r.accumulate value values := by
  induction values generalizing value with
  | nil => exact Nat.le_refl value
  | cons d values ih =>
    have hbase : value * 1 ≤ value * r.base := Nat.mul_le_mul_left value (Nat.le_of_lt r.one_lt_base)
    calc
      value ≤ value * r.base + d := by omega
      _ ≤ r.accumulate (value * r.base + d) values := ih _

theorem spells_iff {r : Radix} {digits : List Char} {n : Nat} :
    r.Spells digits n ↔ ∃ values, List.Forall₂ r.IsDigit digits values ∧ n = r.accumulate 0 values := by
  simp only [Spells, accumulate_zero]

theorem Spells.lt {r : Radix} {digits : List Char} {n : Nat} (h : r.Spells digits n) : n < r.base ^ digits.length := by
  obtain ⟨values, hdigits, rfl⟩ := h
  have hvalues : ∀ d ∈ values, d < r.base := ((List.forall₂_and_left _ _).1 hdigits.flip).1
  have hlt : Nat.ofDigits r.base values.reverse < r.base ^ values.reverse.length :=
    Nat.ofDigits_lt_base_pow_length r.one_lt_base fun d hd => hvalues d (List.mem_reverse.1 hd)
  rwa [List.length_reverse, ← hdigits.length_eq] at hlt

/-- a character that is no digit does not stand in a numeral -/
theorem Spells.not_mem {r : Radix} {digits : List Char} {n : Nat} (h : r.Spells digits n) {c : Char}
    (hc : r.digit? c = none) : c ∉ digits := by
  obtain ⟨values, hdigits, -⟩ := h
  have hread : List.Forall₂ (fun x d => r.digit? x ≠ none ∧ r.IsDigit x d) digits values :=
    hdigits.imp fun x d hx => ⟨by simp [digit?_eq_some_iff.2 hx], hx⟩
  intro hmem
  exact ((List.forall₂_and_left _ _).1 hread).1 c hmem hc

end Radix

theorem CodePoint.ofNat?_eq_some_iff {n : Nat} {c : CodePoint} : ofNat? n = some c ↔ c.val = n := by
  unfold ofNat?
  by_cases h : n ≤ 0x10FFFF
  · rw [dif_pos h, Option.some.injEq, CodePoint.ext_iff]
    exact eq_comm
  · rw [dif_neg h]
    exact iff_of_false (fun hc => by cases hc) fun hc => h (hc ▸ c.le_max)

namespace Escape

open Utf16

/-! ## Reading numerals -/

theorem readFixed_eq_ok_iff {value width v : Nat} {text rest : List Char} :
    readFixed value width text = .ok (v, rest) ↔ ∃ digits values, text = digits ++ rest ∧ digits.length = width ∧
      List.Forall₂ Radix.hexadecimal.IsDigit digits values ∧ v = Radix.hexadecimal.accumulate value values := by
  constructor
  · intro h
    fun_induction readFixed value width text with
    | case1 value text =>
      cases h
      exact ⟨[], [], rfl, rfl, .nil, rfl⟩
    | case2 => cases h
    | case3 => cases h
    | case4 value width c text d hd ih =>
      obtain ⟨digits, values, rfl, rfl, hdigits, hv⟩ := ih h
      exact ⟨c :: digits, d :: values, rfl, rfl, .cons (Radix.digit?_eq_some_iff.1 hd) hdigits, hv⟩
  · rintro ⟨digits, values, rfl, rfl, hdigits, rfl⟩
    induction hdigits generalizing value with
    | nil => rfl
    | @cons c d digits values hc _ ih =>
      rw [List.cons_append, List.length_cons, readFixed, Radix.digit?_eq_some_iff.2 hc]
      exact ih

/-- digits are read to their end if their value lies in the code space -/
theorem readReference_digits {r : Radix} {value c : CodePoint} {digits : List Char} {values : List Nat}
    (hdigits : List.Forall₂ r.IsDigit digits values) (hc : c.val = r.accumulate value.val values) (any : Bool)
    (rest : List Char) :
    readReference r value any (digits ++ rest) = readReference r c (any || !digits.isEmpty) rest := by
  induction hdigits generalizing value any with
  | nil =>
    have hvalue : c = value := CodePoint.ext hc
    simp [hvalue]
  | @cons x d digits values hx _ ih =>
    -- the value so far is no more than that of all digits, which lies in the code space
    have hmax : value.val * r.base + d ≤ 0x10FFFF := by
      calc
        value.val * r.base + d ≤ r.accumulate (value.val * r.base + d) values := r.le_accumulate _ values
        _ = c.val := hc.symm
        _ ≤ 0x10FFFF := c.le_max
    rw [List.cons_append, readReference_cons (Radix.digit?_eq_some_iff.2 hx) hmax, ih hc]
    simp

theorem readReference_eq_ok_iff {r : Radix} {value c : CodePoint} {any : Bool} {text rest : List Char} :
    readReference r value any text = .ok (c, rest) ↔ ∃ digits values, text = digits ++ ';' :: rest ∧
      (any = true ∨ digits ≠ []) ∧ List.Forall₂ r.IsDigit digits values ∧ c.val = r.accumulate value.val values := by
  constructor
  · intro h
    fun_induction readReference r value any text with
    | case2 value text =>
      cases h
      exact ⟨[], [], rfl, Or.inl rfl, .nil, rfl⟩
    | case6 value any x text _ d hd value' hvalue ih =>
      obtain ⟨digits, values, rfl, -, hdigits, hc⟩ := ih h
      rw [CodePoint.ofNat?_eq_some_iff.1 hvalue] at hc
      exact ⟨x :: digits, d :: values, rfl, Or.inr (List.cons_ne_nil _ _),
        .cons (Radix.digit?_eq_some_iff.1 hd) hdigits, hc⟩
    | _ => cases h
  · rintro ⟨digits, values, rfl, hany, hdigits, hc⟩
    have hsome : (any || !digits.isEmpty) = true := by simpa using hany
    rw [readReference_digits hdigits hc, readReference, if_pos rfl, if_pos hsome]

theorem readFixed_zero_eq_ok_iff {width n : Nat} {text rest : List Char} :
    readFixed 0 width text = .ok (n, rest) ↔
      ∃ digits, text = digits ++ rest ∧ digits.length = width ∧ Radix.hexadecimal.Spells digits n := by
  simp only [readFixed_eq_ok_iff, Radix.spells_iff, exists_and_left]

theorem readReference_zero_eq_ok_iff {r : Radix} {c : CodePoint} {text rest : List Char} :
    readReference r ⟨0, Nat.zero_le _⟩ false text = .ok (c, rest) ↔
      ∃ digits, text = digits ++ ';' :: rest ∧ digits ≠ [] ∧ r.Spells digits c.val := by
  simp only [readReference_eq_ok_iff, Radix.spells_iff, exists_and_left, Bool.false_eq_true, false_or]

/-! ## Escapes -/

/-- a complete escape and the units that it denotes -/
inductive IsEscape : Grammar → List Char → List UInt16 → Prop
  /-- four hexadecimal digits name a unit, a half among others -/
  | unit {digits : List Char} {u : UInt16} (hlength : digits.length = 4)
    (h : Radix.hexadecimal.Spells digits u.toNat) : IsEscape .source ('\\' :: 'u' :: digits) [u]
  /-- eight hexadecimal digits name a code point -/
  | point {digits : List Char} {c : CodePoint} (hlength : digits.length = 8)
    (h : Radix.hexadecimal.Spells digits c.val) : IsEscape .source ('\\' :: 'U' :: digits) c.units
  /-- a reference by decimal digits, at least one -/
  | decimal {digits : List Char} {c : CodePoint} (hne : digits ≠ []) (h : Radix.decimal.Spells digits c.val) :
    IsEscape .markup ('&' :: '#' :: (digits ++ [';'])) c.units
  /-- a reference by hexadecimal digits, at least one -/
  | hexadecimal {x : Char} {digits : List Char} {c : CodePoint} (hx : x = 'x' ∨ x = 'X') (hne : digits ≠ [])
    (h : Radix.hexadecimal.Spells digits c.val) : IsEscape .markup ('&' :: '#' :: x :: (digits ++ [';'])) c.units

theorem readUnit_eq_ok_iff {text rest : List Char} {us : List UInt16} :
    readUnit text = .ok (us, rest) ↔ ∃ (digits : List Char) (u : UInt16), text = digits ++ rest ∧ digits.length = 4 ∧
      Radix.hexadecimal.Spells digits u.toNat ∧ us = [u] := by
  simp only [readUnit, bind_eq_ok_iff, pure_eq_ok_iff, readFixed_zero_eq_ok_iff, Prod.exists, Prod.mk.injEq]
  constructor
  · rintro ⟨n, _, ⟨digits, rfl, hlength, h⟩, rfl, rfl⟩
    have hlt : n < 2 ^ 16 := by simpa [hlength, Radix.base] using h.lt
    refine ⟨digits, .ofNat n, rfl, hlength, ?_, rfl⟩
    rwa [UInt16.toNat_ofNat_of_lt' hlt]
  · rintro ⟨digits, u, rfl, hlength, h, rfl⟩
    exact ⟨u.toNat, rest, ⟨digits, rfl, hlength, h⟩, by rw [UInt16.ofNat_toNat], rfl⟩

theorem readPoint_eq_ok_iff {text rest : List Char} {us : List UInt16} :
    readPoint text = .ok (us, rest) ↔ ∃ (digits : List Char) (c : CodePoint), text = digits ++ rest ∧ digits.length = 8 ∧
      Radix.hexadecimal.Spells digits c.val ∧ us = c.units := by
  simp only [readPoint, bind_eq_ok_iff, readFixed_zero_eq_ok_iff, Prod.exists]
  constructor
  · rintro ⟨n, rest', ⟨digits, rfl, hlength, h⟩, hpoint⟩
    cases hc : CodePoint.ofNat? n with
    | none =>
      rw [hc] at hpoint
      cases hpoint
    | some c =>
      rw [hc] at hpoint
      cases hpoint
      exact ⟨digits, c, rfl, hlength, CodePoint.ofNat?_eq_some_iff.1 hc ▸ h, rfl⟩
  · rintro ⟨digits, c, rfl, hlength, h, rfl⟩
    exact ⟨c.val, rest, ⟨digits, rfl, hlength, h⟩, by rw [CodePoint.ofNat?_eq_some_iff.2 rfl]; rfl⟩

theorem readEntity_eq_ok_iff {r : Radix} {text rest : List Char} {us : List UInt16} :
    readEntity r text = .ok (us, rest) ↔ ∃ (digits : List Char) (c : CodePoint), text = digits ++ ';' :: rest ∧
      digits ≠ [] ∧ r.Spells digits c.val ∧ us = c.units := by
  simp only [readEntity, bind_eq_ok_iff, pure_eq_ok_iff, readReference_zero_eq_ok_iff, Prod.exists, Prod.mk.injEq]
  constructor
  · rintro ⟨c, _, ⟨digits, rfl, hne, h⟩, rfl, rfl⟩
    exact ⟨digits, c, rfl, hne, h, rfl⟩
  · rintro ⟨digits, c, rfl, hne, h, rfl⟩
    exact ⟨c, rest, ⟨digits, rfl, hne, h⟩, rfl, rfl⟩

/-- a reference without a letter in front of its first digit is decimal -/
theorem readEscape?_markup_decimal {c : Char} (hx : c ≠ 'x') (hX : c ≠ 'X') (text : List Char) :
    Grammar.markup.readEscape? ('#' :: c :: text) = some (readEntity .decimal (c :: text)) := by
  simp [Grammar.readEscape?, hx, hX]

/-- **What is read as an escape.** Behind an introducer a complete escape is read, and nothing else without a fault. -/
theorem readEscape?_eq_ok_iff {g : Grammar} {text rest : List Char} {us : List UInt16} :
    g.readEscape? text = some (.ok (us, rest)) ↔
      ∃ spelling, g.introducer :: text = spelling ++ rest ∧ IsEscape g spelling us := by
  constructor
  · intro h
    unfold Grammar.readEscape? at h
    split at h <;> simp only [Option.some.injEq, reduceCtorEq] at h
    · obtain ⟨digits, u, rfl, hlength, hspells, rfl⟩ := readUnit_eq_ok_iff.1 h
      exact ⟨'\\' :: 'u' :: digits, rfl, .unit hlength hspells⟩
    · obtain ⟨digits, c, rfl, hlength, hspells, rfl⟩ := readPoint_eq_ok_iff.1 h
      exact ⟨'\\' :: 'U' :: digits, rfl, .point hlength hspells⟩
    · obtain ⟨digits, c, rfl, hne, hspells, rfl⟩ := readEntity_eq_ok_iff.1 h
      exact ⟨'&' :: '#' :: 'x' :: (digits ++ [';']), by simp [Grammar.introducer], .hexadecimal (Or.inl rfl) hne hspells⟩
    · obtain ⟨digits, c, rfl, hne, hspells, rfl⟩ := readEntity_eq_ok_iff.1 h
      exact ⟨'&' :: '#' :: 'X' :: (digits ++ [';']), by simp [Grammar.introducer], .hexadecimal (Or.inr rfl) hne hspells⟩
    · obtain ⟨digits, c, rfl, hne, hspells, rfl⟩ := readEntity_eq_ok_iff.1 h
      exact ⟨'&' :: '#' :: (digits ++ [';']), by simp [Grammar.introducer], .decimal hne hspells⟩
  · rintro ⟨spelling, htext, hescape⟩
    cases hescape with
    | @unit digits u hlength h =>
      obtain rfl : text = 'u' :: (digits ++ rest) := (List.cons.inj htext).2
      exact congrArg some (readUnit_eq_ok_iff.2 ⟨digits, u, rfl, hlength, h, rfl⟩)
    | @point digits c hlength h =>
      obtain rfl : text = 'U' :: (digits ++ rest) := (List.cons.inj htext).2
      exact congrArg some (readPoint_eq_ok_iff.2 ⟨digits, c, rfl, hlength, h, rfl⟩)
    | @decimal digits c hne h =>
      obtain rfl : text = '#' :: (digits ++ ';' :: rest) := by simpa [Grammar.introducer] using htext
      obtain ⟨first, more, rfl⟩ := List.exists_cons_of_ne_nil hne
      have hread : readEntity .decimal (first :: more ++ ';' :: rest) = .ok (c.units, rest) :=
        readEntity_eq_ok_iff.2 ⟨first :: more, c, rfl, hne, h, rfl⟩
      rw [← hread]
      have hx : 'x' ∉ first :: more := h.not_mem rfl
      have hX : 'X' ∉ first :: more := h.not_mem rfl
      exact readEscape?_markup_decimal (List.ne_of_not_mem_cons hx).symm (List.ne_of_not_mem_cons hX).symm _
    | @hexadecimal x digits c hx hne h =>
      obtain rfl : text = '#' :: x :: (digits ++ ';' :: rest) := by simpa [Grammar.introducer] using htext
      have hread : readEntity .hexadecimal (digits ++ ';' :: rest) = .ok (c.units, rest) :=
        readEntity_eq_ok_iff.2 ⟨digits, c, rfl, hne, h, rfl⟩
      rcases hx with rfl | rfl
      · exact congrArg some hread
      · exact congrArg some hread

/-- the characters behind an introducer that make it open an escape -/
def Grammar.marks : Grammar → List Char
  | source => ['u', 'U']
  | markup => ['#']

theorem readEscape?_eq_none_iff {g : Grammar} {text : List Char} :
    g.readEscape? text = none ↔ ∀ c ∈ text.head?, c ∉ g.marks := by
  cases text with
  | nil => cases g <;> simp [Grammar.readEscape?]
  | cons c text =>
    cases g with
    | source => by_cases hu : c = 'u' <;> by_cases hU : c = 'U' <;> simp [Grammar.readEscape?, Grammar.marks, hu, hU]
    | markup =>
      by_cases hmark : c = '#'
      · subst hmark
        refine iff_of_false ?_ (by simp [Grammar.marks])
        unfold Grammar.readEscape?
        split <;> simp_all
      · simp [Grammar.readEscape?, Grammar.marks, hmark]

/-! ## Texts -/

/-- a piece of a text in front of the rest of it: its characters, and the units that they denote -/
inductive Piece (g : Grammar) (rest : List Char) : List Char → List UInt16 → Prop
  /-- a character that is no introducer stands for itself -/
  | character {c : Char} (hc : c ≠ g.introducer) : Piece g rest [c] (CodePoint.ofChar c).units
  /-- so does an introducer, unless the character behind it makes it open an escape -/
  | introducer (hrest : ∀ c ∈ rest.head?, c ∉ g.marks) :
    Piece g rest [g.introducer] (CodePoint.ofChar g.introducer).units
  | escape {spelling : List Char} {us : List UInt16} (h : IsEscape g spelling us) : Piece g rest spelling us

/-- a text that splits into pieces, and the units of them one after another -/
inductive Denotes (g : Grammar) : List Char → List UInt16 → Prop
  | nil : Denotes g [] []
  | cons {piece rest : List Char} {us more : List UInt16} (hpiece : Piece g rest piece us) (hrest : Denotes g rest more) :
    Denotes g (piece ++ rest) (us ++ more)

theorem Piece.ne_nil {g : Grammar} {rest piece : List Char} {us : List UInt16} (h : Piece g rest piece us) :
    piece ≠ [] := by
  cases h with
  | character => exact List.cons_ne_nil _ _
  | introducer => exact List.cons_ne_nil _ _
  | escape h => cases h <;> exact List.cons_ne_nil _ _

/-- one round of reading takes one piece -/
theorem readPiece_eq_ok_iff {g : Grammar} {c : Char} {text rest : List Char} {us : List UInt16} :
    readPiece g c text = .ok (us, rest) ↔ ∃ piece, c :: text = piece ++ rest ∧ Piece g rest piece us := by
  constructor
  · intro h
    unfold readPiece at h
    split at h
    · rename_i hc
      subst hc
      cases hescape : g.readEscape? text with
      | none =>
        rw [hescape] at h
        cases h
        exact ⟨[g.introducer], rfl, .introducer (readEscape?_eq_none_iff.1 hescape)⟩
      | some result =>
        rw [hescape] at h
        obtain rfl : result = .ok (us, rest) := h
        obtain ⟨spelling, hsplit, hspelling⟩ := readEscape?_eq_ok_iff.1 hescape
        exact ⟨spelling, hsplit, .escape hspelling⟩
    · rename_i hc
      cases h
      exact ⟨[c], rfl, .character hc⟩
  · rintro ⟨piece, hsplit, hpiece⟩
    unfold readPiece
    cases hpiece with
    | character hc =>
      obtain ⟨rfl, rfl⟩ := List.cons.inj hsplit
      rw [if_neg hc]
    | introducer hrest =>
      obtain ⟨rfl, rfl⟩ := List.cons.inj hsplit
      rw [if_pos rfl, readEscape?_eq_none_iff.2 hrest]
      rfl
    | escape hescape =>
      obtain rfl : c = g.introducer := by
        cases hescape <;> exact (List.cons.inj hsplit).1
      rw [if_pos rfl, readEscape?_eq_ok_iff.2 ⟨piece, hsplit, hescape⟩]
      rfl

theorem readChars_eq_ok_iff {g : Grammar} {text : List Char} {us : List UInt16} :
    readChars g text = .ok us ↔ Denotes g text us := by
  constructor
  · intro h
    fun_induction readChars g text generalizing us with
    | case1 =>
      cases h
      exact .nil
    | case2 => cases h
    | case3 c text vs rest hpiece ih =>
      obtain ⟨more, hmore, rfl⟩ := map_eq_ok_iff.1 h
      obtain ⟨piece, hsplit, hpiece⟩ := readPiece_eq_ok_iff.1 hpiece
      rw [hsplit]
      exact .cons hpiece (ih hmore)
  · intro h
    induction h with
    | nil => rw [readChars]
    | @cons piece rest us more hpiece _ ih =>
      obtain ⟨c, text, hsplit⟩ := List.exists_cons_of_ne_nil (List.append_ne_nil_of_left_ne_nil hpiece.ne_nil rest)
      rw [hsplit, readChars_of_readPiece (readPiece_eq_ok_iff.2 ⟨piece, hsplit.symm, hpiece⟩), ih]
      rfl

/-- **Reading accepts the grammar and denotes it.** A text is read without fault exactly when it splits into pieces of the
grammar, and what is read are the units of the pieces in order. -/
theorem read_eq_ok_iff_denotes (g : Grammar) (s : String) (us : List UInt16) :
    read g s = .ok us ↔ Denotes g s.toList us := by
  rw [read_eq_ok_iff_readChars, readChars_eq_ok_iff]

/-- an introducer that opens no escape, and a reference with zeros in front of its digits -/
example : read .markup "a&b&#x00E9;" = .ok [0x61, 0x26, 0x62, 0xE9] := by cbv

end Escape

end IdentifierText
