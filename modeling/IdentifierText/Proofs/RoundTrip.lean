/-
What is written in escaped form is read as the text that it was written from.

The writer works code point by code point and the reader piece by piece, so everything rests on one property of a spelling:
it is read as certain units wherever it stands, and what is behind it is read on its own (`ReadsAs`). Such spellings can be
put in a row (`ReadsAs.append`).

Results:
- `readFixed_fixedNumeral`, `readReference_numeral`: numerals of either kind are read as their numbers;
- `readsAs_encode`: every escape, of a surrogate too, is read as the units of its code point;
- `readsAs_literal`: every character but the introducer is read as itself;
- `read_of_write`: reading undoes writing, for every form and coverage, and for every text that can be written;
- `read_of_mem_spellings`: so every spelling of a text reads as the text.
-/
import Mathlib.Tactic
import IdentifierText.Escape.Read
import IdentifierText.Escape.Spelling
import IdentifierText.Proofs.Enumeration
import IdentifierText.Proofs.Traversal

namespace IdentifierText.Escape

open Utf16

/-! ## Reading numerals -/

/-- digits that are read in full can be read on -/
theorem readFixed_add {value width v : Nat} {text rest : List Char} (h : readFixed value width text = .ok (v, rest))
    (more : Nat) : readFixed value (width + more) text = readFixed v more rest := by
  fun_induction readFixed value width text with
  | case1 value text =>
    cases h
    rw [Nat.zero_add]
  | case2 => cases h
  | case3 => cases h
  | case4 value width c text d hd ih =>
    rw [Nat.succ_add, readFixed]
    simpa only [hd] using ih h

theorem readFixed_fixedNumeral (value width n : Nat) (rest : List Char) :
    readFixed value width (Radix.hexadecimal.fixedNumeral width n ++ rest) =
      .ok (value * 16 ^ width + n % 16 ^ width, rest) := by
  -- the last digit is written last and read last, so it belongs to the rest of the shorter numeral
  induction width generalizing n rest with
  | zero => simp [Radix.fixedNumeral, readFixed, Nat.mod_one]
  | succ width ih =>
    have hlast : n % 16 < Radix.hexadecimal.base := Nat.mod_lt n (by decide)
    have hfront := ih (n / 16) (Radix.digit (n % 16) :: rest)
    have hvalue : (value * 16 ^ width + n / 16 % 16 ^ width) * 16 + n % 16 =
        value * 16 ^ (width + 1) + n % 16 ^ (width + 1) := by
      rw [Nat.pow_succ', Nat.mod_mul, Nat.add_mul, Nat.mul_assoc, Nat.mul_comm (16 ^ width)]
      omega
    rw [Radix.fixedNumeral, List.append_assoc, List.singleton_append]
    simp only [Radix.base]
    rw [readFixed_add hfront, readFixed, Radix.digit?_digit _ hlast]
    simp only [readFixed, hvalue]

/-- a number that fits the width is read back from its digits -/
theorem readFixed_of_lt {width n : Nat} (h : n < 16 ^ width) (rest : List Char) :
    readFixed 0 width (Radix.hexadecimal.fixedNumeral width n ++ rest) = .ok (n, rest) := by
  rw [readFixed_fixedNumeral, Nat.zero_mul, Nat.zero_add, Nat.mod_eq_of_lt h]

/-- a digit is read as long as the value stays in the code space -/
theorem readReference_cons {r : Radix} {c : Char} {d : Nat} (hc : r.digit? c = some d) {value : CodePoint}
    (h : value.val * r.base + d ≤ 0x10FFFF) (any : Bool) (rest : List Char) :
    readReference r value any (c :: rest) = readReference r ⟨value.val * r.base + d, h⟩ true rest := by
  rw [readReference, if_neg (Radix.ne_semicolon_of_digit? hc), hc]
  simp only [CodePoint.ofNat?, dif_pos h]

theorem readReference_digit {r : Radix} {d : Nat} (hd : d < r.base) {value : CodePoint}
    (h : value.val * r.base + d ≤ 0x10FFFF) (any : Bool) (rest : List Char) :
    readReference r value any (Radix.digit d :: rest) = readReference r ⟨value.val * r.base + d, h⟩ true rest :=
  readReference_cons (Radix.digit?_digit r hd) h any rest

/-- the digits of a number in the code space are read as the number, whatever is behind them -/
theorem readReference_numeral (r : Radix) (c : CodePoint) (any : Bool) (rest : List Char) :
    readReference r ⟨0, Nat.zero_le _⟩ any (r.numeral c.val ++ rest) = readReference r c true rest := by
  obtain ⟨n, hn⟩ := c
  -- on the number: all digits but the last are those of a smaller one, read with the last digit behind them
  induction n using Nat.strongRecOn generalizing rest with
  | ind n ih =>
    by_cases h : n < r.base
    · have hvalue : 0 * r.base + n ≤ 0x10FFFF := by omega
      rw [Radix.numeral_of_lt h, List.singleton_append, readReference_digit h hvalue]
      simp only [Nat.zero_mul, Nat.zero_add]
    · have hpos : 0 < n := by have := r.one_lt_base; omega
      have hlt : n / r.base < n := Nat.div_lt_self hpos r.one_lt_base
      have hsum : n / r.base * r.base + n % r.base = n := Nat.div_add_mod' n r.base
      have hlast : n % r.base < r.base := Nat.mod_lt n (Nat.zero_lt_of_lt r.one_lt_base)
      have hfront := ih (n / r.base) hlt (Radix.digit (n % r.base) :: rest) (by omega)
      rw [Radix.numeral_of_le (Nat.le_of_not_lt h), List.append_assoc, List.singleton_append, hfront,
        readReference_digit hlast (by rw [hsum]; exact hn)]
      simp only [hsum]

/-! ## Spellings in a row -/

/-- one round of reading -/
theorem readChars_cons (g : Grammar) (c : Char) (text : List Char) :
    readChars g (c :: text) =
      match readPiece g c text with
      | .error flaw => .error ⟨flaw, c :: text⟩
      | .ok (us, rest) => (readChars g rest).map (us ++ ·) := by
  rw [readChars]
  split
  · rename_i flaw hflaw
    rw [hflaw]
  · rename_i us rest hok
    rw [hok]

theorem readChars_of_readPiece {g : Grammar} {c : Char} {text rest : List Char} {us : List UInt16}
    (h : readPiece g c text = .ok (us, rest)) : readChars g (c :: text) = (readChars g rest).map (us ++ ·) := by
  rw [readChars_cons, h]

theorem readChars_of_flaw {g : Grammar} {c : Char} {text : List Char} {flaw : Flaw} (h : readPiece g c text = .error flaw) :
    readChars g (c :: text) = .error ⟨flaw, c :: text⟩ := by
  rw [readChars_cons, h]

/-- positions are for faults only -/
theorem read_eq_ok_iff_readChars {g : Grammar} {s : String} {us : List UInt16} :
    read g s = .ok us ↔ readChars g s.toList = .ok us :=
  mapError_eq_ok_iff

/-- a spelling that is read as certain units wherever it stands, and leaves what is behind it to be read on its own -/
def ReadsAs (g : Grammar) (spelling : List Char) (us : List UInt16) : Prop :=
  ∀ rest, readChars g (spelling ++ rest) = (readChars g rest).map (us ++ ·)

theorem ReadsAs.readChars_eq {g : Grammar} {spelling : List Char} {us : List UInt16} (h : ReadsAs g spelling us) :
    readChars g spelling = .ok us := by
  have hnil := h []
  rwa [List.append_nil, readChars, Except.map, List.append_nil] at hnil

theorem ReadsAs.nil (g : Grammar) : ReadsAs g [] [] := by
  intro rest
  cases h : readChars g rest <;> simp [h, Except.map]

theorem ReadsAs.append {g : Grammar} {a b : List Char} {us vs : List UInt16} (ha : ReadsAs g a us) (hb : ReadsAs g b vs) :
    ReadsAs g (a ++ b) (us ++ vs) := by
  intro rest
  rw [List.append_assoc, ha, hb]
  cases readChars g rest <;> simp [Except.map]

theorem ReadsAs.of_readPiece {g : Grammar} {c : Char} {text : List Char} {us : List UInt16}
    (h : ∀ rest, readPiece g c (text ++ rest) = .ok (us, rest)) : ReadsAs g (c :: text) us :=
  fun rest => readChars_of_readPiece (h rest)

/-! ## Escapes and literal characters -/

theorem readsAs_literal {g : Grammar} {c : Char} (h : c ≠ g.introducer) : ReadsAs g [c] (CodePoint.ofChar c).units :=
  ReadsAs.of_readPiece fun rest => by rw [List.nil_append, readPiece, if_neg h]

theorem readsAs_unitEscape (u : UInt16) : ReadsAs .source (Form.unitEscape u) [u] := by
  refine ReadsAs.of_readPiece fun rest => ?_
  have hread : readUnit (Radix.hexadecimal.fixedNumeral 4 u.toNat ++ rest) = .ok ([u], rest) := by
    rw [readUnit, readFixed_of_lt u.toNat_lt]
    simp [bind, Except.bind, pure, Except.pure]
  exact hread

theorem readsAs_numeric8 (c : CodePoint) : ReadsAs .source (Form.numeric8.encode c) c.units := by
  refine ReadsAs.of_readPiece fun rest => ?_
  have hlt : c.val < 16 ^ 8 := Nat.lt_of_le_of_lt c.le_max (by decide)
  have hread : readPoint (Radix.hexadecimal.fixedNumeral 8 c.val ++ rest) = .ok (c.units, rest) := by
    rw [readPoint, readFixed_of_lt hlt]
    simp [bind, Except.bind, pure, Except.pure, CodePoint.ofNat?, c.le_max]
  exact hread

theorem readEntity_numeral (r : Radix) (c : CodePoint) (rest : List Char) :
    readEntity r (r.numeral c.val ++ ';' :: rest) = .ok (c.units, rest) := by
  rw [readEntity, readReference_numeral, readReference]
  rfl

theorem readsAs_entityHex (c : CodePoint) : ReadsAs .markup (Form.entityHex.encode c) c.units := by
  refine ReadsAs.of_readPiece fun rest => ?_
  have hread := readEntity_numeral .hexadecimal c rest
  simpa [readPiece, Grammar.introducer, Grammar.readEscape?] using hread

theorem readsAs_entityDecimal (c : CodePoint) : ReadsAs .markup (Form.entityDecimal.encode c) c.units := by
  refine ReadsAs.of_readPiece fun rest => ?_
  have hread := readEntity_numeral .decimal c rest
  -- the first digit is neither of the letters that would make the reference hexadecimal
  obtain ⟨d, hd, more, hnumeral⟩ := Radix.numeral_eq_cons .decimal c.val
  have hx : Radix.digit d ≠ 'x' := Radix.digit_ne hd (by decide)
  have hX : Radix.digit d ≠ 'X' := Radix.digit_ne hd (by decide)
  simpa [readPiece, Grammar.introducer, Grammar.readEscape?, hnumeral, hx, hX] using hread

/-- **Every escape is read as its code point**, whatever is behind it. In four digits a code point beyond a single unit is
two escapes, one for each half. -/
theorem readsAs_encode (form : Form) (c : CodePoint) : ReadsAs form.grammar (form.encode c) c.units := by
  cases form with
  | numeric4 =>
    rw [Form.encode]
    induction c.units with
    | nil => exact .nil .source
    | cons u us ih => exact (readsAs_unitEscape u).append ih
  | numeric8 => exact readsAs_numeric8 c
  | entityDecimal => exact readsAs_entityDecimal c
  | entityHex => exact readsAs_entityHex c

/-! ## Written texts -/

theorem ofChar_of_toChar {c : CodePoint} {ch : Char} (h : c.toChar = .ok ch) : CodePoint.ofChar ch = c := by
  by_cases hs : c.IsSurrogate
  · rw [CodePoint.toChar, dif_pos hs] at h
    cases h
  · rw [CodePoint.toChar, dif_neg hs] at h
    cases h
    rfl

theorem readsAs_of_writeEscaped {form : Form} {placed : Placed} {piece : List Char}
    (h : writeEscaped form placed = .ok piece) : ReadsAs form.grammar piece placed.point.units := by
  unfold writeEscaped at h
  split at h
  · cases h
  · cases h
    exact readsAs_encode form placed.point

theorem readsAs_of_writeLiteral {form : Form} {placed : Placed} {piece : List Char}
    (h : writeLiteral form placed = .ok piece) : ReadsAs form.grammar piece placed.point.units := by
  unfold writeLiteral at h
  split at h
  · cases h
  · rename_i c hc
    split at h
    · cases h
    · rename_i hne
      cases h
      rw [← ofChar_of_toChar hc]
      exact readsAs_literal hne

theorem readsAs_of_writeLater {coverage : Coverage} {form : Form} {placed : Placed} {piece : List Char}
    (h : coverage.writeLater form placed = .ok piece) : ReadsAs form.grammar piece placed.point.units := by
  cases coverage with
  | all => exact readsAs_of_writeEscaped h
  | firstOnly => exact readsAs_of_writeLiteral h

/-- pieces that are read as the code points they were written from can be put in a row -/
theorem readsAs_of_mapM {g : Grammar} {writePoint : Placed → Except WriteFault (List Char)}
    (hwrite : ∀ placed piece, writePoint placed = .ok piece → ReadsAs g piece placed.point.units)
    {points : List Placed} {pieces : List (List Char)} (h : points.mapM writePoint = .ok pieces) :
    ReadsAs g pieces.flatten (encode (points.map (·.point))) := by
  induction points generalizing pieces with
  | nil =>
    cases h
    exact .nil g
  | cons placed points ih =>
    simp only [List.mapM_cons, bind_eq_ok_iff, pure_eq_ok_iff] at h
    obtain ⟨head, hhead, tail, htail, rfl⟩ := h
    exact (hwrite placed head hhead).append (ih htail)

theorem readsAs_of_writePoints {form : Form} {coverage : Coverage} {points : List Placed} {pieces : List (List Char)}
    (h : writePoints form coverage points = .ok pieces) :
    ReadsAs form.grammar pieces.flatten (encode (points.map (·.point))) := by
  cases points with
  | nil =>
    cases h
    exact .nil form.grammar
  | cons first rest =>
    simp only [writePoints, bind_eq_ok_iff, pure_eq_ok_iff] at h
    obtain ⟨head, hhead, tail, htail, rfl⟩ := h
    exact (readsAs_of_writeEscaped hhead).append (readsAs_of_mapM (fun _ _ => readsAs_of_writeLater) htail)

/-- what is written is read as its text, whatever is behind it -/
theorem readsAs_of_write {form : Form} {coverage : Coverage} {text : List UInt16} {s : String}
    (h : write form coverage text = .ok s) : ReadsAs form.grammar s.toList text := by
  obtain ⟨pieces, hpieces, rfl⟩ := map_eq_ok_iff.1 h
  have hreads := readsAs_of_writePoints hpieces
  rwa [map_point_indexed, encode_codePoints, ← String.toList_ofList (l := pieces.flatten)] at hreads

/-- **Round trip.** A text that can be written is read back from its spelling, unit for unit, in every form and
coverage. -/
theorem read_of_write {form : Form} {coverage : Coverage} {text : List UInt16} {s : String}
    (h : write form coverage text = .ok s) : read form.grammar s = .ok text := by
  obtain ⟨pieces, hpieces, rfl⟩ := map_eq_ok_iff.1 h
  have hreads := (readsAs_of_writePoints hpieces).readChars_eq
  rw [map_point_indexed, encode_codePoints] at hreads
  rw [read, String.toList_ofList, hreads]
  rfl

/-- a text with a pair and an introducer that needs escaping, of which only the first code point is escaped -/
theorem read_of_write_first_only :
    write .entityHex .firstOnly [0x26, 0xD83D, 0xDE00, 0x5C] = .ok "&#x26;😀\\" ∧
    read .markup "&#x26;😀\\" = .ok [0x26, 0xD83D, 0xDE00, 0x5C] := by
  have hwrite : write .entityHex .firstOnly [0x26, 0xD83D, 0xDE00, 0x5C] = .ok "&#x26;😀\\" := by rfl
  exact ⟨hwrite, read_of_write hwrite⟩

/-! ## All spellings of a text -/

theorem write_of_mem_spellings {text : List UInt16} {entities : Bool} {list : List Spelling}
    (h : spellings text entities = .ok list) : ∀ s ∈ list, write s.form s.coverage text = .ok s.text := by
  intro s hs
  obtain ⟨⟨form, coverage⟩, -, hentry⟩ := exists_of_mem_mapM h s hs
  obtain ⟨spelled, hspelled, rfl⟩ := map_eq_ok_iff.1 hentry
  exact hspelled

theorem read_of_mem_spellings {text : List UInt16} {entities : Bool} {list : List Spelling}
    (h : spellings text entities = .ok list) : ∀ s ∈ list, read s.form.grammar s.text = .ok text := by
  intro s hs
  have hwrite := write_of_mem_spellings h s hs
  exact read_eq_ok_iff_readChars.2 (readsAs_of_write hwrite).readChars_eq

end IdentifierText.Escape
