/-
Code points from 0 to 10FFFF. Surrogates are code points here, because a text of 16-bit units may hold a half without its
partner; every other code point is a character (`toChar`). `units` is the UTF-16 encoding, of one unit or two, and
`ofPair?` joins a high and a low half.
-/
import IdentifierText.Numeral
import IdentifierText.Utf16.Half

namespace IdentifierText

open Utf16

/-- a number of the code space, surrogates included -/
@[ext] structure CodePoint where
  val : Nat
  le_max : val ≤ 0x10FFFF
  deriving DecidableEq, Repr

namespace CodePoint

/-! ## Making code points -/

def ofNat? (n : Nat) : Option CodePoint :=
  if h : n ≤ 0x10FFFF then some ⟨n, h⟩ else none

/-- a unit that stands for itself -/
def ofUnit (u : UInt16) : CodePoint :=
  ⟨u.toNat, by have := u.toNat_lt; omega⟩

def ofChar (c : Char) : CodePoint :=
  ⟨c.toNat, by have := c.valid; simp only [UInt32.isValidChar, Nat.isValidChar, Char.toNat] at *; omega⟩

/-- the code point of a high half and a low half; `none` for any other two units -/
def ofPair? (u v : UInt16) : Option CodePoint :=
  if h : IsHigh u ∧ IsLow v then
    some ⟨0x10000 + (u.toNat - 0xD800) * 0x400 + (v.toNat - 0xDC00), by unfold IsHigh IsLow at h; omega⟩
  else none

/-! ## Kinds -/

/-- half of a pair, and no character -/
def IsSurrogate (c : CodePoint) : Prop :=
  0xD800 ≤ c.val ∧ c.val ≤ 0xDFFF

/-- beyond the reach of a single unit -/
def IsAstral (c : CodePoint) : Prop :=
  0x10000 ≤ c.val

def IsAscii (c : CodePoint) : Prop :=
  c.val < 0x80

instance (c : CodePoint) : Decidable c.IsSurrogate := inferInstanceAs (Decidable (_ ∧ _))

instance (c : CodePoint) : Decidable c.IsAstral := inferInstanceAs (Decidable (_ ≤ _))

instance (c : CodePoint) : Decidable c.IsAscii := inferInstanceAs (Decidable (_ < _))

/-- the character, or the half that is none -/
def toChar (c : CodePoint) : Except UInt16 Char :=
  if h : c.IsSurrogate then .error (.ofNat c.val)
  else .ok (Char.ofNatAux c.val (by
    have := c.le_max; simp only [IsSurrogate, Nat.isValidChar] at *; omega))

def toChar? (c : CodePoint) : Option Char :=
  c.toChar.toOption

/-- the half, for surrogates only -/
def half? (c : CodePoint) : Option UInt16 :=
  if c.IsSurrogate then some (.ofNat c.val) else none

/-! ## Encoding in units -/

/-- the high and the low half that encode an astral code point -/
def pair? (c : CodePoint) : Option (UInt16 × UInt16) :=
  if c.IsAstral then
    some (.ofNat (0xD800 + (c.val - 0x10000) / 0x400), .ofNat (0xDC00 + (c.val - 0x10000) % 0x400))
  else none

/-- the UTF-16 encoding; a surrogate is encoded as the unit that it is -/
def units (c : CodePoint) : List UInt16 :=
  match c.pair? with
  | some (high, low) => [high, low]
  | none => [.ofNat c.val]

/-- the number of units in the encoding -/
def width (c : CodePoint) : Nat :=
  if c.IsAstral then 2 else 1

/-- the name by number: `U+` and at least four hexadecimal digits -/
def label (c : CodePoint) : String :=
  .ofList ('U' :: '+' :: (Radix.hexadecimal.numeral c.val).leftpad 4 '0')

@[simp] theorem val_ofUnit (u : UInt16) : (ofUnit u).val = u.toNat := rfl

@[simp] theorem val_ofChar (c : Char) : (ofChar c).val = c.toNat := rfl

@[simp] theorem length_units (c : CodePoint) : c.units.length = c.width := by
  unfold units width pair?
  by_cases h : c.IsAstral <;> simp [h]

theorem width_pos (c : CodePoint) : 0 < c.width := by
  unfold width; split <;> omega

@[simp] theorem units_ofUnit (u : UInt16) : (ofUnit u).units = [u] := by
  have h : ¬(ofUnit u).IsAstral := by have := u.toNat_lt; simp only [IsAstral, val_ofUnit]; omega
  simp [units, pair?, h]

theorem ofPair?_eq_some_iff {u v : UInt16} {c : CodePoint} :
    ofPair? u v = some c ↔
      IsHigh u ∧ IsLow v ∧ c.val = 0x10000 + (u.toNat - 0xD800) * 0x400 + (v.toNat - 0xDC00) := by
  unfold ofPair?
  split
  · rename_i hp
    simp only [Option.some.injEq, CodePoint.ext_iff, hp, true_and]
    exact eq_comm
  · rename_i hp
    simp only [reduceCtorEq, false_iff]
    exact fun h => hp ⟨h.1, h.2.1⟩

theorem units_ofPair? {u v : UInt16} {c : CodePoint} (h : ofPair? u v = some c) : c.units = [u, v] := by
  obtain ⟨hu, hv, hc⟩ := ofPair?_eq_some_iff.1 h
  unfold IsHigh IsLow at *
  have ha : c.IsAstral := by unfold IsAstral; omega
  simp only [units, pair?, ha, ite_true, List.cons.injEq, and_true]
  constructor
  · apply UInt16.toNat_inj.1; rw [UInt16.toNat_ofNat']; omega
  · apply UInt16.toNat_inj.1; rw [UInt16.toNat_ofNat']; omega

theorem width_ofUnit (u : UInt16) : (ofUnit u).width = 1 := by
  rw [← length_units, units_ofUnit, List.length_singleton]

theorem width_ofPair? {u v : UInt16} {c : CodePoint} (h : ofPair? u v = some c) : c.width = 2 := by
  rw [← length_units, units_ofPair? h]
  rfl

theorem width_le_two (c : CodePoint) : c.width ≤ 2 := by
  unfold width
  split <;> omega

end CodePoint

end IdentifierText
