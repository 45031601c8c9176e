/-
The halves of surrogate pairs among 16-bit units: a high half and the low half after it together encode one code point.
-/

namespace IdentifierText.Utf16

/-- a high half, the first of a pair -/
def IsHigh (u : UInt16) : Prop :=
  0xD800 ≤ u.toNat ∧ u.toNat ≤ 0xDBFF

/-- a low half, the second of a pair -/
def IsLow (u : UInt16) : Prop :=
  0xDC00 ≤ u.toNat ∧ u.toNat ≤ 0xDFFF

instance (u : UInt16) : Decidable (IsHigh u) := inferInstanceAs (Decidable (_ ∧ _))

instance (u : UInt16) : Decidable (IsLow u) := inferInstanceAs (Decidable (_ ∧ _))

theorem IsHigh.not_low {u : UInt16} (h : IsHigh u) : ¬IsLow u := by
  unfold IsHigh IsLow at *; omega

end IdentifierText.Utf16
