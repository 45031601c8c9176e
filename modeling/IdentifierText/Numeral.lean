/-
Numerals in radix ten and sixteen, as lists of characters.

`numeral` writes a number with as few digits as it needs, `fixedNumeral` with an exact number of digits, both with capital
letters; `digit?` reads one digit, letters in either case. `digit?_digit` says that what is written reads back,
`numeral_of_lt` and `numeral_of_le` that a numeral is its last digit behind the numeral of the other ones.
-/

namespace IdentifierText

inductive Radix where
  | decimal
  | hexadecimal
  deriving DecidableEq, Repr

namespace Radix

def base : Radix → Nat
  | decimal => 10
  | hexadecimal => 16

/-- the value of a digit; hexadecimal letters count in either case, digits beyond ASCII do not -/
def digit? (r : Radix) (c : Char) : Option Nat :=
  if 48 ≤ c.toNat ∧ c.toNat ≤ 57 then some (c.toNat - 48)
  else if r = hexadecimal ∧ 65 ≤ c.toNat ∧ c.toNat ≤ 70 then some (c.toNat - 55)
  else if r = hexadecimal ∧ 97 ≤ c.toNat ∧ c.toNat ≤ 102 then some (c.toNat - 87)
  else none

/-- the digit of value `d`, in capitals -/
def digit (d : Nat) : Char :=
  (Nat.digitChar d).toUpper

/-- the shortest numeral of `n`, in capitals -/
def numeral (r : Radix) (n : Nat) : List Char :=
  (Nat.toDigits r.base n).map Char.toUpper

/-- the last `width` digits of `n`, with zeros in front -/
def fixedNumeral (r : Radix) : Nat → Nat → List Char
  | 0, _ => []
  | width + 1, n => r.fixedNumeral width (n / r.base) ++ [digit (n % r.base)]

/-- A digit is less than the base. -/
theorem digit?_lt {r : Radix} {c : Char} {d : Nat} (h : r.digit? c = some d) : d < r.base := by
  unfold digit? at h
  split at h
  · cases h; cases r <;> simp only [base] <;> omega
  · split at h
    · rename_i hc; cases h; simp only [hc.1, base]; omega
    · split at h
      · rename_i hc; cases h; simp only [hc.1, base]; omega
      · cases h

/-- A digit that is written reads back. -/
theorem digit?_digit (r : Radix) {d : Nat} (h : d < r.base) : r.digit? (digit d) = some d := by
  cases r
  · exact (by decide : ∀ d < 10, digit? decimal (digit d) = some d) d h
  · exact (by decide : ∀ d < 16, digit? hexadecimal (digit d) = some d) d h

@[simp] theorem length_fixedNumeral (r : Radix) (width n : Nat) : (r.fixedNumeral width n).length = width := by
  induction width generalizing n with
  | zero => rfl
  | succ width ih => simp [fixedNumeral, ih]

theorem one_lt_base (r : Radix) : 1 < r.base := by
  cases r <;> decide

theorem numeral_of_lt {r : Radix} {n : Nat} (h : n < r.base) : r.numeral n = [digit n] := by
  rw [numeral, Nat.toDigits_of_lt_base h]
  rfl

theorem numeral_of_le {r : Radix} {n : Nat} (h : r.base ≤ n) :
    r.numeral n = r.numeral (n / r.base) ++ [digit (n % r.base)] := by
  rw [numeral, numeral, Nat.toDigits_of_base_le r.one_lt_base h, List.map_append]
  rfl

/-- a character that is no digit is not written as one -/
theorem digit_ne {r : Radix} {d : Nat} (hd : d < r.base) {c : Char} (hc : r.digit? c = none) : digit d ≠ c := by
  rintro rfl
  rw [digit?_digit r hd] at hc
  cases hc

/-- what closes a reference is no digit -/
theorem ne_semicolon_of_digit? {r : Radix} {c : Char} {d : Nat} (h : r.digit? c = some d) : c ≠ ';' := by
  rintro rfl
  cases r <;> cases h

theorem numeral_eq_cons (r : Radix) (n : Nat) : ∃ d < r.base, ∃ more, r.numeral n = digit d :: more := by
  induction n using Nat.strongRecOn with
  | ind n ih =>
    by_cases h : n < r.base
    · exact ⟨n, h, [], numeral_of_lt h⟩
    · have hpos : 0 < n := by have := r.one_lt_base; omega
      obtain ⟨d, hd, more, hmore⟩ := ih (n / r.base) (Nat.div_lt_self hpos r.one_lt_base)
      rw [numeral_of_le (Nat.le_of_not_lt h), hmore]
      exact ⟨d, hd, more ++ [digit (n % r.base)], rfl⟩

end Radix

end IdentifierText
