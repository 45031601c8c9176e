/-
Texts are lists of 16-bit units in which halves need not be paired.

`codePoints` enumerates a text: a high half directly before a low half is one astral code point, any other unit stands for
itself. `indexed` gives each code point with its position, counting units as they are read; `placeFrom` counts positions in
a list of code points by their widths. Encoding the code points of a text gives the text again (`encode_codePoints`), and
the two ways to count positions agree (`indexedFrom_eq_placeFrom`).
-/
import IdentifierText.CodePoint

namespace IdentifierText.Utf16

/-- a code point and its position, the number of units before it -/
structure Placed where
  offset : Nat
  point : CodePoint
  deriving DecidableEq, Repr

/-! ## Enumeration -/

/-- the code points of a text, in order -/
def codePoints : List UInt16 → List CodePoint
  | [] => []
  | [u] => [.ofUnit u]
  | u :: v :: text =>
    match CodePoint.ofPair? u v with
    | some c => c :: codePoints text
    | none => .ofUnit u :: codePoints (v :: text)

/-- the code points of a text with their positions, counted from `start` -/
def indexedFrom (start : Nat) : List UInt16 → List Placed
  | [] => []
  | [u] => [⟨start, .ofUnit u⟩]
  | u :: v :: text =>
    match CodePoint.ofPair? u v with
    | some c => ⟨start, c⟩ :: indexedFrom (start + 2) text
    | none => ⟨start, .ofUnit u⟩ :: indexedFrom (start + 1) (v :: text)

/-- the code points of a text, each with the number of units before it -/
def indexed (text : List UInt16) : List Placed :=
  indexedFrom 0 text

/-- whether a half stands without its partner -/
def hasUnpaired (text : List UInt16) : Bool :=
  (codePoints text).any (·.IsSurrogate)

/-! ## Encoding -/

def encode (points : List CodePoint) : List UInt16 :=
  points.flatMap (·.units)

/-- the encoding of a string; no half in it lacks its partner -/
def ofString (s : String) : List UInt16 :=
  encode (s.toList.map .ofChar)

/-- each code point with the total width of those before it, counted from `start` -/
def placeFrom (start : Nat) : List CodePoint → List Placed
  | [] => []
  | c :: points => ⟨start, c⟩ :: placeFrom (start + c.width) points

def indexedString (s : String) : List Placed :=
  placeFrom 0 (s.toList.map .ofChar)

@[simp] theorem encode_nil : encode [] = [] := rfl

@[simp] theorem encode_cons (c : CodePoint) (points : List CodePoint) :
    encode (c :: points) = c.units ++ encode points := rfl

@[simp] theorem encode_append (points others : List CodePoint) :
    encode (points ++ others) = encode points ++ encode others :=
  List.flatMap_append

/-- every code point takes a unit at least -/
theorem length_le_length_encode (points : List CodePoint) : points.length ≤ (encode points).length := by
  induction points with
  | nil => simp
  | cons c points ih =>
    have hpos : 0 < c.width := c.width_pos
    simp only [encode_cons, List.length_append, CodePoint.length_units, List.length_cons]
    omega

/-- and two at most -/
theorem length_encode_le (points : List CodePoint) : (encode points).length ≤ 2 * points.length := by
  induction points with
  | nil => simp
  | cons c points ih =>
    have hwidth : c.width ≤ 2 := c.width_le_two
    simp only [encode_cons, List.length_append, CodePoint.length_units, List.length_cons]
    omega

/-- Enumerating a text loses nothing. -/
theorem encode_codePoints (text : List UInt16) : encode (codePoints text) = text := by
  fun_induction codePoints text with
  | case1 => rfl
  | case2 u => simp [encode]
  | case3 u v text c h ih => simpa [encode, CodePoint.units_ofPair? h] using ih
  | case4 u v text h ih => simpa [encode] using ih

/-- Positions counted in units are positions counted by widths. -/
theorem indexedFrom_eq_placeFrom (start : Nat) (text : List UInt16) :
    indexedFrom start text = placeFrom start (codePoints text) := by
  fun_induction codePoints text generalizing start with
  | case1 => rfl
  | case2 u => rfl
  | case3 u v text c h ih =>
    have hw : c.width = 2 := CodePoint.width_ofPair? h
    simp [indexedFrom, placeFrom, h, hw, ih]
  | case4 u v text h ih =>
    have hw : (CodePoint.ofUnit u).width = 1 := CodePoint.width_ofUnit u
    simp [indexedFrom, placeFrom, h, hw, ih]

/-- A code point of a text is among those of the text from its position on. -/
theorem mem_indexedFrom {start p : Nat} {c : CodePoint} {text : List UInt16} (h : ⟨p, c⟩ ∈ indexedFrom start text) :
    start ≤ p ∧ p - start < text.length ∧ c ∈ codePoints (text.drop (p - start)) := by
  fun_induction indexedFrom start text with
  | case1 => cases h
  | case2 start u =>
    simp only [List.mem_singleton, Placed.mk.injEq] at h
    simp [h.1, h.2, codePoints]
  | case3 start u v text c' hp ih =>
    rcases List.mem_cons.1 h with h | h
    · simp only [Placed.mk.injEq] at h
      simp [h.1, h.2, codePoints, hp]
    · obtain ⟨h1, h2, h3⟩ := ih h
      have e : p - start = (p - (start + 2)) + 2 := by omega
      refine ⟨by omega, by simp only [List.length_cons]; omega, ?_⟩
      rw [e]; simpa using h3
  | case4 start u v text hp ih =>
    rcases List.mem_cons.1 h with h | h
    · simp only [Placed.mk.injEq] at h
      simp [h.1, h.2, codePoints, hp]
    · obtain ⟨h1, h2, h3⟩ := ih h
      have e : p - start = (p - (start + 1)) + 1 := by omega
      refine ⟨by omega, by simp only [List.length_cons] at *; omega, ?_⟩
      rw [e]; simpa using h3

end IdentifierText.Utf16
