/-
A place in a fixed text, from which code points are read one at a time. `next?` reads the code point at the place and moves
behind it; what is unread, and bounds on the number of code points in it, can be asked for at any time. Cursors are values:
a copy goes its own way.
-/
import IdentifierText.Utf16.Text

namespace IdentifierText.Utf16

/-- a text and the number of units read -/
structure Cursor where
  units : Array UInt16
  offset : Nat
  deriving DecidableEq, Repr

namespace Cursor

def start (text : List UInt16) : Cursor :=
  ⟨text.toArray, 0⟩

/-- the unit at the place, and the one after it -/
def peek (c : Cursor) : Option UInt16 × Option UInt16 :=
  (c.units[c.offset]?, c.units[c.offset + 1]?)

/-- the code point at the place, and the cursor behind it; `none` at the end of the text -/
def next? (c : Cursor) : Option (CodePoint × Cursor) :=
  match c.peek with
  | (none, _) => none
  | (some u, none) => some (.ofUnit u, { c with offset := c.offset + 1 })
  | (some u, some v) =>
    match CodePoint.ofPair? u v with
    | some p => some (p, { c with offset := c.offset + 2 })
    | none => some (.ofUnit u, { c with offset := c.offset + 1 })

/-- as `next?`, with the position of the code point -/
def nextPlaced? (c : Cursor) : Option (Placed × Cursor) :=
  c.next?.map fun (p, after) => (⟨c.offset, p⟩, after)

def remaining (c : Cursor) : List UInt16 :=
  (c.units.extract c.offset c.units.size).toList

/-- the least and the greatest number of code points that as many units as are unread can hold -/
def bounds (c : Cursor) : Nat × Nat :=
  let unread := c.units.size - c.offset
  ((unread + 1) / 2, unread)

/-- Reading goes forward inside the text. -/
theorem next?_offset_lt {c after : Cursor} {p : CodePoint} (h : c.next? = some (p, after)) :
    after.units = c.units ∧ c.offset < c.units.size ∧ c.offset < after.offset := by
  have hlt : ∀ u, c.units[c.offset]? = some u → c.offset < c.units.size := fun u hu =>
    (Array.getElem?_eq_some_iff.1 hu).1
  unfold next? peek at h
  split at h
  · cases h
  · rename_i u hu; simp only [Prod.mk.injEq] at hu; cases h; exact ⟨rfl, hlt u hu.1, by simp⟩
  · rename_i u v hu
    simp only [Prod.mk.injEq] at hu
    split at h <;> cases h <;> exact ⟨rfl, hlt u hu.1, by simp⟩

/-- all code points from the place on, with their positions -/
def rest (c : Cursor) : List Placed :=
  match _ : c.next? with
  | none => []
  | some (p, after) => ⟨c.offset, p⟩ :: after.rest
termination_by c.units.size - c.offset
decreasing_by have := next?_offset_lt ‹_›; rw [this.1]; omega

end Cursor

end IdentifierText.Utf16
