/-
What a cursor has read, and what is still before it.

A call on a cursor gives the first code point of the unread units and moves behind it (`next?_eq`). Which one that is
depends on the unread units only, so a text can be enumerated afresh from any place that a cursor has come to. Copies of
a cursor go their own ways. `Trail` keeps with each cursor the items that have been read on the way to it, by the cursor
itself or by those that it is a copy of, and `Reader.run` calls and copies the cursors of a pool in any order. A pool is
read with positions or without them.

Results:
- `rest_eq_placeFrom`: what a cursor still gives are the code points of its unread units, placed behind those read;
- `Tracks`, `tracks_of_mem_run`: the units in front of a cursor encode what has been read, and with what is unread this
  is the enumeration of the text, after every run of calls;
- `cursors_sound`: hence each cursor of a pool stays inside the text, its bounds are right, and it never gives anything
  again once it has come to the end.
-/
import IdentifierText.Utf16.Cursor
import IdentifierText.Proofs.Enumeration

namespace IdentifierText.Utf16

/-! ## One call -/

namespace Cursor

theorem remaining_eq_drop (c : Cursor) : c.remaining = c.units.toList.drop c.offset := by
  rw [remaining, Array.toList_extract, List.extract_eq_take_drop, ← Array.length_toList, ← List.length_drop,
    List.take_length]

@[simp] theorem remaining_start (text : List UInt16) : (start text).remaining = text := by
  simp [remaining_eq_drop, start]

theorem peek_eq (c : Cursor) : c.peek = (c.remaining[0]?, c.remaining[1]?) := by
  simp [peek, remaining_eq_drop]

def behind (c : Cursor) (p : CodePoint) : Cursor :=
  { c with offset := c.offset + p.width }

/-- **One call.** It gives the first code point of the unread units and moves behind it. -/
theorem next?_eq (c : Cursor) : c.next? = (codePoints c.remaining).head?.map fun p => (p, c.behind p) := by
  unfold next?
  rw [peek_eq]
  match h : c.remaining with
  | [] => rfl
  | [u] => simp [codePoints, behind, CodePoint.width_ofUnit]
  | u :: v :: text =>
    cases hpair : CodePoint.ofPair? u v with
    | none => simp [codePoints, hpair, behind, CodePoint.width_ofUnit]
    | some p => simp [codePoints, hpair, behind, CodePoint.width_ofPair? hpair]

/-- behind the first code point the others are unread, enumerated as before -/
theorem codePoints_remaining_behind {c : Cursor} {p : CodePoint} {points : List CodePoint}
    (h : codePoints c.remaining = p :: points) : codePoints (c.behind p).remaining = points := by
  have hunits : c.remaining = p.units ++ encode points := by
    rw [← encode_codePoints c.remaining, h, encode_cons]
  have hbehind : (c.behind p).remaining = encode points := by
    have hdrop : (c.behind p).remaining = c.remaining.drop p.width := by
      rw [remaining_eq_drop, remaining_eq_drop, List.drop_drop]
      rfl
    rw [hdrop, hunits, ← CodePoint.length_units, List.drop_left]
  rw [← List.singleton_append] at h
  obtain ⟨-, htail, -⟩ := cut_codePoints h
  rw [hbehind, htail]

theorem next?_eq_some_iff {c after : Cursor} {p : CodePoint} :
    c.next? = some (p, after) ↔
      after = c.behind p ∧ codePoints c.remaining = p :: codePoints (c.behind p).remaining := by
  rw [next?_eq, Option.map_eq_some_iff]
  constructor
  · rintro ⟨_, hhead, ⟨⟩⟩
    obtain ⟨points, hpoints⟩ := List.head?_eq_some_iff.1 hhead
    exact ⟨rfl, by rw [codePoints_remaining_behind hpoints, hpoints]⟩
  · rintro ⟨rfl, hpoints⟩
    exact ⟨p, by rw [hpoints, List.head?_cons], rfl⟩

theorem next?_eq_none_iff {c : Cursor} : c.next? = none ↔ codePoints c.remaining = [] := by
  rw [next?_eq, Option.map_eq_none_iff, List.head?_eq_none_iff]

/-- what a cursor still gives -/
theorem rest_eq_placeFrom (c : Cursor) : c.rest = placeFrom c.offset (codePoints c.remaining) := by
  fun_induction rest c with
  | case1 c h => rw [next?_eq_none_iff.1 h, placeFrom]
  | case2 c p after h ih =>
    obtain ⟨rfl, hpoints⟩ := next?_eq_some_iff.1 h
    rw [ih, hpoints, placeFrom, behind]

theorem map_point_rest (c : Cursor) : c.rest.map (·.point) = codePoints c.remaining := by
  rw [rest_eq_placeFrom, map_point_placeFrom]

/-- the bounds hold of the number of code points that are still given -/
theorem length_rest_mem_bounds (c : Cursor) : c.bounds.1 ≤ c.rest.length ∧ c.rest.length ≤ c.bounds.2 := by
  have hlength : c.remaining.length = c.units.size - c.offset := by
    rw [remaining_eq_drop, List.length_drop, Array.length_toList]
  have hlower := length_encode_le (codePoints c.remaining)
  have hupper := length_le_length_encode (codePoints c.remaining)
  rw [encode_codePoints, hlength] at hlower hupper
  rw [rest_eq_placeFrom, length_placeFrom, bounds]
  exact ⟨by omega, hupper⟩

end Cursor

/-! ## Pools of cursors -/

/-- a way to read from a cursor: what a call gives, and which code point that is -/
structure Reader (α : Type) where
  next? : Cursor → Option (α × Cursor)
  point : α → CodePoint
  map_next? : ∀ c, (next? c).map (Prod.map point id) = c.next?

namespace Reader

def points : Reader CodePoint where
  next? := Cursor.next?
  point := id
  map_next? c := by simp

def places : Reader Placed where
  next? := Cursor.nextPlaced?
  point := Placed.point
  map_next? c := by
    rw [Cursor.nextPlaced?, Option.map_map]
    exact Option.map_id_apply

end Reader

/-- a cursor, and what has been read on the way to it -/
structure Trail (α : Type) where
  items : List α
  cursor : Cursor
  deriving DecidableEq

def Trail.start {α : Type} (text : List UInt16) : Trail α :=
  ⟨[], .start text⟩

/-- what is done with the cursors of a pool: one is called, or one is copied -/
inductive Use where
  | call (i : Nat)
  | copy (i : Nat)
  deriving DecidableEq, Repr

namespace Reader

variable {α : Type} (r : Reader α)

/-- a call: the item joins what has been read, and at the end of the text nothing changes -/
def read (t : Trail α) : Trail α :=
  match r.next? t.cursor with
  | none => t
  | some (item, after) => ⟨t.items ++ [item], after⟩

/-- one use of a pool; a copy has read what its model has -/
def step (pool : List (Trail α)) : Use → List (Trail α)
  | .call i => pool.modify i r.read
  | .copy i => pool ++ pool[i]?.toList

def run (pool : List (Trail α)) (uses : List Use) : List (Trail α) :=
  uses.foldl r.step pool

variable {r}

theorem forall_mem_step {P : Trail α → Prop} (hread : ∀ t, P t → P (r.read t)) {pool : List (Trail α)}
    (h : ∀ t ∈ pool, P t) (use : Use) : ∀ t ∈ r.step pool use, P t := by
  intro t ht
  cases use with
  | call i =>
    obtain ⟨j, hj⟩ := List.mem_iff_getElem?.1 ht
    rw [step, List.getElem?_modify] at hj
    obtain ⟨model, hmodel, rfl⟩ := Option.map_eq_some_iff.1 hj
    have hP : P model := h model (List.mem_of_getElem? hmodel)
    split
    · exact hread model hP
    · exact hP
  | copy i =>
    rcases List.mem_append.1 ht with ht | ht
    · exact h t ht
    · exact h t (List.mem_of_getElem? (Option.mem_toList.1 ht))

/-- what calls keep, holds of every cursor of a pool -/
theorem forall_mem_run {P : Trail α → Prop} (hread : ∀ t, P t → P (r.read t)) {pool : List (Trail α)}
    (h : ∀ t ∈ pool, P t) (uses : List Use) : ∀ t ∈ r.run pool uses, P t := by
  induction uses generalizing pool with
  | nil => exact h
  | cons use uses ih => exact ih (forall_mem_step hread h use)

theorem forall_mem_run_start {P : Trail α → Prop} {text : List UInt16} (hstart : P (.start text))
    (hread : ∀ t, P t → P (r.read t)) (uses : List Use) : ∀ t ∈ r.run [.start text] uses, P t :=
  forall_mem_run hread (List.forall_mem_singleton.2 hstart) uses

theorem read_eq_self {t : Trail α} (h : r.next? t.cursor = none) : r.read t = t := by
  rw [read, h]

/-- the two ends of a call -/
theorem read_cases (t : Trail α) :
    r.read t = t ∨ ∃ item, r.next? t.cursor = some (item, t.cursor.behind (r.point item)) ∧
      r.read t = ⟨t.items ++ [item], t.cursor.behind (r.point item)⟩ ∧
      codePoints t.cursor.remaining = r.point item :: codePoints (t.cursor.behind (r.point item)).remaining := by
  cases hnext : r.next? t.cursor with
  | none => exact Or.inl (read_eq_self hnext)
  | some found =>
    obtain ⟨item, after⟩ := found
    have hcursor : t.cursor.next? = some (r.point item, after) := by
      rw [← r.map_next?, hnext]
      rfl
    obtain ⟨rfl, hpoints⟩ := Cursor.next?_eq_some_iff.1 hcursor
    exact Or.inr ⟨item, rfl, by rw [read, hnext], hpoints⟩

end Reader

/-! ## What every call keeps -/

/-- the cursor has read the text up to its place: its position counts the units of what has been read, which the unread
code points complete to the enumeration of the text -/
structure Tracks {α : Type} (r : Reader α) (text : List UInt16) (t : Trail α) : Prop where
  units_eq : t.cursor.units = text.toArray
  offset_eq : t.cursor.offset = (encode (t.items.map r.point)).length
  points_eq : codePoints text = t.items.map r.point ++ codePoints t.cursor.remaining

variable {α : Type} {r : Reader α} {text : List UInt16} {t : Trail α}

theorem tracks_start (r : Reader α) (text : List UInt16) : Tracks r text (.start text) where
  units_eq := rfl
  offset_eq := rfl
  points_eq := by simp [Trail.start]

theorem Tracks.read (h : Tracks r text t) : Tracks r text (r.read t) := by
  rcases r.read_cases t with hread | ⟨item, -, hread, hpoints⟩
  · rwa [hread]
  · rw [hread]
    refine ⟨h.units_eq, ?_, ?_⟩
    · simp only [Cursor.behind, h.offset_eq, List.map_append, encode_append, List.length_append, List.map_singleton,
        encode_cons, encode_nil, CodePoint.length_units, List.length_nil, Nat.add_zero]
    · rw [h.points_eq, hpoints, List.map_append, List.map_singleton, List.append_assoc, List.singleton_append]

theorem tracks_of_mem_run (uses : List Use) : ∀ t ∈ r.run [.start text] uses, Tracks r text t :=
  Reader.forall_mem_run_start (tracks_start r text) (fun _ h => h.read) uses

/-- the text is what has been read, followed by what is unread -/
theorem Tracks.text_eq (h : Tracks r text t) : text = encode (t.items.map r.point) ++ t.cursor.remaining := by
  rw [← encode_codePoints text, h.points_eq, encode_append, encode_codePoints]

theorem Cursor.offset_of_nextPlaced? {c after : Cursor} {item : Placed} (h : c.nextPlaced? = some (item, after)) :
    item.offset = c.offset := by
  obtain ⟨_, -, hitem⟩ := Option.map_eq_some_iff.1 h
  exact congrArg (fun found => found.1.offset) hitem.symm

/-- items that are read with their positions have the units of those before them in front -/
theorem placed_of_mem_run (uses : List Use) :
    ∀ t ∈ Reader.places.run [.start text] uses, t.items = placeFrom 0 (t.items.map (·.point)) := by
  intro t ht
  refine (Reader.forall_mem_run_start (P := fun t => Tracks Reader.places text t ∧
    t.items = placeFrom 0 (t.items.map (·.point))) ⟨tracks_start _ text, rfl⟩ ?_ uses t ht).2
  rintro t ⟨htracks, hplaced⟩
  refine ⟨htracks.read, ?_⟩
  rcases Reader.places.read_cases t with hread | ⟨item, hnext, hread, -⟩
  · rwa [hread]
  · have hoffset : item.offset = (encode (t.items.map (·.point))).length :=
      (Cursor.offset_of_nextPlaced? hnext).trans htracks.offset_eq
    rw [hread, List.map_append, placeFrom_append, ← hplaced, Nat.zero_add, ← hoffset]
    rfl

/-! ## Every cursor of a pool -/

/-- what can be relied on of a cursor, whatever has been read with it -/
structure Trail.Sound (r : Reader α) (text : List UInt16) (t : Trail α) : Prop where
  /-- the text is never changed -/
  units_eq : t.cursor.units = text.toArray
  /-- the place lies inside the text -/
  offset_le : t.cursor.offset ≤ text.length
  /-- the units in front of the place are the encoding of what has been read -/
  encode_items : encode (t.items.map r.point) = text.take t.cursor.offset
  /-- the units behind it are unread -/
  remaining_eq : t.cursor.remaining = text.drop t.cursor.offset
  /-- with what has been read, what is still given makes up the enumeration -/
  points_eq : codePoints text = t.items.map r.point ++ t.cursor.rest.map (·.point)
  /-- the unread units alone are enumerated in the same way -/
  restart : (Cursor.start t.cursor.remaining).rest.map (·.point) = t.cursor.rest.map (·.point)
  /-- the number of code points that are still given lies within the bounds -/
  bounds : t.cursor.bounds.1 ≤ t.cursor.rest.length ∧ t.cursor.rest.length ≤ t.cursor.bounds.2
  /-- no item is beyond the last code point -/
  items_le : ∀ item ∈ t.items, (r.point item).val ≤ 0x10FFFF
  /-- once a call gives nothing, neither calls nor copies change the cursor -/
  finished : r.next? t.cursor = none → ∀ uses, ∀ later ∈ r.run [t] uses, later = t

theorem Tracks.sound (h : Tracks r text t) : t.Sound r text := by
  have hlength := congrArg List.length h.text_eq
  rw [List.length_append, ← h.offset_eq] at hlength
  have hfront : text.take t.cursor.offset = encode (t.items.map r.point) := by
    rw [h.offset_eq, congrArg (List.take _) h.text_eq, List.take_left]
  refine
    { units_eq := h.units_eq
      offset_le := by omega
      encode_items := hfront.symm
      remaining_eq := by rw [Cursor.remaining_eq_drop, h.units_eq]
      points_eq := by rw [h.points_eq, Cursor.map_point_rest]
      restart := by rw [Cursor.map_point_rest, Cursor.map_point_rest, Cursor.remaining_start]
      bounds := t.cursor.length_rest_mem_bounds
      items_le := fun item _ => (r.point item).le_max
      finished := fun hnext uses => ?_ }
  refine Reader.forall_mem_run (P := (· = t)) ?_ (List.forall_mem_singleton.2 rfl) uses
  rintro _ rfl
  exact Reader.read_eq_self hnext

/-- **Cursors are sound.** From a new cursor, calls on it and on its copies in any order lead to sound cursors only.
Reading with positions gives each code point the number of units in front of it. -/
theorem cursors_sound (text : List UInt16) (uses : List Use) :
    (∀ t ∈ Reader.points.run [.start text] uses, t.Sound Reader.points text) ∧
    ∀ t ∈ Reader.places.run [.start text] uses,
      t.Sound Reader.places text ∧ t.items = placeFrom 0 (t.items.map (·.point)) :=
  ⟨fun t ht => (tracks_of_mem_run uses t ht).sound,
    fun t ht => ⟨(tracks_of_mem_run uses t ht).sound, placed_of_mem_run uses t ht⟩⟩

/-- a high half alone and then a pair: the copy reads on over the pair, and a low half is left -/
theorem cursors_sound_copy :
    ∃ t ∈ Reader.places.run [.start [0xD83D, 0xD83D, 0xDE00, 0xDC00]] [.call 0, .copy 0, .call 1],
      t.items = [⟨0, ⟨0xD83D, by decide⟩⟩, ⟨1, ⟨0x1F600, by decide⟩⟩] ∧
      t.Sound Reader.places [0xD83D, 0xD83D, 0xDE00, 0xDC00] := by
  have hmem :
      (⟨[⟨0, ⟨0xD83D, by decide⟩⟩, ⟨1, ⟨0x1F600, by decide⟩⟩], ⟨#[0xD83D, 0xD83D, 0xDE00, 0xDC00], 3⟩⟩ : Trail Placed) ∈
        Reader.places.run [.start [0xD83D, 0xD83D, 0xDE00, 0xDC00]] [.call 0, .copy 0, .call 1] := by
    decide
  exact ⟨_, hmem, rfl, ((cursors_sound _ _).2 _ hmem).1⟩

end IdentifierText.Utf16
