/-
The listing of code points loses nothing.

Above its code points a text is shown as it is, line feeds and all, so what looks like a line of the listing may be part of a
text, and two texts may be shown alike. But below the heading each code point has a line of its own, with its position and
number in columns, and the last of these lines end the block. So blocks are read from the end: a line gives its code point
back, and the line with position 0 is the first of its block. That settles the text, and with it the heading, and
what is left is the listing of the texts before.

Results:
- `classifyLine_inj`: a line gives its position and its code point back;
- `eq_of_lines`: lines are read from the end, whatever stands in front of them;
- `eq_of_block`: the last block of a listing settles its text, and leaves the listing of the others;
- `classify_listing_inj`: equal listings are listings of equal texts.
-/
import Mathlib.Data.List.Induction
import IdentifierText.Proofs.Enumeration
import IdentifierText.Proofs.Messages
import IdentifierText.Proofs.Transcript

namespace IdentifierText

/-! ## Numbers by their digits -/

namespace Radix

/-- the number that some digits make up; other characters count as zeros -/
def value (r : Radix) (digits : List Char) : Nat :=
  digits.foldl (fun n c => n * r.base + (r.digit? c).getD 0) 0

theorem value_concat (r : Radix) (digits : List Char) (c : Char) :
    r.value (digits ++ [c]) = r.value digits * r.base + (r.digit? c).getD 0 := by
  rw [value, List.foldl_append]
  rfl

theorem value_numeral (r : Radix) (n : Nat) : r.value (r.numeral n) = n := by
  induction n using Nat.strongRecOn with
  | ind n ih =>
    by_cases h : n < r.base
    · rw [numeral_of_lt h, ← List.nil_append [digit n], value_concat, digit?_digit r h]
      simp [value]
    · have hpos : 0 < n := by have := r.one_lt_base; omega
      have hlast : n % r.base < r.base := Nat.mod_lt n (Nat.zero_lt_of_lt r.one_lt_base)
      rw [numeral_of_le (Nat.le_of_not_lt h), value_concat, ih _ (Nat.div_lt_self hpos r.one_lt_base),
        digit?_digit r hlast, Option.getD_some, Nat.div_add_mod']

theorem value_zeros (r : Radix) (k : Nat) (digits : List Char) : r.value (List.replicate k '0' ++ digits) = r.value digits := by
  induction k with
  | zero => rfl
  | succ k ih =>
    rw [← ih, List.replicate_succ, List.cons_append]
    have hzero : r.digit? '0' = some 0 := by cases r <;> rfl
    simp [value, hzero]

theorem not_mem_numeral {r : Radix} {c : Char} (hc : r.digit? c = none) {n : Nat} : c ∉ r.numeral n := by
  intro h
  obtain ⟨x, hx, rfl⟩ := List.mem_map.1 h
  obtain ⟨d, hd, rfl⟩ := exists_digitChar_of_mem_toDigits r.one_lt_base x hx
  exact digit_ne hd hc rfl

theorem numeral_inj {r : Radix} {m n : Nat} : r.numeral m = r.numeral n ↔ m = n := by
  constructor
  · intro h
    rw [← r.value_numeral m, h, value_numeral]
  · intro h
    rw [h]

end Radix

theorem CodePoint.label_inj {c d : CodePoint} : c.label = d.label ↔ c = d := by
  constructor
  · intro h
    simp only [label, String.ofList_inj, List.cons.injEq, true_and] at h
    have hvalue := congrArg Radix.hexadecimal.value h
    rw [List.leftpad, List.leftpad, Radix.value_zeros, Radix.value_zeros, Radix.value_numeral, Radix.value_numeral] at hvalue
    exact CodePoint.ext hvalue
  · intro h
    rw [h]

namespace CommandLine.Report

open Utf16

/-! ## Columns of a line -/

/-- the first word of a line, and what is behind it; blanks stand between words -/
def nextWord (line : List Char) : List Char × List Char :=
  let text := line.dropWhile (· = ' ')
  (text.takeWhile (· ≠ ' '), text.dropWhile (· ≠ ' '))

theorem nextWord_eq {word : List Char} (hne : word ≠ []) (hword : ' ' ∉ word) (n : Nat) (rest : List Char) :
    nextWord (List.replicate n ' ' ++ (word ++ ' ' :: rest)) = (word, ' ' :: rest) := by
  have hblanks : (List.replicate n ' ' ++ (word ++ ' ' :: rest)).dropWhile (· = ' ') = word ++ ' ' :: rest := by
    obtain ⟨c, more, rfl⟩ := List.exists_cons_of_ne_nil hne
    have hc : c ≠ ' ' := (List.ne_of_not_mem_cons hword).symm
    rw [List.dropWhile_append_of_pos (by simp), List.cons_append, List.dropWhile_cons_of_neg (by simpa using hc)]
  have hletters : ∀ c ∈ word, decide (c ≠ ' ') = true := by
    intro c hc
    exact decide_eq_true (ne_of_mem_of_not_mem hc hword)
  simp only [nextWord, hblanks, List.takeWhile_append_of_pos hletters, List.dropWhile_append_of_pos hletters]
  simp

theorem blank_not_mem_label (c : CodePoint) : ' ' ∉ c.label.toList := by
  have hnumeral : ' ' ∉ Radix.hexadecimal.numeral c.val := Radix.not_mem_numeral rfl
  simp [CodePoint.label, List.leftpad, hnumeral]

theorem oneLine_categoryName (c : Unicode.GeneralCategory) : OneLine c.name := by
  cases c <;> decide

theorem oneLine_className (c : CodePoint) : OneLine (className c) := by
  unfold className
  split
  · rename_i charClass _
    cases charClass <;> decide
  · decide

/-- a line starts with the position and the number of a code point, each with blanks around it, and ends with its only line
feed -/
theorem exists_columns (placed : Placed) :
    ∃ n more, (classifyLine placed).toList =
        List.replicate n ' ' ++ (Radix.decimal.numeral placed.offset ++
          ' ' :: (' ' :: (placed.point.label.toList ++ ' ' :: more))) ++ ['\n'] ∧ '\n' ∉ more := by
  have hcategory : '\n' ∉ placed.point.category.name.toList := oneLine_categoryName placed.point.category
  have hclass : '\n' ∉ (className placed.point).toList := oneLine_className placed.point
  have hblanks (k : Nat) (rest : List Char) :
      List.replicate k ' ' ++ ' ' :: rest = ' ' :: (List.replicate k ' ' ++ rest) := by
    rw [← List.cons_append, ← List.replicate_succ, List.replicate_succ', List.append_assoc, List.singleton_append]
  refine ⟨2 + (3 - (Radix.decimal.numeral placed.offset).length),
    List.replicate (9 - placed.point.label.toList.length) ' ' ++ (placed.point.category.name.toList.rightpad 22 ' ' ++
      ' ' :: (className placed.point).toList), ?_, ?_⟩
  · rw [classifyLine, String.toList_ofList, List.leftpad, List.replicate_add]
    simp [List.rightpad, hblanks, List.replicate]
  · simp [List.rightpad, hcategory, hclass]

/-- the first two words of a line -/
theorem exists_nextWord_classifyLine (placed : Placed) :
    ∃ rest more, nextWord (classifyLine placed).toList = (Radix.decimal.numeral placed.offset, rest) ∧
      nextWord rest = (placed.point.label.toList, more) := by
  obtain ⟨n, more, hline, -⟩ := exists_columns placed
  have hnumeral : Radix.decimal.numeral placed.offset ≠ [] := by
    obtain ⟨d, -, digits, hdigits⟩ := Radix.numeral_eq_cons .decimal placed.offset
    rw [hdigits]
    exact List.cons_ne_nil _ _
  have hblank : ' ' ∉ Radix.decimal.numeral placed.offset := Radix.not_mem_numeral (by decide)
  have hlabel : placed.point.label.toList ≠ [] := by simp [CodePoint.label]
  refine ⟨' ' :: ' ' :: (placed.point.label.toList ++ ' ' :: (more ++ ['\n'])), ' ' :: (more ++ ['\n']), ?_, ?_⟩
  · rw [hline, ← nextWord_eq hnumeral hblank n]
    simp
  · have hword := nextWord_eq hlabel (blank_not_mem_label placed.point) 2 (more ++ ['\n'])
    simpa only [List.replicate, List.cons_append, List.nil_append] using hword

/-- **A line gives its code point back.** -/
theorem classifyLine_inj {p q : Placed} : classifyLine p = classifyLine q ↔ p = q := by
  constructor
  · intro h
    obtain ⟨rest, more, hfirst, hsecond⟩ := exists_nextWord_classifyLine p
    obtain ⟨rest', more', hfirst', hsecond'⟩ := exists_nextWord_classifyLine q
    rw [h, hfirst', Prod.mk.injEq] at hfirst
    obtain ⟨hoffset, rfl⟩ := hfirst
    rw [hsecond', Prod.mk.injEq, String.toList_inj, CodePoint.label_inj] at hsecond
    cases p
    cases q
    rw [Placed.mk.injEq]
    exact ⟨(Radix.numeral_inj.1 hoffset).symm, hsecond.1.symm⟩
  · intro h
    rw [h]

/-! ## Lines from the end -/

/-- nothing at all, or whole lines -/
def Ended (text : List Char) : Prop :=
  ∀ c ∈ text.getLast?, c = '\n'

theorem ended_concat (text : List Char) : Ended (text ++ ['\n']) := by
  intro c hc
  rw [List.getLast?_concat, Option.mem_some_iff] at hc
  exact hc.symm

theorem Ended.append {a b : List Char} (ha : Ended a) (hb : Ended b) : Ended (a ++ b) := by
  cases b with
  | nil => rwa [List.append_nil]
  | cons c b =>
    intro d hd
    rw [List.getLast?_append_of_ne_nil _ (List.cons_ne_nil c b)] at hd
    exact hb d hd

theorem Ended.eq_nil {a b : List Char} (h : Ended (a ++ b)) (hb : '\n' ∉ b) : b = [] := by
  by_contra hne
  have hlast : b.getLast hne = '\n' := by
    apply h
    rw [List.getLast?_append_of_ne_nil _ hne, List.getLast?_eq_getLast_of_ne_nil hne]
    rfl
  exact hb (hlast ▸ List.getLast_mem hne)

/-- what is behind the last line feed can be told from what is in front -/
theorem Ended.eq_of_append_eq {a b x y : List Char} (ha : Ended a) (hb : Ended b) (hx : '\n' ∉ x) (hy : '\n' ∉ y)
    (h : a ++ x = b ++ y) : a = b ∧ x = y := by
  rcases List.append_eq_append_iff.1 h with ⟨between, rfl, rfl⟩ | ⟨between, rfl, rfl⟩
  · obtain rfl := hb.eq_nil fun hmem => hx (List.mem_append_left _ hmem)
    exact ⟨(List.append_nil a).symm, rfl⟩
  · obtain rfl := ha.eq_nil fun hmem => hy (List.mem_append_left _ hmem)
    exact ⟨List.append_nil b, rfl⟩

def lines (points : List Placed) : List Char :=
  points.flatMap fun placed => (classifyLine placed).toList

@[simp] theorem lines_nil : lines [] = [] := rfl

theorem lines_append (points more : List Placed) : lines (points ++ more) = lines points ++ lines more :=
  List.flatMap_append

theorem lines_singleton (placed : Placed) : lines [placed] = (classifyLine placed).toList :=
  List.flatMap_singleton _ placed

/-- a line without its line feed -/
theorem exists_body (placed : Placed) :
    ∃ body, (classifyLine placed).toList = body ++ ['\n'] ∧ '\n' ∉ body ∧ ' ' ∈ body := by
  obtain ⟨n, more, hline, hmore⟩ := exists_columns placed
  refine ⟨_, hline, ?_, ?_⟩
  · have hnumeral : '\n' ∉ Radix.decimal.numeral placed.offset := newline_not_mem_numeral _ _
    have hlabel : '\n' ∉ placed.point.label.toList := oneLine_label placed.point
    simp [hnumeral, hlabel, hmore]
  · simp

theorem ended_lines (points : List Placed) : Ended (lines points) := by
  cases points using List.reverseRecOn with
  | nil =>
    intro c hc
    cases hc
  | append_singleton points placed _ =>
    obtain ⟨body, hline, -, -⟩ := exists_body placed
    rw [lines_append, lines_singleton, hline, ← List.append_assoc]
    exact ended_concat _

/-- one step back: the last line -/
theorem eq_of_last_line {a b : List Char} (ha : Ended a) (hb : Ended b) {p q : Placed}
    (h : a ++ (classifyLine p).toList = b ++ (classifyLine q).toList) : a = b ∧ p = q := by
  obtain ⟨x, hx, hxline, -⟩ := exists_body p
  obtain ⟨y, hy, hyline, -⟩ := exists_body q
  rw [hx, hy, ← List.append_assoc, ← List.append_assoc, List.append_left_inj] at h
  obtain ⟨hfront, rfl⟩ := ha.eq_of_append_eq hb hxline hyline h
  exact ⟨hfront, classifyLine_inj.1 (String.toList_inj.1 (hx.trans hy.symm))⟩

/-- **Lines are read from the end.** Of two rows of lines that end equal texts one is the end of the other, whatever stands
in front of them. -/
theorem eq_of_lines {a b : List Char} (ha : Ended a) (hb : Ended b) {points others : List Placed}
    (h : a ++ lines points = b ++ lines others) :
    (∃ more, others = more ++ points ∧ a = b ++ lines more) ∨ ∃ more, points = more ++ others ∧ b = a ++ lines more := by
  induction points using List.reverseRecOn generalizing others with
  | nil =>
    rw [lines_nil, List.append_nil] at h
    exact Or.inl ⟨others, (List.append_nil others).symm, h⟩
  | append_singleton points p ih =>
    rcases List.eq_nil_or_concat' others with rfl | ⟨others, q, rfl⟩
    · rw [lines_nil, List.append_nil] at h
      exact Or.inr ⟨points ++ [p], (List.append_nil _).symm, h.symm⟩
    · rw [lines_append, lines_append, lines_singleton, lines_singleton, ← List.append_assoc, ← List.append_assoc] at h
      obtain ⟨hfront, rfl⟩ := eq_of_last_line (ha.append (ended_lines points)) (hb.append (ended_lines others)) h
      rcases ih hfront with ⟨more, rfl, hmore⟩ | ⟨more, rfl, hmore⟩
      · exact Or.inl ⟨more, List.append_assoc _ _ _, hmore⟩
      · exact Or.inr ⟨more, List.append_assoc _ _ _, hmore⟩

/-! ## Blocks from the end -/

theorem indexed_inj {u v : List UInt16} : indexed u = indexed v ↔ u = v := by
  constructor
  · intro h
    apply codePoints_injective
    rw [← map_point_indexed, h, map_point_indexed]
  · intro h
    rw [h]

theorem offset_head_indexed {text : List UInt16} {placed : Placed} {more : List Placed} (h : indexed text = placed :: more) :
    placed.offset = 0 := by
  rw [indexed_eq_placeFrom] at h
  obtain ⟨_, -, hoffset, -⟩ := placeFrom_eq_cons_iff.1 h
  exact hoffset

theorem offset_pos_of_mem_tail {text : List UInt16} {first placed : Placed} {more : List Placed}
    (h : indexed text = first :: more) (hmem : placed ∈ more) : 0 < placed.offset := by
  rw [indexed_eq_placeFrom] at h
  obtain ⟨_, -, -, rfl⟩ := placeFrom_eq_cons_iff.1 h
  obtain ⟨before, after, -, hoffset⟩ := mem_placeFrom.1 hmem
  have hwidth := first.point.width_pos
  omega

theorem toList_classifyHeading (text : List UInt16) :
    (classifyHeading text).toList = (shown text).toList ++ [':'] ++ ['\n'] := by
  rw [classifyHeading, String.toList_append, List.append_assoc]
  rfl

theorem ended_classifyHeading (text : List UInt16) : Ended (classifyHeading text).toList := by
  rw [toList_classifyHeading]
  exact ended_concat _

theorem toList_classifyBlock (text : List UInt16) :
    (classifyBlock text).toList = (classifyHeading text).toList ++ lines (indexed text) := by
  rw [classifyBlock, String.toList_append, String.toList_join, List.flatMap_map, lines]

theorem ended_classifyBlock (text : List UInt16) : Ended (classifyBlock text).toList := by
  rw [toList_classifyBlock]
  exact (ended_classifyHeading text).append (ended_lines _)

/-- **No line too many.** Where the lines of one block are the last ones of another, they are all of them: in front of
position 0 there is no other line of the block, and a block without lines ends with its heading, which holds no blank. -/
theorem eq_nil_of_more_lines {a b : List Char} (ha : Ended a) (hb : Ended b) {u v : List UInt16} {more : List Placed}
    (hmore : indexed v = more ++ indexed u)
    (h : a ++ (classifyHeading u).toList = b ++ (classifyHeading v).toList ++ lines more) : more = [] := by
  cases hu : indexed u with
  | nil =>
    obtain rfl : u = [] := indexed_inj.1 hu
    rcases List.eq_nil_or_concat' more with rfl | ⟨more, last, rfl⟩
    · rfl
    · obtain ⟨body, hlast, hline, hblank⟩ := exists_body last
      have hheading : (classifyHeading []).toList = [':'] ++ ['\n'] := toList_classifyHeading []
      rw [hheading, lines_append, lines_singleton, hlast, ← List.append_assoc, ← List.append_assoc, ← List.append_assoc,
        List.append_left_inj] at h
      have hfront : Ended (b ++ (classifyHeading v).toList ++ lines more) :=
        (hb.append (ended_classifyHeading v)).append (ended_lines more)
      obtain ⟨-, rfl⟩ := ha.eq_of_append_eq hfront (by decide) hline h
      exact absurd hblank (by decide)
  | cons first rest =>
    cases more with
    | nil => rfl
    | cons other more =>
      rw [hu, List.cons_append] at hmore
      have hpos := offset_pos_of_mem_tail hmore (List.mem_append_right more List.mem_cons_self)
      exact absurd (offset_head_indexed hu) (Nat.ne_of_gt hpos)

/-- **The last block settles its text**, and what is in front of it is left. -/
theorem eq_of_block {a b : List Char} (ha : Ended a) (hb : Ended b) {u v : List UInt16}
    (h : a ++ (classifyBlock u).toList = b ++ (classifyBlock v).toList) : a = b ∧ u = v := by
  rw [toList_classifyBlock, toList_classifyBlock, ← List.append_assoc, ← List.append_assoc] at h
  have hau := ha.append (ended_classifyHeading u)
  have hbv := hb.append (ended_classifyHeading v)
  rcases eq_of_lines hau hbv h with ⟨more, hmore, hfront⟩ | ⟨more, hmore, hfront⟩
  · obtain rfl := eq_nil_of_more_lines ha hb hmore hfront
    obtain rfl := indexed_inj.1 hmore
    rw [lines_nil, List.append_nil, List.append_left_inj] at hfront
    exact ⟨hfront, rfl⟩
  · obtain rfl := eq_nil_of_more_lines hb ha hmore hfront
    obtain rfl := indexed_inj.1 hmore
    rw [lines_nil, List.append_nil, List.append_left_inj] at hfront
    exact ⟨hfront.symm, rfl⟩

def blocks (texts : List (List UInt16)) : List Char :=
  texts.flatMap fun text => (classifyBlock text).toList

theorem blocks_concat (texts : List (List UInt16)) (text : List UInt16) :
    blocks (texts ++ [text]) = blocks texts ++ (classifyBlock text).toList := by
  rw [blocks, List.flatMap_append, List.flatMap_singleton, blocks]

theorem ended_blocks (texts : List (List UInt16)) : Ended (blocks texts) := by
  induction texts using List.reverseRecOn with
  | nil =>
    intro c hc
    cases hc
  | append_singleton texts text ih =>
    rw [blocks_concat]
    exact ih.append (ended_classifyBlock text)

theorem blocks_ne_nil (texts : List (List UInt16)) (text : List UInt16) : blocks (texts ++ [text]) ≠ [] := by
  rw [blocks_concat, toList_classifyBlock, toList_classifyHeading]
  simp

/-- **Blocks are read from the end**, and there is a block for each text. -/
theorem blocks_inj {texts others : List (List UInt16)} : blocks texts = blocks others ↔ texts = others := by
  constructor
  · intro h
    induction texts using List.reverseRecOn generalizing others with
    | nil =>
      rcases List.eq_nil_or_concat' others with rfl | ⟨others, v, rfl⟩
      · rfl
      · exact absurd h.symm (blocks_ne_nil others v)
    | append_singleton texts u ih =>
      rcases List.eq_nil_or_concat' others with rfl | ⟨others, v, rfl⟩
      · exact absurd h (blocks_ne_nil texts u)
      · rw [blocks_concat, blocks_concat] at h
        obtain ⟨hfront, rfl⟩ := eq_of_block (ended_blocks texts) (ended_blocks others) h
        rw [ih hfront]
  · intro h
    rw [h]

/-- **The listing loses nothing.** In a sink that takes everything, what `classify` writes about some texts is what it
writes about others only if they are the same texts in the same order, whatever units are in them. -/
theorem classify_listing_inj (texts others : List (List UInt16)) :
    ((classify texts).ending none).2 = ((classify others).ending none).2 ↔ texts = others := by
  have htexts (texts : List (List UInt16)) : (String.join (texts.map classifyBlock)).toList = blocks texts := by
    rw [String.toList_join, List.flatMap_map, blocks]
  rw [ending_none (writes_classify texts), ending_none (writes_classify others)]
  -- bytes are equal as strings are, and strings as their characters
  refine String.toByteArray_inj.trans ?_
  rw [← String.toList_inj, htexts, htexts]
  exact blocks_inj

/-- a heading does not settle its text: a half is shown as the six characters of its escape are -/
example : shown [0xD800] = shown (Utf16.ofString "\\uD800") ∧ [0xD800] ≠ Utf16.ofString "\\uD800" := by
  decide +kernel

end CommandLine.Report

end IdentifierText
