/-
The reader of bytes commits no breach and reads what the reader of characters reads.

The rounds keep one invariant: a position has a text behind it that is still unread, and the bytes in front of it are those of
the characters already read (`Unread`). A step over a character keeps it, and the digits and signs of an escape are characters
of one byte each, so it holds at every byte that the reader looks at and at every place where it cuts. The two readers then
go through the same characters, and stop for the same reason.

Results:
- `Unread.cut`, `Unread.byteAt?_cons`: what is cut out and which byte is found at a position with a given text behind it;
- `follows_fixedDigits`, `follows_referenceDigits`, `sameEscape_escapeAt`: digits and escapes are read alike by bytes and by
  characters, with no number too large on the way;
- `outcome_round`: a round ends as reading by characters does, or leaves a text to be read further on;
- `readFrom_eq`: so do all rounds together;
- `rounds_safe`: every round that takes place starts between two characters, commits no breach and gets further, and the
  whole reads as by characters.
-/
import IdentifierText.Escape.ByteReading
import IdentifierText.Proofs.EscapeGrammar

namespace IdentifierText.Escape.Bytes

open String.Pos.Raw (IsValid)

variable {g : Grammar} {s : String} {i : Nat} {text : List Char}

/-! ## The text behind a position -/

/-- the characters behind a position; the position is the number of bytes of those in front -/
def Unread (s : String) (i : Nat) (text : List Char) : Prop :=
  ∃ front, s.toList = front ++ text ∧ byteLength front = i

theorem unread_start (s : String) : Unread s 0 s.toList :=
  ⟨[], rfl, rfl⟩

theorem Unread.append {part rest : List Char} (h : Unread s i (part ++ rest)) : Unread s (i + byteLength part) rest := by
  obtain ⟨front, hs, rfl⟩ := h
  exact ⟨front ++ part, by rw [hs, List.append_assoc], byteLength_append front part⟩

theorem Unread.tail {c : Char} {rest : List Char} (h : Unread s i (c :: rest)) : Unread s (i + c.utf8Size) rest := by
  have hone : byteLength [c] = c.utf8Size := Nat.add_zero _
  rw [← List.singleton_append] at h
  rw [← hone]
  exact h.append

theorem Unread.size_eq (h : Unread s i text) : i + byteLength text = s.utf8ByteSize := by
  obtain ⟨front, hs, rfl⟩ := h
  rw [← byteLength_toList, hs, byteLength_append]

theorem Unread.split (h : Unread s i text) :
    ∃ front : String, s = front ++ .ofList text ∧ front.utf8ByteSize = i := by
  obtain ⟨front, hs, rfl⟩ := h
  exact ⟨.ofList front, by rw [← String.ofList_append, ← hs, String.ofList_toList], (byteLength_eq front).symm⟩

theorem Unread.isValid (h : Unread s i text) : IsValid s ⟨i⟩ := by
  obtain ⟨front, hs, rfl⟩ := h.split
  exact String.Pos.Raw.isValid_iff_exists_append.2 ⟨front, .ofList text, hs, rfl⟩

/-- a part is cut out between its ends -/
theorem Unread.cut {part rest : List Char} (h : Unread s i (part ++ rest)) :
    cut s i (i + byteLength part) = .ok (.ofList part) := by
  obtain ⟨front, rfl, rfl⟩ := h.split
  have hends : front.utf8ByteSize + byteLength part = (front.toByteArray ++ (String.ofList part).toByteArray).size := by
    rw [byteLength_eq, ByteArray.size_append, String.size_toByteArray, String.size_toByteArray]
  rw [Bytes.cut, dif_pos ⟨h.isValid, h.append.isValid, Nat.le_add_right _ _⟩, Except.ok.injEq, ← String.toByteArray_inj,
    String.toByteArray_extract]
  simp only [String.offset_pos]
  rw [hends, String.ofList_append, ← String.append_assoc, String.toByteArray_append, String.toByteArray_append,
    ByteArray.extract_append_size_left]
  exact ByteArray.extract_append_eq_right String.size_toByteArray.symm ByteArray.size_append

/-- the whole text behind a position can be cut out -/
theorem Unread.cut_end (h : Unread s i text) : Bytes.cut s i s.utf8ByteSize = .ok (.ofList text) := by
  rw [← List.append_nil text] at h
  have hcut := h.cut
  rwa [← h.size_eq, List.append_nil] at *

/-! ## The bytes of characters -/

/-- the first byte of a character: the character itself if it is one of the first 128, and none of those otherwise -/
inductive Leads (c : Char) : UInt8 → Prop
  | single (hc : c.toNat < 0x80) : Leads c c.toUInt8
  | several (hc : 0x80 ≤ c.toNat) {byte : UInt8} (hbyte : 0x80 ≤ byte.toNat) : Leads c byte

theorem exists_utf8EncodeChar_eq_cons (c : Char) : ∃ byte rest, String.utf8EncodeChar c = byte :: rest ∧ Leads c byte := by
  have hval : c.val.toNat = c.toNat := rfl
  simp only [String.utf8EncodeChar]
  split_ifs with hone htwo hthree
  · refine ⟨_, _, rfl, .single ?_⟩
    omega
  -- two bytes, three, or four: the first one tells how many, in its highest bits
  all_goals
    refine ⟨_, _, rfl, .several (by omega) ?_⟩
    rw [UInt8.toNat_ofNat']
    omega

theorem byteAt?_eq (s : String) (i : Nat) : byteAt? s i = (s.toList.flatMap String.utf8EncodeChar)[i]? := by
  rw [byteAt?, ← String.utf8Encode_toList, List.utf8Encode, getElem?_def, getElem?_def]
  simp

theorem length_flatMap_utf8EncodeChar (text : List Char) :
    (text.flatMap String.utf8EncodeChar).length = byteLength text := by
  induction text with
  | nil => rfl
  | cons c text ih => rw [List.flatMap_cons, List.length_append, ih, String.length_utf8EncodeChar, byteLength]

theorem Unread.byteAt?_nil (h : Unread s i []) : byteAt? s i = none := by
  have hsize := h.size_eq
  cases hbyte : byteAt? s i with
  | none => rfl
  | some byte =>
    have := lt_of_byteAt? hbyte
    rw [byteLength] at hsize
    omega

/-- at a position is the first byte of the character behind it -/
theorem Unread.byteAt?_cons {c : Char} {rest : List Char} (h : Unread s i (c :: rest)) :
    ∃ byte, byteAt? s i = some byte ∧ Leads c byte := by
  obtain ⟨front, hs, rfl⟩ := h
  obtain ⟨byte, more, hc, hleads⟩ := exists_utf8EncodeChar_eq_cons c
  refine ⟨byte, ?_, hleads⟩
  rw [byteAt?_eq, hs, List.flatMap_append, List.flatMap_cons, hc, ← length_flatMap_utf8EncodeChar,
    List.getElem?_append_right le_rfl, Nat.sub_self]
  rfl

theorem toNat_toUInt8 {c : Char} (hc : c.toNat < 0x80) : c.toUInt8.toNat = c.toNat := by
  have hmod : c.toUInt8.toNat = c.toNat % 256 := rfl
  omega

theorem Leads.eq_iff {c a : Char} {byte : UInt8} (h : Leads c byte) (ha : a.toNat < 0x80) :
    byte = a.toUInt8 ↔ c = a := by
  rw [← UInt8.toNat_inj, toNat_toUInt8 ha, ← Char.toNat_inj]
  cases h with
  | single hc => rw [toNat_toUInt8 hc]
  | several hc hbyte => omega

/-- digits are among the first 128 characters -/
theorem not_digit_of_le {r : Radix} {c : Char} (hc : 0x80 ≤ c.toNat) : r.digit? c = none := by
  rw [Radix.digit?, if_neg (by omega), if_neg (by omega), if_neg (by omega)]

theorem toNat_lt_of_digit? {r : Radix} {c : Char} {d : Nat} (h : r.digit? c = some d) : c.toNat < 0x80 := by
  by_contra hc
  rw [not_digit_of_le (Nat.not_lt.1 hc)] at h
  cases h

/-- a byte counts as a digit if the character does that it is the first byte of -/
theorem Leads.digit?_eq {c : Char} {byte : UInt8} (h : Leads c byte) (r : Radix) : digit? r byte = r.digit? c := by
  rw [Bytes.digit?]
  cases h with
  | single hc => rw [toNat_toUInt8 hc, Char.ofNat_toNat]
  | several hc hbyte =>
    have hvalid : byte.toNat.isValidChar := Or.inl (lt_trans byte.toNat_lt (by decide))
    have hchar : (Char.ofNat byte.toNat).toNat = byte.toNat := by rw [Char.ofNat, dif_pos hvalid]; rfl
    rw [not_digit_of_le hc, not_digit_of_le (hchar.symm ▸ hbyte)]

theorem utf8Size_of_lt {c : Char} (hc : c.toNat < 0x80) : c.utf8Size = 1 := by
  rw [Char.utf8Size_eq_one_iff, UInt32.le_iff_toNat_le]
  have hval : c.val.toNat = c.toNat := rfl
  have h127 : (127 : UInt32).toNat = 127 := rfl
  omega

theorem Unread.tail_of_lt {c : Char} {rest : List Char} (h : Unread s i (c :: rest)) (hc : c.toNat < 0x80) :
    Unread s (i + 1) rest := by
  rw [← utf8Size_of_lt hc]
  exact h.tail

/-- a byte below 128 is found exactly where its character stands -/
theorem Unread.byteAt?_eq_iff (h : Unread s i text) {a : Char} (ha : a.toNat < 0x80) :
    byteAt? s i = some a.toUInt8 ↔ text.head? = some a := by
  cases text with
  | nil => simp [h.byteAt?_nil]
  | cons c rest =>
    obtain ⟨byte, hbyte, hleads⟩ := h.byteAt?_cons
    rw [hbyte, Option.some.injEq, hleads.eq_iff ha, List.head?_cons, Option.some.injEq]

/-! ## Two readers side by side -/

section Follows

variable {α β α' β' : Type} {start : Nat} {reached : β → α → List Char → Prop} {reached' : β' → α' → List Char → Prop}

/-- the reader of bytes, in the escape at `start`, gives the same fault as the reader of characters; or both come to results
for which `reached` holds together with the characters that are left -/
inductive Follows (start : Nat) (reached : β → α → List Char → Prop) :
    Except Stop β → Except Flaw (α × List Char) → Prop
  | fault (flaw : Flaw) : Follows start reached (.error (.fault ⟨start, flaw⟩)) (.error flaw)
  | done {b : β} {a : α} {rest : List Char} (h : reached b a rest) : Follows start reached (.ok b) (.ok (a, rest))

/-- readers go on side by side -/
theorem Follows.bind {bytes : Except Stop β} {chars : Except Flaw (α × List Char)} {f : β → Except Stop β'}
    {k : α × List Char → Except Flaw (α' × List Char)} (h : Follows start reached bytes chars)
    (hnext : ∀ b a rest, reached b a rest → Follows start reached' (f b) (k (a, rest))) :
    Follows start reached' (bytes >>= f) (chars >>= k) := by
  cases h with
  | fault flaw => exact .fault flaw
  | done hreached => exact hnext _ _ _ hreached

end Follows

/-! ## Digits -/

/-- a wrong digit is named by the character that starts there -/
theorem Unread.wrongDigit_eq {c : Char} {rest : List Char} (h : Unread s i (c :: rest)) (start : Nat) :
    wrongDigit s start i = .fault ⟨start, .badDigit c⟩ := by
  simp only [wrongDigit, h.cut_end, String.toList_ofList]

theorem shiftLeft_or {value d : Nat} (hd : d < 16) : value <<< 4 ||| d = value * 16 + d := by
  rw [← Nat.shiftLeft_add_eq_or_of_lt hd, Nat.shiftLeft_eq]

theorem follows_fixedDigits {start value width : Nat} (h : Unread s i text) (hfits : (value + 1) * 16 ^ width ≤ 0x100000000) :
    Follows start (fun v v' rest => v = v' ∧ Unread s (i + width) rest) (fixedDigits s start value i width)
      (readFixed value width text) := by
  induction width generalizing value i text with
  | zero => exact .done ⟨rfl, h⟩
  | succ width ih =>
    cases text with
    | nil =>
      rw [fixedDigits, h.byteAt?_nil]
      exact .fault .truncated
    | cons c rest =>
      obtain ⟨byte, hbyte, hleads⟩ := h.byteAt?_cons
      rw [fixedDigits, hbyte, readFixed]
      simp only [hleads.digit?_eq]
      cases hd : Radix.hexadecimal.digit? c with
      | none =>
        simp only [h.wrongDigit_eq]
        exact .fault (.badDigit c)
      | some d =>
        have hlt : d < 16 := Radix.digit?_lt hd
        have hbound : (value * 16 + d + 1) * 16 ^ width ≤ 0x100000000 :=
          calc (value * 16 + d + 1) * 16 ^ width
            _ ≤ (value + 1) * 16 * 16 ^ width := Nat.mul_le_mul_right _ (by omega)
            _ = (value + 1) * 16 ^ (width + 1) := by rw [Nat.pow_succ', Nat.mul_assoc]
            _ ≤ 0x100000000 := hfits
        have hsmall : value * 16 + d < 0x100000000 :=
          lt_of_lt_of_le (Nat.lt_succ_self _) (le_trans (Nat.le_mul_of_pos_right _ (Nat.pow_pos (by decide))) hbound)
        simp only [shiftLeft_or hlt]
        rw [if_neg (Nat.not_le.2 hsmall)]
        have hrest := ih (h.tail_of_lt (toNat_lt_of_digit? hd)) hbound
        rwa [Nat.add_right_comm, Nat.add_assoc] at hrest

theorem referenceDigits_of_none {start first value : Nat} {r : Radix} (h : byteAt? s i = none) :
    referenceDigits s start r first value i = .error (.fault ⟨start, .unclosed⟩) := by
  rw [referenceDigits]
  split
  · rfl
  · rename_i hbyte
    cases hbyte.symm.trans h

theorem referenceDigits_of_some {start first value : Nat} {r : Radix} {byte : UInt8} (h : byteAt? s i = some byte) :
    referenceDigits s start r first value i =
      if byte = ';'.toUInt8 then if i = first then .error (.fault ⟨start, .noDigits⟩) else .ok (value, i)
      else
        match digit? r byte with
        | none => .error (wrongDigit s start i)
        | some d =>
          if 0x100000000 ≤ value * r.base + d then .error (.breach .overflow)
          else if 0x10FFFF < value * r.base + d then .error (.fault ⟨start, .tooLarge⟩)
          else referenceDigits s start r first (value * r.base + d) (i + 1) := by
  rw [referenceDigits]
  split
  · rename_i hbyte
    cases hbyte.symm.trans h
  · rename_i byte' hbyte
    obtain rfl : byte' = byte := Option.some.inj (hbyte.symm.trans h)
    rfl

theorem mul_base_add_lt {r : Radix} {d : Nat} (value : CodePoint) (hd : d < r.base) :
    value.val * r.base + d < 0x100000000 := by
  have hmax := value.le_max
  cases r <;> simp only [Radix.base] at * <;> omega

theorem follows_referenceDigits {start first : Nat} {r : Radix} (value : CodePoint) {any : Bool} (h : Unread s i text)
    (hfirst : first ≤ i) (hany : any = true ↔ i ≠ first) :
    Follows start (fun result c rest => result.1 = c.val ∧ first ≤ result.2 ∧ Unread s (result.2 + 1) rest)
      (referenceDigits s start r first value.val i) (readReference r value any text) := by
  induction text generalizing value any i with
  | nil =>
    rw [referenceDigits_of_none h.byteAt?_nil]
    exact .fault .unclosed
  | cons c rest ih =>
    obtain ⟨byte, hbyte, hleads⟩ := h.byteAt?_cons
    have hsemicolon : byte = ';'.toUInt8 ↔ c = ';' := hleads.eq_iff (by decide)
    rw [referenceDigits_of_some hbyte, readReference, hleads.digit?_eq]
    by_cases hc : c = ';'
    · rw [if_pos hc, if_pos (hsemicolon.2 hc)]
      by_cases hi : i = first
      · rw [if_pos hi, if_neg (mt hany.1 (not_not.2 hi))]
        exact .fault .noDigits
      · rw [if_neg hi, if_pos (hany.2 hi)]
        subst hc
        exact .done ⟨rfl, hfirst, h.tail_of_lt (by decide)⟩
    · rw [if_neg hc, if_neg (mt hsemicolon.1 hc)]
      cases hd : r.digit? c with
      | none =>
        simp only [h.wrongDigit_eq]
        exact .fault (.badDigit c)
      | some d =>
        have hfits := mul_base_add_lt value (Radix.digit?_lt hd)
        simp only [if_neg (Nat.not_le.2 hfits)]
        by_cases hlarge : 0x10FFFF < value.val * r.base + d
        · rw [if_pos hlarge, CodePoint.ofNat?, dif_neg (Nat.not_le.2 hlarge)]
          exact .fault .tooLarge
        · obtain ⟨next, hnext⟩ : ∃ next : CodePoint, next.val = value.val * r.base + d :=
            ⟨⟨_, Nat.not_lt.1 hlarge⟩, rfl⟩
          have hany' : true = true ↔ i + 1 ≠ first := iff_of_true rfl (by omega)
          rw [if_neg hlarge, CodePoint.ofNat?_eq_some_iff.2 hnext, ← hnext]
          exact ih next (h.tail_of_lt (toNat_lt_of_digit? hd)) (Nat.le_succ_of_le hfirst) hany'

/-! ## Escapes -/

/-- an escape is read alike, and what is left of it is behind its bytes -/
def SameEscape (s : String) (start : Nat) : Except Stop (List UInt16 × Nat) → Except Flaw (List UInt16 × List Char) → Prop :=
  Follows start fun escape us rest => escape.1 = us ∧ Unread s (start + escape.2) rest

theorem SameEscape.cases {start : Nat} {bytes : Except Stop (List UInt16 × Nat)}
    {chars : Except Flaw (List UInt16 × List Char)} (h : SameEscape s start bytes chars) :
    (∃ flaw, bytes = .error (.fault ⟨start, flaw⟩) ∧ chars = .error flaw) ∨
      ∃ us n rest, bytes = .ok (us, n) ∧ chars = .ok (us, rest) ∧ Unread s (start + n) rest := by
  cases h with
  | fault flaw => exact Or.inl ⟨flaw, rfl, rfl⟩
  | @done escape us rest hreached =>
    obtain ⟨rfl, hrest⟩ := hreached
    exact Or.inr ⟨_, _, rest, rfl, rfl, hrest⟩

theorem sameEscape_unitAt {start : Nat} (h : Unread s (start + 2) text) :
    SameEscape s start (unitAt s start) (readUnit text) := by
  refine (follows_fixedDigits h (by decide)).bind ?_
  intro v v' rest hreached
  obtain ⟨rfl, hrest⟩ := hreached
  exact .done ⟨rfl, hrest⟩

theorem sameEscape_pointAt {start : Nat} (h : Unread s (start + 2) text) :
    SameEscape s start (pointAt s start) (readPoint text) := by
  refine (follows_fixedDigits h (by decide)).bind ?_
  intro v v' rest hreached
  obtain ⟨rfl, hrest⟩ := hreached
  cases hpoint : CodePoint.ofNat? v with
  | none =>
    simp only [hpoint]
    exact .fault .tooLarge
  | some c =>
    simp only [hpoint]
    exact .done ⟨rfl, hrest⟩

/-- the number of a reference needs no check behind its digits -/
theorem sameEscape_referenceAt {start first : Nat} {r : Radix} (h : Unread s first text) (hfirst : start < first) :
    SameEscape s start (referenceAt s start r first) (readEntity r text) := by
  have hany : false = true ↔ first ≠ first := by simp
  refine (follows_referenceDigits ⟨0, Nat.zero_le _⟩ h le_rfl hany).bind ?_
  intro result c rest hreached
  obtain ⟨hvalue, hle, hrest⟩ := hreached
  have hnumber : CodePoint.ofNat? result.1 = some c := CodePoint.ofNat?_eq_some_iff.2 hvalue.symm
  have hbehind : start + (result.2 + 1 - start) = result.2 + 1 := by omega
  simp only [hnumber]
  exact .done ⟨rfl, by rwa [hbehind]⟩

/-- an introducer that opens no escape stands for itself -/
theorem sameEscape_literal {start : Nat} (h : Unread s (start + 1) text) (hmarks : ∀ c ∈ text.head?, c ∉ g.marks) :
    SameEscape s start (.ok ([.ofNat g.introducer.toNat], 1)) (readPiece g g.introducer text) := by
  have hunits : (CodePoint.ofChar g.introducer).units = [.ofNat g.introducer.toNat] := by cases g <;> rfl
  rw [readPiece, if_pos rfl, readEscape?_eq_none_iff.2 hmarks]
  exact .done ⟨hunits.symm, h⟩

theorem sameEscape_source {start : Nat} (h : Unread s start (Grammar.source.introducer :: text)) :
    SameEscape s start (escapeAt .source s start) (readPiece .source Grammar.source.introducer text) := by
  have htext : Unread s (start + 1) text := h.tail_of_lt (by decide)
  rw [escapeAt]
  simp only [htext.byteAt?_eq_iff (a := 'u') (by decide), htext.byteAt?_eq_iff (a := 'U') (by decide)]
  by_cases hunit : text.head? = some 'u'
  · obtain ⟨rest, rfl⟩ := List.head?_eq_some_iff.1 hunit
    rw [if_pos hunit, readPiece, if_pos rfl]
    exact sameEscape_unitAt (htext.tail_of_lt (by decide))
  rw [if_neg hunit]
  by_cases hpoint : text.head? = some 'U'
  · obtain ⟨rest, rfl⟩ := List.head?_eq_some_iff.1 hpoint
    rw [if_pos hpoint, readPiece, if_pos rfl]
    exact sameEscape_pointAt (htext.tail_of_lt (by decide))
  rw [if_neg hpoint]
  apply sameEscape_literal (g := .source) htext
  intro c hc hmark
  rcases List.mem_pair.1 hmark with rfl | rfl
  · exact hunit hc
  · exact hpoint hc

/-- the radix of a reference is told by the byte behind its number sign -/
theorem sameEscape_number {start : Nat} (h : Unread s (start + 2) text) :
    SameEscape s start
      (if byteAt? s (start + 2) = some 'x'.toUInt8 ∨ byteAt? s (start + 2) = some 'X'.toUInt8 then
        referenceAt s start .hexadecimal (start + 3)
      else referenceAt s start .decimal (start + 2))
      (readPiece .markup Grammar.markup.introducer ('#' :: text)) := by
  rw [readPiece, if_pos rfl]
  simp only [h.byteAt?_eq_iff (a := 'x') (by decide), h.byteAt?_eq_iff (a := 'X') (by decide)]
  by_cases hx : text.head? = some 'x' ∨ text.head? = some 'X'
  · rw [if_pos hx]
    rcases hx with hx | hx
    · obtain ⟨digits, rfl⟩ := List.head?_eq_some_iff.1 hx
      exact sameEscape_referenceAt (h.tail_of_lt (by decide)) (by omega)
    · obtain ⟨digits, rfl⟩ := List.head?_eq_some_iff.1 hx
      exact sameEscape_referenceAt (h.tail_of_lt (by decide)) (by omega)
  · have hread : Grammar.markup.readEscape? ('#' :: text) = some (readEntity .decimal text) := by
      cases text with
      | nil => rfl
      | cons c digits =>
        have hc : c ≠ 'x' ∧ c ≠ 'X' := by simpa using hx
        exact readEscape?_markup_decimal hc.1 hc.2 digits
    rw [if_neg hx, hread]
    exact sameEscape_referenceAt h (by omega)

theorem sameEscape_markup {start : Nat} (h : Unread s start (Grammar.markup.introducer :: text)) :
    SameEscape s start (escapeAt .markup s start) (readPiece .markup Grammar.markup.introducer text) := by
  have htext : Unread s (start + 1) text := h.tail_of_lt (by decide)
  rw [escapeAt]
  simp only [htext.byteAt?_eq_iff (a := '#') (by decide)]
  by_cases hsign : text.head? = some '#'
  · obtain ⟨rest, rfl⟩ := List.head?_eq_some_iff.1 hsign
    rw [if_pos hsign]
    exact sameEscape_number (htext.tail_of_lt (by decide))
  rw [if_neg hsign]
  apply sameEscape_literal (g := .markup) htext
  intro c hc hmark
  rw [List.mem_singleton.1 hmark] at hc
  exact hsign hc

/-- what an introducer stands for is the same by bytes and by characters -/
theorem sameEscape_escapeAt {start : Nat} (h : Unread s start (g.introducer :: text)) :
    SameEscape s start (escapeAt g s start) (readPiece g g.introducer text) := by
  cases g with
  | source => exact sameEscape_source h
  | markup => exact sameEscape_markup h

/-! ## Rounds -/

/-- characters other than the introducer are read as they are -/
theorem readsAs_of_not_mem {literal : List Char} (h : g.introducer ∉ literal) :
    ReadsAs g literal (Utf16.ofString (.ofList literal)) := by
  rw [Utf16.ofString, String.toList_ofList]
  induction literal with
  | nil => exact .nil g
  | cons c literal ih =>
    rw [List.mem_cons, not_or] at h
    exact (readsAs_literal (Ne.symm h.1)).append (ih h.2)

/-- how a round at a position with a text behind it comes out, by what the text denotes -/
inductive Outcome (g : Grammar) (s : String) (text : List Char) : Except Stop Round → Prop
  | last {us : List UInt16} (hread : readChars g text = .ok us) : Outcome g s text (.ok (.last us))
  | next {us : List UInt16} {next : Nat} {rest : List Char} (hrest : Unread s next rest)
    (hread : readChars g text = (readChars g rest).map (us ++ ·)) : Outcome g s text (.ok (.next us next))
  | fault {flaw : Flaw} {offset : Nat} {unread : List Char} (hunread : Unread s offset unread)
    (hread : readChars g text = .error ⟨flaw, unread⟩) : Outcome g s text (.error (.fault ⟨offset, flaw⟩))

/-- **One round.** It reads the text behind its position to the end, up to a fault, or up to a place behind its first
introducer, and it commits no breach. -/
theorem outcome_round (h : Unread s i text) : Outcome g s text (round g s i) := by
  simp only [round, h.cut_end, bind, Except.bind, String.toList_ofList]
  cases hn : bytesBefore? g.introducer text with
  | none => exact .last (readsAs_of_not_mem (bytesBefore?_eq_none hn)).readChars_eq
  | some n =>
    obtain ⟨literal, rest, rfl, hliteral, rfl⟩ := bytesBefore?_eq_some hn
    have hread := readsAs_of_not_mem hliteral (g.introducer :: rest)
    simp only [h.cut]
    rcases (sameEscape_escapeAt h.append).cases with ⟨flaw, hbytes, hchars⟩ | ⟨us, consumed, unread, hbytes, hchars, hunread⟩
    · rw [hbytes]
      rw [readChars_of_flaw hchars] at hread
      exact .fault h.append hread
    · rw [hbytes]
      rw [readChars_of_readPiece hchars] at hread
      refine .next hunread ?_
      rw [hread]
      cases readChars g unread <;> simp [Except.map]

theorem outcome_of_round {result : Except Stop Round} (h : Unread s i text) (hround : round g s i = result) :
    Outcome g s text result := by
  rw [← hround]
  exact outcome_round h

/-- **All rounds.** From a position on they read the text behind it, and find its fault where reading by characters does. -/
theorem readFrom_eq (h : Unread s i text) :
    readFrom g s i = (readChars g text).mapError fun flawed =>
      .fault ⟨s.utf8ByteSize - byteLength flawed.unread, flawed.flaw⟩ := by
  -- by the rounds; each leaves a text to the next, and all units that it has read are in front
  fun_induction readFrom g s i generalizing text with
  | case1 i stop hround =>
    cases outcome_of_round h hround with
    | @fault flaw offset unread hunread hread =>
      have hsize := hunread.size_eq
      have hoffset : s.utf8ByteSize - byteLength unread = offset := by omega
      rw [hread, Except.mapError, hoffset]
  | case2 i us hround =>
    cases outcome_of_round h hround with
    | last hread => rw [hread, Except.mapError]
  | case3 i us next hround ih =>
    cases outcome_of_round h hround with
    | @next us next rest hrest hread =>
      rw [ih hrest, hread]
      cases readChars g rest <;> rfl

/-- the positions at which rounds begin -/
inductive Visited (g : Grammar) (s : String) : Nat → Prop
  | start : Visited g s 0
  | next {pos next : Nat} {us : List UInt16} (h : Visited g s pos) (hround : round g s pos = .ok (.next us next)) :
    Visited g s next

/-- behind every such position a text is left to be read -/
theorem Visited.exists_unread {pos : Nat} (h : Visited g s pos) : ∃ text, Unread s pos text := by
  induction h with
  | start => exact ⟨s.toList, unread_start s⟩
  | next _ hround ih =>
    obtain ⟨text, htext⟩ := ih
    cases outcome_of_round htext hround with
    | @next us next rest hrest hread => exact ⟨rest, hrest⟩

/-- **Reading by bytes is safe and comes to an end.** Every round begins between two characters of the text. It commits no
breach: all its cuts are between characters, none of its numbers is too large for 32 bits, a wrong digit is always a
character, and the number of a reference is in the code space behind its last digit. A round that goes on gets further, not
beyond the end of the text. And the rounds together read what the text denotes, or find the fault that reading by characters
finds. -/
theorem rounds_safe (g : Grammar) (s : String) :
    (∀ pos, Visited g s pos → IsValid s ⟨pos⟩ ∧ (∀ breach, round g s pos ≠ .error (.breach breach)) ∧
      ∀ us next, round g s pos = .ok (.next us next) → pos < next ∧ next ≤ s.utf8ByteSize) ∧
    read g s = (Escape.read g s).mapError .fault := by
  constructor
  · intro pos hvisited
    obtain ⟨text, htext⟩ := hvisited.exists_unread
    refine ⟨htext.isValid, ?_, ?_⟩
    · intro breach hround
      cases outcome_of_round htext hround
    · intro us next hround
      exact round_advances hround
  · rw [read, readFrom_eq (unread_start s), Escape.read, byteLength_toList]
    cases readChars g s.toList <;> rfl

/-- the checks are for something: elsewhere a round starts inside a character, and a ninth digit is one too many -/
example : round .source "é" 1 = .error (.breach .cut) ∧
    fixedDigits "\\UFFFFFFFFF" 0 0 2 9 = .error (.breach .overflow) := by
  refine ⟨?_, ?_⟩ <;> cbv

end IdentifierText.Escape.Bytes
