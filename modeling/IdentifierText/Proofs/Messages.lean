/-
Messages that stand on one line.

Numbers bring in digits only, and a quoted character shows a line feed by a letter. So the message about a text that
cannot be written is a single line, whatever the text is. The message about an argument is not: it repeats the argument.

Results:
- `newline_not_mem_numeral`, `newline_not_mem_escape`: the pieces that vary;
- `oneLine_message`: the message of a fault in writing.
-/
import Mathlib.Tactic.SplitIfs
import IdentifierText.Escape.Write

namespace IdentifierText

/-- a text without line feeds -/
def OneLine (text : String) : Prop :=
  '\n' ∉ text.toList

instance (text : String) : Decidable (OneLine text) := inferInstanceAs (Decidable ('\n' ∉ text.toList))

theorem OneLine.append {a b : String} (ha : OneLine a) (hb : OneLine b) : OneLine (a ++ b) := by
  rw [OneLine, String.toList_append, List.mem_append]
  exact fun h => h.elim ha hb

/-- the digits of a number are digits of its radix -/
theorem exists_digitChar_of_mem_toDigits {base n : Nat} (hbase : 1 < base) :
    ∀ c ∈ Nat.toDigits base n, ∃ d < base, c = Nat.digitChar d := by
  induction n using Nat.strongRecOn with
  | ind n ih =>
    rcases Nat.lt_or_ge n base with hlt | hle
    · rw [Nat.toDigits_of_lt_base hlt]
      intro c hc
      exact ⟨n, hlt, List.mem_singleton.1 hc⟩
    · rw [Nat.toDigits_of_base_le hbase hle]
      intro c hc
      rcases List.mem_append.1 hc with hfront | hlast
      · exact ih (n / base) (Nat.div_lt_self (by omega) hbase) c hfront
      · exact ⟨n % base, Nat.mod_lt n (by omega), List.mem_singleton.1 hlast⟩

theorem toUpper_digitChar_ne {d : Nat} (hd : d < 16) : Nat.digitChar d ≠ '\n' ∧ (Nat.digitChar d).toUpper ≠ '\n' :=
  (by decide : ∀ d < 16, Nat.digitChar d ≠ '\n' ∧ (Nat.digitChar d).toUpper ≠ '\n') d hd

theorem oneLine_toString (n : Nat) : OneLine (toString n) := by
  rw [OneLine, Nat.toString_eq_ofList_toDigits, String.toList_ofList]
  intro h
  obtain ⟨d, hd, hc⟩ := exists_digitChar_of_mem_toDigits (by decide) _ h
  exact (toUpper_digitChar_ne (Nat.lt_trans hd (by decide))).1 hc.symm

theorem newline_not_mem_numeral (r : Radix) (n : Nat) : '\n' ∉ r.numeral n := by
  intro h
  have hbase : r.base ≤ 16 := by cases r <;> decide
  obtain ⟨c, hc, hnewline⟩ := List.mem_map.1 h
  obtain ⟨d, hd, rfl⟩ := exists_digitChar_of_mem_toDigits r.one_lt_base c hc
  exact (toUpper_digitChar_ne (Nat.lt_of_lt_of_le hd hbase)).2 hnewline

theorem oneLine_label (c : CodePoint) : OneLine c.label := by
  have hnumeral := newline_not_mem_numeral .hexadecimal c.val
  simp [OneLine, CodePoint.label, List.leftpad, hnumeral]

/-- line feeds are shown by a letter, so only a mark could bring one in -/
theorem newline_not_mem_escape {mark : Char} (hmark : mark ≠ '\n') (c : Char) : '\n' ∉ Quoted.escape mark c := by
  unfold Quoted.escape
  split_ifs with hself htab hnewline hreturn hnull hnumbered
  · rcases hself with rfl | rfl
    · simpa using hmark.symm
    · decide
  · decide
  · decide
  · decide
  · decide
  · intro h
    have hdigit : '\n' ∈ Nat.toDigits 16 c.toNat := by simpa using h
    obtain ⟨d, hd, hc⟩ := exists_digitChar_of_mem_toDigits (by decide) _ hdigit
    exact (toUpper_digitChar_ne hd).1 hc.symm
  · simpa using Ne.symm hnewline

theorem oneLine_char (c : Char) : OneLine (Quoted.char c) := by
  have hmark : '\x27' ≠ '\n' := by decide
  have hescape := newline_not_mem_escape hmark c
  simp [OneLine, Quoted.char, Quoted.quote, hescape]

/-- a fault in writing is reported on one line -/
theorem oneLine_message (fault : Escape.WriteFault) : OneLine fault.message := by
  cases fault with
  | unpaired offset half =>
    have hlabel := oneLine_label (.ofUnit half)
    have hoffset := oneLine_toString offset
    exact ((((OneLine.append (by decide) hlabel).append (by decide)).append hoffset).append (by decide))
  | introducer offset found =>
    have hchar := oneLine_char found
    have hoffset := oneLine_toString offset
    exact ((((OneLine.append (by decide) hchar).append (by decide)).append hoffset).append (by decide))

end IdentifierText
