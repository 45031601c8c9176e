/-
Sorted runs as a balanced search tree, made by recursion on a depth, so that a look-up takes a logarithmic number of
comparisons, in a compiled program and in a proof alike. `find?_ofRuns`: the tree of a sorted list finds what the list
holds.
-/
import IdentifierText.Unicode.Run

namespace IdentifierText.Unicode

/-- a search tree of runs, smaller numbers to the left -/
inductive RunTree (α : Type) where
  | leaf
  | node (left : RunTree α) (run : Run α) (right : RunTree α)

namespace RunTree

variable {α : Type}

def find? : RunTree α → Nat → Option α
  | .leaf, _ => none
  | .node left run right, n =>
    if n < run.first then left.find? n else if n ≤ run.last then some run.value else right.find? n

def toList : RunTree α → List (Run α)
  | .leaf => []
  | .node left run right => left.toList ++ run :: right.toList

/-- a tree of the given depth from the front of a list, and the runs that it leaves -/
def build : Nat → List (Run α) → RunTree α × List (Run α)
  | 0, runs => (.leaf, runs)
  | depth + 1, runs =>
    match build depth runs with
    | (left, []) => (left, [])
    | (left, run :: runs) =>
      let (right, rest) := build depth runs
      (.node left run right, rest)

/-- how many runs a tree of the given depth holds when it is full -/
def capacity : Nat → Nat
  | 0 => 0
  | depth + 1 => capacity depth + 1 + capacity depth

/-- the search tree of a sorted list, of the least depth with room for more than all its runs -/
def ofRuns (runs : List (Run α)) : RunTree α :=
  (build (Nat.log2 (runs.length + 1) + 1) runs).1

/-! ## Look-up -/

theorem toList_build (depth : Nat) (runs : List (Run α)) :
    (build depth runs).1.toList ++ (build depth runs).2 = runs := by
  induction depth generalizing runs with
  | zero => rfl
  | succ depth ih =>
    have hl := ih runs
    simp only [build]
    split
    · rename_i left hb; rw [hb] at hl; exact hl
    · rename_i left run rest hb
      rw [hb] at hl
      have hr := ih rest
      simp only at hl hr ⊢
      rw [toList, List.append_assoc, List.cons_append, hr, hl]

theorem length_build (depth : Nat) (runs : List (Run α)) :
    (build depth runs).2.length = runs.length - capacity depth := by
  induction depth generalizing runs with
  | zero => simp [build, capacity]
  | succ depth ih =>
    have hl := ih runs
    simp only [build, capacity]
    split
    · rename_i left hb; rw [hb] at hl; simp only [List.length_nil] at hl ⊢; omega
    · rename_i left run rest hb
      rw [hb] at hl
      have hr := ih rest
      simp only [List.length_cons] at hl hr ⊢
      omega

/-- The depth that `ofRuns` takes has room for every run. -/
theorem lt_capacity_log2 (n : Nat) : n < capacity (Nat.log2 (n + 1) + 1) := by
  have hpow : ∀ depth, capacity depth + 1 = 2 ^ depth := by
    intro depth
    induction depth with
    | zero => rfl
    | succ depth ih => rw [Nat.pow_succ, ← ih, capacity]; omega
  have hlog : n + 1 < 2 ^ (Nat.log2 (n + 1) + 1) := Nat.lt_log2_self
  rw [← hpow] at hlog
  omega

theorem toList_ofRuns (runs : List (Run α)) : (ofRuns runs).toList = runs := by
  have hlen := length_build (Nat.log2 (runs.length + 1) + 1) runs
  have hlt := lt_capacity_log2 runs.length
  have hnil : (build (Nat.log2 (runs.length + 1) + 1) runs).2 = [] := by
    apply List.length_eq_zero_iff.1; omega
  have happ := toList_build (Nat.log2 (runs.length + 1) + 1) runs
  rwa [hnil, List.append_nil] at happ

theorem find?_eq_lookup? (t : RunTree α) (n : Nat) (h : t.toList.Pairwise (fun a b => a.last < b.first))
    (hle : ∀ run ∈ t.toList, run.first ≤ run.last) : t.find? n = Run.lookup? t.toList n := by
  induction t with
  | leaf => rfl
  | node left run right ihl ihr =>
    simp only [toList] at h hle
    obtain ⟨hl, hr, hlr⟩ := List.pairwise_append.1 h
    obtain ⟨hrun, hr⟩ := List.pairwise_cons.1 hr
    have hleft : ∀ x ∈ left.toList, x.last < run.first := fun x hx => hlr x hx run List.mem_cons_self
    have ihl := ihl hl fun x hx => hle x (by simp [hx])
    have ihr := ihr hr fun x hx => hle x (by simp [hx])
    have hself : run.first ≤ run.last := hle run (by simp)
    unfold Run.lookup? at *
    simp only [find?, toList, List.find?_append, List.find?_cons]
    by_cases h1 : n < run.first
    · have hno : run.holds n = false := by simp [Run.holds]; omega
      have hright : right.toList.find? (Run.holds n) = none := by
        rw [List.find?_eq_none]
        intro x hx
        have := hrun x hx
        simp [Run.holds]; omega
      simp [h1, hno, hright, ihl]
    · have hnone : left.toList.find? (Run.holds n) = none := by
        rw [List.find?_eq_none]
        intro x hx
        have := hleft x hx
        simp [Run.holds]; omega
      by_cases h2 : n ≤ run.last
      · have hyes : run.holds n = true := by simp [Run.holds]; omega
        simp [h1, h2, hnone, hyes]
      · have hno : run.holds n = false := by simp [Run.holds]; omega
        simp [h1, h2, hnone, hno, ihr]

/-- The tree of a sorted list finds the value that the list gives. -/
theorem find?_ofRuns {bound : Nat} {runs : List (Run α)} (h : Run.sorted bound runs) (n : Nat) :
    (ofRuns runs).find? n = Run.lookup? runs n := by
  have ht := toList_ofRuns runs
  have hp := Run.pairwise_of_sorted h
  rw [find?_eq_lookup? _ _ (by rwa [ht]) (by rw [ht]; exact fun run hm => (Run.le_of_sorted h run hm).2), ht]

end RunTree

end IdentifierText.Unicode
