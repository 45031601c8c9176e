/-
Properties of code points, kept as runs: a run gives one value to every number from `first` to `last`, and a table is a
list of disjoint runs in increasing order (`Run.sorted`).
-/

namespace IdentifierText.Unicode

/-- one value for every number from `first` to `last` -/
structure Run (α : Type) where
  first : Nat
  last : Nat
  value : α
  deriving DecidableEq, Repr

namespace Run

variable {α : Type}

def holds (n : Nat) (run : Run α) : Bool :=
  run.first ≤ n && n ≤ run.last

/-- whether runs are disjoint, not empty and in increasing order, all of them from `bound` on -/
def sorted (bound : Nat) : List (Run α) → Bool
  | [] => true
  | run :: runs => bound ≤ run.first && run.first ≤ run.last && sorted (run.last + 1) runs

/-- the value that a table gives to a number -/
def lookup? (runs : List (Run α)) (n : Nat) : Option α :=
  (runs.find? (holds n)).map (·.value)

theorem le_of_sorted {bound : Nat} {runs : List (Run α)} (h : sorted bound runs) :
    ∀ run ∈ runs, bound ≤ run.first ∧ run.first ≤ run.last := by
  induction runs generalizing bound with
  | nil => simp
  | cons run runs ih =>
    simp only [sorted, Bool.and_eq_true, decide_eq_true_eq] at h
    intro other hm
    rcases List.mem_cons.1 hm with rfl | hm
    · exact h.1
    · have := ih h.2 other hm; omega

theorem pairwise_of_sorted {bound : Nat} {runs : List (Run α)} (h : sorted bound runs) :
    runs.Pairwise (fun a b => a.last < b.first) := by
  induction runs generalizing bound with
  | nil => exact .nil
  | cons run runs ih =>
    simp only [sorted, Bool.and_eq_true, decide_eq_true_eq] at h
    exact .cons (fun other hm => (le_of_sorted h.2 other hm).1) (ih h.2)

/-- in a sorted table a run gives its value to all that it holds -/
theorem lookup?_of_mem {bound : Nat} {runs : List (Run α)} (h : sorted bound runs) {run : Run α}
    (hmem : run ∈ runs) {n : Nat} (hn : run.holds n) : lookup? runs n = some run.value := by
  have hfind : runs.find? (holds n) = some run := by
    obtain ⟨before, after, rfl⟩ := List.append_of_mem hmem
    refine List.find?_eq_some_iff_append.2 ⟨hn, before, after, rfl, fun other hother => ?_⟩
    have hlt : other.last < run.first :=
      (List.pairwise_append.1 (pairwise_of_sorted h)).2.2 other hother run List.mem_cons_self
    simp only [holds, Bool.and_eq_true, decide_eq_true_eq, Bool.not_eq_true', Bool.and_eq_false_iff,
      decide_eq_false_iff_not] at hn ⊢
    omega
  rw [lookup?, hfind, Option.map_some]

end Run

end IdentifierText.Unicode
