/-
The general category of every code point (Unicode 18.0): a search tree over the runs of assigned code points; whatever
lies in no run is unassigned. `lookup_eq` says so of the runs themselves.
-/
import IdentifierText.Unicode.RunTree
import IdentifierText.Unicode.CategoryTable.BasicPlane
import IdentifierText.Unicode.CategoryTable.HigherPlanes

namespace IdentifierText.Unicode.CategoryTable

/-- the runs of all assigned code points, in increasing order -/
def runs : List (Run GeneralCategory) :=
  BasicPlane.runs ++ HigherPlanes.runs

def tree : RunTree GeneralCategory :=
  .ofRuns runs

def lookup (n : Nat) : GeneralCategory :=
  (tree.find? n).getD .unassigned

theorem sorted_runs : Run.sorted 0 runs = true := by decide +kernel

theorem lookup_eq (n : Nat) : lookup n = (Run.lookup? runs n).getD .unassigned := by
  rw [lookup, tree, RunTree.find?_ofRuns sorted_runs]

end IdentifierText.Unicode.CategoryTable
