import PubSubTui.Library.Tries

/-! The nodes of a trie in the order of a walk that takes a node before its children, and sums below a node. -/

namespace PubSubTui.Library.Tries

variable {κ α : Type*}

def Forest.nodes : Forest κ α → List (List κ × Node κ α)
  | .nil => []
  | .cons segment value children rest =>
    ([segment], ⟨children, value⟩) :: children.nodes.map (fun (path, node) => (segment :: path, node)) ++ rest.nodes

lemma Forest.sum_eq (f : α → ℕ) (forest : Forest κ α) : forest.sum f = (forest.entries.map (fun e => f e.2)).sum := by
  induction forest with
  | nil => rfl
  | cons segment value children rest ihc ihr =>
    cases value <;> simp [sum, entries, ihc, ihr, Function.comp_def, Nat.add_assoc]

lemma Node.sum_eq (f : α → ℕ) (node : Node κ α) : node.sum f = (node.entries.map (fun e => f e.2)).sum := by
  cases hv : node.value <;> simp [sum, entries, hv, Forest.sum_eq]

section Order

variable [LinearOrder κ] {forest : Forest κ α} {root node : Node κ α} {segment : κ} {path : List κ}

end Order

end PubSubTui.Library.Tries
