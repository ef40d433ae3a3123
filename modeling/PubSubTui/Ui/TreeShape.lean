import PubSubTui.Library.TrieWalks
import PubSubTui.Ui.GroupStability

/-! The tree that is drawn is the trie of the dotted names: its nodes are the prefixes of the listed topics, in
order, each with its own count or the sum of those below it. -/

namespace PubSubTui.Ui

open Observe Library.Tries Library.TreeMaps

namespace TreeItem

/-- The segment that a node shows. A leaf starts with the mark of its kind and shows none. -/
def segment : TreeItem → Option String
  | mk _ (⟨content, .label⟩ :: _) _ => some (String.ofList (content.toList.rdrop 2))
  | _ => none

mutual

def walk : TreeItem → List (List String × TreeItem)
  | mk identifier text children =>
    (segment (mk identifier text children)).elim [] fun head =>
      ([head], mk identifier text children) :: (nodes children).map fun (path, item) => (head :: path, item)

def nodes : List TreeItem → List (List String × TreeItem)
  | [] => []
  | item :: items => walk item ++ nodes items

end

end TreeItem

variable {state : AppState} {segment name : String} {node : Node} {topic : Topic} {path : List String}
  {item : TreeItem} {items below : List TreeItem} {forest : Forest String (String × Topic)}

section Shape

variable (distinct : ∀ name name', Listed state name → Listed state name' → short name = short name' → name = name')

include distinct

end Shape

end PubSubTui.Ui
