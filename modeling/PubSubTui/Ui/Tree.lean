import Mathlib.Data.List.DropRight
import Mathlib.Data.String.Basic
import PubSubTui.Library.Tries
import PubSubTui.Observe.State

/-! The topic tree: the topics that have seen messages, nested by the dots in their names. -/

namespace PubSubTui.Ui

open Observe Library.Tries

inductive Color
  | cyan | gray | green | magenta | white | yellow
  deriving DecidableEq

/-- The styles of the theme by name; `fg` and `boldFg` give the base style another colour. -/
inductive Style
  | label | count | publisher | consumer | base | title | border | borderFocused | selected
  | fg (color : Color) | boldFg (color : Color)
  deriving DecidableEq

structure Span where
  content : String
  style : Style
  deriving DecidableEq

abbrev Line := List Span

inductive TreeItem
  | mk (identifier : String) (text : Line) (children : List TreeItem)

namespace TreeItem

def identifier : TreeItem → String
  | mk identifier _ _ => identifier

def text : TreeItem → Line
  | mk _ text _ => text

def children : TreeItem → List TreeItem
  | mk _ _ children => children

def new (identifier : String) (text : Line) (children : List TreeItem) : Option TreeItem :=
  if (children.map TreeItem.identifier).Nodup then some (mk identifier text children) else none

def newLeaf (identifier : String) (text : Line) : TreeItem := mk identifier text []

inductive Within (item : TreeItem) : List TreeItem → Prop
  | listed {items : List TreeItem} (h : item ∈ items) : Within item items
  | under {items : List TreeItem} {parent : TreeItem} (hp : parent ∈ items) (h : Within item parent.children) :
    Within item items

variable {item parent : TreeItem} {items items' : List TreeItem}

lemma within_cons : Within item (parent :: items) ↔
    item = parent ∨ Within item parent.children ∨ Within item items := by
  constructor
  · rintro (h | ⟨hp, h⟩)
    · rcases List.mem_cons.mp h with rfl | h
      · exact .inl rfl
      · exact .inr (.inr (.listed h))
    · rcases List.mem_cons.mp hp with rfl | hp
      · exact .inr (.inl h)
      · exact .inr (.inr (.under hp h))
  · rintro (rfl | h | ⟨h⟩ | ⟨hp, h⟩)
    · exact .listed (.head _)
    · exact .under (.head _) h
    · exact .listed (.tail _ h)
    · exact .under (.tail _ hp) h

lemma not_within_nil : ¬ Within item [] := by
  rintro (h | ⟨hp, -⟩)
  · cases h
  · cases hp

lemma within_append : Within item (items ++ items') ↔ Within item items ∨ Within item items' := by
  induction items with
  | nil => simp [not_within_nil]
  | cons i items ih => rw [List.cons_append, within_cons, within_cons, ih, or_assoc, or_assoc]

lemma mem_of_within_leaves (hleaf : ∀ i ∈ items, i.children = []) (h : Within item items) : item ∈ items := by
  cases h with
  | listed h => exact h
  | under hp h =>
    rw [hleaf _ hp] at h
    exact absurd h not_within_nil

end TreeItem

structure Tree where
  items : List TreeItem
  distinct : (items.map TreeItem.identifier).Nodup

def Tree.new (items : List TreeItem) : Option Tree :=
  if h : (items.map TreeItem.identifier).Nodup then some ⟨items, h⟩ else none

abbrev Node := Library.Tries.Node String (String × Topic)

def short (name : String) : String := String.ofList (name.toList.rtakeWhile (· ≠ '/'))

def segments (name : String) : List String := ((short name).toList.splitOn '.').map String.ofList

example : segments "projects/p/topics/acme.orders.created" = ["acme", "orders", "created"] := by decide

def firstTopic (node : Node) : Option String := node.first.map Prod.fst

def subtreeMessages (node : Node) : ℕ := node.sum fun (_, topic) => topic.publishCount

def groupLine (segment : String) (node : Node) : Line :=
  [⟨segment ++ "  ", .label⟩, ⟨"[" ++ toString (subtreeMessages node) ++ " msgs]", .count⟩]

def topicLine (segment : String) (topic : Topic) : Line :=
  [⟨segment ++ "  ", .label⟩, ⟨"[" ++ toString topic.publishCount ++ " msgs]", .count⟩]

def publisherLine (peer : String) (published : ℕ) : Line :=
  [⟨"\u25b2 pub ", .publisher⟩, ⟨peer, .label⟩, ⟨"  (" ++ toString published ++ " published)", .count⟩]

def consumerLine (name : String) (sub : Subscription) : Line :=
  [⟨"\u25bc sub ", .consumer⟩, ⟨short name, .label⟩, ⟨"  (" ++ toString sub.acked ++ " consumed)", .count⟩] ++
    if sub.liveConsumers > 0 then [⟨"  \u25cf" ++ toString sub.liveConsumers ++ " live", .consumer⟩] else []

def leavesForTopic (name : String) (topic : Topic) (state : AppState) : List TreeItem :=
  (topic.publishers.toList.filter (·.2.published ≠ 0)).map (fun (peer, publisher) =>
    .newLeaf (name ++ "\x01pub\x01" ++ peer) (publisherLine peer publisher.published)) ++
  (state.activeConsumersOf name).map fun (subName, sub) =>
    .newLeaf (name ++ "\x01sub\x01" ++ subName) (consumerLine subName sub)

def groupId (segment : String) (node : Node) : String :=
  match firstTopic node with
  | some name => name ++ "\x01" ++ segment
  | none => segment

def itemId (segment : String) (node : Node) : String :=
  match node.value with
  | some (name, _) => "topic\x01" ++ name
  | none => "group\x01" ++ groupId segment node

def itemOver (state : AppState) (segment : String) (node : Node) (children : List TreeItem) : Option TreeItem :=
  match node.value with
  | some (name, topic) =>
    TreeItem.new (itemId segment node) (topicLine segment topic) (children ++ leavesForTopic name topic state)
  | none => TreeItem.new (itemId segment node) (groupLine segment node) children

def itemsFor (state : AppState) : Forest String (String × Topic) → Option (List TreeItem)
  | .nil => some []
  | .cons segment topic children rest =>
    ((itemsFor state children).bind (itemOver state segment ⟨children, topic⟩)).bind fun item =>
      (itemsFor state rest).map (item :: ·)

def itemFor (state : AppState) (segment : String) (node : Node) : Option TreeItem :=
  (itemsFor state node.children).bind (itemOver state segment node)

def trie (state : AppState) : Trie String (String × Topic) :=
  .ofEntries ((state.topics.toList.filter (·.2.publishCount ≠ 0)).map fun (name, topic) =>
    (segments name, (name, topic)))

/-- No value stands for a panic: two siblings with one identifier. -/
def build (state : AppState) : Option (List TreeItem) := itemsFor state (trie state).root.children

lemma segments_ne_nil (name : String) : segments name ≠ [] := by
  simp [segments, List.splitOn_ne_nil]

lemma segments_eq_iff {a b : String} : segments a = segments b ↔ short a = short b := by
  refine ⟨fun h => ?_, fun h => by rw [segments, segments, h]⟩
  have hpieces : (short a).toList.splitOn '.' = (short b).toList.splitOn '.' :=
    List.map_injective_iff.mpr (fun _ _ => String.ofList_inj.mp) h
  have hlist := congrArg [('.' : Char)].intercalate hpieces
  rw [List.intercalate_splitOn, List.intercalate_splitOn] at hlist
  exact String.toList_inj.mp hlist

def Listed (state : AppState) (name : String) : Prop :=
  ∃ topic, state.topics[name]? = some topic ∧ topic.publishCount ≠ 0

lemma mem_entries_trie {state : AppState} {path : List String} {name : String} {topic : Topic} :
    (path, name, topic) ∈ (trie state).root.entries ↔
      (state.topics[name]? = some topic ∧ topic.publishCount ≠ 0) ∧ segments name = path ∧
        ∀ other, Listed state other → segments other = path → other ≤ name := by
  have hsorted : ((state.topics.toList.filter (·.2.publishCount ≠ 0)).map fun (name, topic) =>
      (segments name, (name, topic))).Pairwise (fun e e' => e.2.1 < e'.2.1) := by
    have hkeys := Library.TreeMaps.ordered_filter_keys state.topics (·.2.publishCount ≠ 0)
    exact List.pairwise_map.mpr ((List.pairwise_map.mp hkeys).imp fun hlt => compare_lt_iff_lt.mp hlt)
  rw [trie, Trie.mem_entries_of_increasing hsorted]
  simp only [List.mem_map, List.mem_filter, Prod.exists, Prod.forall, decide_eq_true_eq, Prod.mk.injEq,
    Std.ExtTreeMap.mem_toList_iff_getElem?_eq_some]
  constructor
  · rintro ⟨⟨_, _, hlisted, rfl, rfl, rfl⟩, hlast⟩
    refine ⟨hlisted, rfl, fun other ⟨topic', hother⟩ hpath => ?_⟩
    exact hlast _ other topic' ⟨other, topic', hother, rfl, rfl, rfl⟩ hpath
  · rintro ⟨hlisted, rfl, hlast⟩
    refine ⟨⟨name, topic, hlisted, rfl, rfl, rfl⟩, ?_⟩
    rintro _ _ _ ⟨other, topic', hother, rfl, rfl, rfl⟩ hpath
    exact hlast other ⟨topic', hother⟩ hpath

lemma exists_mem_entries_trie {state : AppState} {name : String} (h : Listed state name) :
    ∃ name' topic, (segments name, name', topic) ∈ (trie state).root.entries := by
  obtain ⟨topic, htopic, hcount⟩ := h
  have hmem : (segments name, (name, topic)) ∈ (state.topics.toList.filter (·.2.publishCount ≠ 0)).map
      fun (name, topic) => (segments name, (name, topic)) := by
    refine List.mem_map.mpr ⟨(name, topic), List.mem_filter.mpr ⟨?_, by simpa using hcount⟩, rfl⟩
    exact Std.ExtTreeMap.mem_toList_iff_getElem?_eq_some.mpr htopic
  obtain ⟨⟨name', topic'⟩, hmem'⟩ := Trie.exists_mem_entries_ofEntries hmem
  exact ⟨name', topic', hmem'⟩

end PubSubTui.Ui
