import PubSubTui.Observe.Accounting
import PubSubTui.Ui.Tree

/-! Siblings in the topic tree have distinct identifiers, so that the tree can be built. -/

namespace PubSubTui.Ui

open Observe Library.Tries Library.TreeMaps

variable {state : AppState} {segment name : String} {node : Node} {topic : Topic}
  {forest : Forest String (String × Topic)} {items below : List TreeItem} {item : TreeItem}
  {here path : List String}

def nodeLine (segment : String) (node : Node) : Line :=
  node.value.elim (groupLine segment node) fun (_, topic) => topicLine segment topic

def nodeLeaves (state : AppState) (node : Node) : List TreeItem :=
  node.value.elim [] fun (name, topic) => leavesForTopic name topic state

lemma itemOver_eq_some_iff : itemOver state segment node below = some item ↔
    ((below ++ nodeLeaves state node).map TreeItem.identifier).Nodup ∧
      item = .mk (itemId segment node) (nodeLine segment node) (below ++ nodeLeaves state node) := by
  cases h : node.value <;> simp [itemOver, TreeItem.new, nodeLine, nodeLeaves, h, eq_comm]

def itemIds : Forest String (String × Topic) → List String
  | .nil => []
  | .cons segment topic children rest => itemId segment ⟨children, topic⟩ :: itemIds rest

lemma itemsFor_cons_eq_some_iff {value : Option (String × Topic)} {children rest : Forest String (String × Topic)} :
    itemsFor state (.cons segment value children rest) = some items ↔
      ∃ below item others, itemsFor state children = some below ∧
        itemOver state segment ⟨children, value⟩ below = some item ∧
        itemsFor state rest = some others ∧ items = item :: others := by
  simp only [itemsFor, Option.bind_eq_some_iff, Option.map_eq_some_iff]
  constructor
  · rintro ⟨item, ⟨below, hbelow, hitem⟩, others, hothers, rfl⟩
    exact ⟨below, item, others, hbelow, hitem, hothers, rfl⟩
  · rintro ⟨below, item, others, hbelow, hitem, hothers, rfl⟩
    exact ⟨item, ⟨below, hbelow, hitem⟩, others, hothers, rfl⟩

lemma identifiers_itemsFor (h : itemsFor state forest = some items) :
    items.map TreeItem.identifier = itemIds forest := by
  induction forest generalizing items with
  | nil =>
    cases h
    rfl
  | cons segment value children rest ihc ihr =>
    obtain ⟨below, item, others, -, hitem, hothers, rfl⟩ := itemsFor_cons_eq_some_iff.mp h
    obtain ⟨-, rfl⟩ := itemOver_eq_some_iff.mp hitem
    rw [List.map_cons, ihr hothers]
    rfl

lemma mark_inj {a b c d : String} (ha : '\x01' ∉ a.toList) (hc : '\x01' ∉ c.toList)
    (h : a ++ ("\x01" ++ b) = c ++ ("\x01" ++ d)) : a = c ∧ b = d := by
  have hlist := congrArg String.toList h
  simp only [String.toList_append] at hlist
  change a.toList ++ '\x01' :: b.toList = c.toList ++ '\x01' :: d.toList at hlist
  have hsplit := congrArg (List.splitOn '\x01') hlist
  rw [List.splitOn_append_cons_self_of_not_mem ha, List.splitOn_append_cons_self_of_not_mem hc] at hsplit
  have hac := (List.cons.inj hsplit).1
  rw [hac] at hlist
  exact ⟨String.toList_inj.mp hac, String.toList_inj.mp (List.cons.inj (List.append_cancel_left hlist)).2⟩

lemma unmark_inj {a b d : String} (h : a ++ ("\x01" ++ b) = a ++ ("\x01" ++ d)) : b = d :=
  (String.append_right_inj _).mp ((String.append_right_inj _).mp h)

def Placed (here : List String) (entries : List (List String × String × Topic)) : Prop :=
  ∀ path name topic, (path, name, topic) ∈ entries → segments name = here ++ path ∧ '\x01' ∉ name.toList

lemma Placed.head {value : Option (String × Topic)} {children rest : Forest String (String × Topic)}
    (h : Placed here (Forest.cons segment value children rest).entries) :
    Placed (here ++ [segment]) (Library.Tries.Node.mk children value).entries := by
  intro path name topic hmem
  have hhead : (segment :: path, name, topic) ∈ (Forest.cons segment value children rest).entries :=
    List.mem_append_left _ (List.mem_map.mpr ⟨_, hmem, rfl⟩)
  simpa using h _ _ _ hhead

lemma Placed.rest {value : Option (String × Topic)} {children rest : Forest String (String × Topic)}
    (h : Placed here (Forest.cons segment value children rest).entries) : Placed here rest.entries :=
  fun path name topic hmem => h path name topic (List.mem_append_right _ hmem)

inductive IdOf (segment : String) : List String → String → String → Prop
  | topic {name : String} : IdOf segment [] name ("topic" ++ ("\x01" ++ name))
  | group {path : List String} {name : String} (h : path ≠ []) :
    IdOf segment path name ("group" ++ ("\x01" ++ (name ++ ("\x01" ++ segment))))

lemma idOf_itemId (segment : String) (node : Node) (hw : node.children.WellFormed)
    (hv : node.value = none → node.children ≠ .nil) :
    ∃ path name topic, (path, name, topic) ∈ node.entries ∧ IdOf segment path name (itemId segment node) := by
  cases hvalue : node.value with
  | some value =>
    refine ⟨[], value.1, value.2, Node.nil_mem_entries.mpr hvalue, ?_⟩
    have hid : itemId segment node = "topic" ++ ("\x01" ++ value.1) := by
      simp only [itemId, hvalue]
      rw [← String.append_assoc]
      rfl
    exact hid ▸ .topic
  | none =>
    have hentries : node.entries = node.children.entries := by simp [Node.entries, hvalue]
    obtain ⟨e, entries, hcons⟩ := List.exists_cons_of_ne_nil (Forest.entries_ne_nil hw (hv hvalue))
    have hfirst : firstTopic node = some e.2.1 := by simp [firstTopic, Node.first_eq_head?, hentries, hcons]
    obtain ⟨_, -, _, hpath⟩ := Forest.exists_cons_of_mem (hcons ▸ List.mem_cons_self : e ∈ node.children.entries)
    refine ⟨e.1, e.2.1, e.2.2, hentries ▸ hcons ▸ List.mem_cons_self, ?_⟩
    have hid : itemId segment node = "group" ++ ("\x01" ++ (e.2.1 ++ ("\x01" ++ segment))) := by
      simp only [itemId, hvalue, groupId, hfirst]
      rw [String.append_assoc, ← String.append_assoc]
      rfl
    exact hid ▸ .group (hpath ▸ List.cons_ne_nil _ _)

lemma exists_idOf (hw : forest.WellFormed) {id : String} (h : id ∈ itemIds forest) :
    ∃ segment ∈ forest.segments, ∃ path name topic,
      (segment :: path, name, topic) ∈ forest.entries ∧ IdOf segment path name id := by
  induction forest with
  | nil => cases h
  | cons segment value children rest ihc ihr =>
    obtain ⟨-, hvalue, hchildren, hrest⟩ := hw
    rcases List.mem_cons.mp h with rfl | h
    · obtain ⟨path, name, topic, hmem, hid⟩ := idOf_itemId segment ⟨children, value⟩ hchildren hvalue
      exact ⟨segment, .head _, path, name, topic, List.mem_append_left _ (List.mem_map.mpr ⟨_, hmem, rfl⟩), hid⟩
    · obtain ⟨segment', hsegment, path, name, topic, hmem, hid⟩ := ihr hrest h
      exact ⟨segment', .tail _ hsegment, path, name, topic, List.mem_append_right _ hmem, hid⟩

lemma IdOf.segment_eq {segment' name' id : String} {path' : List String} (h : IdOf segment path name id)
    (h' : IdOf segment' path' name' id) (hn : '\x01' ∉ name.toList) (hn' : '\x01' ∉ name'.toList)
    (hs : segments name = here ++ segment :: path) (hs' : segments name' = here ++ segment' :: path') :
    segment = segment' := by
  cases h with
  | topic =>
    generalize hid : "topic" ++ ("\x01" ++ name) = id at h'
    cases h' with
    | topic =>
      obtain rfl := unmark_inj hid
      exact (List.cons.inj (List.append_cancel_left (hs.symm.trans hs'))).1
    | group hpath => exact absurd (mark_inj (by decide) (by decide) hid).1 (by decide)
  | group hpath =>
    generalize hid : "group" ++ ("\x01" ++ (name ++ ("\x01" ++ segment))) = id at h'
    cases h' with
    | topic => exact absurd (mark_inj (by decide) (by decide) hid).1 (by decide)
    | group hpath' => exact (mark_inj hn hn' (unmark_inj hid)).2

lemma nodup_itemIds (hw : forest.WellFormed) (hp : Placed here forest.entries) : (itemIds forest).Nodup := by
  induction forest with
  | nil => exact List.nodup_nil
  | cons segment value children rest ihc ihr =>
    have ⟨habove, hvalue, hchildren, hrest⟩ := hw
    refine List.nodup_cons.mpr ⟨fun hmem => ?_, ihr hrest hp.rest⟩
    obtain ⟨path, name, topic, hentry, hid⟩ := idOf_itemId segment ⟨children, value⟩ hchildren hvalue
    obtain ⟨segment', hsegment, path', name', topic', hentry', hid'⟩ := exists_idOf hrest hmem
    obtain ⟨hs, hn⟩ := hp.head _ _ _ hentry
    obtain ⟨hs', hn'⟩ := hp.rest _ _ _ hentry'
    have heq : segment = segment' := hid.segment_eq hid' hn hn' (by simpa using hs) hs'
    exact (habove segment' hsegment).ne heq

lemma leafId_eq (name kind who : String) :
    name ++ ("\x01" ++ kind ++ "\x01") ++ who = name ++ ("\x01" ++ (kind ++ ("\x01" ++ who))) := by
  simp only [String.append_assoc]

lemma identifiers_leavesForTopic : (leavesForTopic name topic state).map TreeItem.identifier =
    ((topic.publishers.toList.filter (·.2.published ≠ 0)).map Prod.fst).map
      (fun peer => name ++ ("\x01" ++ ("pub" ++ ("\x01" ++ peer)))) ++
    ((state.activeConsumersOf name).map Prod.fst).map
      fun subName => name ++ ("\x01" ++ ("sub" ++ ("\x01" ++ subName))) := by
  simp only [← leafId_eq, leavesForTopic, List.map_append, List.map_map]
  rfl

lemma exists_leafId {id : String} (h : id ∈ (leavesForTopic name topic state).map TreeItem.identifier) :
    ∃ kind ∈ ["pub", "sub"], ∃ who, id = name ++ ("\x01" ++ (kind ++ ("\x01" ++ who))) := by
  rw [identifiers_leavesForTopic] at h
  rcases List.mem_append.mp h with h | h
  · obtain ⟨peer, -, rfl⟩ := List.mem_map.mp h
    exact ⟨"pub", .head _, peer, rfl⟩
  · obtain ⟨subName, -, rfl⟩ := List.mem_map.mp h
    exact ⟨"sub", .tail _ (.head _), subName, rfl⟩

lemma nodup_leavesForTopic : ((leavesForTopic name topic state).map TreeItem.identifier).Nodup := by
  rw [identifiers_leavesForTopic]
  refine List.nodup_append.mpr ⟨?_, ?_, ?_⟩
  · exact (nodup_filter_keys _ _).map fun _ _ h => unmark_inj (unmark_inj h)
  · exact (nodup_filter_keys _ _).map fun _ _ h => unmark_inj (unmark_inj h)
  · rintro _ hpub _ hsub rfl
    obtain ⟨peer, -, rfl⟩ := List.mem_map.mp hpub
    obtain ⟨subName, -, h⟩ := List.mem_map.mp hsub
    exact absurd (mark_inj (by decide) (by decide) (unmark_inj h)).1 (by decide)

lemma IdOf.ne_leafId {kind who name' id : String} (h : IdOf segment path name' id) (hk : kind ∈ ["pub", "sub"])
    (hn : '\x01' ∉ name.toList) (hn' : '\x01' ∉ name'.toList) (hs : segments name = here)
    (hs' : segments name' = here ++ segment :: path) : id ≠ name ++ ("\x01" ++ (kind ++ ("\x01" ++ who))) := by
  have hmark : '\x01' ∉ kind.toList := by
    rcases List.mem_pair.mp hk with rfl | rfl <;> decide
  intro heq
  cases h with
  | topic =>
    obtain ⟨-, rfl⟩ := mark_inj (by decide) hn heq
    exact hn' (by simp)
  | group hpath =>
    have hkind : name' = kind := (mark_inj hn' hmark (mark_inj (by decide) hn heq).2).1
    have hlength : (segments kind).length = 1 := by
      rcases List.mem_pair.mp hk with rfl | rfl <;> decide
    have hhere : 0 < here.length := hs ▸ List.length_pos_iff.mpr (segments_ne_nil name)
    rw [← hkind, hs', List.length_append, List.length_cons] at hlength
    omega

lemma nodup_childIds (hw : node.children.WellFormed) (hp : Placed here node.entries) :
    (itemIds node.children ++ (nodeLeaves state node).map TreeItem.identifier).Nodup := by
  have hchildren : Placed here node.children.entries :=
    fun path name topic hmem => hp path name topic (List.mem_append_right _ hmem)
  refine List.nodup_append.mpr ⟨nodup_itemIds hw hchildren, ?_, ?_⟩
  · cases hv : node.value with
    | none => simp [nodeLeaves, hv]
    | some value =>
      rw [nodeLeaves, hv]
      exact nodup_leavesForTopic
  · rintro id hid _ hleaf rfl
    cases hv : node.value with
    | none => simp [nodeLeaves, hv] at hleaf
    | some value =>
      rw [nodeLeaves, hv] at hleaf
      obtain ⟨hs, hn⟩ := hp [] value.1 value.2 (Node.nil_mem_entries.mpr hv)
      obtain ⟨segment, -, path, name, topic, hmem, hidOf⟩ := exists_idOf hw hid
      obtain ⟨hs', hn'⟩ := hchildren _ _ _ hmem
      obtain ⟨kind, hkind, who, heq⟩ := exists_leafId hleaf
      exact hidOf.ne_leafId hkind hn hn' (by simpa using hs) hs' heq

lemma exists_itemsFor (state : AppState) (hw : forest.WellFormed) (hp : Placed here forest.entries) :
    ∃ items, itemsFor state forest = some items := by
  induction forest generalizing here with
  | nil => exact ⟨[], rfl⟩
  | cons segment value children rest ihc ihr =>
    obtain ⟨-, -, hchildren, hrest⟩ := hw
    obtain ⟨below, hbelow⟩ := ihc hchildren fun path name topic hmem =>
      hp.head path name topic (List.mem_append_right _ hmem)
    obtain ⟨others, hothers⟩ := ihr hrest hp.rest
    refine ⟨_, itemsFor_cons_eq_some_iff.mpr ⟨below, _, others, hbelow, itemOver_eq_some_iff.mpr ⟨?_, rfl⟩,
      hothers, rfl⟩⟩
    rw [List.map_append, identifiers_itemsFor hbelow]
    exact nodup_childIds hchildren hp.head

lemma children_of_mem_leavesForTopic (h : item ∈ leavesForTopic name topic state) : item.children = [] := by
  rcases List.mem_append.mp h with h | h <;> obtain ⟨_, -, rfl⟩ := List.mem_map.mp h <;> rfl

lemma within_nodeLeaves (h : item.Within (nodeLeaves state node)) :
    ∃ name topic, node.value = some (name, topic) ∧ item ∈ leavesForTopic name topic state := by
  cases hv : node.value with
  | none =>
    rw [nodeLeaves, hv] at h
    exact absurd h TreeItem.not_within_nil
  | some value =>
    rw [nodeLeaves, hv] at h
    exact ⟨_, _, rfl, TreeItem.mem_of_within_leaves (fun _ => children_of_mem_leavesForTopic) h⟩

lemma nodup_of_within (h : itemsFor state forest = some items) (hw : item.Within items) :
    (item.children.map TreeItem.identifier).Nodup := by
  induction forest generalizing items with
  | nil =>
    cases h
    exact absurd hw TreeItem.not_within_nil
  | cons segment value children rest ihc ihr =>
    obtain ⟨below, head, others, hbelow, hhead, hothers, rfl⟩ := itemsFor_cons_eq_some_iff.mp h
    obtain ⟨hnodup, rfl⟩ := itemOver_eq_some_iff.mp hhead
    rcases TreeItem.within_cons.mp hw with rfl | hw | hw
    · exact hnodup
    · rcases TreeItem.within_append.mp hw with hw | hw
      · exact ihc hbelow hw
      · obtain ⟨_, _, -, hleaf⟩ := within_nodeLeaves hw
        simp [children_of_mem_leavesForTopic hleaf]
    · exact ihr hothers hw

lemma placed_trie (clean : ∀ name ∈ state.topics, '\x01' ∉ name.toList) :
    Placed [] (trie state).root.children.entries := by
  intro path name topic hmem
  obtain ⟨⟨htopic, -⟩, hpath, -⟩ := mem_entries_trie.mp (List.mem_append_right _ hmem)
  refine ⟨hpath, clean name ?_⟩
  rw [← Std.ExtTreeMap.isSome_getElem?_iff_mem, htopic]
  rfl

lemma exists_build (clean : ∀ name ∈ state.topics, '\x01' ∉ name.toList) : ∃ items, build state = some items :=
  exists_itemsFor state (trie state).wellFormed (placed_trie clean)

lemma exists_tree (clean : ∀ name ∈ state.topics, '\x01' ∉ name.toList) (h : build state = some items) :
    ∃ tree, Tree.new items = some tree := by
  have hnodup : (items.map TreeItem.identifier).Nodup := by
    rw [identifiers_itemsFor h]
    exact nodup_itemIds (trie state).wellFormed (placed_trie clean)
  exact ⟨_, dif_pos hnodup⟩

theorem identifiers_never_collide (state : AppState) (clean : ∀ name ∈ state.topics, '\x01' ∉ name.toList) :
    ∃ items, build state = some items ∧ (∃ tree, Tree.new items = some tree) ∧
      ∀ item, TreeItem.Within item items → (item.children.map TreeItem.identifier).Nodup := by
  obtain ⟨items, hbuild⟩ := exists_build clean
  exact ⟨items, hbuild, exists_tree clean hbuild, fun item hw => nodup_of_within hbuild hw⟩

def published (names : List String) : AppState :=
  ({} : AppState).applyAll (names.map fun name => (.publish name none [⟨[104], [], 1, false⟩], 0))

lemma mem_of_mem_published {names : List String} (h : name ∈ (published names).topics) : name ∈ names := by
  rcases (AppState.mem_topics_applyAll {} name _).mp h with h | ⟨e, he, hnames⟩
  · simp at h
  · obtain ⟨name', hmem, rfl⟩ := List.mem_map.mp he
    exact (hnames : name' = name) ▸ hmem

def reservedNames : List String := ["group", "topic", "pub", "p/group.pub", "p/topic..sub"]

theorem identifiers_never_collide_of_reservedNames :
    ∃ items, build (published reservedNames) = some items ∧ (∃ tree, Tree.new items = some tree) ∧
      ∀ item, TreeItem.Within item items → (item.children.map TreeItem.identifier).Nodup := by
  have hclean : ∀ name ∈ reservedNames, '\x01' ∉ name.toList := by decide
  exact identifiers_never_collide _ fun name hname => hclean name (mem_of_mem_published hname)

end PubSubTui.Ui
