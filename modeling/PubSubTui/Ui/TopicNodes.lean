import PubSubTui.Ui.TreeIdentifiers

/-! Which topics have a node of their own in the tree: topics with one last path segment share a single node,
and the one with the greatest name keeps it. -/

namespace PubSubTui.Ui

open Observe Library.Tries

variable {state : AppState} {segment name : String} {topic : Topic} {path : List String} {item : TreeItem}
  {items : List TreeItem} {forest : Forest String (String × Topic)}

lemma exists_topicItem (h : itemsFor state forest = some items) (hmem : (path, name, topic) ∈ forest.entries) :
    ∃ item segment, TreeItem.Within item items ∧ path.getLast? = some segment ∧
      item.identifier = "topic\x01" ++ name ∧ item.text = topicLine segment topic ∧
      leavesForTopic name topic state ⊆ item.children := by
  induction forest generalizing items path with
  | nil => cases hmem
  | cons head value children rest ihc ihr =>
    obtain ⟨below, item, others, hbelow, hitem, hothers, rfl⟩ := itemsFor_cons_eq_some_iff.mp h
    obtain ⟨-, rfl⟩ := itemOver_eq_some_iff.mp hitem
    rcases Forest.mem_entries_cons.mp hmem with ⟨rfl, rfl⟩ | ⟨path', rfl, hchild⟩ | hrest
    · exact ⟨_, head, .listed (.head _), rfl, rfl, rfl, List.subset_append_right _ _⟩
    · obtain ⟨found, segment, hwithin, hlast, hfound⟩ := ihc hbelow hchild
      refine ⟨found, segment, .under (.head _) (TreeItem.within_append.mpr (.inl hwithin)), ?_, hfound⟩
      simp [List.getLast?_cons, hlast]
    · obtain ⟨found, segment, hwithin, hfound⟩ := ihr hothers hrest
      exact ⟨found, segment, TreeItem.within_cons.mpr (.inr (.inr hwithin)), hfound⟩

lemma group_ne_topic (a b : String) : "group\x01" ++ a ≠ "topic\x01" ++ b := by
  intro h
  have hlist := congrArg String.toList h
  rw [String.toList_append, String.toList_append] at hlist
  exact absurd (List.cons.inj hlist).1 (by decide)

lemma text_ne_topicLine (h : item ∈ leavesForTopic name topic state) (segment : String) (topic' : Topic) :
    item.text ≠ topicLine segment topic' := by
  rcases List.mem_append.mp h with h | h <;> obtain ⟨_, -, rfl⟩ := List.mem_map.mp h <;>
    simp [TreeItem.newLeaf, TreeItem.text, publisherLine, consumerLine, topicLine]

lemma mem_entries_of_topicItem (h : itemsFor state forest = some items) (hw : TreeItem.Within item items)
    (hid : item.identifier = "topic\x01" ++ name) (hline : item.text = topicLine segment topic) :
    ∃ path topic', (path, name, topic') ∈ forest.entries := by
  induction forest generalizing items with
  | nil =>
    cases h
    exact absurd hw TreeItem.not_within_nil
  | cons head value children rest ihc ihr =>
    obtain ⟨below, item', others, hbelow, hitem, hothers, rfl⟩ := itemsFor_cons_eq_some_iff.mp h
    obtain ⟨-, rfl⟩ := itemOver_eq_some_iff.mp hitem
    rcases TreeItem.within_cons.mp hw with rfl | hw | hw
    · cases value with
      | none => exact absurd hid (group_ne_topic _ _)
      | some value =>
        obtain rfl : value.1 = name := (String.append_right_inj _).mp hid
        exact ⟨[head], value.2, Forest.mem_entries_cons.mpr (.inl ⟨rfl, rfl⟩)⟩
    · rcases TreeItem.within_append.mp hw with hw | hw
      · obtain ⟨path, topic', hmem⟩ := ihc hbelow hw
        exact ⟨head :: path, topic', Forest.mem_entries_cons.mpr (.inr (.inl ⟨path, rfl, hmem⟩))⟩
      · obtain ⟨_, _, -, hleaf⟩ := within_nodeLeaves hw
        exact absurd hline (text_ne_topicLine hleaf _ _)
    · obtain ⟨path, topic', hmem⟩ := ihr hothers hw
      exact ⟨path, topic', Forest.mem_entries_cons.mpr (.inr (.inr hmem))⟩

structure TopicNode (state : AppState) (items : List TreeItem) (name : String) (item : TreeItem) : Prop where
  shown : TreeItem.Within item items
  identifier : item.identifier = "topic\x01" ++ name
  line : ∃ segment topic, (segments name).getLast? = some segment ∧ state.topics[name]? = some topic ∧
    item.text = topicLine segment topic
  publishers : ∀ (topic : Topic) (peer : String) (publisher : Publisher), state.topics[name]? = some topic →
    topic.publishers[peer]? = some publisher → publisher.published ≠ 0 →
      ∃ leaf ∈ item.children, leaf.text = publisherLine peer publisher.published
  consumers : ∀ subName sub, (subName, sub) ∈ state.activeConsumersOf name →
    ∃ leaf ∈ item.children, leaf.text = consumerLine subName sub

structure LosesNoTopic (state : AppState) (items : List TreeItem) : Prop where
  kept : ∀ name, Listed state name → ∃ item, TopicNode state items name item
  unshared : ∀ name name' item, TopicNode state items name item → TopicNode state items name' item → name = name'

lemma topicNode_unshared {name' : String} (h : TopicNode state items name item)
    (h' : TopicNode state items name' item) : name = name' :=
  (String.append_right_inj _).mp (h.identifier.symm.trans h'.identifier)

lemma exists_topicNode (hbuild : build state = some items) (htopic : state.topics[name]? = some topic)
    (hcount : topic.publishCount ≠ 0)
    (hgreatest : ∀ other, Listed state other → segments other = segments name → other ≤ name) :
    ∃ item, TopicNode state items name item := by
  have hmem : (segments name, name, topic) ∈ (trie state).root.children.entries := by
    rcases List.mem_append.mp (mem_entries_trie.mpr ⟨⟨htopic, hcount⟩, rfl, hgreatest⟩) with hroot | hmem
    · cases hv : (trie state).root.value <;> simp [hv, segments_ne_nil] at hroot
    · exact hmem
  obtain ⟨item, segment, hwithin, hlast, hid, htext, hleaves⟩ := exists_topicItem hbuild hmem
  refine ⟨item, hwithin, hid, ⟨segment, topic, hlast, htopic, htext⟩, ?_, ?_⟩
  · intro topic' peer publisher htopic' hpublisher hpublished
    obtain rfl : topic = topic' := Option.some.inj (htopic.symm.trans htopic')
    refine ⟨_, hleaves (List.mem_append_left _ (List.mem_map.mpr ⟨(peer, publisher), ?_, rfl⟩)), rfl⟩
    exact List.mem_filter.mpr ⟨Std.ExtTreeMap.mem_toList_iff_getElem?_eq_some.mpr hpublisher, by simpa using hpublished⟩
  · intro subName sub hsub
    exact ⟨_, hleaves (List.mem_append_right _ (List.mem_map.mpr ⟨(subName, sub), hsub, rfl⟩)), rfl⟩

lemma greatest_of_topicNode (hbuild : build state = some items) (h : TopicNode state items name item) :
    ∀ other, Listed state other → segments other = segments name → other ≤ name := by
  obtain ⟨_, _, -, -, htext⟩ := h.line
  obtain ⟨path, topic, hmem⟩ := mem_entries_of_topicItem hbuild h.shown h.identifier htext
  obtain ⟨-, rfl, hgreatest⟩ := mem_entries_trie.mp (List.mem_append_right _ hmem)
  exact hgreatest

lemma losesNoTopic_iff (hbuild : build state = some items) : LosesNoTopic state items ↔
    ∀ name name', Listed state name → Listed state name' → short name = short name' → name = name' := by
  constructor
  · rintro ⟨hkept, -⟩ name name' hname hname' hshort
    obtain ⟨item, hitem⟩ := hkept name hname
    obtain ⟨item', hitem'⟩ := hkept name' hname'
    have hpath := segments_eq_iff.mpr hshort
    exact (greatest_of_topicNode hbuild hitem' name hname hpath).antisymm
      (greatest_of_topicNode hbuild hitem name' hname' hpath.symm)
  · intro hdistinct
    refine ⟨fun name hname => ?_, fun _ _ _ => topicNode_unshared⟩
    obtain ⟨topic, htopic, hcount⟩ := hname
    apply exists_topicNode hbuild htopic hcount
    intro other hother hpath
    exact (hdistinct other name hother ⟨topic, htopic, hcount⟩ (segments_eq_iff.mp hpath)).le

theorem topics_kept_iff (state : AppState) :
    ((∀ name ∈ state.topics, '\x01' ∉ name.toList) → ∃ items, build state = some items) ∧
      ∀ items, build state = some items → (LosesNoTopic state items ↔
        ∀ name name', Listed state name → Listed state name' → short name = short name' → name = name') :=
  ⟨exists_build, fun _ => losesNoTopic_iff⟩

lemma listed_iff : Listed state name ↔ (state.topicAt name).publishCount ≠ 0 := by
  cases h : state.topics[name]? <;> simp [Listed, AppState.topicAt, h]

lemma listed_published {names : List String} : Listed (published names) name ↔ name ∈ names := by
  rw [listed_iff, published, AppState.publishCount_applyAll]
  simp [tally, AppState.topicAt, Function.comp_def, Observation.publishedTo, List.sum_eq_zero_iff]

def twoProjects : List String := ["projects/a/topics/x", "projects/b/topics/x"]

theorem topic_lost_of_twoProjects : ∃ items, build (published twoProjects) = some items ∧
    ¬ LosesNoTopic (published twoProjects) items := by
  have hclean : ∀ name ∈ twoProjects, '\x01' ∉ name.toList := by decide
  obtain ⟨items, hbuild⟩ := exists_build fun name hname => hclean name (mem_of_mem_published hname)
  refine ⟨items, hbuild, fun hkept => ?_⟩
  have heq := (losesNoTopic_iff hbuild).mp hkept "projects/a/topics/x" "projects/b/topics/x"
    (listed_published.mpr (by decide)) (listed_published.mpr (by decide)) (by decide)
  exact absurd heq (by decide)

end PubSubTui.Ui
