import PubSubTui.Ui.TopicNodes

/-! When the identifier of a group survives a rebuild: it is named after the first topic below the group, and a
new topic may take that place. -/

namespace PubSubTui.Ui

open Observe Library.Tries

variable {state : AppState} {name u w id : String} {node : Node} {path : List String} {items : List TreeItem}

/-- The order in which topics are met in the tree; of those with one path the greatest name is there. -/
def Precedes (u w : String) : Prop := segments u < segments w ∨ segments u = segments w ∧ w < u

lemma Precedes.asymm (h : Precedes u w) : ¬ Precedes w u := by
  rintro (h' | ⟨heq', h'⟩) <;> rcases h with h | ⟨heq, h⟩
  · exact lt_asymm h h'
  · exact h'.ne heq.symm
  · exact h.ne heq'.symm
  · exact lt_asymm h h'

lemma precedes_or_precedes (h : u ≠ w) : Precedes u w ∨ Precedes w u := by
  rcases lt_trichotomy (segments u) (segments w) with hlt | heq | hgt
  · exact .inl (.inl hlt)
  · rcases lt_or_gt_of_ne h with hlt | hgt
    · exact .inr (.inr ⟨heq.symm, hlt⟩)
    · exact .inl (.inr ⟨heq, hgt⟩)
  · exact .inr (.inl hgt)

structure IsFirst (state : AppState) (path : List String) (u : String) : Prop where
  listed : Listed state u
  below : path <+: segments u
  first : ∀ w, Listed state w → path <+: segments w → w = u ∨ Precedes u w

lemma IsFirst.unique (h : IsFirst state path u) (h' : IsFirst state path w) : u = w := by
  by_contra hne
  exact ((h'.first u h.listed h.below).resolve_left hne).asymm
    ((h.first w h'.listed h'.below).resolve_left (Ne.symm hne))

def groupIdAt (state : AppState) (path : List String) : Option String :=
  ((trie state).root.find path).bind fun node =>
    if node.value.isNone then some (itemId (path.getLastD "") node) else none

lemma listed_of_mem_entries {topic : Topic} (h : (path, name, topic) ∈ (trie state).root.entries) :
    Listed state name ∧ segments name = path := by
  obtain ⟨htopic, hpath, -⟩ := mem_entries_trie.mp h
  exact ⟨⟨topic, htopic⟩, hpath⟩

lemma firstTopic_eq_some_iff (hfind : (trie state).root.find path = some node) :
    firstTopic node = some u ↔ IsFirst state path u := by
  have hnode (rest : List String) (e : String × Topic) :
      (rest, e) ∈ node.entries ↔ (path ++ rest, e) ∈ (trie state).root.entries :=
    Node.mem_entries_of_find (trie state).wellFormed hfind
  have hwf := (Node.wellFormed_of_find (trie state).wellFormed hfind).1
  rw [firstTopic, Option.map_eq_some_iff]
  constructor
  · rintro ⟨⟨u, topic⟩, hfirst, rfl⟩
    obtain ⟨rest, hmem, hleast⟩ := (Node.first_eq_some_iff hwf).mp hfirst
    obtain ⟨⟨htopic, hcount⟩, hu, hgreatest⟩ := mem_entries_trie.mp ((hnode _ _).mp hmem)
    refine ⟨⟨topic, htopic, hcount⟩, ⟨rest, hu.symm⟩, fun w hw hbelow => ?_⟩
    obtain ⟨rest', hrest'⟩ := hbelow
    obtain ⟨w', topic', hmem'⟩ := exists_mem_entries_trie hw
    rw [← hrest', ← hnode] at hmem'
    rcases (hleast _ hmem').eq_or_lt with heq | hlt
    · have hsame : segments w = segments u := by rw [hu, ← hrest', heq]
      exact (hgreatest w hw (hsame.trans hu)).eq_or_lt.imp_right fun hlt => .inr ⟨hsame.symm, hlt⟩
    · exact .inr (.inl (by rw [hu, ← hrest']; exact List.append_left_lt hlt))
  · rintro ⟨⟨topic, htopic, hcount⟩, ⟨rest, hrest⟩, hfirst⟩
    have hmem : (rest, u, topic) ∈ node.entries := by
      rw [hnode, mem_entries_trie]
      refine ⟨⟨htopic, hcount⟩, hrest.symm, fun other hother hpath => ?_⟩
      rcases hfirst other hother ⟨rest, hpath.symm⟩ with rfl | hlt | ⟨-, hlt⟩
      · exact le_rfl
      · exact absurd (hrest.symm.trans hpath.symm) hlt.ne
      · exact hlt.le
    refine ⟨(u, topic), (Node.first_eq_some_iff hwf).mpr ⟨rest, hmem, fun e he => ?_⟩, rfl⟩
    obtain ⟨hw, hpath⟩ := listed_of_mem_entries ((hnode _ _).mp he)
    by_contra hlt
    have happend : segments e.2.1 < segments u := by
      rw [hpath, ← hrest]
      exact List.append_left_lt (not_le.mp hlt)
    rcases hfirst _ hw ⟨e.1, hpath.symm⟩ with heq | hgt | ⟨heq, -⟩
    · exact happend.ne (congrArg segments heq)
    · exact lt_asymm happend hgt
    · exact happend.ne heq.symm

structure IsGroup (state : AppState) (path : List String) : Prop where
  nonempty : path ≠ []
  pure : ∀ u, Listed state u → segments u ≠ path
  below : ∃ u, Listed state u ∧ path <+: segments u

def groupIdOf (u : String) (path : List String) : String := "group\x01" ++ (u ++ "\x01" ++ path.getLastD "")

lemma find_eq_none_iff (hp : path ≠ []) :
    (trie state).root.find path = none ↔ ∀ u, Listed state u → ¬ path <+: segments u := by
  have hwf := (trie state).wellFormed
  cases hfind : (trie state).root.find path with
  | none =>
    refine iff_of_true rfl fun u hu ⟨rest, hrest⟩ => ?_
    obtain ⟨w, topic, hmem⟩ := exists_mem_entries_trie hu
    rw [← hrest, Node.append_mem_entries hwf, hfind] at hmem
    obtain ⟨_, hnone, -⟩ := hmem
    cases hnone
  | some node =>
    obtain ⟨e, he⟩ := List.exists_mem_of_ne_nil _ (Node.entries_ne_nil_of_find hwf hp hfind)
    obtain ⟨hu, hpath⟩ := listed_of_mem_entries ((Node.mem_entries_of_find hwf hfind).mp he)
    exact iff_of_false (by simp) fun hnone => hnone _ hu ⟨_, hpath.symm⟩

lemma value_eq_none_iff (hfind : (trie state).root.find path = some node) :
    node.value = none ↔ ∀ u, Listed state u → segments u ≠ path := by
  have hvalue (e : String × Topic) : node.value = some e ↔ (path, e) ∈ (trie state).root.entries := by
    rw [← Node.nil_mem_entries, Node.mem_entries_of_find (trie state).wellFormed hfind, List.append_nil]
  constructor
  · rintro hnone u hu rfl
    obtain ⟨w, topic, hmem⟩ := exists_mem_entries_trie hu
    rw [← hvalue, hnone] at hmem
    cases hmem
  · intro hpure
    rw [Option.eq_none_iff_forall_ne_some]
    intro e he
    obtain ⟨hu, hpath⟩ := listed_of_mem_entries ((hvalue e).mp he)
    exact hpure _ hu hpath

lemma exists_isFirst (hp : path ≠ []) (h : ∃ u, Listed state u ∧ path <+: segments u) :
    ∃ u, IsFirst state path u := by
  cases hfind : (trie state).root.find path with
  | none =>
    obtain ⟨u, hu, hbelow⟩ := h
    exact absurd hbelow ((find_eq_none_iff hp).mp hfind u hu)
  | some node =>
    obtain ⟨e, entries, hcons⟩ :=
      List.exists_cons_of_ne_nil (Node.entries_ne_nil_of_find (trie state).wellFormed hp hfind)
    exact ⟨e.2.1, (firstTopic_eq_some_iff hfind).mp (by simp [firstTopic, Node.first_eq_head?, hcons])⟩

lemma groupIdAt_eq_some_iff (hp : path ≠ []) :
    groupIdAt state path = some id ↔ IsGroup state path ∧ ∃ u, IsFirst state path u ∧ groupIdOf u path = id := by
  cases hfind : (trie state).root.find path with
  | none =>
    have hempty := (find_eq_none_iff hp).mp hfind
    simp only [groupIdAt, hfind, Option.bind_none, reduceCtorEq, false_iff]
    rintro ⟨⟨-, -, u, hu, hbelow⟩, -⟩
    exact hempty u hu hbelow
  | some node =>
    cases hv : node.value with
    | some e =>
      simp only [groupIdAt, hfind, Option.bind_some, hv, Option.isNone_some, reduceCtorEq, false_iff,
        Bool.false_eq_true, if_false]
      rintro ⟨⟨-, hpure, -⟩, -⟩
      rw [(value_eq_none_iff hfind).mpr hpure] at hv
      cases hv
    | none =>
      have hbelow : ∃ u, Listed state u ∧ path <+: segments u := by
        by_contra hnone
        push Not at hnone
        rw [(find_eq_none_iff hp).mpr hnone] at hfind
        cases hfind
      obtain ⟨u, hu⟩ := exists_isFirst hp hbelow
      have hgroup : IsGroup state path := ⟨hp, (value_eq_none_iff hfind).mp hv, hbelow⟩
      have hid : itemId (path.getLastD "") node = groupIdOf u path := by
        simp only [itemId, hv, groupId, (firstTopic_eq_some_iff hfind).mpr hu, groupIdOf]
      simp only [groupIdAt, hfind, Option.bind_some, hv, Option.isNone_none, if_true, hid, Option.some.injEq]
      constructor
      · exact fun heq => ⟨hgroup, u, hu, heq⟩
      · rintro ⟨-, w, hw, heq⟩
        rw [hu.unique hw, heq]

lemma itemFor_of_get? {forest : Forest String (String × Topic)} {segment : String}
    (h : itemsFor state forest = some items) (hget : forest.get? segment = some node) :
    ∃ item ∈ items, itemFor state segment node = some item := by
  induction forest generalizing items with
  | nil => cases hget
  | cons head value children rest ihc ihr =>
    obtain ⟨below, item, others, hbelow, hitem, hothers, rfl⟩ := itemsFor_cons_eq_some_iff.mp h
    rw [Forest.get?] at hget
    split_ifs at hget with heq
    · obtain rfl := heq
      cases hget
      exact ⟨item, .head _, by rw [itemFor, hbelow, Option.bind_some, hitem]⟩
    · obtain ⟨found, hmem, hfound⟩ := ihr hothers hget
      exact ⟨found, .tail _ hmem, hfound⟩

lemma exists_item_of_find {node' : Node} (h : itemsFor state node.children = some items) (hp : path ≠ [])
    (hfind : node.find path = some node') :
    ∃ item, TreeItem.Within item items ∧ itemFor state (path.getLastD "") node' = some item := by
  induction path generalizing node items with
  | nil => exact absurd rfl hp
  | cons segment path ih =>
    obtain ⟨child, hget, hfind⟩ := Option.bind_eq_some_iff.mp hfind
    obtain ⟨item, hmem, hitem⟩ := itemFor_of_get? h hget
    cases path with
    | nil =>
      cases hfind
      exact ⟨item, .listed hmem, hitem⟩
    | cons segment' path =>
      obtain ⟨below, hbelow, hover⟩ := Option.bind_eq_some_iff.mp hitem
      obtain ⟨-, rfl⟩ := itemOver_eq_some_iff.mp hover
      obtain ⟨found, hwithin, hfound⟩ := ih hbelow (by simp) hfind
      exact ⟨found, .under hmem (TreeItem.within_append.mpr (.inl hwithin)), hfound⟩

lemma exists_groupItem (hbuild : build state = some items) (hp : path ≠ []) (h : groupIdAt state path = some id) :
    ∃ item, TreeItem.Within item items ∧ item.identifier = id := by
  obtain ⟨node, hfind, hid⟩ := Option.bind_eq_some_iff.mp h
  obtain ⟨item, hwithin, hitem⟩ := exists_item_of_find hbuild hp hfind
  obtain ⟨below, -, hover⟩ := Option.bind_eq_some_iff.mp hitem
  obtain ⟨-, rfl⟩ := itemOver_eq_some_iff.mp hover
  refine ⟨_, hwithin, ?_⟩
  split_ifs at hid
  exact Option.some.inj hid

def Stable (s s' : AppState) : Prop :=
  ∀ path id id', path ≠ [] → groupIdAt s path = some id → groupIdAt s' path = some id' → id = id'

/-- No topic listed only now comes before all the topics of a group that it joins. -/
def Undisturbed (s : AppState) (o : Observation) : Prop :=
  ∀ t path, o.publishedTo t ≠ 0 → ¬ Listed s t → IsGroup s path → path <+: segments t → path ≠ segments t →
    ∃ u, Listed s u ∧ path <+: segments u ∧ Precedes u t

variable {s s' s'' : AppState} {o : Observation} {now : Instant}

lemma stable_iff : Stable s s' ↔ ∀ path u w, IsGroup s path → IsGroup s' path → IsFirst s path u →
    IsFirst s' path w → u = w := by
  constructor
  · intro h path u w hg hg' hu hw
    have heq := h path _ _ hg.nonempty ((groupIdAt_eq_some_iff hg.nonempty).mpr ⟨hg, u, hu, rfl⟩)
      ((groupIdAt_eq_some_iff hg.nonempty).mpr ⟨hg', w, hw, rfl⟩)
    exact (String.append_left_inj _).mp ((String.append_left_inj _).mp ((String.append_right_inj _).mp heq))
  · intro h path id id' hp hid hid'
    obtain ⟨hg, u, hu, rfl⟩ := (groupIdAt_eq_some_iff hp).mp hid
    obtain ⟨hg', w, hw, rfl⟩ := (groupIdAt_eq_some_iff hp).mp hid'
    rw [h path u w hg hg' hu hw]

lemma listed_apply : Listed (s.apply o now) u ↔ Listed s u ∨ o.publishedTo u ≠ 0 := by
  rw [listed_iff, listed_iff, AppState.topicAt_apply, Topic.publishCount_after]
  omega

lemma publishedTo_unique {t : String} (h : o.publishedTo t ≠ 0) (h' : o.publishedTo u ≠ 0) : t = u := by
  cases o with
  | publish topic peer messages =>
    simp only [Observation.publishedTo, ne_eq, ite_eq_right_iff, not_forall] at h h'
    exact h.1.symm.trans h'.1
  | deliver | ack | consumerOpen | consumerClose | adminSnapshot => exact absurd rfl h

lemma stable_apply_iff : Stable s (s.apply o now) ↔ Undisturbed s o := by
  rw [stable_iff]
  constructor
  · -- A new topic that comes before all those of the group takes the place of the first.
    intro h t path hpub hnew hg hbelow hne
    by_contra hnone
    push Not at hnone
    have hpure : ∀ u, Listed (s.apply o now) u → segments u ≠ path := by
      intro u hu heq
      rcases listed_apply.mp hu with hu | hu
      · exact hg.pure u hu heq
      · exact hne (publishedTo_unique hpub hu ▸ heq.symm)
    have hlisted : Listed (s.apply o now) t := listed_apply.mpr (.inr hpub)
    have hfirst : IsFirst (s.apply o now) path t := by
      refine ⟨hlisted, hbelow, fun w hw hwbelow => ?_⟩
      rcases listed_apply.mp hw with hw | hw
      · have hwt : w ≠ t := fun heq => hnew (heq ▸ hw)
        exact .inr ((precedes_or_precedes hwt).resolve_left (hnone w hw hwbelow))
      · exact .inl (publishedTo_unique hw hpub)
    obtain ⟨u, hu⟩ := exists_isFirst hg.nonempty hg.below
    obtain rfl := h path u t hg ⟨hg.nonempty, hpure, t, hlisted, hbelow⟩ hu hfirst
    exact hnew hu.listed
  · intro h path u w hg hg' hu hw
    by_cases hold : Listed s w
    · by_contra hne
      have hwu := (hw.first u (listed_apply.mpr (.inl hu.listed)) hu.below).resolve_left hne
      exact hwu.asymm ((hu.first w hold hw.below).resolve_left (Ne.symm hne))
    · have hpub := (listed_apply.mp hw.listed).resolve_left hold
      obtain ⟨v, hv, hvbelow, hprecedes⟩ :=
        h w path hpub hold hg hw.below (Ne.symm (hg'.pure w hw.listed))
      rcases hw.first v (listed_apply.mpr (.inl hv)) hvbelow with rfl | hwv
      · exact absurd hv hold
      · exact absurd hwv hprecedes.asymm

lemma Stable.refl (s : AppState) : Stable s s :=
  stable_iff.mpr fun _ _ _ _ _ hu hw => hu.unique hw

lemma Stable.trans (h : Stable s s') (h' : Stable s' s'') (hkeep : ∀ u, Listed s u → Listed s' u)
    (hkeep' : ∀ u, Listed s' u → Listed s'' u) : Stable s s'' := by
  rw [stable_iff] at h h' ⊢
  intro path u w hg hg'' hu hw
  obtain ⟨v, hv, hvbelow⟩ := hg.below
  -- A group on both sides is one in between, as no topic is ever unlisted.
  have hg' : IsGroup s' path :=
    ⟨hg.nonempty, fun x hx => hg''.pure x (hkeep' x hx), v, hkeep v hv, hvbelow⟩
  obtain ⟨x, hx⟩ := exists_isFirst hg'.nonempty hg'.below
  exact (h path u x hg hg' hu hx).trans (h' path x w hg' hg'' hx hw)

lemma listed_applyAll (history : List (Observation × Instant)) (h : Listed s u) : Listed (s.applyAll history) u := by
  induction history generalizing s with
  | nil => exact h
  | cons e history ih => exact ih (listed_apply.mpr (.inl h))

lemma stable_applyAll {history : List (Observation × Instant)}
    (h : ∀ before e after, history = before ++ e :: after → Undisturbed (s.applyAll before) e.1) :
    Stable s (s.applyAll history) := by
  induction history generalizing s with
  | nil => exact Stable.refl s
  | cons e history ih =>
    have hstep : Stable s (s.apply e.1 e.2) := stable_apply_iff.mpr (h [] e history rfl)
    refine hstep.trans (ih fun before e' after hsplit => ?_) (fun u hu => listed_apply.mpr (.inl hu))
      fun u => listed_applyAll history
    exact h (e :: before) e' after (congrArg (e :: ·) hsplit)

theorem identifiers_stable_iff (s : AppState) (history : List (Observation × Instant)) :
    (∀ before during after, history = before ++ during ++ after →
      Stable (s.applyAll before) (s.applyAll (before ++ during))) ↔
    ∀ before e after, history = before ++ e :: after → Undisturbed (s.applyAll before) e.1 := by
  constructor
  · rintro h before e after rfl
    have hstep := h before [e] after (by simp)
    rw [AppState.applyAll_append] at hstep
    exact stable_apply_iff.mp hstep
  · rintro h before during after rfl
    rw [AppState.applyAll_append]
    apply stable_applyAll
    intro before' e after' hsplit
    rw [← AppState.applyAll_append]
    exact h (before ++ before') e (after' ++ after) (by simp [hsplit])

lemma groupIdAt_published {names : List String} (hp : path ≠ []) (hpure : ∀ w ∈ names, segments w ≠ path)
    (hu : u ∈ names) (hbelow : path <+: segments u)
    (hfirst : ∀ w ∈ names, path <+: segments w → w = u ∨ Precedes u w) :
    groupIdAt (published names) path = some (groupIdOf u path) := by
  refine (groupIdAt_eq_some_iff hp).mpr ⟨⟨hp, fun w hw => hpure w (listed_published.mp hw), u, ?_, hbelow⟩, u,
    ⟨listed_published.mpr hu, hbelow, fun w hw => hfirst w (listed_published.mp hw)⟩, rfl⟩
  exact listed_published.mpr hu

def created : String := "projects/p/topics/acme.orders.created"

def invoiced : String := "projects/p/topics/acme.billing.invoiced"

lemma invoiced_precedes_created : Precedes invoiced created := by
  have hcreated : segments created = ["acme", "orders", "created"] := by decide
  have hinvoiced : segments invoiced = ["acme", "billing", "invoiced"] := by decide
  rw [Precedes, hcreated, hinvoiced]
  decide

theorem group_renamed_of_invoiced :
    ∃ items items' item item', build (published [created]) = some items ∧
      build ((published [created]).apply (.publish invoiced none [⟨[104], [], 1, false⟩]) 0) = some items' ∧
      groupIdAt (published [created]) ["acme"] = some item.identifier ∧ TreeItem.Within item items ∧
      groupIdAt ((published [created]).apply (.publish invoiced none [⟨[104], [], 1, false⟩]) 0) ["acme"] =
        some item'.identifier ∧ TreeItem.Within item' items' ∧ item.identifier ≠ item'.identifier := by
  have happly : (published [created]).apply (.publish invoiced none [⟨[104], [], 1, false⟩]) 0 =
      published [created, invoiced] := rfl
  rw [happly]
  have hclean : ∀ name ∈ [created, invoiced], '\x01' ∉ name.toList := by decide
  have hid : groupIdAt (published [created]) ["acme"] = some (groupIdOf created ["acme"]) :=
    groupIdAt_published (by simp) (by decide) (.head _) (by decide) (by simp)
  have hid' : groupIdAt (published [created, invoiced]) ["acme"] = some (groupIdOf invoiced ["acme"]) := by
    apply groupIdAt_published (by simp) (by decide) (.tail _ (.head _)) (by decide)
    intro w hw _
    rcases List.mem_pair.mp hw with rfl | rfl
    · exact .inr invoiced_precedes_created
    · exact .inl rfl
  have hclean₁ : ∀ name ∈ (published [created]).topics, '\x01' ∉ name.toList := fun name hname =>
    hclean name (List.mem_of_mem_take (i := 1) (mem_of_mem_published hname))
  obtain ⟨items, hbuild⟩ := exists_build hclean₁
  obtain ⟨items', hbuild'⟩ := exists_build fun name hname => hclean name (mem_of_mem_published hname)
  obtain ⟨item, hwithin, hitem⟩ := exists_groupItem hbuild (by simp) hid
  obtain ⟨item', hwithin', hitem'⟩ := exists_groupItem hbuild' (by simp) hid'
  refine ⟨items, items', item, item', hbuild, hbuild', hitem ▸ hid, hwithin, hitem' ▸ hid', hwithin', ?_⟩
  rw [hitem, hitem']
  decide

end PubSubTui.Ui
