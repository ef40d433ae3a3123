import Mathlib.Tactic

/-! Tries: trees of nodes keyed by the segments of a path, some of which hold a value. -/

namespace PubSubTui.Library.Tries

inductive Forest (κ α : Type*)
  | nil
  | cons (segment : κ) (value : Option α) (children rest : Forest κ α)

structure Node (κ α : Type*) where
  children : Forest κ α := .nil
  value : Option α := none

variable {κ α : Type*}

def Forest.entries : Forest κ α → List (List κ × α)
  | .nil => []
  | .cons segment value children rest =>
    ((value.map ([], ·)).toList ++ children.entries).map (fun (path, a) => (segment :: path, a)) ++ rest.entries

def Node.entries (node : Node κ α) : List (List κ × α) :=
  (node.value.map ([], ·)).toList ++ node.children.entries

def Forest.first : Forest κ α → Option α
  | .nil => none
  | .cons _ value children rest => (value.or children.first).or rest.first

def Node.first (node : Node κ α) : Option α := node.value.or node.children.first

def Forest.sum (f : α → ℕ) : Forest κ α → ℕ
  | .nil => 0
  | .cons _ value children rest => value.elim 0 f + children.sum f + rest.sum f

def Node.sum (f : α → ℕ) (node : Node κ α) : ℕ := node.value.elim 0 f + node.children.sum f

def Forest.segments : Forest κ α → List κ
  | .nil => []
  | .cons segment _ _ rest => segment :: rest.segments

section Order

variable [LinearOrder κ]

def Forest.alter (segment : κ) (f : Node κ α → Node κ α) : Forest κ α → Forest κ α
  | .nil => .cons segment (f {}).value (f {}).children .nil
  | .cons segment' value children rest =>
    if segment < segment' then .cons segment (f {}).value (f {}).children (.cons segment' value children rest)
    else if segment = segment' then
      .cons segment (f ⟨children, value⟩).value (f ⟨children, value⟩).children rest
    else .cons segment' value children (rest.alter segment f)

def Forest.get? (segment : κ) : Forest κ α → Option (Node κ α)
  | .nil => none
  | .cons segment' value children rest =>
    if segment = segment' then some ⟨children, value⟩ else rest.get? segment

def Node.insert : List κ → α → Node κ α → Node κ α
  | [], value, node => { node with value := some value }
  | segment :: path, value, node =>
    { node with children := node.children.alter segment (Node.insert path value) }

def Node.find : List κ → Node κ α → Option (Node κ α)
  | [], node => some node
  | segment :: path, node => (node.children.get? segment).bind (Node.find path)

def Forest.WellFormed : Forest κ α → Prop
  | .nil => True
  | .cons segment value children rest => (∀ segment' ∈ rest.segments, segment < segment') ∧
      (value = none → children ≠ .nil) ∧ children.WellFormed ∧ rest.WellFormed

end Order

lemma Forest.first_eq_head? (forest : Forest κ α) : forest.first = (forest.entries.map Prod.snd).head? := by
  induction forest with
  | nil => rfl
  | cons segment value children rest ihc ihr =>
    cases value <;> simp [first, entries, ihc, ihr, Function.comp_def]

lemma Node.first_eq_head? (node : Node κ α) : node.first = (node.entries.map Prod.snd).head? := by
  cases hv : node.value <;> simp [first, entries, hv, Forest.first_eq_head?]

lemma Forest.mem_entries_cons {segment : κ} {value : Option α} {children rest : Forest κ α} {path : List κ} {a : α} :
    (path, a) ∈ (cons segment value children rest).entries ↔ path = [segment] ∧ value = some a ∨
      (∃ path', path = segment :: path' ∧ (path', a) ∈ children.entries) ∨ (path, a) ∈ rest.entries := by
  cases value <;> simp [entries, eq_comm, and_comm]

lemma Forest.exists_cons_of_mem {forest : Forest κ α} {path : List κ} {a : α} (h : (path, a) ∈ forest.entries) :
    ∃ segment ∈ forest.segments, ∃ rest, path = segment :: rest := by
  induction forest with
  | nil => cases h
  | cons segment value children rest ihc ihr =>
    rcases List.mem_append.mp h with h | h
    · obtain ⟨e, -, he⟩ := List.mem_map.mp h
      cases he
      exact ⟨segment, List.mem_cons_self, e.1, rfl⟩
    · obtain ⟨segment', hmem, hpath⟩ := ihr h
      exact ⟨segment', List.mem_cons_of_mem _ hmem, hpath⟩

lemma Node.nil_mem_entries {node : Node κ α} {a : α} : ([], a) ∈ node.entries ↔ node.value = some a := by
  have hchildren : ([], a) ∉ node.children.entries := by
    intro h
    obtain ⟨_, -, _, hpath⟩ := Forest.exists_cons_of_mem h
    cases hpath
  simp [entries, hchildren]

section Lookup

variable [LinearOrder κ] {forest : Forest κ α} {node n : Node κ α} {segment : κ} {path : List κ} {a : α}

lemma Forest.get?_eq_none (h : segment ∉ forest.segments) : forest.get? segment = none := by
  induction forest with
  | nil => rfl
  | cons segment' value children rest ihc ihr =>
    simp only [segments, List.mem_cons, not_or] at h
    rw [get?, if_neg h.1, ihr h.2]

lemma Forest.cons_mem_entries (hw : forest.WellFormed) :
    (segment :: path, a) ∈ forest.entries ↔ ∃ n, forest.get? segment = some n ∧ (path, a) ∈ n.entries := by
  induction forest with
  | nil => simp [entries, get?]
  | cons segment' value children rest ihc ihr =>
    obtain ⟨hlt, -, -, hrest⟩ := hw
    rw [entries, List.mem_append, ihr hrest, get?]
    by_cases h : segment = segment'
    · obtain rfl := h
      have hnone : rest.get? segment = none := get?_eq_none fun hmem => lt_irrefl _ (hlt segment hmem)
      simp [hnone, Node.entries]
    · simp [h, Ne.symm h]

lemma Node.cons_mem_entries (hw : node.children.WellFormed) :
    (segment :: path, a) ∈ node.entries ↔ ∃ n, node.children.get? segment = some n ∧ (path, a) ∈ n.entries := by
  rw [← Forest.cons_mem_entries hw]
  simp [entries]

section Alter

variable {head : κ} {value : Option α} {children rest : Forest κ α} (f : Node κ α → Node κ α)

lemma Forest.alter_of_lt (h : segment < head) : (Forest.cons head value children rest).alter segment f =
    .cons segment (f {}).value (f {}).children (.cons head value children rest) := by
  rw [alter, if_pos h]

lemma Forest.alter_self : (Forest.cons segment value children rest).alter segment f =
    .cons segment (f ⟨children, value⟩).value (f ⟨children, value⟩).children rest := by
  rw [alter, if_neg (lt_irrefl _), if_pos rfl]

lemma Forest.alter_of_gt (h : head < segment) : (Forest.cons head value children rest).alter segment f =
    .cons head value children (rest.alter segment f) := by
  rw [alter, if_neg h.not_gt, if_neg h.ne']

end Alter

lemma Forest.mem_segments_alter {f : Node κ α → Node κ α} {segment' : κ} :
    segment' ∈ (forest.alter segment f).segments ↔ segment' = segment ∨ segment' ∈ forest.segments := by
  induction forest with
  | nil => simp [alter, segments]
  | cons head value children rest ihc ihr =>
    rcases lt_trichotomy segment head with hlt | rfl | hgt
    · rw [alter_of_lt f hlt, segments, List.mem_cons]
    · rw [alter_self, segments, List.mem_cons, segments, List.mem_cons, or_self_left]
    · rw [alter_of_gt f hgt, segments, List.mem_cons, ihr, segments, List.mem_cons, or_left_comm]

lemma Forest.get?_alter (hw : forest.WellFormed) {f : Node κ α → Node κ α} {segment' : κ} :
    (forest.alter segment f).get? segment' =
      if segment' = segment then some (f ((forest.get? segment).getD {})) else forest.get? segment' := by
  induction forest with
  | nil => simp [alter, get?]
  | cons head value children rest ihc ihr =>
    obtain ⟨habove, -, -, hrest⟩ := hw
    rcases lt_trichotomy segment head with hlt | rfl | hgt
    · have hnone : rest.get? segment = none := get?_eq_none fun hmem => (hlt.trans (habove segment hmem)).false
      rw [alter_of_lt f hlt]
      by_cases h : segment' = segment <;> simp [get?, h, hlt.ne, hnone]
    · rw [alter_self]
      by_cases h : segment' = segment <;> simp [get?, h]
    · rw [alter_of_gt f hgt, get?, ihr hrest]
      by_cases h : segment' = segment <;> simp [get?, h, hgt.ne']

lemma Forest.wellFormed_alter (hw : forest.WellFormed) {f : Node κ α → Node κ α}
    (hf : ∀ node, node.children.WellFormed → (f node).children.WellFormed ∧
      ((f node).value = none → (f node).children ≠ .nil)) : (forest.alter segment f).WellFormed := by
  induction forest with
  | nil =>
    obtain ⟨hchildren, hvalue⟩ := hf {} trivial
    exact ⟨fun _ hmem => (by cases hmem), hvalue, hchildren, trivial⟩
  | cons head value children rest ihc ihr =>
    obtain ⟨habove, hhead, hchildren, hrest⟩ := hw
    rcases lt_trichotomy segment head with hlt | rfl | hgt
    · obtain ⟨hnew, hvalue⟩ := hf {} trivial
      rw [alter_of_lt f hlt]
      refine ⟨fun segment' hmem => ?_, hvalue, hnew, habove, hhead, hchildren, hrest⟩
      rcases List.mem_cons.mp hmem with rfl | hmem
      · exact hlt
      · exact hlt.trans (habove segment' hmem)
    · obtain ⟨hnew, hvalue⟩ := hf ⟨children, value⟩ hchildren
      rw [alter_self]
      exact ⟨habove, hvalue, hnew, hrest⟩
    · rw [alter_of_gt f hgt]
      refine ⟨fun segment' hmem => ?_, hhead, hchildren, ihr hrest⟩
      rcases mem_segments_alter.mp hmem with rfl | hmem
      · exact hgt
      · exact habove segment' hmem

lemma Node.wellFormed_insert (hw : node.children.WellFormed) :
    (node.insert path a).children.WellFormed ∧
      ((node.insert path a).value = none → (node.insert path a).children ≠ .nil) := by
  induction path generalizing node with
  | nil => exact ⟨hw, fun h => (by cases h)⟩
  | cons segment path ih =>
    refine ⟨Forest.wellFormed_alter hw fun _ => ih, fun _ hnil => ?_⟩
    have hmem : segment ∈ (node.children.alter segment (Node.insert path a)).segments :=
      Forest.mem_segments_alter.mpr (.inl rfl)
    change node.children.alter segment (Node.insert path a) = .nil at hnil
    rw [hnil] at hmem
    cases hmem

lemma Forest.wellFormed_of_get? (hw : forest.WellFormed) (h : forest.get? segment = some n) :
    n.children.WellFormed ∧ (n.value = none → n.children ≠ .nil) := by
  induction forest with
  | nil => cases h
  | cons head value children rest ihc ihr =>
    obtain ⟨-, hhead, hchildren, hrest⟩ := hw
    rw [get?] at h
    split_ifs at h with heq
    · cases h
      exact ⟨hchildren, hhead⟩
    · exact ihr hrest h

lemma Node.wellFormed_getD (hw : node.children.WellFormed) :
    ((node.children.get? segment).getD {}).children.WellFormed := by
  cases h : node.children.get? segment with
  | none => trivial
  | some n => exact (Forest.wellFormed_of_get? hw h).1

lemma Node.mem_entries_insert (hw : node.children.WellFormed) {path' : List κ} {a' : α} :
    (path', a') ∈ (node.insert path a).entries ↔
      if path' = path then a' = a else (path', a') ∈ node.entries := by
  induction path generalizing node path' with
  | nil =>
    cases path' with
    | nil => simp [Node.nil_mem_entries, insert, eq_comm]
    | cons segment' path' => simp [Node.cons_mem_entries hw, Node.cons_mem_entries, insert, hw]
  | cons segment path ih =>
    have hchildren : (node.insert (segment :: path) a).children.WellFormed := (wellFormed_insert hw).1
    cases path' with
    | nil => simp [Node.nil_mem_entries, insert]
    | cons segment' path' =>
      rw [Node.cons_mem_entries hchildren, Node.cons_mem_entries hw]
      simp only [insert, Forest.get?_alter hw, List.cons.injEq]
      by_cases h : segment' = segment
      · obtain rfl := h
        simp only [if_true, Option.some.injEq, exists_eq_left', true_and, ih (wellFormed_getD hw)]
        cases hget : node.children.get? segment' <;> simp [entries, Forest.entries]
      · simp [h]

lemma Forest.entries_pairwise (hw : forest.WellFormed) : (forest.entries.map Prod.fst).Pairwise (· < ·) := by
  induction forest with
  | nil => exact List.Pairwise.nil
  | cons head value children rest ihc ihr =>
    obtain ⟨habove, -, hchildren, hrest⟩ := hw
    have hnode : (((value.map ([], ·)).toList ++ children.entries).map Prod.fst).Pairwise (· < ·) := by
      cases value with
      | none => exact ihc hchildren
      | some a =>
        refine List.pairwise_cons.mpr ⟨fun path hpath => ?_, ihc hchildren⟩
        obtain ⟨e, he, rfl⟩ := List.mem_map.mp hpath
        obtain ⟨_, -, _, hcons⟩ := exists_cons_of_mem he
        exact hcons ▸ List.nil_lt_cons _ _
    rw [entries, List.map_append, List.map_map]
    refine List.pairwise_append.mpr ⟨?_, ihr hrest, fun path hpath path' hpath' => ?_⟩
    · refine List.pairwise_map.mpr ((List.pairwise_map.mp hnode).imp fun hlt => ?_)
      exact List.cons_lt_cons_iff.mpr (.inr ⟨rfl, hlt⟩)
    · obtain ⟨e, -, rfl⟩ := List.mem_map.mp hpath
      obtain ⟨e', he', rfl⟩ := List.mem_map.mp hpath'
      obtain ⟨segment', hmem, _, hcons⟩ := exists_cons_of_mem he'
      exact hcons ▸ List.cons_lt_cons_iff.mpr (.inl (habove segment' hmem))

lemma Node.entries_pairwise (hw : node.children.WellFormed) : (node.entries.map Prod.fst).Pairwise (· < ·) := by
  cases hv : node.value with
  | none => simpa [entries, hv] using Forest.entries_pairwise hw
  | some a =>
    rw [entries, hv]
    refine List.pairwise_cons.mpr ⟨fun path hpath => ?_, Forest.entries_pairwise hw⟩
    obtain ⟨e, he, rfl⟩ := List.mem_map.mp hpath
    obtain ⟨_, -, _, hcons⟩ := Forest.exists_cons_of_mem he
    exact hcons ▸ List.nil_lt_cons _ _

lemma Node.append_mem_entries (hw : node.children.WellFormed) {rest : List κ} :
    (path ++ rest, a) ∈ node.entries ↔ ∃ n, node.find path = some n ∧ (rest, a) ∈ n.entries := by
  induction path generalizing node with
  | nil => simp [find]
  | cons segment path ih =>
    rw [List.cons_append, Node.cons_mem_entries hw]
    constructor
    · rintro ⟨n, hget, hmem⟩
      obtain ⟨m, hfind, hrest⟩ := (ih (Forest.wellFormed_of_get? hw hget).1).mp hmem
      exact ⟨m, by rw [find, hget, Option.bind_some, hfind], hrest⟩
    · rintro ⟨m, hfind, hrest⟩
      obtain ⟨n, hget, hfind⟩ := Option.bind_eq_some_iff.mp hfind
      exact ⟨n, hget, (ih (Forest.wellFormed_of_get? hw hget).1).mpr ⟨m, hfind, hrest⟩⟩

lemma Node.mem_entries_of_find (hw : node.children.WellFormed) (h : node.find path = some n) {rest : List κ} :
    (rest, a) ∈ n.entries ↔ (path ++ rest, a) ∈ node.entries := by
  simp [append_mem_entries hw, h]

lemma Node.wellFormed_of_find (hw : node.children.WellFormed) (h : node.find path = some n) :
    n.children.WellFormed ∧ (path ≠ [] → n.value = none → n.children ≠ .nil) := by
  induction path generalizing node with
  | nil =>
    cases h
    exact ⟨hw, fun hnil => absurd rfl hnil⟩
  | cons segment path ih =>
    obtain ⟨m, hget, hfind⟩ := Option.bind_eq_some_iff.mp h
    obtain ⟨hm, hvalue⟩ := Forest.wellFormed_of_get? hw hget
    cases path with
    | nil =>
      cases hfind
      exact ⟨hm, fun _ => hvalue⟩
    | cons segment' path => exact ⟨(ih hm hfind).1, fun _ => (ih hm hfind).2 (by simp)⟩

lemma Forest.entries_ne_nil (hw : forest.WellFormed) (h : forest ≠ .nil) : forest.entries ≠ [] := by
  induction forest with
  | nil => exact absurd rfl h
  | cons head value children rest ihc ihr =>
    obtain ⟨-, hhead, hchildren, -⟩ := hw
    cases value with
    | none => simp [entries, ihc hchildren (hhead rfl)]
    | some a => simp [entries]

lemma Node.entries_ne_nil_of_find (hw : node.children.WellFormed) (hp : path ≠ []) (h : node.find path = some n) :
    n.entries ≠ [] := by
  obtain ⟨hn, hvalue⟩ := wellFormed_of_find hw h
  cases hv : n.value with
  | none => simp [entries, Forest.entries_ne_nil hn (hvalue hp hv)]
  | some a => simp [entries, hv]

lemma Node.first_eq_some_iff (hw : node.children.WellFormed) :
    node.first = some a ↔ ∃ path, (path, a) ∈ node.entries ∧ ∀ e ∈ node.entries, path ≤ e.1 := by
  have hsorted := entries_pairwise hw
  rw [first_eq_head?]
  cases hentries : node.entries with
  | nil => simp
  | cons e entries =>
    rw [hentries] at hsorted
    obtain ⟨hleast, -⟩ := List.pairwise_cons.mp hsorted
    simp only [List.map_cons, List.head?_cons, Option.some.injEq]
    constructor
    · rintro rfl
      refine ⟨e.1, List.mem_cons_self, fun e' he' => ?_⟩
      rcases List.mem_cons.mp he' with rfl | he'
      · exact le_rfl
      · exact (hleast e'.1 (List.mem_map_of_mem he')).le
    · rintro ⟨path, hmem, hle⟩
      rcases List.mem_cons.mp hmem with rfl | hmem
      · rfl
      · exact absurd (hleast path (List.mem_map_of_mem hmem)) (hle e List.mem_cons_self).not_gt

end Lookup

structure Trie (κ α : Type*) [LinearOrder κ] where
  root : Node κ α
  wellFormed : root.children.WellFormed

namespace Trie

variable [LinearOrder κ]

def empty : Trie κ α := ⟨{}, trivial⟩

def insert (trie : Trie κ α) (path : List κ) (value : α) : Trie κ α :=
  ⟨trie.root.insert path value, (Node.wellFormed_insert trie.wellFormed).1⟩

def ofEntries (entries : List (List κ × α)) : Trie κ α :=
  entries.foldl (fun trie e => trie.insert e.1 e.2) empty

lemma find?_reverse_eq_some_iff {β ι : Type*} [LinearOrder ι] {key : β → ι} {l : List β}
    (hl : l.Pairwise (fun e e' => key e < key e')) {p : β → Bool} {e : β} :
    l.reverse.find? p = some e ↔ e ∈ l ∧ p e = true ∧ ∀ e' ∈ l, p e' = true → key e' ≤ key e := by
  have hgreatest {e : β} (h : l.reverse.find? p = some e) (e' : β) (he' : e' ∈ l) (hp' : p e' = true) :
      key e' ≤ key e := by
    obtain ⟨-, after, before, hsplit, hafter⟩ := List.find?_eq_some_iff_append.mp h
    have hbelow := List.pairwise_reverse.mpr hl
    rw [hsplit] at hbelow
    rw [← List.mem_reverse, hsplit, List.mem_append, List.mem_cons] at he'
    rcases he' with he' | rfl | he'
    · simpa [hp'] using hafter e' he'
    · exact le_rfl
    · exact ((List.pairwise_cons.mp (List.pairwise_append.mp hbelow).2.1).1 e' he').le
  constructor
  · intro h
    exact ⟨List.mem_reverse.mp (List.mem_of_find?_eq_some h), List.find?_some h, hgreatest h⟩
  · rintro ⟨he, hp, hle⟩
    cases hfind : l.reverse.find? p with
    | none => exact absurd hp (List.find?_eq_none.mp hfind e (List.mem_reverse.mpr he))
    | some e' =>
      have he' := List.mem_reverse.mp (List.mem_of_find?_eq_some hfind)
      have hkey : key e' = key e := (hle e' he' (List.find?_some hfind)).antisymm (hgreatest hfind e he hp)
      have hnodup : (l.map key).Nodup := List.pairwise_map.mpr (hl.imp fun hlt => hlt.ne)
      rw [List.inj_on_of_nodup_map hnodup he' he hkey]

lemma mem_entries_ofEntries {entries : List (List κ × α)} {path : List κ} {a : α} :
    (path, a) ∈ (ofEntries entries).root.entries ↔ entries.reverse.find? (·.1 = path) = some (path, a) := by
  induction entries using List.reverseRecOn with
  | nil => simp [ofEntries, empty, Node.entries, Forest.entries]
  | append_singleton entries e ih =>
    rw [ofEntries, List.foldl_append, List.foldl_cons, List.foldl_nil, ← ofEntries, insert,
      Node.mem_entries_insert (ofEntries entries).wellFormed, ih, List.reverse_append, List.reverse_singleton,
      List.singleton_append, List.find?_cons]
    by_cases h : path = e.1
    · obtain rfl := h
      simp [Prod.ext_iff, eq_comm]
    · simp [h, Ne.symm h]

lemma exists_mem_entries_ofEntries {entries : List (List κ × α)} {path : List κ} {a : α} (h : (path, a) ∈ entries) :
    ∃ a', (path, a') ∈ (ofEntries entries).root.entries := by
  cases hfind : entries.reverse.find? (·.1 = path) with
  | none => exact absurd (List.find?_eq_none.mp hfind _ (List.mem_reverse.mpr h)) (by simp)
  | some e =>
    obtain rfl : e.1 = path := by simpa using List.find?_some hfind
    exact ⟨e.2, mem_entries_ofEntries.mpr hfind⟩

lemma mem_entries_of_increasing {ι : Type*} [LinearOrder ι] {key : List κ × α → ι} {entries : List (List κ × α)}
    (hl : entries.Pairwise (fun e e' => key e < key e')) {path : List κ} {a : α} :
    (path, a) ∈ (ofEntries entries).root.entries ↔
      (path, a) ∈ entries ∧ ∀ e ∈ entries, e.1 = path → key e ≤ key (path, a) := by
  rw [mem_entries_ofEntries, find?_reverse_eq_some_iff hl]
  simp

end Trie

end PubSubTui.Library.Tries
