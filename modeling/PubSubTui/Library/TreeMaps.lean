import Mathlib.Tactic
import Std.Data.ExtTreeMap

/-! Ordered maps updated in place, and sums over their entries. -/

namespace PubSubTui.Library.TreeMaps

open Std

variable {κ α β : Type*} [Ord κ] [TransOrd κ]

def upsert (m : ExtTreeMap κ α) (k : κ) (f : Option α → α) : ExtTreeMap κ α :=
  m.alter k (fun v => some (f v))

def total (f : κ → α → ℕ) (m : ExtTreeMap κ α) : ℕ :=
  (m.toList.map (fun e => f e.1 e.2)).sum

@[simp] lemma total_empty (g : κ → α → ℕ) : total g (∅ : ExtTreeMap κ α) = 0 := by
  have h : (∅ : ExtTreeMap κ α).toList = [] := ExtTreeMap.toList_eq_nil_iff.mpr rfl
  simp [total, h]

lemma total_map (g : κ → β → ℕ) (h : κ → α → β) (m : ExtTreeMap κ α) :
    total g (m.map h) = total (fun x v => g x (h x v)) m := by
  simp [total, ExtTreeMap.toList_map, List.map_map, Function.comp_def]

lemma ordered_filter_keys (m : ExtTreeMap κ α) (p : κ × α → Bool) :
    ((m.toList.filter p).map Prod.fst).Pairwise (fun k k' => compare k k' = .lt) := by
  refine List.pairwise_map.mpr (List.Pairwise.filter p ?_)
  exact ExtTreeMap.ordered_keys_toList

lemma nodup_filter_keys [LawfulEqOrd κ] (m : ExtTreeMap κ α) (p : κ × α → Bool) :
    ((m.toList.filter p).map Prod.fst).Nodup :=
  (ordered_filter_keys m p).imp fun hlt heq => by simp [heq, ReflCmp.compare_self] at hlt

lemma length_filter (m : ExtTreeMap κ α) (p : κ × α → Bool) :
    (m.toList.filter p).length = total (fun k v => if p (k, v) then 1 else 0) m := by
  rw [total]
  induction m.toList with
  | nil => rfl
  | cons e l ih =>
    by_cases h : p e = true
    · simp [h, ih, Nat.add_comm]
    · simp [h, ih]

variable [LawfulEqOrd κ]

lemma ext_of_getD {m m' : ExtTreeMap κ α} (d : α) (hmem : ∀ x : κ, x ∈ m ↔ x ∈ m')
    (hval : ∀ x : κ, m[x]?.getD d = m'[x]?.getD d) : m = m' := by
  refine ExtTreeMap.ext_getElem? fun x => ?_
  have hm := hmem x
  have hv := hval x
  rw [ExtTreeMap.mem_iff_isSome_getElem?, ExtTreeMap.mem_iff_isSome_getElem?] at hm
  cases h : m[x]? <;> cases h' : m'[x]? <;> simp_all

lemma map_map_congr {γ δ : Type*} {m : ExtTreeMap κ α} {f : κ → α → γ} {g : κ → γ → δ} {h : κ → α → δ}
    (heq : ∀ x v, m[x]? = some v → g x (f x v) = h x v) : (m.map f).map g = m.map h := by
  refine ExtTreeMap.ext_getElem? fun x => ?_
  simp only [ExtTreeMap.getElem?_map]
  cases hx : m[x]? with
  | none => rfl
  | some v => simp [heq x v hx]

lemma mem_filter_keys {m : ExtTreeMap κ α} {p : κ × α → Bool} {x : κ} :
    x ∈ (m.toList.filter p).map Prod.fst ↔ ∃ v, m[x]? = some v ∧ p (x, v) = true := by
  simp only [List.mem_map, List.mem_filter, Prod.exists, ExtTreeMap.mem_toList_iff_getElem?_eq_some]
  constructor
  · rintro ⟨_, v, ⟨hv, hp⟩, rfl⟩
    exact ⟨v, hv, hp⟩
  · rintro ⟨v, hv, hp⟩
    exact ⟨x, v, ⟨hv, hp⟩, rfl⟩

variable [DecidableEq κ] {m : ExtTreeMap κ α} {k x : κ} {f : Option α → α}

@[simp] lemma getElem?_upsert : (upsert m k f)[x]? = if k = x then some (f m[k]?) else m[x]? := by
  simp [upsert, ExtTreeMap.getElem?_alter]

@[simp] lemma mem_upsert : x ∈ upsert m k f ↔ k = x ∨ x ∈ m := by
  rw [← ExtTreeMap.isSome_getElem?_iff_mem, ← ExtTreeMap.isSome_getElem?_iff_mem, getElem?_upsert]
  split_ifs with h <;> simp [h]

@[simp] lemma getElem_upsert_self (h : k ∈ upsert m k f) : (upsert m k f)[k] = f m[k]? := by
  have hs := ExtTreeMap.getElem?_eq_some_getElem h
  rw [getElem?_upsert, if_pos rfl] at hs
  exact (Option.some.inj hs).symm

lemma map_upsert (g : α → β) {f' : Option β → β} (h : ∀ v, g (f v) = f' (v.map g)) :
    (upsert m k f).map (fun _ v => g v) = upsert (m.map (fun _ v => g v)) k f' := by
  refine ExtTreeMap.ext_getElem? fun x => ?_
  simp only [ExtTreeMap.getElem?_map', getElem?_upsert]
  split_ifs <;> simp [h]

lemma total_eq_sum (g : κ → α → ℕ) (m : ExtTreeMap κ α) :
    total g m = ∑ k ∈ m.keys.toFinset, m[k]?.elim 0 (g k) := by
  have hk : m.keys = m.toList.map Prod.fst := ExtTreeMap.map_fst_toList_eq_keys.symm
  rw [List.sum_toFinset _ ExtTreeMap.nodup_keys, hk, List.map_map, total]
  congr 1
  apply List.map_congr_left
  rintro ⟨k, v⟩ he
  simp [ExtTreeMap.mem_toList_iff_getElem?_eq_some.mp he]

lemma total_eq_sum_of_subset (g : κ → α → ℕ) {keys : Finset κ} (h : ∀ x ∈ m, x ∈ keys) :
    total g m = ∑ x ∈ keys, m[x]?.elim 0 (g x) := by
  rw [total_eq_sum]
  apply Finset.sum_subset
  · intro x hx
    exact h x (by simpa using hx)
  · intro x _ hx
    have hn : m[x]? = none := ExtTreeMap.getElem?_eq_none (by simpa using hx)
    simp [hn]

lemma length_filter_eq_card {p : κ × α → Bool} {keys : Finset κ}
    (h : ∀ x, (∃ v, m[x]? = some v ∧ p (x, v) = true) ↔ x ∈ keys) : (m.toList.filter p).length = keys.card := by
  rw [← List.length_map Prod.fst, ← List.toFinset_card_of_nodup (nodup_filter_keys m p)]
  congr 1
  ext x
  rw [List.mem_toFinset, mem_filter_keys, h]

omit [DecidableEq κ] in
lemma total_le {g g' : κ → α → ℕ} (h : ∀ x v, m[x]? = some v → g x v ≤ g' x v) : total g m ≤ total g' m :=
  List.sum_le_sum fun e he => h e.1 e.2 (ExtTreeMap.mem_toList_iff_getElem?_eq_some.mp he)

lemma total_upsert (g : κ → α → ℕ) :
    total g (upsert m k f) + m[k]?.elim 0 (g k) = total g m + g k (f m[k]?) := by
  let keys := insert k m.keys.toFinset
  have hm : ∀ x ∈ m, x ∈ keys := by intro x hx; simp [keys, hx]
  have hu : ∀ x ∈ upsert m k f, x ∈ keys := by
    intro x hx
    rcases mem_upsert.mp hx with rfl | hx
    · simp [keys]
    · exact hm x hx
  have hk : k ∈ keys := by simp [keys]
  rw [total_eq_sum_of_subset g hm, total_eq_sum_of_subset g hu,
    ← Finset.add_sum_erase _ _ hk, ← Finset.add_sum_erase keys (fun x => m[x]?.elim 0 (g x)) hk]
  have hrest : ∑ x ∈ keys.erase k, (upsert m k f)[x]?.elim 0 (g x) =
      ∑ x ∈ keys.erase k, m[x]?.elim 0 (g x) := by
    apply Finset.sum_congr rfl
    intro x hx
    rw [getElem?_upsert, if_neg (Finset.ne_of_mem_erase hx).symm]
  rw [hrest, getElem?_upsert, if_pos rfl]
  simp only [Option.elim_some]
  omega

end PubSubTui.Library.TreeMaps
