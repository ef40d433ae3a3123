import Mathlib.Data.List.DropRight
import Mathlib.Tactic

/-! A log and what a ring buffer shows of it: the newest entries of its prefixes. -/

namespace PubSubTui.Library.Windows

variable {α : Type*} {log : List α} {cap n n' i k : ℕ} {x : α}

def window (cap n : ℕ) (log : List α) : List α := (log.take n).rtake cap

lemma window_sublist : (window cap n log).Sublist log := (List.drop_sublist _ _).trans (List.take_sublist _ _)

lemma window_eq (hn : n ≤ log.length) : window cap n log = (log.take n).drop (n - cap) := by
  rw [window, List.rtake, List.length_take, Nat.min_eq_left hn]

lemma getElem?_window (hn : n ≤ log.length) :
    (window cap n log)[k]? = if n - cap + k < n then log[n - cap + k]? else none := by
  rw [window_eq hn, List.getElem?_drop, List.getElem?_take]

lemma getElem?_of_window (hn : n ≤ log.length) (hk : (window cap n log)[k]? = some x) :
    log[n - cap + k]? = some x ∧ n - cap + k < n := by
  rw [getElem?_window hn] at hk
  split_ifs at hk with hlt
  exact ⟨hk, hlt⟩

lemma index_unique (hlog : log.Nodup) (hi : log[i]? = some x) (hk : log[k]? = some x) : i = k := by
  obtain ⟨hi', rfl⟩ := List.getElem?_eq_some_iff.mp hi
  obtain ⟨hk', hx⟩ := List.getElem?_eq_some_iff.mp hk
  exact (hlog.getElem_inj_iff.mp hx).symm

lemma mem_window_iff (hlog : log.Nodup) (hn : n ≤ log.length) (hi : log[i]? = some x) :
    x ∈ window cap n log ↔ n - cap ≤ i ∧ i < n := by
  rw [List.mem_iff_getElem?]
  constructor
  · rintro ⟨k, hk⟩
    obtain ⟨hk', hlt⟩ := getElem?_of_window hn hk
    obtain rfl := index_unique hlog hi hk'
    exact ⟨Nat.le_add_right _ _, hlt⟩
  · rintro ⟨hle, hlt⟩
    refine ⟨i - (n - cap), ?_⟩
    rw [getElem?_window hn, Nat.add_sub_cancel' hle, if_pos hlt, hi]

variable [DecidableEq α]

lemma index_add_evicted (hlog : log.Nodup) (hle : n ≤ n') (hn : n' ≤ log.length)
    (hk : (window cap n log)[k]? = some x) (hi : (window cap n' log)[i]? = some x) :
    i + ((window cap n log).filter (· ∉ window cap n' log)).length = k := by
  obtain ⟨hk', hlt⟩ := getElem?_of_window (hle.trans hn) hk
  obtain ⟨hi', -⟩ := getElem?_of_window hn hi
  have hsame : n' - cap + i = n - cap + k := index_unique hlog hi' hk'
  have hlength : k < (window cap n log).length := (List.getElem?_eq_some_iff.mp hk).1
  have hgone : ∀ y ∈ (window cap n log).take (k - i), y ∉ window cap n' log := by
    intro y hy hshown
    obtain ⟨l, hl, rfl⟩ := List.getElem_of_mem hy
    rw [List.length_take] at hl
    have hy' : (window cap n log)[l]? = some ((window cap n log).take (k - i))[l] := by
      rw [List.getElem_take, List.getElem?_eq_getElem]
    obtain ⟨hlog', -⟩ := getElem?_of_window (hle.trans hn) hy'
    have hbounds := (mem_window_iff hlog hn hlog').mp hshown
    omega
  have hkept : ∀ y ∈ (window cap n log).drop (k - i), y ∈ window cap n' log := by
    intro y hy
    obtain ⟨l, hl⟩ := List.mem_iff_getElem?.mp hy
    rw [List.getElem?_drop] at hl
    obtain ⟨hlog', hlt'⟩ := getElem?_of_window (hle.trans hn) hl
    rw [mem_window_iff hlog hn hlog']
    omega
  have hfilter : (window cap n log).filter (· ∉ window cap n' log) = (window cap n log).take (k - i) := by
    conv_lhs => rw [← List.take_append_drop (k - i) (window cap n log)]
    rw [List.filter_append, List.filter_eq_self.mpr (by simpa using hgone),
      List.filter_eq_nil_iff.mpr (by simpa using hkept), List.append_nil]
  rw [hfilter, List.length_take]
  omega

end PubSubTui.Library.Windows
