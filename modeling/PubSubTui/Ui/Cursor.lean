import PubSubTui.Ui.Selection

/-! The cursor keys of the messages list, compared with the order of the sequence numbers. -/

namespace PubSubTui.Ui

open Observe

section Order

variable {seqs : List ℕ} {q i : ℕ}

def olderOrOldest (seqs : List ℕ) (q : ℕ) : Option ℕ := (seqs.filter (· < q)).getLast?.or seqs.head?

def newerOrNewest (seqs : List ℕ) (q : ℕ) : Option ℕ := (seqs.filter (q < ·)).head?.or seqs.getLast?

section Filters

variable {α : Type*} {p : α → Bool} {l : List α}

lemma filter_eq_take (h : l.Pairwise fun x y => p y = true → p x = true) :
    l.filter p = l.take (l.filter p).length ∧ l.filter (fun x => !p x) = l.drop (l.filter p).length := by
  induction l with
  | nil => exact ⟨rfl, rfl⟩
  | cons x l ih =>
    obtain ⟨hx, hl⟩ := List.pairwise_cons.mp h
    obtain ⟨htake, hdrop⟩ := ih hl
    by_cases hp : p x = true
    · rw [List.filter_cons_of_pos hp, List.filter_cons_of_neg (by simp [hp]), List.length_cons, List.take_succ_cons,
        List.drop_succ_cons, ← htake]
      exact ⟨rfl, hdrop⟩
    · have hrest : ∀ y ∈ l, ¬ p y = true := fun y hy hpy => hp (hx y hy hpy)
      have hnone : l.filter p = [] := List.filter_eq_nil_iff.mpr hrest
      have hall : l.filter (fun x => !p x) = l := List.filter_eq_self.mpr (by simpa using hrest)
      rw [List.filter_cons_of_neg hp, List.filter_cons_of_pos (by simp [hp]), hnone, hall]
      exact ⟨rfl, rfl⟩

end Filters

lemma filter_newer (seqs : List ℕ) (q : ℕ) : seqs.filter (q < ·) = seqs.filter (fun x => !decide (x ≤ q)) := by
  apply List.filter_congr
  intro x _
  rw [← decide_not]
  exact decide_eq_decide.mpr Nat.not_le.symm

lemma olderOrOldest_eq (h : seqs.Pairwise (· < ·)) (q : ℕ) :
    olderOrOldest seqs q = seqs[(seqs.filter (· < q)).length - 1]? := by
  have hfront : seqs.Pairwise fun x y => decide (y < q) = true → decide (x < q) = true := by
    apply h.imp
    intro x y hxy hy
    exact decide_eq_true (hxy.trans (of_decide_eq_true hy))
  have hle := List.length_filter_le (· < q) seqs
  rw [olderOrOldest, (filter_eq_take hfront).1, List.getLast?_take, List.length_take, Nat.min_eq_left hle]
  split_ifs with hzero
  · rw [hzero, Option.none_or, List.head?_eq_getElem?]
  · have hlt : (seqs.filter (· < q)).length - 1 < seqs.length := by omega
    rw [List.getElem?_eq_getElem hlt]
    rfl

lemma newerOrNewest_eq (h : seqs.Pairwise (· < ·)) (q : ℕ) :
    newerOrNewest seqs q = seqs[min (seqs.filter (· ≤ q)).length (seqs.length - 1)]? := by
  have hfront : seqs.Pairwise fun x y => decide (y ≤ q) = true → decide (x ≤ q) = true := by
    apply h.imp
    intro x y hxy hy
    exact decide_eq_true (hxy.le.trans (of_decide_eq_true hy))
  have hnewer : seqs.filter (q < ·) = seqs.drop (seqs.filter (· ≤ q)).length := by
    rw [← (filter_eq_take hfront).2, filter_newer]
  have hle := List.length_filter_le (· ≤ q) seqs
  rw [newerOrNewest, hnewer, List.head?_drop, List.getLast?_eq_getElem?]
  by_cases hlt : (seqs.filter (· ≤ q)).length < seqs.length
  · rw [List.getElem?_eq_getElem hlt, Nat.min_eq_left (by omega), List.getElem?_eq_getElem hlt]
    rfl
  · rw [List.getElem?_eq_none (Nat.not_lt.mp hlt), Option.none_or, Nat.min_eq_right (by omega)]

lemma length_filter_of_retained (h : seqs.Pairwise (· < ·)) (hi : seqs[i]? = some q) :
    (seqs.filter (· < q)).length = i ∧ (seqs.filter (· ≤ q)).length = i + 1 := by
  obtain ⟨hlt, hq⟩ := List.getElem?_eq_some_iff.mp hi
  have hsplit : seqs = seqs.take i ++ q :: seqs.drop (i + 1) := by
    rw [← hq, ← List.drop_eq_getElem_cons hlt, List.take_append_drop]
  rw [hsplit] at h
  obtain ⟨-, hafter, hbefore⟩ := List.pairwise_append.mp h
  have hless : ∀ x ∈ seqs.take i, x < q := fun x hx => hbefore x hx q List.mem_cons_self
  have hmore : ∀ x ∈ seqs.drop (i + 1), q < x := (List.pairwise_cons.mp hafter).1
  have hlength : (seqs.take i).length = i := List.length_take_of_le hlt.le
  constructor
  · rw [hsplit, List.filter_append, List.filter_eq_self.mpr (by simpa using hless),
      List.filter_cons_of_neg (by simp), List.filter_eq_nil_iff.mpr (by simpa using fun x hx => (hmore x hx).le),
      List.append_nil, hlength]
  · rw [hsplit, List.filter_append, List.filter_eq_self.mpr (by simpa using fun x hx => (hless x hx).le),
      List.filter_cons_of_pos (by simp), List.filter_eq_nil_iff.mpr (by simpa using hmore), List.length_append, hlength]
    rfl

lemma length_filter_of_evicted (h : q ∉ seqs) :
    (seqs.filter (· < q)).length = (seqs.filter (· ≤ q)).length := by
  congr 1
  apply List.filter_congr
  intro x hx
  have hne : x ≠ q := fun heq => h (heq ▸ hx)
  exact decide_eq_decide.mpr ⟨Nat.le_of_lt, fun hle => Nat.lt_of_le_of_ne hle hne⟩

lemma steps_from_iff (h : seqs.Pairwise (· < ·)) (hlt : i < seqs.length)
    (hi : seqs[i]? = some q ∨ q ∉ seqs ∧ i = seqs.length - 1) :
    seqs[i - 1]? = olderOrOldest seqs q ∧ seqs[min (i + 1) (seqs.length - 1)]? = newerOrNewest seqs q ↔
      q ∈ seqs ∨ seqs.length = 1 ∨ (seqs.filter (q < ·)).length = 1 := by
  rw [olderOrOldest_eq h, newerOrNewest_eq h]
  rcases hi with hi | ⟨hgone, rfl⟩
  · obtain ⟨holder, hnewer⟩ := length_filter_of_retained h hi
    rw [holder, hnewer]
    exact iff_of_true ⟨rfl, rfl⟩ (.inl (List.mem_of_getElem? hi))
  · have hnodup : seqs.Nodup := h.imp fun h => h.ne
    have hparts : (seqs.filter (· ≤ q)).length + (seqs.filter (q < ·)).length = seqs.length := by
      rw [filter_newer]
      exact (List.length_eq_length_filter_add _).symm
    rw [length_filter_of_evicted hgone, List.getElem?_inj (by omega) hnodup, List.getElem?_inj (by omega) hnodup,
      or_iff_right hgone]
    omega

end Order

def KeyEvent.IsUp (key : KeyEvent) : Prop := key.kind = .press ∧ (key.code = .up ∨ key.code = .char 'k')

def KeyEvent.IsDown (key : KeyEvent) : Prop := key.kind = .press ∧ (key.code = .down ∨ key.code = .char 'j')

namespace App

variable {σ : Type} {serde : SerdeJson} {tree : TreeWidget σ} {app : App σ} {state : AppState} {now : Instant}
  {key : KeyEvent} {delta : ℤ} {i q : ℕ}

lemma handleEvent_up (h : app.Selects q) (hkey : key.IsUp) :
    app.handleEvent serde tree state now (.key key) = app.moveSelection state (-1) := by
  obtain ⟨hpress, hcode⟩ := hkey
  rw [handleEvent_messages hpress h.focus (by rcases hcode with hcode | hcode <;> simp [hcode])]
  rcases hcode with hcode | hcode <;> simp only [handleMessagesKey, h.list, hcode]

lemma handleEvent_down (h : app.Selects q) (hkey : key.IsDown) :
    app.handleEvent serde tree state now (.key key) = app.moveSelection state 1 := by
  obtain ⟨hpress, hcode⟩ := hkey
  rw [handleEvent_messages hpress h.focus (by rcases hcode with hcode | hcode <;> simp [hcode])]
  rcases hcode with hcode | hcode <;> simp only [handleMessagesKey, h.list, hcode]

lemma moveSelection_eq (hne : state.recentMessages ≠ []) (hi : currentIndex state app.selectedSeq = some i) :
    app.moveSelection state delta = some { app with selectedSeq :=
      (state.recentMessages.map RecentMessage.seq)[
        (max 0 (min (i + delta) (state.recentMessages.length - 1))).toNat]? } := by
  rw [moveSelection, if_neg hne, nextIndex_eq hi, Option.map_some, List.getElem?_map]

section Cursor

variable {target : Option ℕ} (h : app.Selects q) (hne : state.recentMessages ≠ [])
  (hi : currentIndex state app.selectedSeq = some i) (hlt : i < state.recentMessages.length)

include h hne hi hlt

lemma up_selects_iff : (∀ key now, key.IsUp → app.handleEvent serde tree state now (.key key) =
    some { app with selectedSeq := target }) ↔ (state.recentMessages.map RecentMessage.seq)[i - 1]? = target := by
  have hindex : (max 0 (min (i + -1 : ℤ) (state.recentMessages.length - 1))).toNat = i - 1 := by omega
  constructor
  · intro hall
    have hmoved := hall { code := .up } 0 ⟨rfl, .inl rfl⟩
    rw [handleEvent_up h ⟨rfl, .inl rfl⟩, moveSelection_eq hne hi, hindex] at hmoved
    exact congrArg App.selectedSeq (Option.some.inj hmoved)
  · rintro rfl key now hkey
    rw [handleEvent_up h hkey, moveSelection_eq hne hi, hindex]

lemma down_selects_iff : (∀ key now, key.IsDown → app.handleEvent serde tree state now (.key key) =
    some { app with selectedSeq := target }) ↔
      (state.recentMessages.map RecentMessage.seq)[min (i + 1) (state.recentMessages.length - 1)]? = target := by
  have hindex : (max 0 (min (i + 1 : ℤ) (state.recentMessages.length - 1))).toNat =
      min (i + 1) (state.recentMessages.length - 1) := by omega
  constructor
  · intro hall
    have hmoved := hall { code := .down } 0 ⟨rfl, .inl rfl⟩
    rw [handleEvent_down h ⟨rfl, .inl rfl⟩, moveSelection_eq hne hi, hindex] at hmoved
    exact congrArg App.selectedSeq (Option.some.inj hmoved)
  · rintro rfl key now hkey
    rw [handleEvent_down h hkey, moveSelection_eq hne hi, hindex]

end Cursor

end App

/-- A selection that is gone is taken for the newest message. -/
theorem cursor_follows_order_iff {σ : Type} (serde : SerdeJson) (tree : TreeWidget σ) (app : App σ) (state : AppState)
    (q : ℕ) (hselects : app.Selects q) (hne : state.recentMessages ≠ [])
    (hordered : (state.recentMessages.map RecentMessage.seq).Pairwise (· < ·)) :
    let seqs := state.recentMessages.map RecentMessage.seq
    ((∀ key now, key.IsUp → app.handleEvent serde tree state now (.key key) =
        some { app with selectedSeq := olderOrOldest seqs q }) ∧
      ∀ key now, key.IsDown → app.handleEvent serde tree state now (.key key) =
        some { app with selectedSeq := newerOrNewest seqs q }) ↔
      q ∈ seqs ∨ seqs.length = 1 ∨ (seqs.filter (q < ·)).length = 1 := by
  obtain ⟨i, hi, hlt⟩ : ∃ i, currentIndex state app.selectedSeq = some i ∧ i < state.recentMessages.length :=
    currentIndex_lt hne
  have hlength : (state.recentMessages.map RecentMessage.seq).length = state.recentMessages.length :=
    List.length_map _
  dsimp only
  rw [App.up_selects_iff hselects hne hi hlt, App.down_selects_iff hselects hne hi hlt, ← hlength]
  apply steps_from_iff hordered (hlt.trans_eq hlength.symm)
  rw [currentIndex_eq hne, hselects.selected, Option.bind_some, Option.some.injEq] at hi
  cases hfound : indexOfSeq state q with
  | some k =>
    rw [hfound, Option.getD_some] at hi
    exact .inl (hi ▸ seq_of_indexOfSeq hfound)
  | none =>
    rw [hfound, Option.getD_none, ← hlength] at hi
    refine .inr ⟨fun hretained => ?_, hi.symm⟩
    obtain ⟨k, hk⟩ := List.getElem?_of_mem hretained
    rw [(indexOfSeq_eq_some_iff (hordered.imp fun h => h.ne)).mpr hk] at hfound
    cases hfound

def numberedState (seqs : List ℕ) : AppState :=
  { recentMessages := seqs.map fun seq => ⟨seq, "t", [], [], 0, false, 0⟩ }

def cursorOn (seq : ℕ) : App Unit :=
  { App.new stillTree "" with focus := .messages, selectedSeq := some seq }

theorem cursor_follows_order_of_retained :
    (cursorOn 6).handleEvent noJson stillTree (numberedState [5, 6, 7]) 0 (.key { code := .up }) =
      some (cursorOn 5) :=
  ((cursor_follows_order_iff noJson stillTree (cursorOn 6) (numberedState [5, 6, 7]) 6 ⟨rfl, rfl, rfl⟩ (by decide)
    (by decide)).mpr (.inl (by decide))).1 { code := .up } 0 ⟨rfl, .inl rfl⟩

theorem cursor_jumps_of_evicted :
    (cursorOn 1).handleEvent noJson stillTree (numberedState [5, 6, 7]) 0 (.key { code := .up }) =
        some (cursorOn 6) ∧
      (cursorOn 1).handleEvent noJson stillTree (numberedState [5, 6, 7]) 0 (.key { code := .down }) =
        some (cursorOn 7) ∧
      olderOrOldest [5, 6, 7] 1 = some 5 ∧ newerOrNewest [5, 6, 7] 1 = some 5 := by
  decide

end PubSubTui.Ui
