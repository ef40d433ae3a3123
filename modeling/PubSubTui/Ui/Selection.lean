import PubSubTui.Library.Windows
import PubSubTui.Monitor.RoundTrip
import PubSubTui.Observe.RecentBuffer
import PubSubTui.Ui.App

/-! The selected message is found again by its sequence number, however far the ring has rotated beneath it. -/

namespace PubSubTui.Ui

open Library.Windows Monitor Observe

section Indices

variable {state : AppState} {selectedSeq : Option ℕ} {seq i : ℕ} {delta : ℤ}

lemma indexOfSeq_lt (h : indexOfSeq state seq = some i) : i < state.recentMessages.length :=
  (List.findIdx?_eq_some_iff_getElem.mp h).1

lemma seq_of_indexOfSeq (h : indexOfSeq state seq = some i) :
    (state.recentMessages.map RecentMessage.seq)[i]? = some seq := by
  obtain ⟨hi, hseq, -⟩ := List.findIdx?_eq_some_iff_getElem.mp h
  rw [List.getElem?_map, List.getElem?_eq_getElem hi]
  exact congrArg some (of_decide_eq_true hseq)

lemma indexOfSeq_eq_some_iff (h : (state.recentMessages.map RecentMessage.seq).Nodup) :
    indexOfSeq state seq = some i ↔ (state.recentMessages.map RecentMessage.seq)[i]? = some seq := by
  refine ⟨seq_of_indexOfSeq, fun hi => ?_⟩
  cases hfound : indexOfSeq state seq with
  | some j => exact congrArg some (index_unique h (seq_of_indexOfSeq hfound) hi)
  | none =>
    rw [List.getElem?_map, Option.map_eq_some_iff] at hi
    obtain ⟨m, hm, hseq⟩ := hi
    have hother := List.findIdx?_eq_none_iff.mp hfound m (List.mem_of_getElem? hm)
    simp [hseq] at hother

lemma currentIndex_eq (h : state.recentMessages ≠ []) : currentIndex state selectedSeq =
    some ((selectedSeq.bind (indexOfSeq state)).getD (state.recentMessages.length - 1)) := by
  have hpos : 1 ≤ state.recentMessages.length := List.length_pos_iff.mpr h
  rw [currentIndex, checkedSub, if_pos hpos]
  rfl

lemma currentIndex_lt (h : state.recentMessages ≠ []) :
    ∃ i, currentIndex state selectedSeq = some i ∧ i < state.recentMessages.length := by
  refine ⟨_, currentIndex_eq h, ?_⟩
  cases hfound : selectedSeq.bind (indexOfSeq state) with
  | none => exact Nat.sub_lt (List.length_pos_iff.mpr h) Nat.one_pos
  | some i =>
    obtain ⟨seq, -, hi⟩ := Option.bind_eq_some_iff.mp hfound
    exact indexOfSeq_lt hi

lemma nextIndex_eq (h : currentIndex state selectedSeq = some i) : nextIndex state selectedSeq delta =
    some (max 0 (min (i + delta) (state.recentMessages.length - 1))).toNat := by
  rw [nextIndex, h]
  rfl

lemma nextIndex_lt (h : state.recentMessages ≠ []) :
    ∃ i, nextIndex state selectedSeq delta = some i ∧ i < state.recentMessages.length := by
  have hcurrent : ∃ i, currentIndex state selectedSeq = some i ∧ i < state.recentMessages.length := currentIndex_lt h
  obtain ⟨i, hi, hlt⟩ := hcurrent
  refine ⟨_, nextIndex_eq hi, ?_⟩
  omega

end Indices

namespace App

variable {σ : Type} {serde : SerdeJson} {tree : TreeWidget σ} {app : App σ} {state : AppState} {now : Instant}
  {key : KeyEvent} {i q : ℕ}

/-- The cursor is on the message numbered `seq`, or was when that message was still there. -/
structure Selects (app : App σ) (seq : ℕ) : Prop where
  focus : app.focus = .messages
  list : app.messageView = .list
  selected : app.selectedSeq = some seq

lemma handleEvent_messages (hpress : key.kind = .press) (hfocus : app.focus = .messages)
    (hcode : key.code ≠ .char 'c' ∧ key.code ≠ .char 'q' ∧ key.code ≠ .tab) :
    app.handleEvent serde tree state now (.key key) = app.handleMessagesKey serde state now key.code := by
  obtain ⟨hc, hq, htab⟩ := hcode
  rw [handleEvent, if_neg (not_not_intro hpress), if_neg fun hctrl => hc hctrl.2, if_neg hq, if_neg htab, hfocus]

lemma handleEvent_enter (h : app.Selects q) (hkey : key.kind = .press ∧ key.code = .enter)
    (hi : indexOfSeq state q = some i) {m : RecentMessage} (hm : state.recentMessages[i]? = some m) :
    app.handleEvent serde tree state now (.key key) = some { app with messageView := .detail m 0 } := by
  obtain ⟨hpress, hcode⟩ := hkey
  rw [handleEvent_messages hpress h.focus (by simp [hcode])]
  simp only [handleMessagesKey, h.list, hcode, openSelected, h.selected, Option.bind_some, hi, hm]

lemma renderMessages_selected (h : app.Selects q) (hi : indexOfSeq state q = some i) :
    ∃ panel highlight, app.renderMessages serde state now = some panel ∧
      panel.body = .rows (state.recentMessages.map (messageRow now)) i (some highlight) := by
  have hne : state.recentMessages ≠ [] := List.length_pos_iff.mp (Nat.zero_lt_of_lt (indexOfSeq_lt hi))
  have hcurrent : currentIndex state app.selectedSeq = some i := by
    rw [currentIndex_eq hne, h.selected, Option.bind_some, hi]
    rfl
  simp [renderMessages, h.list, h.focus, hne, hcurrent]

end App

section Rotation

variable {recentBuffer : ℕ} {bursts : List (Burst × Bool)} {i j : ℕ} {s : AppState} {t t' : Instant}

def captured (bursts : List (Burst × Bool)) (j : ℕ) : List RecentMessage :=
  numbered 0 (publishedMessages ((bursts.take (j + 1)).flatMap fun b => b.1.history))

lemma captured_append (hij : i ≤ j) : ∃ later, captured bursts j = captured bursts i ++ later := by
  have hsplit : bursts.take (j + 1) = bursts.take (i + 1) ++ (bursts.take (j + 1)).drop (i + 1) := by
    conv_lhs => rw [← List.take_append_drop (i + 1) (bursts.take (j + 1))]
    rw [List.take_take, Nat.min_eq_left (Nat.succ_le_succ hij)]
  rw [captured, hsplit, List.flatMap_append, publishedMessages, List.flatMap_append]
  exact ⟨_, numbered_append _ _ _⟩

lemma captured_nodup : ((captured bursts j).map RecentMessage.seq).Nodup := by
  rw [captured, numbered_seq]
  exact List.nodup_range'

lemma window_of_run (h : (run recentBuffer bursts)[i]? = some s) (hij : i ≤ j) :
    s.recentMessages = window recentBuffer (captured bursts i).length (captured bursts j) := by
  obtain ⟨later, hlater⟩ : ∃ later, captured bursts j = captured bursts i ++ later := captured_append hij
  rw [recentMessages_of_run h, window, hlater, List.take_left]
  rfl

def carried (t t' : Instant) (m : RecentMessage) : RecentMessage := messageFromWire (messageToWire m t) t'

lemma recentMessages_carried : (fromWire (toWire s t) t').recentMessages = s.recentMessages.map (carried t t') := by
  rw [fromWire, toWire, List.map_map]
  rfl

lemma eraseTime_carried (m : RecentMessage) : (carried t t' m).eraseTime = m.eraseTime := by
  simp [carried, messageFromWire, messageToWire, RecentMessage.eraseTime, Function.comp_def]

lemma seqs_carried : (fromWire (toWire s t) t').recentMessages.map RecentMessage.seq =
    s.recentMessages.map RecentMessage.seq := by
  rw [recentMessages_carried, List.map_map]
  rfl

lemma indexOfSeq_carried_iff {s₁ s₂ : AppState} {m : RecentMessage} {p : ℕ}
    (hi : (run recentBuffer bursts)[i]? = some s₁) (hj : (run recentBuffer bursts)[j]? = some s₂) (hij : i ≤ j)
    (hm : m ∈ s₁.recentMessages) :
    indexOfSeq (fromWire (toWire s₂ t) t') m.seq = some p ↔ s₂.recentMessages[p]? = some m := by
  have hlater : s₂.recentMessages.Sublist (captured bursts j) := window_of_run hj le_rfl ▸ window_sublist
  have hearlier : s₁.recentMessages.Sublist (captured bursts j) := window_of_run hi hij ▸ window_sublist
  have hnodup : (s₂.recentMessages.map RecentMessage.seq).Nodup := captured_nodup.sublist (hlater.map _)
  have hshown : ((fromWire (toWire s₂ t) t').recentMessages.map RecentMessage.seq).Nodup := by rwa [seqs_carried]
  rw [indexOfSeq_eq_some_iff hshown, seqs_carried, List.getElem?_map, Option.map_eq_some_iff]
  constructor
  · rintro ⟨m', hm', hseq⟩
    have hsame : m' = m := List.inj_on_of_nodup_map captured_nodup (hlater.subset (List.mem_of_getElem? hm'))
      (hearlier.subset hm) hseq
    rw [hm', hsame]
  · intro hm
    exact ⟨m, hm, rfl⟩

end Rotation

theorem selected_message_stays {σ : Type} (serde : SerdeJson) (tree : TreeWidget σ) (recentBuffer : ℕ)
    (bursts : List (Burst × Bool)) (i j k : ℕ) (s₁ s₂ : AppState) (m : RecentMessage) (t₁ t₁' t₂ t₂' : Instant)
    (hi : (run recentBuffer bursts)[i]? = some s₁) (hj : (run recentBuffer bursts)[j]? = some s₂) (hij : i ≤ j)
    (hm : s₁.recentMessages[k]? = some m) :
    let shown := fromWire (toWire s₂ t₂) t₂'
    ∃ m₁, (fromWire (toWire s₁ t₁) t₁').recentMessages[k]? = some m₁ ∧ m₁.eraseTime = m.eraseTime ∧
      ((∃ p, indexOfSeq shown m₁.seq = some p) ↔ m ∈ s₂.recentMessages) ∧
      ∀ p, indexOfSeq shown m₁.seq = some p →
        p + (s₁.recentMessages.filter (· ∉ s₂.recentMessages)).length = k ∧
        ∃ m₂, shown.recentMessages[p]? = some m₂ ∧ m₂.eraseTime = m₁.eraseTime ∧
          ∀ (app : App σ) (now : Instant), app.Selects m₁.seq →
            (∃ panel rows highlight, app.renderMessages serde shown now = some panel ∧
              panel.body = .rows rows p (some highlight) ∧ rows[p]? = some (messageRow now m₂)) ∧
            ∀ key : KeyEvent, key.kind = .press ∧ key.code = .enter →
              app.handleEvent serde tree shown now (.key key) = some { app with messageView := .detail m₂ 0 } := by
  intro shown
  have hmem : m ∈ s₁.recentMessages := List.mem_of_getElem? hm
  have hfound : ∀ p : ℕ, indexOfSeq shown m.seq = some p ↔ s₂.recentMessages[p]? = some m := fun p =>
    indexOfSeq_carried_iff hi hj hij hmem
  have hshown : ∀ p : ℕ, s₂.recentMessages[p]? = some m → shown.recentMessages[p]? = some (carried t₂ t₂' m) := by
    intro p hp
    rw [recentMessages_carried, List.getElem?_map, hp]
    rfl
  refine ⟨carried t₁ t₁' m, ?_, eraseTime_carried m, ?_, fun p hp => ⟨?_, carried t₂ t₂' m, ?_, ?_, ?_⟩⟩
  · rw [recentMessages_carried, List.getElem?_map, hm]
    rfl
  · rw [List.mem_iff_getElem?]
    exact exists_congr hfound
  · obtain ⟨later, hlater⟩ : ∃ later, captured bursts j = captured bursts i ++ later := captured_append hij
    have hwindow := window_of_run hi hij
    have hwindow' := window_of_run hj le_rfl
    have hle : (captured bursts i).length ≤ (captured bursts j).length := by
      rw [hlater, List.length_append]
      exact Nat.le_add_right _ _
    rw [hwindow, hwindow']
    apply index_add_evicted (captured_nodup.of_map _) hle le_rfl
    · exact hwindow ▸ hm
    · exact hwindow' ▸ (hfound p).mp hp
  · exact hshown p ((hfound p).mp hp)
  · exact (eraseTime_carried m).trans (eraseTime_carried m).symm
  · intro app now hselects
    obtain ⟨panel, highlight, hpanel, hbody⟩ := App.renderMessages_selected hselects hp
    refine ⟨⟨panel, _, highlight, hpanel, hbody, ?_⟩, fun key hkey => ?_⟩
    · rw [List.getElem?_map, hshown p ((hfound p).mp hp)]
      rfl
    · exact App.handleEvent_enter hselects hkey hp (hshown p ((hfound p).mp hp))

def stillTree : TreeWidget Unit := ⟨(), id, id, id, id, id, id, id, fun _ => id⟩

def noJson : SerdeJson := ⟨fun _ => none, fun _ => none⟩

def rotatingBursts : List (Burst × Bool) :=
  let m : PublishedMessage := { data := [1], attributes := [], originalLen := 1, truncated := false }
  [({ now := 5, first := .publish "a" none [m, m], rest := [] }, true),
    ({ now := 7, first := .publish "b" none [m], rest := [] }, true)]

theorem selected_message_stays_of_two_bursts : ∃ s₁ s₂ p, (run 2 rotatingBursts)[0]? = some s₁ ∧
    (run 2 rotatingBursts)[1]? = some s₂ ∧ p + (s₁.recentMessages.filter (· ∉ s₂.recentMessages)).length = 1 := by
  obtain ⟨m₁, -, -, hretained, hfound⟩ := selected_message_stays noJson stillTree 2 rotatingBursts 0 1 1 _ _ _ 8 9 8 9
    rfl rfl (by decide) rfl
  obtain ⟨p, hp⟩ := hretained.mpr (List.mem_of_getElem? (i := 0) rfl)
  exact ⟨_, _, p, rfl, rfl, (hfound p hp).1⟩

end PubSubTui.Ui
