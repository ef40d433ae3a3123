import PubSubTui.Library.ActionSystem
import PubSubTui.Ui.Selection

/-! Focus, view and selection through any mixture of events, snapshots and frames. What one input may do is said
once, as `Moves`; the rest is read off it. -/

namespace PubSubTui.Ui

open Library.ActionSystem Observe

def Input.Leaves : Input → Prop
  | .event (.key key) _ _ => key.kind = .press ∧ key.code ∈ [KeyCode.esc, .left, .backspace, .tab]
  | _ => False

namespace App

variable {σ : Type}

def Quits (app : App σ) : Input → Prop
  | .event (.key key) _ _ => key.kind = .press ∧ (key.code = .char 'q' ∨
      key.control = true ∧ key.code = .char 'c' ∨ key.code = .esc ∧ app.focus = .tree)
  | _ => False

def Opens (app : App σ) (message : RecentMessage) : Input → Prop
  | .event (.key key) state _ =>
    key.kind = .press ∧ key.code = .enter ∧ app.Selects message.seq ∧ message ∈ state.recentMessages
  | _ => False

def Consistent (app : App σ) : Prop := app.focus = .tree → app.messageView = .list ∧ app.selectedSeq = none

inductive Moves (serde : SerdeJson) (app : App σ) (input : Input) : App σ → Prop
  | idle (treeState : σ) (hl : input.Leaves → app.messageView = .list) (hq : ¬ app.Quits input) :
    Moves serde app input { app with treeState }
  | quit (hl : input.Leaves → app.messageView = .list) (hq : app.Quits input) :
    Moves serde app input { app with shouldQuit := true }
  | enterPanel (selectedSeq : Option ℕ) (hl : input.Leaves) (hq : ¬ app.Quits input) :
    Moves serde app input { app with focus := .messages, messageView := .list, selectedSeq }
  | leavePanel (hl : input.Leaves) (hq : ¬ app.Quits input) :
    Moves serde app input { app with focus := .tree, messageView := .list, selectedSeq := none }
  | back (hf : app.focus = .messages) (hl : input.Leaves) (hq : ¬ app.Quits input) :
    Moves serde app input { app with messageView := .list }
  | select (selectedSeq : Option ℕ) (hf : app.focus = .messages) (hv : app.messageView = .list)
    (hq : ¬ app.Quits input) : Moves serde app input { app with selectedSeq }
  | scroll {message : RecentMessage} {scroll : UInt16} (scroll' : UInt16) (hf : app.focus = .messages)
    (hv : app.messageView = .detail message scroll) (hl : ¬ input.Leaves) (hq : ¬ app.Quits input)
    (hs : scroll' ≤ scroll ∨ ∃ now rows, scroll' = scrollDown serde now message scroll rows) :
    Moves serde app input { app with messageView := .detail message scroll' }
  | opened {message : RecentMessage} (ho : app.Opens message input) (hl : ¬ input.Leaves) (hq : ¬ app.Quits input) :
    Moves serde app input { app with messageView := .detail message 0 }

variable {serde : SerdeJson} {tree : TreeWidget σ} {app app' : App σ} {state : AppState} {now : Instant}
  {code : KeyCode} {control : Bool} {input : Input} {message : RecentMessage}

lemma Opens.selects (h : app.Opens message input) : app.Selects message.seq := by
  match input, h with
  | .event (.key _) _ _, ⟨_, _, hselects, _⟩ => exact hselects

section Handlers

lemma moveSelection_moves (delta : ℤ) (hf : app.focus = .messages) (hv : app.messageView = .list)
    (hq : ¬ app.Quits input) : ∃ app', app.moveSelection state delta = some app' ∧ app.Moves serde input app' := by
  rw [moveSelection]
  split_ifs with hempty
  · exact ⟨_, rfl, .select none hf hv hq⟩
  · obtain ⟨next, hnext, -⟩ : ∃ i, nextIndex state app.selectedSeq delta = some i ∧
        i < state.recentMessages.length := nextIndex_lt hempty
    rw [hnext]
    exact ⟨_, rfl, .select _ hf hv hq⟩

lemma openSelected_moves (hf : app.focus = .messages) (hv : app.messageView = .list)
    (hq : ¬ app.Quits (.event (.key ⟨.enter, control, .press⟩) state now)) :
    app.Moves serde (.event (.key ⟨.enter, control, .press⟩) state now) (app.openSelected state) := by
  rw [openSelected]
  split
  · rename_i m hm
    obtain ⟨i, hi, hm⟩ := Option.bind_eq_some_iff.mp hm
    obtain ⟨seq, hseq, hi⟩ := Option.bind_eq_some_iff.mp hi
    have hsame : m.seq = seq := by
      have hfound := seq_of_indexOfSeq hi
      rw [List.getElem?_map, hm] at hfound
      exact Option.some.inj hfound
    exact .opened ⟨rfl, rfl, ⟨hf, hv, hsame ▸ hseq⟩, List.mem_of_getElem? hm⟩ (by simp [Input.Leaves]) hq
  · exact .idle _ (fun _ => hv) hq

lemma handleTreeKey_moves (hf : app.focus = .tree) (hc : app.Consistent)
    (hq : code ≠ .esc → ¬ app.Quits (.event (.key ⟨code, control, .press⟩) state now)) :
    app.Moves serde (.event (.key ⟨code, control, .press⟩) state now) (app.handleTreeKey tree code) := by
  by_cases hesc : code = .esc
  · subst hesc
    exact .quit (fun _ => (hc hf).1) ⟨rfl, .inr (.inr ⟨rfl, hf⟩)⟩
  · obtain ⟨treeState, hmoved⟩ : ∃ treeState, app.handleTreeKey tree code = { app with treeState } := by
      rw [handleTreeKey.eq_def]
      split
      · exact absurd rfl hesc
      all_goals exact ⟨_, rfl⟩
    rw [hmoved]
    exact .idle _ (fun _ => (hc hf).1) (hq hesc)

lemma handleDetailKey_moves {scroll : UInt16} (hf : app.focus = .messages) (hv : app.messageView = .detail message scroll)
    (htab : code ≠ .tab) (hq : ¬ app.Quits (.event (.key ⟨code, control, .press⟩) state now)) :
    ∃ app', app.handleMessagesKey serde state now code = some app' ∧
      app.Moves serde (.event (.key ⟨code, control, .press⟩) state now) app' := by
  by_cases hl : code ∈ [KeyCode.esc, .left, .backspace]
  · have hback : app.handleMessagesKey serde state now code = some { app with messageView := .list } := by
      simp only [List.mem_cons, List.not_mem_nil, or_false] at hl
      rcases hl with rfl | rfl | rfl <;> simp only [handleMessagesKey, hv]
    exact ⟨_, hback, .back hf ⟨rfl, List.mem_append_left [KeyCode.tab] hl⟩ hq⟩
  · obtain ⟨scroll', hs, hscroll⟩ : ∃ scroll',
        (scroll' ≤ scroll ∨ ∃ now rows, scroll' = scrollDown serde now message scroll rows) ∧
        app.handleMessagesKey serde state now code = some { app with messageView := .detail message scroll' } := by
      simp only [handleMessagesKey.eq_def, hv]
      split
      case h_1 | h_2 | h_3 => simp at hl
      case h_4 | h_5 | h_8 => exact ⟨_, .inl (saturatingSub_le _ _), rfl⟩
      case h_6 | h_7 | h_9 => exact ⟨_, .inr ⟨now, _, rfl⟩, rfl⟩
      case h_10 => exact ⟨0, .inl UInt16.zero_le, rfl⟩
      case h_11 => exact ⟨scroll, .inl (UInt16.le_refl _), by rw [← hv]⟩
    refine ⟨_, hscroll, .scroll scroll' hf hv (fun hleaves => ?_) hq hs⟩
    have hkey : code ∈ [KeyCode.esc, .left, .backspace] ++ [.tab] := hleaves.2
    rcases List.mem_append.mp hkey with hmem | hmem
    · exact hl hmem
    · exact htab (List.mem_singleton.mp hmem)

lemma handleListKey_moves (hf : app.focus = .messages) (hv : app.messageView = .list)
    (hq : ¬ app.Quits (.event (.key ⟨code, control, .press⟩) state now)) :
    ∃ app', app.handleMessagesKey serde state now code = some app' ∧
      app.Moves serde (.event (.key ⟨code, control, .press⟩) state now) app' := by
  obtain ⟨header, treeState, focus, selectedSeq, messageView, shouldQuit⟩ := app
  obtain rfl : messageView = .list := hv
  simp only [handleMessagesKey.eq_def]
  split
  case h_1 => exact ⟨_, rfl, .leavePanel ⟨rfl, by simp⟩ hq⟩
  case h_2 | h_3 | h_4 | h_5 => exact moveSelection_moves _ hf rfl hq
  case h_8 => exact ⟨_, rfl, openSelected_moves hf rfl hq⟩
  all_goals exact ⟨_, rfl, .select _ hf rfl hq⟩

lemma handleKey_moves (key : KeyEvent) (hc : app.Consistent) : ∃ app',
    app.handleEvent serde tree state now (.key key) = some app' ∧ app.Moves serde (.event (.key key) state now) app' := by
  obtain ⟨code, control, kind⟩ := key
  rw [handleEvent]
  split_ifs with hkind hctrl hquit htab
  · exact ⟨_, rfl, .idle _ (fun hl => absurd hl.1 hkind) fun hq => hkind hq.1⟩
  · obtain ⟨hctrl, rfl⟩ := hctrl
    exact ⟨_, rfl, .quit (fun hl => by simp [Input.Leaves] at hl) ⟨not_not.mp hkind, .inr (.inl ⟨hctrl, rfl⟩)⟩⟩
  · obtain rfl := hquit
    exact ⟨_, rfl, .quit (fun hl => by simp [Input.Leaves] at hl) ⟨not_not.mp hkind, .inl rfl⟩⟩
  · obtain rfl := htab
    obtain rfl := not_not.mp hkind
    have hq : ¬ app.Quits (.event (.key ⟨.tab, control, .press⟩) state now) := by simp [Quits]
    rw [toggleFocus.eq_def]
    split
    · exact ⟨_, rfl, .enterPanel _ ⟨rfl, by simp⟩ hq⟩
    · exact ⟨_, rfl, .leavePanel ⟨rfl, by simp⟩ hq⟩
  · obtain rfl := not_not.mp hkind
    have hq (hesc : code = .esc → app.focus = .messages) :
        ¬ app.Quits (.event (.key ⟨code, control, .press⟩) state now) := by
      rintro ⟨-, hq | hc | ⟨he, hf⟩⟩
      · exact hquit hq
      · exact hctrl hc
      · rw [hesc he] at hf
        cases hf
    cases hf : app.focus with
    | tree => exact ⟨_, rfl, handleTreeKey_moves hf hc fun hesc => hq fun he => absurd he hesc⟩
    | messages =>
      cases hv : app.messageView with
      | list => exact handleListKey_moves hf hv (hq fun _ => hf)
      | detail => exact handleDetailKey_moves hf hv htab (hq fun _ => hf)

end Handlers

lemma renderMessages_total (app : App σ) (state : AppState) (now : Instant) :
    ∃ panel, app.renderMessages serde state now = some panel ∧
      (∀ message scroll, app.messageView = .detail message scroll →
        ∃ offset, panel.body = .lines (detailLines serde message now) offset) ∧
      ∀ rows selected highlight, panel.body = .rows rows selected highlight →
        selected < rows.length ∧ rows.length = state.recentMessages.length := by
  cases hv : app.messageView with
  | detail message scroll =>
    simp only [renderMessages.eq_def, hv]
    refine ⟨_, rfl, ?_, ?_⟩
    · rintro _ _ ⟨⟩
      exact ⟨_, rfl⟩
    · rintro _ _ _ ⟨⟩
  | list =>
    by_cases hempty : state.recentMessages = []
    · simp [renderMessages.eq_def, hv, hempty]
    · obtain ⟨i, hi, hlt⟩ : ∃ i, currentIndex state app.selectedSeq = some i ∧ i < state.recentMessages.length :=
        currentIndex_lt hempty
      have hpos : 0 < state.recentMessages.length := List.length_pos_iff.mpr hempty
      by_cases hf : app.focus = .messages
      · simp [renderMessages.eq_def, hv, hempty, hf, hi, hlt]
      · simp [renderMessages.eq_def, hv, hempty, hf, checkedSub, Nat.one_le_iff_ne_zero, hpos]

lemma step_moves (input : Input) (hc : app.Consistent) :
    ∃ app', app.step serde tree input = some app' ∧ app.Moves serde input app' := by
  cases input with
  | frame state now =>
    obtain ⟨panel, hpanel, -⟩ := app.renderMessages_total state now
    rw [step, hpanel]
    exact ⟨_, rfl, .idle _ False.elim id⟩
  | event event state now =>
    cases event with
    | key key => exact handleKey_moves key hc
    | _ => exact ⟨_, rfl, .idle app.treeState False.elim id⟩

lemma moves_of_step (hc : app.Consistent) (h : app.step serde tree input = some app') : app.Moves serde input app' := by
  obtain ⟨moved, hmoved, hmoves⟩ : ∃ moved, app.step serde tree input = some moved ∧ app.Moves serde input moved :=
    app.step_moves input hc
  rw [h] at hmoved
  exact Option.some.inj hmoved ▸ hmoves

section Moved

variable (hm : app.Moves serde input app')

include hm

lemma Moves.consistent (hc : app.Consistent) : app'.Consistent := by
  intro hf
  cases hm with
  | idle | quit => exact hc hf
  | leavePanel => exact ⟨rfl, rfl⟩
  | enterPanel => cases hf
  | back hf' | select _ hf' | scroll _ hf' =>
    rw [hf'] at hf
    cases hf
  | opened ho =>
    rw [ho.selects.focus] at hf
    cases hf

lemma Moves.shouldQuit_iff : app'.shouldQuit = true ↔ app.shouldQuit = true ∨ app.Quits input := by
  cases hm with
  | quit _ hq => exact iff_of_true rfl (.inr hq)
  | idle _ _ hq | enterPanel _ _ hq | leavePanel _ hq | back _ _ hq | select _ _ _ hq | scroll _ _ _ _ hq _
  | opened _ _ hq => exact (or_iff_left hq).symm

lemma Moves.detail {scroll' : UInt16} (hd : app'.messageView = .detail message scroll') : ¬ input.Leaves ∧
    (app.Opens message input ∨ ∃ scroll, app.messageView = .detail message scroll) := by
  cases hm with
  | idle _ hl | quit hl =>
    refine ⟨fun hleaves => ?_, .inr ⟨scroll', hd⟩⟩
    rw [hl hleaves] at hd
    cases hd
  | enterPanel | leavePanel | back => cases hd
  | select _ _ hv =>
    rw [hv] at hd
    cases hd
  | scroll _ _ hv hl =>
    cases hd
    exact ⟨hl, .inr ⟨_, hv⟩⟩
  | opened ho hl =>
    cases hd
    exact ⟨hl, .inl ho⟩

lemma Moves.of_detail {scroll : UInt16} (hd : app.messageView = .detail message scroll) :
    (input.Leaves → app'.messageView = .list) ∧
      (¬ input.Leaves → ∃ scroll', app'.messageView = .detail message scroll') := by
  cases hm with
  | idle _ hl | quit hl => exact ⟨hl, fun _ => ⟨scroll, hd⟩⟩
  | enterPanel _ hl | leavePanel hl | back _ hl => exact ⟨fun _ => rfl, absurd hl⟩
  | select _ _ hv =>
    rw [hv] at hd
    cases hd
  | scroll scroll' _ hv hl =>
    rw [hv] at hd
    cases hd
    exact ⟨fun h => absurd h hl, fun _ => ⟨scroll', rfl⟩⟩
  | opened ho =>
    rw [ho.selects.list] at hd
    cases hd

end Moved

end App

theorem view_model_invariant {σ : Type} (serde : SerdeJson) (tree : TreeWidget σ) (header : String)
    (inputs : List Input) :
    ∃ app, exec (App.step serde tree) (App.new tree header) inputs = some app ∧
    (app.focus = .tree → app.messageView = .list ∧ app.selectedSeq = none) ∧
    (∀ message scroll, app.messageView = .detail message scroll → app.focus = .messages ∧
      Since (App.step serde tree) (App.Opens · message) (¬ Input.Leaves ·) (App.new tree header) inputs) ∧
    (app.shouldQuit = true ↔ Sometime (App.step serde tree) App.Quits (App.new tree header) inputs) ∧
    (∀ input, ∃ app', app.step serde tree input = some app' ∧
      ∀ message scroll, app.messageView = .detail message scroll →
        (input.Leaves → app'.messageView = .list) ∧
          (¬ input.Leaves → ∃ scroll', app'.messageView = .detail message scroll')) ∧
    ∀ state : AppState,
      (∀ now, ∃ panel, app.renderMessages serde state now = some panel ∧
        (∀ message scroll, app.messageView = .detail message scroll →
          ∃ offset, panel.body = .lines (detailLines serde message now) offset) ∧
        ∀ rows selected highlight, panel.body = .rows rows selected highlight →
          selected < rows.length ∧ rows.length = state.recentMessages.length) ∧
      (state.recentMessages ≠ [] → ∀ delta, ∃ i, nextIndex state app.selectedSeq delta = some i ∧
        i < state.recentMessages.length) := by
  have hkeeps : ∀ (app : App σ) input app', app.Consistent → app.step serde tree input = some app' →
      app'.Consistent := fun app input app' hc h => (App.moves_of_step hc h).consistent hc
  have hnew : (App.new tree header).Consistent := fun _ => ⟨rfl, rfl⟩
  have htotal : ∀ (app : App σ) input, app.Consistent →
      ∃ app', App.step serde tree app input = some app' ∧ app'.Consistent := by
    intro app input hc
    obtain ⟨app', hstep, hmoves⟩ := App.step_moves input hc
    exact ⟨app', hstep, hmoves.consistent hc⟩
  obtain ⟨app, hafter, hc⟩ := exec_total htotal hnew inputs
  refine ⟨app, hafter, hc, fun message scroll hd => ⟨?_, ?_⟩, ?_, fun input => ?_, fun state => ⟨fun now => ?_, ?_⟩⟩
  · cases hf : app.focus with
    | messages => rfl
    | tree =>
      rw [(hc hf).1] at hd
      cases hd
  · rcases exec_since (P := fun app => ∃ scroll, app.messageView = .detail message scroll) hkeeps
      (fun app input app' hc h ⟨scroll, hd⟩ => (App.moves_of_step hc h).detail hd) hnew hafter ⟨scroll, hd⟩ with
      ⟨⟨_, hlist⟩, -⟩ | hsince
    · cases hlist
    · exact hsince
  · rw [exec_flag_iff (P := fun app => app.shouldQuit = true) hkeeps
      (fun app input app' hc h => (App.moves_of_step hc h).shouldQuit_iff) hnew hafter]
    exact or_iff_right (by simp [App.new])
  · obtain ⟨app', hstep, hmoves⟩ := App.step_moves input hc
    exact ⟨app', hstep, fun message scroll hd => hmoves.of_detail hd⟩
  · exact app.renderMessages_total state now
  · exact fun hne delta => nextIndex_lt hne

end PubSubTui.Ui
