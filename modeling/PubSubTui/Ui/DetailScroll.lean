import PubSubTui.Ui.ViewModel

/-! Scrolling through an opened message. The number of its lines is narrowed to sixteen bits before it bounds the
offset. -/

namespace PubSubTui.Ui

open Library.ActionSystem Observe

section Bounds

variable (serde : SerdeJson) (message : RecentMessage) (now : Instant)

def lineCount : ℕ := (detailLines serde message 0).length

def lastOffset : UInt16 := saturatingSub (UInt16.ofNat (lineCount serde message)) 1

lemma toNat_lastOffset : (lastOffset serde message).toNat = lineCount serde message % 2 ^ 16 - 1 := by
  rw [lastOffset, toNat_saturatingSub, UInt16.toNat_ofNat']
  rfl

lemma toNat_scrollDown (scroll rows : UInt16) : (App.scrollDown serde now message scroll rows).toNat =
    min (scroll.toNat + rows.toNat) (lastOffset serde message).toNat := by
  have hscroll : App.scrollDown serde now message scroll rows =
    min (saturatingAdd scroll rows) (lastOffset serde message) := rfl
  have hlast := (lastOffset serde message).toNat_lt
  rw [hscroll, toNat_min, toNat_saturatingAdd]
  omega

end Bounds

def KeyEvent.ScrollsBy (key : KeyEvent) (rows : UInt16) : Prop :=
  key.kind = .press ∧ ((key.code = .down ∨ key.code = .char 'j') ∧ rows = 1 ∨ key.code = .pageDown ∧ rows = 10)

namespace App

variable {σ : Type} {serde : SerdeJson} {tree : TreeWidget σ} {app app' : App σ} {state : AppState} {now : Instant}
  {key : KeyEvent} {message : RecentMessage} {scroll rows : UInt16} {inputs : List Input}

structure Reads (serde : SerdeJson) (message : RecentMessage) (app : App σ) (scroll : UInt16) : Prop where
  focus : app.focus = .messages
  detail : app.messageView = .detail message scroll
  bounded : scroll ≤ lastOffset serde message

lemma handleEvent_scroll (h : app.Reads serde message scroll) (hkey : key.ScrollsBy rows) :
    app.handleEvent serde tree state now (.key key) =
      some { app with messageView := .detail message (scrollDown serde now message scroll rows) } := by
  obtain ⟨hpress, ⟨hcode, rfl⟩ | ⟨hcode, rfl⟩⟩ := hkey
  · rcases hcode with hcode | hcode
    · rw [handleEvent_messages hpress h.focus (by simp [hcode])]
      simp only [handleMessagesKey, h.detail, hcode]
    · rw [handleEvent_messages hpress h.focus (by simp [hcode])]
      simp only [handleMessagesKey, h.detail, hcode]
  · rw [handleEvent_messages hpress h.focus (by simp [hcode])]
    simp only [handleMessagesKey, h.detail, hcode]

lemma Reads.consistent (h : app.Reads serde message scroll) : app.Consistent := by
  intro hf
  rw [h.focus] at hf
  cases hf

lemma Moves.reads {input : Input} (hm : app.Moves serde input app') (hl : ¬ input.Leaves)
    (h : app.Reads serde message scroll) : ∃ scroll', app'.Reads serde message scroll' := by
  cases hm with
  | idle | quit => exact ⟨scroll, h.focus, h.detail, h.bounded⟩
  | enterPanel _ hl' | leavePanel hl' | back _ hl' => exact absurd hl' hl
  | select _ _ hv =>
    rw [h.detail] at hv
    cases hv
  | scroll scroll' _ hv _ _ hs =>
    rw [h.detail] at hv
    cases hv
    refine ⟨scroll', h.focus, rfl, ?_⟩
    rcases hs with hs | ⟨now, rows, rfl⟩
    · exact UInt16.le_trans hs h.bounded
    · rw [UInt16.le_iff_toNat_le, toNat_scrollDown]
      exact Nat.min_le_right _ _
  | opened ho =>
    have hv := ho.selects.list
    rw [h.detail] at hv
    cases hv

lemma reads_of_exec (h : app.Reads serde message scroll) (hl : ∀ input ∈ inputs, ¬ input.Leaves)
    (hexec : exec (step serde tree) app inputs = some app') : ∃ scroll', app'.Reads serde message scroll' := by
  refine exec_invariant_along (P := fun app => ∃ scroll, app.Reads serde message scroll) ?_ ⟨scroll, h⟩
    (along_of_forall_mem hl) hexec
  rintro app input app' ⟨scroll, h⟩ hl hstep
  exact (moves_of_step h.consistent hstep).reads hl h

lemma exec_presses (tree : TreeWidget σ) (state : AppState) (now : Instant) (h : app.Reads serde message scroll)
    (hkey : key.ScrollsBy rows) (presses : ℕ) : ∃ scroll',
    exec (step serde tree) app (List.replicate presses (.event (.key key) state now)) =
        some { app with messageView := .detail message scroll' } ∧
      scroll'.toNat = min (scroll.toNat + presses * rows.toNat) (lastOffset serde message).toNat := by
  have hle := UInt16.le_iff_toNat_le.mp h.bounded
  induction presses generalizing app scroll with
  | zero =>
    refine ⟨scroll, ?_, by omega⟩
    rw [List.replicate_zero, exec_nil, ← h.detail]
  | succ presses ih =>
    have hpress : app.step serde tree (.event (.key key) state now) =
      some { app with messageView := .detail message (scrollDown serde now message scroll rows) } :=
        handleEvent_scroll h hkey
    have hnext : ({ app with messageView := .detail message (scrollDown serde now message scroll rows) } : App σ).Reads
        serde message (scrollDown serde now message scroll rows) := by
      refine ⟨h.focus, rfl, ?_⟩
      rw [UInt16.le_iff_toNat_le, toNat_scrollDown]
      exact Nat.min_le_right _ _
    obtain ⟨scroll', hexec, hscroll'⟩ := ih hnext (UInt16.le_iff_toNat_le.mp hnext.bounded)
    refine ⟨scroll', ?_, ?_⟩
    · rw [List.replicate_succ, exec_cons hpress]
      exact hexec
    · rw [hscroll', toNat_scrollDown, Nat.succ_mul]
      omega

lemma renderMessages_reads (h : app.Reads serde message scroll) : ∃ panel,
    app.renderMessages serde state now = some panel ∧ panel.body = .lines (detailLines serde message now) scroll := by
  have hmin : min scroll (lastOffset serde message) = scroll := by
    apply UInt16.toNat_inj.mp
    rw [toNat_min]
    exact Nat.min_eq_left (UInt16.le_iff_toNat_le.mp h.bounded)
  simp only [renderMessages.eq_def, h.detail]
  exact ⟨_, rfl, congrArg (PanelBody.lines _) hmin⟩

end App

theorem every_line_reached_iff {σ : Type} (serde : SerdeJson) (tree : TreeWidget σ) (message : RecentMessage)
    (app : App σ) (hf : app.focus = .messages) (hv : app.messageView = .detail message 0) :
    (∀ inputs app' scroll, (∀ input ∈ inputs, ¬ input.Leaves) →
      exec (App.step serde tree) app inputs = some app' → app'.messageView = .detail message scroll →
      ∀ (key : KeyEvent) (rows : UInt16) (state : AppState) (now : Instant), key.ScrollsBy rows →
        (∃ scroll', app'.handleEvent serde tree state now (.key key) =
            some { app' with messageView := .detail message scroll' } ∧
          scroll ≤ scroll' ∧ scroll'.toNat ≤ min (lineCount serde message - 1) 65535) ∧
        (∃ presses last, exec (App.step serde tree) app' (List.replicate presses (.event (.key key) state now)) =
            some { app' with messageView := .detail message last } ∧
          last.toNat = min (lineCount serde message - 1) 65535) ∧
        ∃ panel, app'.renderMessages serde state now = some panel ∧
          panel.body = .lines (detailLines serde message now) scroll) ↔
      lineCount serde message ≤ 65535 := by
  have hstart : app.Reads serde message 0 := ⟨hf, hv, UInt16.zero_le⟩
  have hlast := toNat_lastOffset serde message
  constructor
  · intro hall
    have hdown : KeyEvent.ScrollsBy { code := .down } 1 := ⟨rfl, .inl ⟨.inl rfl, rfl⟩⟩
    obtain ⟨-, ⟨presses, last, hexec, htop⟩, -⟩ := hall [] app 0 (by simp) rfl hv { code := .down } 1 {} 0 hdown
    obtain ⟨reached, hreached, hbound⟩ := App.exec_presses tree {} 0 hstart hdown presses
    have hsame : last = reached := by
      have hview := congrArg (Option.map App.messageView) (hexec.symm.trans hreached)
      cases hview
      rfl
    rw [← hsame, htop] at hbound
    omega
  · intro hfits inputs app' scroll hl hexec hd key rows state now hkey
    obtain ⟨scroll', h⟩ := App.reads_of_exec hstart hl hexec
    obtain rfl : scroll' = scroll := by
      have hsame := h.detail.symm.trans hd
      cases hsame
      rfl
    have hle := UInt16.le_iff_toNat_le.mp h.bounded
    have hrows : 1 ≤ rows.toNat := by
      obtain ⟨-, ⟨-, rfl⟩ | ⟨-, rfl⟩⟩ := hkey <;> decide
    refine ⟨⟨_, App.handleEvent_scroll h hkey, ?_, ?_⟩, ?_, App.renderMessages_reads h⟩
    · rw [UInt16.le_iff_toNat_le, toNat_scrollDown]
      omega
    · rw [toNat_scrollDown]
      omega
    · obtain ⟨last, hpresses, hlast'⟩ := App.exec_presses tree state now h hkey (lineCount serde message)
      refine ⟨_, last, hpresses, ?_⟩
      rw [hlast']
      have hmul := Nat.le_mul_of_pos_right (lineCount serde message) hrows
      omega

def newlines (n : ℕ) : RecentMessage :=
  ⟨0, "t", Proxy.utf8 (String.ofList (List.replicate n '\n')), [], n, false, 0⟩

lemma length_splitOn_replicate (n : ℕ) : ((List.replicate n '\n').splitOn '\n').length = n + 1 := by
  induction n with
  | zero => rfl
  | succ n ih =>
    have hsplit : ('\n' :: List.replicate n '\n').splitOn '\n' =
        [].splitOn '\n' ++ (List.replicate n '\n').splitOn '\n' := List.splitOn_append_cons_self [] _
    rw [List.replicate_succ, hsplit, List.length_append, ih, List.splitOn_nil, List.length_singleton, Nat.add_comm]

lemma lineCount_newlines {n : ℕ} (hn : 0 < n) : lineCount noJson (newlines n) = n + 6 := by
  have hfeeds : (String.ofList (List.replicate n '\n')).toList = List.replicate n '\n' := String.toList_ofList
  obtain ⟨lines, htext, hlength⟩ : ∃ lines, asText (newlines n).data = some lines ∧
      lines.length = (splitLines (String.ofList (List.replicate n '\n'))).length := by
    apply asText_utf8
    rw [hfeeds]
    exact fun c hc => .inr (.inr (.inl (List.eq_of_mem_replicate hc)))
  have hne : (newlines n).data ≠ [] := by
    intro hnil
    have hempty : fromUtf8 (newlines n).data = some "" := by rw [hnil]; exact fromUtf8_utf8 ""
    rw [newlines, fromUtf8_utf8, Option.some.injEq] at hempty
    have hlength := congrArg List.length hfeeds
    rw [hempty, List.length_replicate] at hlength
    exact hn.ne hlength
  have hbody : renderBody noJson (newlines n).data = { label := "text", lines } := by
    rw [renderBody, if_neg hne, htext]
    rfl
  rw [splitLines, hfeeds, length_splitOn_replicate] at hlength
  rw [lineCount, detailLines, hbody]
  simp [attributeLines, newlines, hlength]

def reading (message : RecentMessage) : App Unit :=
  { App.new stillTree "" with focus := .messages, messageView := .detail message 0 }

theorem every_line_reached_of_newline : ∃ presses last,
    exec (App.step noJson stillTree) (reading (newlines 1)) (List.replicate presses (.event (.key { code := .down }) {} 0)) =
        some { reading (newlines 1) with messageView := .detail (newlines 1) last } ∧ last.toNat = 6 := by
  have hcount : lineCount noJson (newlines 1) = 7 := lineCount_newlines Nat.one_pos
  have hall := (every_line_reached_iff noJson stillTree (newlines 1) (reading (newlines 1)) rfl rfl).mpr (by omega)
  obtain ⟨-, ⟨presses, last, hexec, hlast⟩, -⟩ :=
    hall [] _ 0 (by simp) rfl rfl { code := .down } 1 {} 0 ⟨rfl, .inl ⟨.inl rfl, rfl⟩⟩
  exact ⟨presses, last, hexec, by rw [hlast, hcount]; rfl⟩

theorem last_lines_unreachable_of_newlines : lineCount noJson (newlines 65536) = 65542 ∧ ∀ presses, ∃ scroll : UInt16,
    exec (App.step noJson stillTree) (reading (newlines 65536))
        (List.replicate presses (.event (.key { code := .pageDown }) {} 0)) =
      some { reading (newlines 65536) with messageView := .detail (newlines 65536) scroll } ∧ scroll.toNat ≤ 5 := by
  have hcount : lineCount noJson (newlines 65536) = 65542 := lineCount_newlines (by omega)
  refine ⟨hcount, fun presses => ?_⟩
  have hreads : (reading (newlines 65536)).Reads noJson (newlines 65536) 0 := ⟨rfl, rfl, UInt16.zero_le⟩
  obtain ⟨scroll, hexec, hscroll⟩ := App.exec_presses stillTree {} 0 hreads
    (⟨rfl, .inr ⟨rfl, rfl⟩⟩ : KeyEvent.ScrollsBy { code := .pageDown } 10) presses
  refine ⟨scroll, hexec, ?_⟩
  rw [hscroll, toNat_lastOffset, hcount]
  exact Nat.min_le_right _ _

end PubSubTui.Ui
