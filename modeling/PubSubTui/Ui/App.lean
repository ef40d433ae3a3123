import PubSubTui.Ui.MessageView

/-! The view-model: what the keys do to it, and what the messages panel draws of it. -/

namespace PubSubTui.Ui

open Observe

inductive KeyCode
  | backspace | enter | left | right | up | down | home | end_ | pageUp | pageDown | tab | backTab | delete | insert
  | esc | f (n : ℕ) | char (c : Char)
  /-- The lock, media and modifier keys. -/
  | other (code : ℕ)
  deriving DecidableEq

inductive KeyEventKind
  | press | repeat_ | release
  deriving DecidableEq

structure KeyEvent where
  code : KeyCode
  control : Bool := false
  kind : KeyEventKind := .press
  deriving DecidableEq

inductive Event
  | key (key : KeyEvent)
  | focusGained | focusLost | mouse | paste (text : String) | resize (columns rows : UInt16)
  deriving DecidableEq

inductive Focus
  | tree | messages
  deriving DecidableEq

inductive MessageView
  | list
  | detail (message : RecentMessage) (scroll : UInt16)
  deriving DecidableEq

/-- The tree widget's state is its own; `draw` is what a frame leaves of it. -/
structure TreeWidget (σ : Type) where
  default : σ
  keyUp : σ → σ
  keyDown : σ → σ
  keyLeft : σ → σ
  keyRight : σ → σ
  toggleSelected : σ → σ
  selectFirst : σ → σ
  selectLast : σ → σ
  draw : AppState → σ → σ

structure App (σ : Type) where
  header : String
  treeState : σ
  focus : Focus
  selectedSeq : Option ℕ
  messageView : MessageView
  shouldQuit : Bool
  deriving DecidableEq

section Numbers

def saturatingAdd (a b : UInt16) : UInt16 := if a.toNat + b.toNat < 2 ^ 16 then a + b else 65535

def saturatingSub (a b : UInt16) : UInt16 := if b ≤ a then a - b else 0

lemma toNat_saturatingAdd (a b : UInt16) : (saturatingAdd a b).toNat = min (a.toNat + b.toNat) (2 ^ 16 - 1) := by
  rw [saturatingAdd]
  split_ifs with h
  · rw [UInt16.toNat_add, Nat.mod_eq_of_lt h]
    omega
  · rw [Nat.min_eq_right (by omega)]
    rfl

lemma toNat_saturatingSub (a b : UInt16) : (saturatingSub a b).toNat = a.toNat - b.toNat := by
  rw [saturatingSub]
  split_ifs with h
  · exact UInt16.toNat_sub_of_le _ _ h
  · rw [UInt16.le_iff_toNat_le] at h
    exact (Nat.sub_eq_zero_of_le (Nat.le_of_not_le h)).symm

lemma saturatingSub_le (a b : UInt16) : saturatingSub a b ≤ a := by
  rw [UInt16.le_iff_toNat_le, toNat_saturatingSub]
  exact Nat.sub_le _ _

lemma toNat_min (a b : UInt16) : (min a b).toNat = min a.toNat b.toNat := by
  change (if a ≤ b then a else b).toNat = min a.toNat b.toNat
  by_cases h : a ≤ b
  · rw [if_pos h, Nat.min_eq_left (UInt16.le_iff_toNat_le.mp h)]
  · rw [if_neg h, Nat.min_eq_right (Nat.le_of_not_le (mt UInt16.le_iff_toNat_le.mpr h))]

def checkedSub (a b : ℕ) : Option ℕ := if b ≤ a then some (a - b) else none

def formatAge (age : ℕ) : String :=
  let secs := age / 10 ^ 9
  if secs < 1 then "now"
  else if secs < 60 then toString secs ++ "s"
  else if secs < 3600 then toString (secs / 60) ++ "m"
  else if secs < 86400 then toString (secs / 3600) ++ "h"
  else toString (secs / 86400) ++ "d"

/-- A quotient to one decimal, halves to even: exactly what the division of doubles prints below `2 ^ 53`. -/
def formatTenths (bytes unit : ℕ) : String :=
  let tenths := bytes * 10 / unit
  let twice := 2 * (bytes * 10 % unit)
  let rounded := if unit < twice ∨ unit = twice ∧ tenths % 2 = 1 then tenths + 1 else tenths
  toString (rounded / 10) ++ "." ++ toString (rounded % 10)

def formatSize (bytes : ℕ) : String :=
  if bytes < 1024 then toString bytes ++ "B"
  else if bytes < 1024 * 1024 then formatTenths bytes 1024 ++ "KB"
  else formatTenths bytes (1024 * 1024) ++ "MB"

example : formatSize 1280 = "1.2KB" := by decide

end Numbers

section Lines

variable (serde : SerdeJson)

def labelled (label value : String) : Line := [⟨label ++ ": ", .label⟩, ⟨value, .count⟩]

def messageRow (now : Instant) (message : RecentMessage) : Line :=
  [⟨message.topic, .label⟩,
    ⟨"  " ++ formatSize message.originalLen ++ "  " ++ formatAge (now - message.seen), .base⟩]

def attributeLines (attributes : List (String × String)) : List Line :=
  if attributes = [] then []
  else [⟨"Attributes:", .title⟩] :: attributes.map fun (key, value) => [⟨"  " ++ key ++ ": ", .label⟩, ⟨value, .fg .white⟩]

def detailLines (message : RecentMessage) (now : Instant) : List Line :=
  let body := renderBody serde message.data
  let size := toString message.originalLen ++ " bytes" ++
    if message.truncated then " (showing first " ++ toString message.data.length ++ ")" else ""
  [labelled "Topic" message.topic, labelled "Age" (formatAge (now - message.seen)), labelled "Size" size,
    labelled "Format" body.label] ++ attributeLines message.attributes ++
    [⟨String.ofList (List.replicate 8 '\u2500'), .border⟩] :: body.lines

end Lines

def indexOfSeq (state : AppState) (seq : ℕ) : Option ℕ := state.recentMessages.findIdx? (·.seq = seq)

/-- Where the selection is in the buffer. The index of the newest message is computed even where it is not used. -/
def currentIndex (state : AppState) (selectedSeq : Option ℕ) : Option ℕ := do
  let last ← checkedSub state.recentMessages.length 1
  some ((selectedSeq.bind (indexOfSeq state)).getD last)

def nextIndex (state : AppState) (selectedSeq : Option ℕ) (delta : ℤ) : Option ℕ := do
  let current ← currentIndex state selectedSeq
  some (max 0 (min (current + delta) (state.recentMessages.length - 1))).toNat

inductive PanelBody
  | lines (lines : List Line) (scroll : UInt16)
  | hint (line : Line)
  | rows (rows : List Line) (selected : ℕ) (highlight : Option (Style × String))
  deriving DecidableEq

structure Panel where
  title : Span
  border : Style
  body : PanelBody
  deriving DecidableEq

namespace App

variable {σ : Type} (serde : SerdeJson) (tree : TreeWidget σ)

def new (header : String) : App σ where
  header
  treeState := tree.default
  focus := .tree
  selectedSeq := none
  messageView := .list
  shouldQuit := false

variable (app : App σ) (state : AppState) (now : Instant)

def toggleFocus : App σ :=
  match app.focus with
  | .tree =>
    { app with
      focus := .messages, messageView := .list, selectedSeq := state.recentMessages.getLast?.map RecentMessage.seq }
  | .messages => { app with focus := .tree, messageView := .list, selectedSeq := none }

def handleTreeKey (code : KeyCode) : App σ :=
  match code with
  | .esc => { app with shouldQuit := true }
  | .up | .char 'k' => { app with treeState := tree.keyUp app.treeState }
  | .down | .char 'j' => { app with treeState := tree.keyDown app.treeState }
  | .left | .char 'h' => { app with treeState := tree.keyLeft app.treeState }
  | .right | .char 'l' => { app with treeState := tree.keyRight app.treeState }
  | .enter | .char ' ' => { app with treeState := tree.toggleSelected app.treeState }
  | .home => { app with treeState := tree.selectFirst app.treeState }
  | .end_ => { app with treeState := tree.selectLast app.treeState }
  | _ => app

/-- No value stands for an index that underflows. -/
def moveSelection (delta : ℤ) : Option (App σ) :=
  if state.recentMessages = [] then some { app with selectedSeq := none }
  else (nextIndex state app.selectedSeq delta).map fun next =>
    { app with selectedSeq := state.recentMessages[next]?.map RecentMessage.seq }

def openSelected : App σ :=
  match (app.selectedSeq.bind (indexOfSeq state)).bind (state.recentMessages[·]?) with
  | some message => { app with messageView := .detail message 0 }
  | none => app

def scrollDown (message : RecentMessage) (scroll rows : UInt16) : UInt16 :=
  let max := UInt16.ofNat (detailLines serde message now).length
  min (saturatingAdd scroll rows) (saturatingSub max 1)

def handleMessagesKey (code : KeyCode) : Option (App σ) :=
  match app.messageView with
  | .detail message scroll =>
    match code with
    | .esc | .left | .backspace => some { app with messageView := .list }
    | .up | .char 'k' => some { app with messageView := .detail message (saturatingSub scroll 1) }
    | .down | .char 'j' => some { app with messageView := .detail message (scrollDown serde now message scroll 1) }
    | .pageUp => some { app with messageView := .detail message (saturatingSub scroll 10) }
    | .pageDown => some { app with messageView := .detail message (scrollDown serde now message scroll 10) }
    | .home => some { app with messageView := .detail message 0 }
    | _ => some app
  | .list =>
    match code with
    | .esc => some { app with focus := .tree, selectedSeq := none }
    | .up | .char 'k' => app.moveSelection state (-1)
    | .down | .char 'j' => app.moveSelection state 1
    | .home => some { app with selectedSeq := state.recentMessages.head?.map RecentMessage.seq }
    | .end_ => some { app with selectedSeq := state.recentMessages.getLast?.map RecentMessage.seq }
    | .enter => some (app.openSelected state)
    | _ => some app

def handleEvent (event : Event) : Option (App σ) :=
  match event with
  | .key key =>
    if key.kind ≠ .press then some app
    else if key.control ∧ key.code = .char 'c' then some { app with shouldQuit := true }
    else if key.code = .char 'q' then some { app with shouldQuit := true }
    else if key.code = .tab then some (app.toggleFocus state)
    else match app.focus with
      | .tree => some (app.handleTreeKey tree key.code)
      | .messages => app.handleMessagesKey serde state now key.code
  | _ => some app

def borderStyle (panel : Focus) : Style := if app.focus = panel then .borderFocused else .border

def renderMessages : Option Panel :=
  match app.messageView with
  | .detail message scroll =>
    let lines := detailLines serde message now
    let max := UInt16.ofNat lines.length
    some
      { title := ⟨" Message #" ++ toString message.seq ++ " ", .title⟩
        border := app.borderStyle .messages
        body := .lines lines (min scroll (saturatingSub max 1)) }
  | .list => do
    let title : Span := ⟨" Messages (" ++ toString state.recentMessages.length ++ ") ", .title⟩
    let body ←
      if state.recentMessages = [] then
        some (.hint [⟨"Published messages appear here as they arrive.", .label⟩])
      else
        let rows := state.recentMessages.map (messageRow now)
        if app.focus = .messages then
          (currentIndex state app.selectedSeq).map fun index => .rows rows index (some (.selected, "\u00bb "))
        else
          -- Unfocused, the panel follows the newest message and marks none.
          (checkedSub state.recentMessages.length 1).map fun last => .rows rows last none
    some { title, border := app.borderStyle .messages, body }

end App

inductive Input
  | event (event : Event) (state : AppState) (now : Instant)
  | frame (state : AppState) (now : Instant)

def App.step {σ : Type} (serde : SerdeJson) (tree : TreeWidget σ) (app : App σ) : Input → Option (App σ)
  | .event event state now => app.handleEvent serde tree state now event
  | .frame state now => (app.renderMessages serde state now).map fun _ =>
      { app with treeState := tree.draw state app.treeState }

end PubSubTui.Ui
