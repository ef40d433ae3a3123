import Mathlib.Tactic

/-! Channels that keep only the value sent last. A channel remembers all it was sent and a receiver how many
values it has seen, so that what is passed over is a fact about their values. -/

namespace PubSubTui.Library

structure Watch (α : Type*) where
  initial : α
  sent : List α := []
  hasSender : Bool := true
  hasReceiver : Bool := true

inductive Signal
  | pending
  | changed
  | closed
  deriving DecidableEq

namespace Watch

variable {α : Type*}

def history (w : Watch α) : List α := w.initial :: w.sent

def version (w : Watch α) : ℕ := w.sent.length

def latest (w : Watch α) : α := w.sent.getLastD w.initial

/-- A value that no receiver is left for is not stored. -/
def send (w : Watch α) (a : α) : Option (Watch α) :=
  if w.hasReceiver then some { w with sent := w.sent ++ [a] } else none

def post (w : Watch α) (a : α) : Watch α := (w.send a).getD w

/-- A value not yet seen is found before the end of the senders is. -/
def signal (w : Watch α) (seen : ℕ) : Signal :=
  if seen ≠ w.version then .changed else if w.hasSender then .pending else .closed

variable {w w' : Watch α} {a : α} {seen : ℕ}

lemma send_some (h : w.send a = some w') :
    w.hasReceiver = true ∧ w' = { w with sent := w.sent ++ [a] } := by
  rw [send] at h
  split_ifs at h with hr
  exact ⟨hr, (Option.some.inj h).symm⟩

lemma send_none (h : w.send a = none) : w.hasReceiver = false := by
  rw [send] at h
  split_ifs at h with hr
  simpa using hr

lemma send_of_receiver (h : w.hasReceiver = true) : w.send a = some { w with sent := w.sent ++ [a] } := by
  rw [send, if_pos h]

lemma post_of_receiver (h : w.hasReceiver = true) : w.post a = { w with sent := w.sent ++ [a] } := by
  rw [post, send_of_receiver h, Option.getD_some]

lemma post_unread (h : w.hasReceiver = false) : w.post a = w := by
  rw [post, send, h]
  rfl

@[simp] lemma hasReceiver_post : (w.post a).hasReceiver = w.hasReceiver := by
  cases h : w.hasReceiver with
  | true => rw [post_of_receiver h, h]
  | false => rw [post_unread h, h]

@[simp] lemma hasSender_post : (w.post a).hasSender = w.hasSender := by
  cases h : w.hasReceiver with
  | true => rw [post_of_receiver h]
  | false => rw [post_unread h]

@[simp] lemma latest_snoc : ({ w with sent := w.sent ++ [a] } : Watch α).latest = a := by
  simp [latest]

@[simp] lemma version_snoc : ({ w with sent := w.sent ++ [a] } : Watch α).version = w.version + 1 := by
  simp [version]

@[simp] lemma history_snoc : ({ w with sent := w.sent ++ [a] } : Watch α).history = w.history ++ [a] := rfl

lemma getLast?_history : w.history.getLast? = some w.latest := by
  rw [history, latest, List.getLast?_cons, List.getLastD_eq_getLast?]

lemma history_version : w.history[w.version]? = some w.latest := by
  rw [← getLast?_history, List.getLast?_eq_getElem?]
  rfl

lemma signal_ne_closed (h : w.hasSender = true) : w.signal seen ≠ .closed := by
  rw [signal, if_pos h]
  split_ifs <;> simp

lemma signal_changed_iff : w.signal seen = .changed ↔ seen ≠ w.version := by
  rw [signal]
  split_ifs with hseen <;> simp_all

lemma signal_pending (h : w.signal seen ≠ .changed) : seen = w.version := by
  by_contra hseen
  exact h (signal_changed_iff.mpr hseen)

structure Sees (w : Watch α) (seen : ℕ) (v : α) : Prop where
  seen_le : seen ≤ w.version
  current : seen = w.version → v = w.latest

variable {v : α}

lemma sees_latest (h : seen ≤ w.version) : w.Sees seen w.latest := ⟨h, fun _ => rfl⟩

lemma Sees.snoc (h : w.Sees seen v) (a : α) : ({ w with sent := w.sent ++ [a] } : Watch α).Sees seen v := by
  have hlt : seen < ({ w with sent := w.sent ++ [a] } : Watch α).version := by
    rw [version_snoc]
    exact Nat.lt_succ_of_le h.seen_le
  exact ⟨hlt.le, fun hseen => absurd hseen hlt.ne⟩

lemma Sees.post (h : w.Sees seen v) (a : α) : (w.post a).Sees seen v := by
  cases hr : w.hasReceiver with
  | true =>
    rw [post_of_receiver hr]
    exact h.snoc a
  | false =>
    rw [post_unread hr]
    exact h

lemma Sees.eq_latest (h : w.Sees seen v) (hs : w.signal seen ≠ .changed) : v = w.latest :=
  h.current (signal_pending hs)

end Watch

end PubSubTui.Library
