import Mathlib.Tactic

/-! Bounded first-in first-out channels with one receiver. A channel remembers what its receiver took,
so that the order of delivery is a fact about its value. -/

namespace PubSubTui.Library

structure Channel (capacity : ℕ) (α : Type*) where
  received : List α
  queue : List α
  closed : Bool
  bounded : queue.length ≤ capacity

inductive SendError
  | full
  | closed
  deriving DecidableEq

namespace Channel

variable {capacity : ℕ} {α : Type*}

def empty : Channel capacity α := ⟨[], [], false, Nat.zero_le _⟩

def sent (c : Channel capacity α) : List α := c.received ++ c.queue

def trySend (c : Channel capacity α) (a : α) : Except SendError (Channel capacity α) :=
  if c.closed then .error .closed
  else if h : c.queue.length < capacity then
    .ok { c with queue := c.queue ++ [a], bounded := by simpa using h }
  else .error .full

def recv (c : Channel capacity α) : Option (Channel capacity α) :=
  if c.closed then none
  else match h : c.queue with
    | [] => none
    | a :: queue => some { c with
        received := c.received ++ [a]
        queue
        bounded := by have := c.bounded; simp [h] at this; omega }

/-- Send without waiting; a value the channel cannot take is lost. -/
def offer (c : Channel capacity α) (a : α) : Channel capacity α :=
  match c.trySend a with
  | .ok d => d
  | .error _ => c

def close (c : Channel capacity α) : Channel capacity α := { c with closed := true }

variable {c d : Channel capacity α} {a : α}

@[simp] lemma sent_empty : (empty : Channel capacity α).sent = [] := rfl
@[simp] lemma received_empty : (empty : Channel capacity α).received = [] := rfl
@[simp] lemma closed_empty : (empty : Channel capacity α).closed = false := rfl
@[simp] lemma sent_close : c.close.sent = c.sent := rfl
@[simp] lemma received_close : c.close.received = c.received := rfl
@[simp] lemma queue_close : c.close.queue = c.queue := rfl
@[simp] lemma closed_close : c.close.closed = true := rfl

lemma trySend_ok (h : c.trySend a = .ok d) :
    c.closed = false ∧ d.closed = false ∧ d.received = c.received ∧ d.queue = c.queue ++ [a] := by
  rw [trySend] at h
  split_ifs at h with hc hq
  cases h
  simp [hc]

lemma sent_trySend (h : c.trySend a = .ok d) : d.sent = c.sent ++ [a] := by
  obtain ⟨-, -, hr, hq⟩ := trySend_ok h
  simp [sent, hr, hq]

lemma trySend_closed (h : c.trySend a = .error .closed) : c.closed = true := by
  rw [trySend] at h
  split_ifs at h with hc hq <;> simp_all

lemma trySend_full (h : c.trySend a = .error .full) :
    c.closed = false ∧ c.queue.length = capacity := by
  have hb := c.bounded
  rw [trySend] at h
  split_ifs at h with hc hq
  · simp at h
  · exact ⟨by simpa using hc, by omega⟩

lemma recv_some (h : c.recv = some d) :
    c.closed = false ∧ d.closed = false ∧
      ∃ a, c.queue = a :: d.queue ∧ d.received = c.received ++ [a] := by
  rw [recv] at h
  split_ifs at h with hc
  split at h
  · simp at h
  · rename_i a queue hq
    cases h
    exact ⟨by simpa using hc, by simpa using hc, a, hq, rfl⟩

lemma sent_recv (h : c.recv = some d) : d.sent = c.sent := by
  obtain ⟨-, -, a, hq, hr⟩ := recv_some h
  simp [sent, hq, hr]

lemma recv_none (h : c.recv = none) (hc : c.closed = false) : c.queue = [] := by
  rw [recv] at h
  rw [hc] at h
  simp only [Bool.false_eq_true, ↓reduceIte] at h
  split at h
  · assumption
  · simp at h

lemma received_prefix_sent : c.received <+: c.sent := List.prefix_append _ _

lemma sent_offer_sublist (c : Channel capacity α) (a : α) : (c.offer a).sent.Sublist (c.sent ++ [a]) := by
  cases h : c.trySend a with
  | ok d => simp [offer, h, sent_trySend h]
  | error e => simp [offer, h]

def poll (c : Channel capacity α) : Option (α × Channel capacity α) :=
  c.recv.bind (fun d => c.queue.head?.map (·, d))

lemma poll_some (h : c.poll = some (a, d)) :
    c.closed = false ∧ d.closed = false ∧ c.queue = a :: d.queue ∧ d.received = c.received ++ [a] := by
  obtain ⟨e, hrecv, hhead⟩ := Option.bind_eq_some_iff.mp h
  obtain ⟨hopen, hopen', b, hq, hr⟩ := recv_some hrecv
  rw [hq] at hhead
  cases hhead
  exact ⟨hopen, hopen', hq, hr⟩

lemma recv_of_poll (h : c.poll = some (a, d)) : c.recv = some d := by
  obtain ⟨e, hrecv, hhead⟩ := Option.bind_eq_some_iff.mp h
  obtain ⟨b, -, heq⟩ := Option.map_eq_some_iff.mp hhead
  cases heq
  exact hrecv

lemma poll_none (h : c.poll = none) (hc : c.closed = false) : c.queue = [] := by
  cases hr : c.recv with
  | none => exact recv_none hr hc
  | some d =>
    obtain ⟨-, -, b, hq, -⟩ := recv_some hr
    simp [poll, hr, hq] at h

@[simp] lemma received_offer (c : Channel capacity α) (a : α) : (c.offer a).received = c.received := by
  cases h : c.trySend a with
  | ok d => simp [offer, h, (trySend_ok h).2.2.1]
  | error e => simp [offer, h]

@[simp] lemma closed_offer (c : Channel capacity α) (a : α) : (c.offer a).closed = c.closed := by
  cases h : c.trySend a with
  | ok d => simp [offer, h, (trySend_ok h).1, (trySend_ok h).2.1]
  | error e => simp [offer, h]

end Channel

end PubSubTui.Library
