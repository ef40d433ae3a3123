import PubSubTui.Proxy.Rest
import PubSubTui.Proxy.StreamingRelay
import PubSubTui.Proxy.Unary

/-! Traffic is counted a moment before it is handed on. The difference between what was counted and what was
handed on is what the two pumps hold. -/

namespace PubSubTui.Proxy

open Library Observe ActionSystem

def acksIn (frames : List StreamingPullRequest) : ℕ := (frames.map (·.ackIds.length)).sum

def messagesOf : Item → ℕ
  | .ok resp => resp.receivedMessages.length
  | .error _ => 0

def messagesIn (items : List Item) : ℕ := (items.map messagesOf).sum

lemma acksIn_append (l k : List StreamingPullRequest) : acksIn (l ++ k) = acksIn l + acksIn k := by
  simp [acksIn]

lemma messagesIn_append (l k : List Item) : messagesIn (l ++ k) = messagesIn l + messagesIn k := by
  simp [messagesIn]

namespace Stream

variable {script : Script} {as bs : List Action} {a : Action} {σ τ s t : Stream}

lemma tally_opening (req : StreamingPullRequest) :
    tally Observation.acked (s.opening req) = 0 ∧ tally Observation.delivered (s.opening req) = 0 := by
  rw [opening]
  split_ifs <;> exact ⟨rfl, rfl⟩

lemma tally_acking (req : StreamingPullRequest) :
    tally Observation.acked (s.acking req) = acksIn [req] ∧ tally Observation.delivered (s.acking req) = 0 := by
  rw [acking]
  split_ifs with h <;> simp [tally, acksIn, Observation.acked, Observation.delivered, h]

lemma tally_delivering (resp : StreamingPullResponse) :
    tally Observation.acked (s.delivering resp) = 0 ∧
      tally Observation.delivered (s.delivering resp) = messagesIn [.ok resp] := by
  rw [delivering]
  split_ifs with h
  · simp [tally, messagesIn, messagesOf, Observation.acked, Observation.delivered]
  · have hnil : resp.receivedMessages = [] := List.eq_nil_of_length_eq_zero (by omega)
    simp [tally, messagesIn, messagesOf, hnil]

lemma tally_closing :
    tally Observation.acked s.closing = 0 ∧ tally Observation.delivered s.closing = 0 := by
  rw [closing]
  split_ifs <;> exact ⟨rfl, rfl⟩

lemma acked_eq (h : Reaches script as s) : tally Observation.acked s.observed = acksIn s.read := by
  refine exec_invariant (P := fun u => tally Observation.acked u.observed = acksIn u.read)
    (fun u b v hu h => ?_) rfl h
  cases taps h with
  | silent read _ _ _ observed => rw [read, observed, hu]
  | frame req _ read _ _ _ observed =>
    rw [read, observed, tally_append, tally_append, hu, acksIn_append, (tally_opening req).1,
      (tally_acking req).1, Nat.zero_add]
  | response resp _ read _ _ _ observed =>
    rw [read, observed, tally_append, hu, (tally_delivering resp).1, Nat.add_zero]
  | ending _ read _ _ _ observed => rw [read, observed, tally_append, hu, tally_closing.1, Nat.add_zero]

lemma delivered_eq (h : Reaches script as s) :
    tally Observation.delivered s.observed = messagesIn (s.responses.sent ++ s.outboundPump.held) := by
  refine exec_invariant
    (P := fun u => tally Observation.delivered u.observed = messagesIn (u.responses.sent ++ u.outboundPump.held))
    (fun u b v hu h => ?_) rfl h
  cases moves h with
  | @readFrame req =>
    rw [tally_append, tally_append, (tally_opening req).2, (tally_acking req).2]
    exact hu
  | @receive resp _ _ running pump =>
    rw [pump, OutboundPump.held, List.append_nil] at hu
    rw [tally_append, (tally_delivering resp).2, OutboundPump.held, messagesIn_append, hu]
  | readEnd | readError | requestRefused | receiveEnd | responseRefused =>
    rw [tally_append, tally_closing.2]
    exact hu
  | sendStatus running pump room =>
    rw [pump, OutboundPump.held] at hu
    rw [tally_append, tally_closing.2, Channel.sent_trySend room, OutboundPump.held, List.append_nil]
    exact hu
  | sendResponse running pump room =>
    rw [pump, OutboundPump.held] at hu
    rw [Channel.sent_trySend room, OutboundPump.held, List.append_nil]
    exact hu
  | call running pump | accepted running pump =>
    rw [pump] at hu
    exact hu
  | rejected running pump | receiveError running pump =>
    rw [pump, OutboundPump.held, List.append_nil] at hu
    simpa [OutboundPump.held, messagesIn_append, messagesIn, messagesOf] using hu
  | clientTake some =>
    rw [Channel.sent_recv some]
    exact hu
  | sendRequest | upstreamTake | upstreamClose | clientClose => exact hu

lemma counted (h : Reaches script as s) :
    tally Observation.acked s.observed = acksIn s.requests.sent + acksIn s.inboundPump.held ∧
    tally Observation.delivered s.observed =
      messagesIn s.responses.sent + messagesIn s.outboundPump.held := by
  rw [acked_eq h, delivered_eq h, ← acksIn_append, ← messagesIn_append, (relayed h).requests]
  exact ⟨rfl, rfl⟩

lemma ending_held (ends : σ.step a = some τ) (running : σ.finished = false) (ended : τ.finished = true) :
    acksIn τ.inboundPump.held = acksIn σ.inboundPump.held ∧
      messagesIn τ.outboundPump.held = messagesIn σ.outboundPump.held := by
  cases moves ends with
  | sendStatus _ pump => simp [pump, OutboundPump.held, messagesIn, messagesOf]
  | readEnd | readError | requestRefused | receiveEnd | responseRefused => exact ⟨rfl, rfl⟩
  | _ => simp_all

theorem counted_as_relayed_iff (hσ : Reaches script as σ) (running : σ.finished = false)
    (ends : σ.step a = some τ) (ended : τ.finished = true) (after : exec step τ bs = some s) :
    ((tally Observation.acked s.observed = acksIn s.requests.sent ∧
        tally Observation.delivered s.observed = messagesIn s.responses.sent) ↔
      acksIn σ.inboundPump.held = 0 ∧ messagesIn σ.outboundPump.held = 0) ∧
    (∀ (upstream : PullRequest → Except Status PullResponse) peer request,
      tally Observation.delivered (pull upstream peer request).2 =
        match upstream request with
        | .error _ => 0
        | .ok response => response.receivedMessages.length) ∧
    (∀ (upstream : AcknowledgeRequest → Except Status Unit) peer request,
      tally Observation.acked (acknowledge upstream peer request).2 =
        match upstream request with
        | .error _ => 0
        | .ok _ => request.ackIds.length) ∧
    (∀ (proxy : RestProxy) parseUri send request peer, (proxy.handle parseUri send request peer).2 ≠ [] →
      ∃ sent status headers body, some sent.body = request.body ∧
        send sent = .answered status headers (some body) ∧ status.isSuccess = true) := by
  refine ⟨?_, pull_counts, acknowledge_counts, fun _ _ _ _ _ => RestProxy.accepted_of_observed⟩
  have hs : Reaches script (as ++ a :: bs) s := exec_through hσ ends after
  have hheld : s.inboundPump = τ.inboundPump ∧ s.outboundPump = τ.outboundPump := by
    rw [ended_exec ended after]
    exact ⟨rfl, rfl⟩
  obtain ⟨hacks, hmessages⟩ := counted hs
  obtain ⟨hin, hout⟩ := ending_held ends running ended
  rw [hheld.1, hin] at hacks
  rw [hheld.2, hout] at hmessages
  omega

theorem delivery_counted_but_lost :
    ∃ s, Reaches halfClosing [.call, .answer, .clientClose, .receive, .sendResponse] s ∧ s.finished = true ∧
      tally Observation.delivered s.observed = 1 ∧ messagesIn s.responses.sent = 0 :=
  ⟨_, rfl, rfl, rfl, rfl⟩

theorem counted_as_relayed_at_half_close :
    ∃ s, Reaches halfClosing [.readFrame, .sendRequest, .call, .answer, .receive, .sendResponse, .readEnd] s ∧
      tally Observation.acked s.observed = acksIn s.requests.sent ∧
      tally Observation.delivered s.observed = messagesIn s.responses.sent := by
  have hσ : Reaches halfClosing [.readFrame, .sendRequest, .call, .answer, .receive, .sendResponse] _ := rfl
  exact ⟨_, rfl, (counted_as_relayed_iff (a := .readEnd) hσ rfl rfl rfl exec_nil).1.mpr ⟨rfl, rfl⟩⟩

end Stream

end PubSubTui.Proxy
