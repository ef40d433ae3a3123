import PubSubTui.Observe.Accounting
import PubSubTui.Proxy.Messages

/-! The unary calls the proxy taps. Nothing is observed before the upstream has accepted the call. -/

namespace PubSubTui.Proxy

open Observe

def capture (payloadCap : ℕ) (message : PubsubMessage) : PublishedMessage where
  data := message.data.take (min message.data.length payloadCap)
  attributes := message.attributes
  originalLen := message.data.length
  truncated := message.data.length > payloadCap

lemma length_capture (payloadCap : ℕ) (message : PubsubMessage) :
    (capture payloadCap message).data.length = min message.data.length payloadCap := by
  simp [capture]

section Tapped

variable {Req Resp : Type*}

def tapped (upstream : Req → Except Status Resp) (observation : Resp → Observation) (request : Req) :
    Except Status Resp × List Observation :=
  match upstream request with
  | .error status => (.error status, [])
  | .ok response => (.ok response, [observation response])

variable {upstream : Req → Except Status Resp} {observation : Resp → Observation} {request : Req}

lemma tally_tapped (weight : Observation → ℕ) :
    tally weight (tapped upstream observation request).2 =
      match upstream request with
      | .error _ => 0
      | .ok response => weight (observation response) := by
  cases h : upstream request <;> simp [tapped, tally, h]

end Tapped

def publish (payloadCap : ℕ) (upstream : PublishRequest → Except Status PublishResponse)
    (peer : Option SocketAddr) (request : PublishRequest) :
    Except Status PublishResponse × List Observation :=
  tapped upstream (fun _ => .publish request.topic peer (request.messages.map (capture payloadCap))) request

def pull (upstream : PullRequest → Except Status PullResponse) (peer : Option SocketAddr)
    (request : PullRequest) : Except Status PullResponse × List Observation :=
  tapped upstream (fun response => .deliver request.subscription peer response.receivedMessages.length) request

def acknowledge (upstream : AcknowledgeRequest → Except Status Unit) (peer : Option SocketAddr)
    (request : AcknowledgeRequest) : Except Status Unit × List Observation :=
  tapped upstream (fun _ => .ack request.subscription peer request.ackIds.length) request

lemma pull_counts (upstream : PullRequest → Except Status PullResponse) (peer : Option SocketAddr)
    (request : PullRequest) :
    tally Observation.delivered (pull upstream peer request).2 =
      match upstream request with
      | .error _ => 0
      | .ok response => response.receivedMessages.length := by
  rw [pull, tally_tapped]
  cases upstream request <;> rfl

lemma acknowledge_counts (upstream : AcknowledgeRequest → Except Status Unit) (peer : Option SocketAddr)
    (request : AcknowledgeRequest) :
    tally Observation.acked (acknowledge upstream peer request).2 =
      match upstream request with
      | .error _ => 0
      | .ok _ => request.ackIds.length := by
  rw [acknowledge, tally_tapped]
  cases upstream request <;> rfl

end PubSubTui.Proxy
