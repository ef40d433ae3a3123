import PubSubTui.Loadgen.Acknowledging
import PubSubTui.Proxy.StreamingTermination

/-! While its call stays up a consumer falls behind only for a while: nothing between it and the upstream blocks for
good, and once all have moved as far as they can every message is acknowledged. -/

namespace PubSubTui.Loadgen

open Library Observe Proxy ActionSystem

def Phase.toSend : Phase → ℕ
  | opening => 6
  | sending _ => 5
  | calling => 1
  | waiting | returned => 0

namespace Consumption

variable {c d : Consumption} {a : Action} {as : List Action} {subscription : String} {peer : Option SocketAddr}
  {responses : List StreamingPullResponse}

/-- The moves of a call that stays up: no part of it gives up, and the upstream does not end its responses. -/
def Working (c : Consumption) : Action → Prop
  | .advance | .called true | .take | .upload => True
  | .relay b => b ∈ [.readFrame, .sendRequest, .call, .answer, .sendResponse, .upstreamTake] ∨
    b = .receive ∧ c.stream.upstream.produced ≠ []
  | .called false | .lose | .hangUp => False

instance (c : Consumption) : DecidablePred c.Working
  | .advance | .called true | .take | .upload => inferInstanceAs (Decidable True)
  | .relay _ => inferInstanceAs (Decidable (_ ∨ _ ∧ ¬ _))
  | .called false | .lose | .hangUp => inferInstanceAs (Decidable False)

def settle (c : Consumption) (a : Action) : Option Consumption := if c.Working a then c.step a else none

structure Up (c : Consumption) : Prop where
  running : c.stream.finished = false
  requests : c.stream.requests.closed = false
  responses : c.stream.responses.closed = false
  connected : c.consumer.requests.closed = false
  attending : c.consumer.phase ≠ .returned

/-- Each message has eight moves before it, one for each place that it and its acknowledgement pass. -/
def pending (c : Consumption) : ℕ :=
  8 * c.stream.upstream.produced.length + 7 * c.stream.outboundPump.held.length +
    6 * c.stream.responses.queue.length + c.consumer.phase.toSend + 4 * c.consumer.requests.queue.length +
    3 * c.stream.inbound.length + 2 * c.stream.inboundPump.held.length + c.stream.requests.queue.length +
    c.stream.outboundPump.toCall

lemma step_of_settle (h : c.settle a = some d) : c.Working a ∧ c.step a = some d := by
  rw [settle] at h
  split_ifs at h with hworking
  exact ⟨hworking, h⟩

lemma ok_of_sound (hc : Sound subscription peer (.accepted responses none) c) :
    ∀ item ∈ c.stream.responses.sent ++ (c.stream.outboundPump.held ++ c.stream.upstream.produced),
      ∃ response, item = .ok response := by
  obtain ⟨as, hreaches, -⟩ := hc.joined
  have hline : c.stream.responses.sent ++ (c.stream.outboundPump.held ++ c.stream.upstream.produced) =
      responses.map .ok := by
    have hresponses := (Stream.relayed hreaches).responses
    simpa [Upstream.produced] using hresponses
  rw [hline]
  intro item hitem
  obtain ⟨response, -, rfl⟩ := List.mem_map.mp hitem
  exact ⟨response, rfl⟩

lemma error_not_mem (hc : Sound subscription peer (.accepted responses none) c) (status : Status) :
    .error status ∉ c.stream.responses.sent ++ (c.stream.outboundPump.held ++ c.stream.upstream.produced) := by
  intro hmem
  obtain ⟨response, hresponse⟩ := ok_of_sound hc _ hmem
  cases hresponse

lemma relayed_settle {b : Proxy.Action} {t : Stream} (hc : Sound subscription peer (.accepted responses none) c)
    (hup : c.Up) (hworking : c.Working (.relay b)) (h : c.stream.step b = some t) :
    Up { c with stream := t } ∧ pending { c with stream := t } < c.pending := by
  cases Stream.moves h with
  | readFrame running pump next =>
    refine ⟨⟨hup.running, hup.requests, hup.responses, hup.connected, hup.attending⟩, ?_⟩
    simp only [pending, pump, next, InboundPump.held, List.length_cons, List.length_nil]
    omega
  | sendRequest running pump room =>
    obtain ⟨-, hopen, -, hqueue⟩ := Channel.trySend_ok room
    refine ⟨⟨hup.running, hopen, hup.responses, hup.connected, hup.attending⟩, ?_⟩
    simp only [pending, pump, hqueue, InboundPump.held, List.length_append, List.length_cons, List.length_nil]
    omega
  | requestRefused running pump gone => exact absurd gone (by simp [hup.requests])
  | call running pump =>
    refine ⟨⟨hup.running, hup.requests, hup.responses, hup.connected, hup.attending⟩, ?_⟩
    simp only [pending, pump, OutboundPump.held, OutboundPump.toCall, List.length_nil]
    omega
  | @rejected status running pump next => exact absurd (by simp [next, Upstream.produced]) (error_not_mem hc status)
  | accepted running pump next =>
    refine ⟨⟨hup.running, hup.requests, hup.responses, hup.connected, hup.attending⟩, ?_⟩
    simp only [pending, pump, OutboundPump.held, OutboundPump.toCall, List.length_nil]
    omega
  | receive running pump next =>
    refine ⟨⟨hup.running, hup.requests, hup.responses, hup.connected, hup.attending⟩, ?_⟩
    simp only [pending, pump, next, OutboundPump.held, OutboundPump.toCall, Upstream.produced, List.length_append,
      List.length_map, List.length_cons, List.length_nil]
    omega
  | @receiveError status running pump next =>
    exact absurd (by simp [next, Upstream.produced]) (error_not_mem hc status)
  | receiveEnd running pump next => simp [Working, next, Upstream.produced] at hworking
  | sendResponse running pump room =>
    obtain ⟨-, hopen, -, hqueue⟩ := Channel.trySend_ok room
    refine ⟨⟨hup.running, hup.requests, hopen, hup.connected, hup.attending⟩, ?_⟩
    simp only [pending, pump, hqueue, OutboundPump.held, OutboundPump.toCall, List.length_append, List.length_cons,
      List.length_nil]
    omega
  | @sendStatus status _ running pump room =>
    exact absurd (by simp [pump, OutboundPump.held]) (error_not_mem hc status)
  | responseRefused running pump gone => exact absurd gone (by simp [hup.responses])
  | upstreamTake pump some =>
    obtain ⟨-, hopen, req, hqueue, -⟩ := Channel.recv_some some
    refine ⟨⟨hup.running, hopen, hup.responses, hup.connected, hup.attending⟩, ?_⟩
    simp only [pending, hqueue, List.length_cons]
    omega
  | readEnd | readError | upstreamClose | clientTake | clientClose => simp [Working] at hworking

lemma settle_step (hc : Sound subscription peer (.accepted responses none) c) (hup : c.Up) (h : c.settle a = some d) :
    d.Up ∧ d.pending < c.pending := by
  obtain ⟨hworking, hstep⟩ := step_of_settle h
  cases moves hstep with
  | opened hphase room =>
    obtain ⟨-, hopen, -, hqueue⟩ := Channel.trySend_ok room
    refine ⟨⟨hup.running, hup.requests, hup.responses, hopen, by simp⟩, ?_⟩
    simp only [pending, hphase, hqueue, Phase.toSend, List.length_append, List.length_cons, List.length_nil]
    omega
  | acknowledged hphase room =>
    obtain ⟨-, hopen, -, hqueue⟩ := Channel.trySend_ok room
    refine ⟨⟨hup.running, hup.requests, hup.responses, hopen, by simp⟩, ?_⟩
    simp only [pending, hphase, hqueue, Phase.toSend, List.length_append, List.length_cons, List.length_nil]
    omega
  | refused gone => exact absurd gone (by simp [hup.connected])
  | accepted hphase =>
    refine ⟨⟨hup.running, hup.requests, hup.responses, hup.connected, by simp⟩, ?_⟩
    simp only [pending, hphase, Phase.toSend]
    omega
  | @took item _ hphase next =>
    obtain ⟨-, hopen, hqueue, hreceived⟩ := Channel.poll_some next
    obtain ⟨response, rfl⟩ := ok_of_sound hc item (by simp [Channel.sent, hqueue])
    cases hack : ackFrame response with
    | none =>
      refine ⟨⟨hup.running, hup.requests, hopen, hup.connected, by simp [Consumer.receive, hack]⟩, ?_⟩
      simp only [pending, Consumer.receive, hack, hphase, hqueue, Phase.toSend, Option.elim_none, List.length_cons]
      omega
    | some ack =>
      refine ⟨⟨hup.running, hup.requests, hopen, hup.connected, by simp [Consumer.receive, hack]⟩, ?_⟩
      simp only [pending, Consumer.receive, hack, hphase, hqueue, Phase.toSend, Option.elim_some, List.length_cons]
      omega
  | uploaded next =>
    obtain ⟨-, hopen, hqueue, -⟩ := Channel.poll_some next
    refine ⟨⟨hup.running, hup.requests, hup.responses, hopen, hup.attending⟩, ?_⟩
    simp only [pending, hqueue, Stream.awaiting, List.length_append, List.length_cons, List.length_nil]
    omega
  | relayed called hne ended moved => exact relayed_settle hc hup hworking moved
  | rejected | lost | hungUp => exact hworking.elim

structure Drained (c : Consumption) : Prop where
  phase : c.consumer.phase = .waiting
  requests : c.consumer.requests.queue = []
  inbound : c.stream.inbound = []
  inboundPump : c.stream.inboundPump = .reading
  upstreamRequests : c.stream.requests.queue = []
  outboundPump : c.stream.outboundPump = .receiving
  responses : c.stream.responses.queue = []
  produced : c.stream.upstream.produced = []

lemma none_of_stuck (hstuck : Stuck settle c) (hworking : c.Working a) : c.step a = none := by
  have hnone := hstuck a
  rwa [settle, if_pos hworking] at hnone

lemma relay_of_up {b : Proxy.Action} (hcalled : c.consumer.phase ≠ .opening) (hup : c.Up) (hb : b ≠ .clientTake)
    (hb' : b ≠ .readEnd) : c.step (.relay b) = (c.stream.step b).map ({ c with stream := · }) := by
  have hattending := hup.attending
  rw [step, relay.eq_def]
  cases hphase : c.consumer.phase <;> cases b <;> simp_all

lemma stream_none {b : Proxy.Action} (hphase : c.consumer.phase = .waiting) (hup : c.Up) (hstuck : Stuck settle c)
    (hworking : c.Working (.relay b)) : c.stream.step b = none := by
  have hb : b ≠ .clientTake ∧ b ≠ .readEnd := by constructor <;> rintro rfl <;> simp [Working] at hworking
  have hnone := none_of_stuck hstuck hworking
  rw [relay_of_up (by simp [hphase]) hup hb.1 hb.2, Option.map_eq_none_iff] at hnone
  exact hnone

lemma send_ne_none (consumer : Consumer) (hqueue : consumer.requests.queue = []) (frame : StreamingPullRequest)
    (next : Phase) : consumer.send frame next ≠ none := by
  rw [Consumer.send]
  rcases hsend : consumer.requests.trySend frame with (_ | _) | requests
  · have hfull := (Channel.trySend_full hsend).2
    simp [hqueue, requestBuffer] at hfull
  · simp
  · simp

lemma waiting_of_stuck (hup : c.Up) (hstuck : Stuck settle c) (hqueue : c.consumer.requests.queue = []) :
    c.consumer.phase = .waiting := by
  cases hphase : c.consumer.phase with
  | waiting => rfl
  | returned => exact absurd hphase hup.attending
  | calling =>
    have hnone := none_of_stuck hstuck (a := .called true) trivial
    simp [step, Consumer.called, hphase] at hnone
  | opening =>
    have hnone := none_of_stuck hstuck (a := .advance) trivial
    rw [step, Option.map_eq_none_iff, Consumer.advance, hphase] at hnone
    exact absurd hnone (send_ne_none c.consumer hqueue _ _)
  | sending ack =>
    have hnone := none_of_stuck hstuck (a := .advance) trivial
    rw [step, Option.map_eq_none_iff, Consumer.advance, hphase] at hnone
    exact absurd hnone (send_ne_none c.consumer hqueue _ _)

lemma receiving_of_stuck (hc : Sound subscription peer (.accepted responses none) c) (hup : c.Up)
    (hstuck : Stuck settle c) (hphase : c.consumer.phase = .waiting) (hqueue : c.stream.responses.queue = []) :
    c.stream.outboundPump = .receiving := by
  cases hpump : c.stream.outboundPump with
  | receiving => rfl
  | unpolled =>
    have hnone := stream_none hphase hup hstuck (b := .call) (by simp [Working])
    simp [Stream.step, hup.running, Stream.call, hpump] at hnone
  | calling =>
    have hnone := stream_none hphase hup hstuck (b := .answer) (by simp [Working])
    cases hupstream : c.stream.upstream <;> simp [Stream.step, hup.running, Stream.answer, hpump, hupstream] at hnone
  | sending resp =>
    have hnone := stream_none hphase hup hstuck (b := .sendResponse) (by simp [Working])
    have hroom : ∃ d, c.stream.responses.trySend (.ok resp) = .ok d := by
      simp [Channel.trySend, hup.responses, hqueue, streamBuffer]
    obtain ⟨d, hd⟩ := hroom
    simp [Stream.step, hup.running, Stream.sendResponse, hpump, hd] at hnone
  | failing status => exact absurd (by simp [hpump, OutboundPump.held]) (error_not_mem hc status)

lemma reading_of_stuck (hup : c.Up) (hstuck : Stuck settle c) (hphase : c.consumer.phase = .waiting)
    (hqueue : c.stream.requests.queue = []) : c.stream.inboundPump = .reading ∧ c.stream.inbound = [] := by
  cases hpump : c.stream.inboundPump with
  | reading =>
    have hnone := stream_none hphase hup hstuck (b := .readFrame) (by simp [Working])
    cases hinbound : c.stream.inbound with
    | nil => exact ⟨rfl, rfl⟩
    | cons => simp [Stream.step, hup.running, Stream.readFrame, hpump, hinbound] at hnone
  | sending req =>
    have hnone := stream_none hphase hup hstuck (b := .sendRequest) (by simp [Working])
    have hroom : ∃ d, c.stream.requests.trySend req = .ok d := by
      simp [Channel.trySend, hup.requests, hqueue, streamBuffer]
    obtain ⟨d, hd⟩ := hroom
    simp [Stream.step, hup.running, Stream.sendRequest, hpump, hd] at hnone

lemma produced_of_stuck (hc : Sound subscription peer (.accepted responses none) c) (hup : c.Up)
    (hstuck : Stuck settle c) (hphase : c.consumer.phase = .waiting) (hpump : c.stream.outboundPump = .receiving) :
    c.stream.upstream.produced = [] := by
  by_contra hne
  have hnone := stream_none hphase hup hstuck (b := .receive) (.inr ⟨rfl, hne⟩)
  cases hupstream : c.stream.upstream with
  | rejected status => exact absurd (by simp [hupstream, Upstream.produced]) (error_not_mem hc status)
  | accepted rest failure =>
    cases rest with
    | cons => simp [Stream.step, hup.running, Stream.receive, hpump, hupstream] at hnone
    | nil => cases failure <;> simp [Stream.step, hup.running, Stream.receive, hpump, hupstream] at hnone

lemma drained_of_stuck (hc : Sound subscription peer (.accepted responses none) c) (hup : c.Up)
    (hstuck : Stuck settle c) : c.Drained := by
  have hrequests : c.consumer.requests.queue = [] := by
    have hnone := none_of_stuck hstuck (a := .upload) trivial
    rw [step, upload, Option.map_eq_none_iff] at hnone
    exact Channel.poll_none hnone hup.connected
  have hphase := waiting_of_stuck hup hstuck hrequests
  have hresponses : c.stream.responses.queue = [] := by
    have hnone := none_of_stuck hstuck (a := .take) trivial
    simp only [step, take, hphase, Option.map_eq_none_iff] at hnone
    exact Channel.poll_none hnone hup.responses
  have hpump := receiving_of_stuck hc hup hstuck hphase hresponses
  have hupstream : c.stream.requests.queue = [] := by
    have hnone := stream_none hphase hup hstuck (b := .upstreamTake) (by simp [Working])
    simp only [Stream.step, Stream.upstreamTake, hpump, Option.map_eq_none_iff] at hnone
    exact Channel.recv_none hnone hup.requests
  obtain ⟨hreading, hinbound⟩ := reading_of_stuck hup hstuck hphase hupstream
  exact ⟨hphase, hrequests, hinbound, hreading, hupstream, hpump, hresponses,
    produced_of_stuck hc hup hstuck hphase hpump⟩

lemma Drained.acknowledged (hd : d.Drained) (hc : Sound subscription peer (.accepted responses none) d) :
    d.stream.requests.received = owed subscription (responses.map .ok) ∧
    d.stream.responses.received = responses.map .ok ∧
    tally Observation.acked d.stream.observed = messagesIn (responses.map .ok) ∧
    tally Observation.delivered d.stream.observed = messagesIn (responses.map .ok) := by
  obtain ⟨as, hreaches, -⟩ := hc.joined
  obtain ⟨hframes, hrequests, hresponses⟩ := Stream.relayed hreaches
  have hall : d.stream.responses.received = responses.map .ok := by
    rw [Channel.sent, hd.responses, hd.outboundPump, hd.produced, OutboundPump.held] at hresponses
    simpa [Upstream.produced] using hresponses
  have hread : d.stream.read = owed subscription (responses.map .ok) := by
    have hcurrent := hc.current (by simp [hd.phase]) (by simp [hd.phase])
    rw [hd.phase, Phase.held, List.append_nil, Channel.sent, hd.requests, List.append_nil, hall] at hcurrent
    rw [hd.inbound, List.append_nil] at hframes
    exact hframes.trans hcurrent
  have htaken : d.stream.requests.received = d.stream.read := by
    simpa [Channel.sent, hd.upstreamRequests, hd.inboundPump, InboundPump.held] using hrequests
  refine ⟨htaken.trans hread, hall, ?_, ?_⟩
  · rw [Stream.acked_eq hreaches, hread, ← length_acksOf, acksOf_owed, length_idsOf]
  · rw [Stream.delivered_eq hreaches, Channel.sent, hd.responses, hd.outboundPump, hall, OutboundPump.held]
    simp

lemma flatMap_idsOf (responses : List StreamingPullResponse) :
    (responses.map Except.ok).flatMap idsOf = responses.flatMap ackIdsOf := by
  rw [List.flatMap_map]
  rfl

/-- The consumer, the two pumps and the upstream never block one another while the call stays up: whatever the order
of their moves, they come to where every message has been delivered and its acknowledgement has reached the upstream,
and where as many acknowledgements have been counted as messages. -/
theorem deliveries_are_acknowledged (subscription : String) (peer : Option SocketAddr)
    (responses : List StreamingPullResponse) (actions : List Action) (c : Consumption)
    (h : exec step (start subscription peer (.accepted responses none)) actions = some c) (hup : c.Up) :
    (∀ settling d, exec settle c settling = some d → settling.length ≤ c.pending) ∧
    (∃ settling d, exec settle c settling = some d ∧ Stuck settle d) ∧
    ∀ settling d, exec settle c settling = some d → Stuck settle d → d.Up ∧
      d.stream.responses.received = responses.map .ok ∧
      acksOf d.stream.requests.received = responses.flatMap ackIdsOf ∧
      tally Observation.acked d.stream.observed = (responses.flatMap ackIdsOf).length ∧
      tally Observation.delivered d.stream.observed = (responses.flatMap ackIdsOf).length := by
  have hstart : Sound subscription peer (.accepted responses none) c ∧ c.Up := ⟨sound_exec h, hup⟩
  have hkeep : ∀ (u : Consumption) (a : Action) (v : Consumption),
      (Sound subscription peer (.accepted responses none) u ∧ u.Up) → u.settle a = some v →
      (Sound subscription peer (.accepted responses none) v ∧ v.Up) := fun _ _ _ hu hv =>
    ⟨sound_step hu.1 (step_of_settle hv).2, (settle_step hu.1 hu.2 hv).1⟩
  have hless : ∀ (u : Consumption) (a : Action) (v : Consumption),
      (Sound subscription peer (.accepted responses none) u ∧ u.Up) → u.settle a = some v → v.pending < u.pending :=
    fun _ _ _ hu hv => (settle_step hu.1 hu.2 hv).2
  refine ⟨fun settling d hrun => ?_, exists_stuck_of_invariant hkeep hless hstart, fun settling d hrun hstuck => ?_⟩
  · exact (Nat.le_add_right _ _).trans (exec_length_le_of_invariant hkeep hless hstart hrun)
  · obtain ⟨hsound, hend⟩ := exec_invariant hkeep hstart hrun
    obtain ⟨htaken, hall, hacked, hdelivered⟩ := (drained_of_stuck hsound hend hstuck).acknowledged hsound
    rw [← length_idsOf, flatMap_idsOf] at hacked hdelivered
    refine ⟨hend, hall, ?_, hacked, hdelivered⟩
    rw [htaken, acksOf_owed, flatMap_idsOf]

theorem deliveries_are_acknowledged_of_first :
    ∃ c, exec step (start "s" none twoMessages) (oneAcknowledged.take 10) = some c ∧
      ∃ settling d, exec settle c settling = some d ∧ acksOf d.stream.requests.received = ["1", "2"] := by
  obtain ⟨c, hc, hup⟩ : ∃ c, exec step (start "s" none twoMessages) (oneAcknowledged.take 10) = some c ∧ c.Up :=
    ⟨_, rfl, rfl, rfl, rfl, rfl, by simp [Consumer.receive, ackFrame, ackIdsOf]⟩
  obtain ⟨-, ⟨settling, d, hrun, hstuck⟩, hend⟩ := deliveries_are_acknowledged "s" none _ _ c hc hup
  exact ⟨c, hc, settling, d, hrun, (hend settling d hrun hstuck).2.2.1⟩

end Consumption

end PubSubTui.Loadgen
