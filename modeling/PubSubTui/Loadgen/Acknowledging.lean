import PubSubTui.Loadgen.Consumer
import PubSubTui.Proxy.StreamingCounts

/-! A consumer acknowledges what it is delivered, through the relay and in order. -/

namespace PubSubTui.Loadgen.Consumption

open Library Observe Proxy ActionSystem

def idsOf : Item → List String
  | .ok response => ackIdsOf response
  | .error _ => []

def acksOf (frames : List StreamingPullRequest) : List String := frames.flatMap (·.ackIds)

variable {c d : Consumption} {a : Action} {as : List Action} {subscription : String} {peer : Option SocketAddr}
  {upstream : Upstream}

section Frames

variable {items : List Item} {frames frames' : List StreamingPullRequest}

lemma acksOf_ackOf (item : Item) : acksOf (ackOf item).toList = idsOf item := by
  cases item with
  | error => rfl
  | ok response =>
    rw [ackOf, ackFrame, idsOf]
    split_ifs with hnone
    · rw [hnone]
      rfl
    · simp [acksOf]

lemma acksOf_owed (subscription : String) (items : List Item) :
    acksOf (owed subscription items) = items.flatMap idsOf := by
  induction items using List.reverseRecOn with
  | nil => rfl
  | append_singleton items item ih =>
    rw [owed_snoc, acksOf, List.flatMap_append, ← acksOf, ih, ← acksOf, acksOf_ackOf, List.flatMap_append,
      List.flatMap_singleton]

lemma acksOf_initial (h : frames <+: frames') : acksOf frames <+: acksOf frames' := by
  obtain ⟨rest, rfl⟩ := h
  rw [acksOf, acksOf, List.flatMap_append]
  exact List.prefix_append _ _

lemma length_acksOf (frames : List StreamingPullRequest) : (acksOf frames).length = acksIn frames := by
  rw [acksOf, List.length_flatMap, acksIn]

lemma length_idsOf (items : List Item) : (items.flatMap idsOf).length = messagesIn items := by
  rw [List.length_flatMap, messagesIn]
  congr 2
  funext item
  cases item with
  | error => rfl
  | ok response => rw [idsOf, ackIdsOf, List.length_map, messagesOf]

lemma subscription_of_ackOf {item : Item} {frame : StreamingPullRequest} (h : ackOf item = some frame) :
    frame.subscription = "" := by
  cases item with
  | error => cases h
  | ok response =>
    rw [ackOf, ackFrame] at h
    split_ifs at h
    cases h
    rfl

lemma lastNamed_owed (hinit : frames <+: owed subscription items) (hne : frames ≠ []) :
    lastNamed frames = subscription := by
  cases frames with
  | nil => exact absurd rfl hne
  | cons req frames =>
    obtain ⟨rfl, hframes⟩ := List.cons_prefix_cons.mp hinit
    have hunnamed : named frames = [] := by
      rw [named, List.filter_eq_nil_iff]
      intro name hname
      obtain ⟨frame, hframe, rfl⟩ := List.mem_map.mp hname
      obtain ⟨item, -, hitem⟩ := List.mem_filterMap.mp (hframes.subset hframe)
      simp [subscription_of_ackOf hitem]
    have hnamed : named (openFrame subscription :: frames) = if subscription = "" then [] else [subscription] := by
      rw [named, List.map_cons, List.filter_cons, ← named, hunnamed]
      by_cases hs : subscription = "" <;> simp [openFrame, hs]
    rw [lastNamed, hnamed]
    split_ifs with hs
    · exact hs.symm
    · rfl

end Frames

def CountedFor (subscription : String) (s : Stream) : Prop :=
  ∀ x p n, .ack x p n ∈ s.observed → x = subscription

lemma countedFor_step {s t : Stream} {b : Proxy.Action} {script : Script} {items : List Item}
    (howed : script.frames <+: owed subscription items) (hs : Stream.Relayed script s) (hl : Stream.Latched s)
    (hcounted : CountedFor subscription s) (h : s.step b = some t) : CountedFor subscription t := by
  have hread : t.read <+: owed subscription items := by
    have hframes := (Stream.relayed_step hs h).frames
    rw [← hframes] at howed
    exact (List.prefix_append _ _).trans howed
  intro x p n hmem
  cases Stream.taps h with
  | silent _ _ _ _ observed =>
    rw [observed] at hmem
    exact hcounted x p n hmem
  | frame req _ read _ _ _ observed =>
    rw [observed, List.mem_append, List.mem_append] at hmem
    rcases hmem with hmem | hmem | hmem
    · exact hcounted x p n hmem
    · rw [Stream.opening] at hmem
      split_ifs at hmem <;> simp at hmem
    · rw [read] at hread
      rw [Stream.acking, Stream.latched_snoc hl, lastNamed_owed hread (by simp)] at hmem
      split_ifs at hmem
      · cases hmem
      · cases List.mem_singleton.mp hmem
        rfl
  | response resp _ _ _ _ _ observed =>
    rw [observed, List.mem_append] at hmem
    rcases hmem with hmem | hmem
    · exact hcounted x p n hmem
    · rw [Stream.delivering] at hmem
      split_ifs at hmem <;> simp at hmem
  | ending _ _ _ _ _ observed =>
    rw [observed, List.mem_append] at hmem
    rcases hmem with hmem | hmem
    · exact hcounted x p n hmem
    · rw [Stream.closing] at hmem
      split_ifs at hmem <;> simp at hmem

lemma countedFor_reaches {script : Script} {run : List Proxy.Action} {s : Stream} {items : List Item}
    (howed : script.frames <+: owed subscription items) (h : Reaches script run s) : CountedFor subscription s := by
  refine (exec_invariant (P := fun u => Stream.Relayed script u ∧ Stream.Latched u ∧ CountedFor subscription u)
    (fun u b v hu hv => ?_) ⟨Stream.relayed_start script, Stream.latched_start script, by rintro _ _ _ ⟨⟩⟩ h).2.2
  obtain ⟨hrelayed, hlatched, hcounted⟩ := hu
  exact ⟨Stream.relayed_step hrelayed hv, Stream.latched_step hlatched hv,
    countedFor_step howed hrelayed hlatched hcounted hv⟩

lemma sound_exec (h : exec step (start subscription peer upstream) as = some c) : Sound subscription peer upstream c :=
  exec_invariant (fun _ _ _ => sound_step) sound_start h

/-- Whatever fails and whenever, a consumer acknowledges only messages that it has been delivered, each once and in
the order it was delivered them, and its acknowledgements are counted for its subscription after the messages. -/
theorem acks_follow_deliveries (subscription : String) (peer : Option SocketAddr) (upstream : Upstream)
    (actions : List Action) (c : Consumption) (h : exec step (start subscription peer upstream) actions = some c) :
    acksOf c.stream.requests.received <+: c.stream.responses.received.flatMap idsOf ∧
    c.stream.responses.received <+: upstream.produced ∧
    tally Observation.acked c.stream.observed ≤ tally Observation.delivered c.stream.observed ∧
    ∀ x p n, .ack x p n ∈ c.stream.observed → x = subscription := by
  have hc := sound_exec h
  obtain ⟨as, hreaches, -⟩ := hc.joined
  have hrelayed := Stream.relayed hreaches
  have howed : c.consumer.requests.received <+: owed subscription c.stream.responses.received :=
    Channel.received_prefix_sent.trans hc.behind
  have hread : c.stream.read <+: owed subscription c.stream.responses.received := by
    have hframes : c.stream.read ++ c.stream.inbound = c.consumer.requests.received := hrelayed.frames
    rw [← hframes] at howed
    exact (List.prefix_append _ _).trans howed
  have htaken : c.stream.requests.received <+: c.stream.read := by
    rw [← hrelayed.requests]
    exact Channel.received_prefix_sent.trans (List.prefix_append _ _)
  refine ⟨?_, ?_, ?_, countedFor_reaches howed hreaches⟩
  · rw [← acksOf_owed subscription]
    exact acksOf_initial (htaken.trans hread)
  · rw [← hrelayed.responses]
    exact Channel.received_prefix_sent.trans (List.prefix_append _ _)
  · rw [Stream.acked_eq hreaches, Stream.delivered_eq hreaches]
    calc
      acksIn c.stream.read = (acksOf c.stream.read).length := (length_acksOf _).symm
      _ ≤ (acksOf (owed subscription c.stream.responses.received)).length := (acksOf_initial hread).length_le
      _ = messagesIn c.stream.responses.received := by rw [acksOf_owed, length_idsOf]
      _ ≤ messagesIn (c.stream.responses.sent ++ c.stream.outboundPump.held) := by
        rw [Channel.sent, messagesIn_append, messagesIn_append]
        omega

/-- One message is delivered and acknowledged, and the connection fails with a second on its way. -/
def twoMessages : Upstream :=
  .accepted [{ receivedMessages := [{ ackId := "1" }] }, { receivedMessages := [{ ackId := "2" }] }] none

def oneAcknowledged : List Action :=
  [.advance, .called true, .upload, .relay .readFrame, .relay .sendRequest, .relay .call, .relay .answer, .relay .receive,
    .relay .sendResponse, .take, .advance, .upload, .relay .readFrame, .relay .sendRequest, .relay .upstreamTake,
    .relay .upstreamTake, .relay .receive, .relay .readError]

theorem acks_follow_deliveries_of_failure :
    ∃ c, exec step (start "s" none twoMessages) oneAcknowledged = some c ∧ c.stream.finished = true ∧
      c.stream.requests.received.length = 2 ∧
      acksOf c.stream.requests.received <+: c.stream.responses.received.flatMap idsOf ∧
      tally Observation.acked c.stream.observed ≤ tally Observation.delivered c.stream.observed := by
  obtain ⟨c, hc, hfinished, htaken⟩ : ∃ c, exec step (start "s" none twoMessages) oneAcknowledged = some c ∧
    c.stream.finished = true ∧ c.stream.requests.received.length = 2 := ⟨_, rfl, rfl, rfl⟩
  obtain ⟨hacks, -, hcounts, -⟩ := acks_follow_deliveries "s" none twoMessages oneAcknowledged c hc
  exact ⟨c, hc, hfinished, htaken, hacks, hcounts⟩

end PubSubTui.Loadgen.Consumption
