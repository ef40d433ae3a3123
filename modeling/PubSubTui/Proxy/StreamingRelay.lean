import PubSubTui.Proxy.StreamingMoves

/-! What a proxied `StreamingPull` hands on. Each direction keeps a line from the sender, through the pump
and its channel, to the receiver; the pieces of a line always add up to what the sender produced. -/

namespace PubSubTui.Proxy

open Library Observe ActionSystem

def Upstream.failure : Upstream → Option Status
  | rejected status => some status
  | accepted _ failure => failure

namespace Stream

variable {script : Script} {as bs : List Action} {a : Action} {σ τ s t : Stream}

structure Relayed (script : Script) (s : Stream) : Prop where
  frames : s.read ++ s.inbound = script.frames
  requests : s.requests.sent ++ s.inboundPump.held = s.read
  responses : s.responses.sent ++ (s.outboundPump.held ++ s.upstream.produced) = script.upstream.produced

lemma relayed_start (script : Script) : Relayed script script.start := ⟨rfl, rfl, rfl⟩

lemma relayed_step (hr : Relayed script s) (h : s.step a = some t) : Relayed script t := by
  obtain ⟨hframes, hreq, hresp⟩ := hr
  cases moves h with
  | readFrame running pump next =>
    refine ⟨by simpa [next] using hframes, ?_, hresp⟩
    simpa [pump, InboundPump.held] using hreq
  | sendRequest running pump room =>
    refine ⟨hframes, ?_, hresp⟩
    simpa [Channel.sent_trySend room, pump, InboundPump.held] using hreq
  | rejected running pump next =>
    refine ⟨hframes, hreq, ?_⟩
    simpa [pump, next, OutboundPump.held, Upstream.produced] using hresp
  | accepted running pump next =>
    refine ⟨hframes, hreq, ?_⟩
    simpa [pump, OutboundPump.held] using hresp
  | receive running pump next =>
    refine ⟨hframes, hreq, ?_⟩
    simpa [pump, next, OutboundPump.held, Upstream.produced] using hresp
  | receiveError running pump next =>
    refine ⟨hframes, hreq, ?_⟩
    simpa [pump, next, OutboundPump.held, Upstream.produced] using hresp
  | sendResponse running pump room =>
    refine ⟨hframes, hreq, ?_⟩
    simpa [Channel.sent_trySend room, pump, OutboundPump.held] using hresp
  | sendStatus running pump room =>
    refine ⟨hframes, hreq, ?_⟩
    simpa [Channel.sent_trySend room, pump, OutboundPump.held] using hresp
  | call running pump =>
    refine ⟨hframes, hreq, ?_⟩
    simpa [pump, OutboundPump.held] using hresp
  | upstreamTake pump some =>
    refine ⟨hframes, ?_, hresp⟩
    simpa [Channel.sent_recv some] using hreq
  | clientTake some =>
    refine ⟨hframes, hreq, ?_⟩
    simpa [Channel.sent_recv some] using hresp
  | readEnd | readError | requestRefused | receiveEnd | responseRefused | upstreamClose | clientClose =>
    exact ⟨hframes, hreq, hresp⟩

lemma relayed (h : Reaches script as s) : Relayed script s :=
  exec_invariant (fun _ _ _ => relayed_step) (relayed_start script) h

lemma error_last {responses : List StreamingPullResponse} {failure : Option Status}
    {before after : List Item} {status : Status}
    (h : responses.map .ok ++ failure.toList.map .error = before ++ .error status :: after) :
    after = [] ∧ failure = some status ∧ ∀ item ∈ before, ∃ resp, item = .ok resp := by
  induction responses generalizing before with
  | nil =>
    have hlen := congrArg List.length h
    cases failure with
    | none => simp at hlen
    | some failure =>
      obtain rfl : before = [] := List.eq_nil_of_length_eq_zero (by simp at hlen; omega)
      simp_all
  | cons resp responses ih =>
    cases before with
    | nil => simp at h
    | cons item before =>
      simp only [List.map_cons, List.cons_append, List.cons.injEq] at h
      obtain ⟨hafter, hfailure, hbefore⟩ := ih h.2
      refine ⟨hafter, hfailure, fun item' hitem => ?_⟩
      rcases List.mem_cons.mp hitem with rfl | hitem
      · exact ⟨resp, h.1.symm⟩
      · exact hbefore item' hitem

lemma produced_eq (upstream : Upstream) :
    ∃ responses : List StreamingPullResponse,
      upstream.produced = responses.map .ok ++ upstream.failure.toList.map .error := by
  cases upstream with
  | rejected status => exact ⟨[], rfl⟩
  | accepted responses failure => exact ⟨responses, rfl⟩

theorem relay_fidelity (h : Reaches script as s) :
    s.requests.received <+: script.frames ∧
    s.responses.received <+: script.upstream.produced ∧
    ∀ before status after, s.responses.received = before ++ .error status :: after →
      after = [] ∧ script.upstream.failure = some status ∧ ∀ item ∈ before, ∃ resp, item = .ok resp := by
  obtain ⟨hframes, hreq, hresp⟩ := relayed h
  have hhanded : s.responses.received <+: script.upstream.produced :=
    Channel.received_prefix_sent.trans ⟨_, hresp⟩
  refine ⟨?_, hhanded, ?_⟩
  · have htaken : s.requests.received <+: s.read := Channel.received_prefix_sent.trans ⟨_, hreq⟩
    exact htaken.trans ⟨_, hframes⟩
  · intro before status after heq
    obtain ⟨rest, hrest⟩ := hhanded
    obtain ⟨responses, hproduced⟩ := produced_eq script.upstream
    rw [heq, List.append_assoc, List.cons_append] at hrest
    obtain ⟨hnil, herror⟩ := error_last (hproduced.symm.trans hrest.symm)
    exact ⟨(List.append_eq_nil_iff.mp hnil).1, herror⟩

def halfClosing : Script where
  peer := none
  frames := [{ subscription := "projects/p/subscriptions/s", ackIds := ["a"] }]
  upstream := .accepted [{ receivedMessages := [{ ackId := "b" }] }] (some { code := .unavailable })

theorem relay_fidelity_while_sending :
    ∃ s, Reaches halfClosing [.call, .answer, .readFrame, .receive, .sendResponse, .clientTake] s ∧
      s.requests.received <+: halfClosing.frames ∧
      s.responses.received <+: halfClosing.upstream.produced := by
  have h : Reaches halfClosing [.call, .answer, .readFrame, .receive, .sendResponse, .clientTake] _ := rfl
  exact ⟨_, h, (relay_fidelity h).1, (relay_fidelity h).2.1⟩

lemma stays_open (hc : ActionSystem.Along step (fun _ a => a ≠ .clientClose) s as)
    (hs : s.responses.closed = false) (h : exec step s as = some t) : t.responses.closed = false := by
  refine exec_invariant_along (P := fun u => u.responses.closed = false) (fun u b v hu hb hv => ?_) hs hc h
  cases moves hv with
  | sendResponse running pump room => exact (Channel.trySend_ok room).2.1
  | sendStatus running pump room => exact (Channel.trySend_ok room).2.1
  | clientTake some => exact (Channel.recv_some some).2.1
  | clientClose => exact absurd rfl hb
  | _ => exact hu

lemma failing_exhausts (h : Reaches script as s) :
    ∀ status, s.outboundPump = .failing status → s.upstream.produced = [] := by
  refine exec_invariant
    (P := fun u => ∀ status, u.outboundPump = .failing status → u.upstream.produced = [])
    (fun u b v hu hv => ?_) (fun status h => by simp [Script.start] at h) h
  cases moves hv with
  | rejected | receiveError => exact fun _ _ => rfl
  | call | accepted | receive | sendResponse | sendStatus => exact fun _ h => by simp at h
  | _ => exact hu

lemma handed_all_iff (h : Reaches script as s) (drained : s.responses.queue = []) :
    s.responses.received = script.upstream.produced ↔ s.outboundPump.held ++ s.upstream.produced = [] := by
  have hresp := (relayed h).responses
  rw [Channel.sent, drained, List.append_nil] at hresp
  constructor
  · intro hall
    rw [← hall] at hresp
    simpa using hresp
  · intro hnone
    rwa [hnone, List.append_nil] at hresp

lemma ending_holds (hσ : Reaches script as σ) (ends : σ.step a = some τ) (running : σ.finished = false)
    (ended : τ.finished = true) (hopen : σ.responses.closed = false) :
    τ.outboundPump.held ++ τ.upstream.produced = [] ↔
      a = .receive ∨ a = .sendResponse ∨ σ.outboundPump.held ++ σ.upstream.produced = [] := by
  cases moves ends with
  | readEnd | readError | requestRefused => simp
  | receiveEnd _ pump next => simp [pump, next, OutboundPump.held, Upstream.produced]
  | sendStatus _ pump room => simp [OutboundPump.held, failing_exhausts hσ _ pump]
  | responseRefused _ pump gone => simp [hopen] at gone
  | _ => simp_all

theorem half_close_relayed_iff (hσ : Reaches script as σ) (running : σ.finished = false)
    (ends : σ.step a = some τ) (ended : τ.finished = true) (after : exec step τ bs = some s)
    (stays : .clientClose ∉ as ++ a :: bs) (drained : s.responses.queue = []) :
    s.responses.received = script.upstream.produced ↔
      a = .receive ∨ a = .sendResponse ∨ σ.outboundPump.held ++ σ.upstream.produced = [] := by
  have hs : Reaches script (as ++ a :: bs) s := exec_through hσ ends after
  have hopen : σ.responses.closed = false := by
    refine stays_open (along_of_forall_mem fun b hb => ?_) rfl hσ
    rintro rfl
    exact stays (List.mem_append_left _ hb)
  have hheld : s.outboundPump = τ.outboundPump ∧ s.upstream = τ.upstream := by
    rw [ended_exec ended after]
    exact ⟨rfl, rfl⟩
  rw [handed_all_iff hs drained, hheld.1, hheld.2]
  exact ending_holds hσ ends running ended hopen

theorem half_close_cuts_off :
    ∃ s, Reaches halfClosing [.readFrame, .sendRequest, .call, .answer, .upstreamTake, .readEnd] s ∧
      s.finished = true ∧ s.responses.queue = [] ∧ s.responses.received ≠ halfClosing.upstream.produced :=
  ⟨_, rfl, rfl, rfl, (List.cons_ne_nil _ _).symm⟩

theorem upstream_ends_first :
    ∃ s, Reaches halfClosing [.readFrame, .sendRequest, .call, .answer, .upstreamTake, .receive,
        .sendResponse, .receive, .sendResponse, .clientTake, .clientTake] s ∧
      s.responses.received = halfClosing.upstream.produced := by
  have hσ : Reaches halfClosing [.readFrame, .sendRequest, .call, .answer, .upstreamTake, .receive,
      .sendResponse, .receive] _ := rfl
  have stays : Action.clientClose ∉ [.readFrame, .sendRequest, .call, .answer, .upstreamTake, .receive,
      .sendResponse, .receive] ++ .sendResponse :: [.clientTake, .clientTake] := by decide
  exact ⟨_, rfl, (half_close_relayed_iff hσ rfl rfl rfl (by rfl) stays rfl).mpr (.inr (.inl rfl))⟩

end Stream

end PubSubTui.Proxy
