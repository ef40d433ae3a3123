import PubSubTui.Proxy.StreamingPull

/-! Every move of a proxied `StreamingPull`, with the state it is made from and the state it leaves. -/

namespace PubSubTui.Proxy.Stream

open Library Observe ActionSystem

variable {s t τ : Stream} {a : Action} {bs : List Action}

inductive Moves (s : Stream) : Action → Stream → Prop
  | readFrame {req : StreamingPullRequest} {inbound : List StreamingPullRequest}
      (running : s.finished = false) (pump : s.inboundPump = .reading) (next : s.inbound = req :: inbound) :
      Moves s .readFrame { s with
        inbound := inbound
        inboundPump := .sending req
        read := s.read ++ [req]
        subscription := s.latched req
        opened := s.opened || req.subscription ≠ ""
        observed := s.observed ++ (s.opening req ++ s.acking req) }
  | readEnd (running : s.finished = false) (pump : s.inboundPump = .reading) (next : s.inbound = []) :
      Moves s .readEnd { s with finished := true, observed := s.observed ++ s.closing }
  | readError (running : s.finished = false) (pump : s.inboundPump = .reading) :
      Moves s .readError { s with finished := true, observed := s.observed ++ s.closing }
  | sendRequest {req : StreamingPullRequest} {requests : Channel streamBuffer StreamingPullRequest}
      (running : s.finished = false) (pump : s.inboundPump = .sending req)
      (room : s.requests.trySend req = .ok requests) :
      Moves s .sendRequest { s with requests := requests, inboundPump := .reading }
  | requestRefused {req : StreamingPullRequest}
      (running : s.finished = false) (pump : s.inboundPump = .sending req)
      (gone : s.requests.closed = true) :
      Moves s .sendRequest { s with finished := true, observed := s.observed ++ s.closing }
  | call (running : s.finished = false) (pump : s.outboundPump = .unpolled) :
      Moves s .call { s with outboundPump := .calling }
  | rejected {status : Status} (running : s.finished = false) (pump : s.outboundPump = .calling)
      (next : s.upstream = .rejected status) :
      Moves s .answer { s with upstream := .accepted [] none, outboundPump := .failing status }
  | accepted {responses : List StreamingPullResponse} {failure : Option Status}
      (running : s.finished = false) (pump : s.outboundPump = .calling)
      (next : s.upstream = .accepted responses failure) :
      Moves s .answer { s with outboundPump := .receiving }
  | receive {resp : StreamingPullResponse} {responses : List StreamingPullResponse}
      {failure : Option Status} (running : s.finished = false) (pump : s.outboundPump = .receiving)
      (next : s.upstream = .accepted (resp :: responses) failure) :
      Moves s .receive { s with
        upstream := .accepted responses failure
        outboundPump := .sending resp
        observed := s.observed ++ s.delivering resp }
  | receiveError {status : Status} (running : s.finished = false) (pump : s.outboundPump = .receiving)
      (next : s.upstream = .accepted [] (some status)) :
      Moves s .receive { s with upstream := .accepted [] none, outboundPump := .failing status }
  | receiveEnd (running : s.finished = false) (pump : s.outboundPump = .receiving)
      (next : s.upstream = .accepted [] none) :
      Moves s .receive { s with finished := true, observed := s.observed ++ s.closing }
  | sendResponse {resp : StreamingPullResponse} {responses : Channel streamBuffer Item}
      (running : s.finished = false) (pump : s.outboundPump = .sending resp)
      (room : s.responses.trySend (.ok resp) = .ok responses) :
      Moves s .sendResponse { s with responses := responses, outboundPump := .receiving }
  | sendStatus {status : Status} {responses : Channel streamBuffer Item}
      (running : s.finished = false) (pump : s.outboundPump = .failing status)
      (room : s.responses.trySend (.error status) = .ok responses) :
      Moves s .sendResponse { s with
        responses := responses
        outboundPump := .receiving
        finished := true
        observed := s.observed ++ s.closing }
  | responseRefused (running : s.finished = false) (pump : s.outboundPump.held ≠ [])
      (gone : s.responses.closed = true) :
      Moves s .sendResponse { s with finished := true, observed := s.observed ++ s.closing }
  | upstreamTake {requests : Channel streamBuffer StreamingPullRequest}
      (pump : s.outboundPump ≠ .unpolled) (some : s.requests.recv = some requests) :
      Moves s .upstreamTake { s with requests := requests }
  | upstreamClose (pump : s.outboundPump ≠ .unpolled) (here : s.requests.closed = false) :
      Moves s .upstreamClose { s with requests := s.requests.close }
  | clientTake {responses : Channel streamBuffer Item} (some : s.responses.recv = some responses) :
      Moves s .clientTake { s with responses := responses }
  | clientClose (here : s.responses.closed = false) :
      Moves s .clientClose { s with responses := s.responses.close }

lemma readFrame_moves (hf : s.finished = false) (h : s.readFrame = some t) : Moves s .readFrame t := by
  cases hp : s.inboundPump with
  | sending req => simp [readFrame, hp] at h
  | reading =>
    cases hi : s.inbound with
    | nil => simp [readFrame, hp, hi] at h
    | cons req inbound =>
      simp only [readFrame, hp, hi, Option.some.injEq] at h
      rw [← h, tap_eq]
      exact .readFrame hf hp hi

lemma readEnd_moves (hf : s.finished = false) (h : s.readEnd = some t) : Moves s .readEnd t := by
  cases hp : s.inboundPump with
  | sending req => simp [readEnd, hp] at h
  | reading =>
    cases hi : s.inbound with
    | cons req inbound => simp [readEnd, hp, hi] at h
    | nil =>
      simp only [readEnd, hp, hi, Option.some.injEq] at h
      rw [← h, finish_eq]
      exact .readEnd hf hp hi

lemma readError_moves (hf : s.finished = false) (h : s.readError = some t) : Moves s .readError t := by
  cases hp : s.inboundPump with
  | sending req => simp [readError, hp] at h
  | reading =>
    simp only [readError, hp, Option.some.injEq] at h
    rw [← h, finish_eq]
    exact .readError hf hp

lemma sendRequest_moves (hf : s.finished = false) (h : s.sendRequest = some t) : Moves s .sendRequest t := by
  cases hp : s.inboundPump with
  | reading => simp [sendRequest, hp] at h
  | sending req =>
    rcases hr : s.requests.trySend req with (_ | _) | requests
    · simp [sendRequest, hp, hr] at h
    · simp only [sendRequest, hp, hr, Option.some.injEq] at h
      rw [← h, finish_eq]
      exact .requestRefused hf hp (Channel.trySend_closed hr)
    · simp only [sendRequest, hp, hr, Option.some.injEq] at h
      rw [← h]
      exact .sendRequest hf hp hr

lemma call_moves (hf : s.finished = false) (h : s.call = some t) : Moves s .call t := by
  cases hp : s.outboundPump <;> simp only [call, hp, reduceCtorEq, Option.some.injEq] at h
  rw [← h]
  exact .call hf hp

lemma answer_moves (hf : s.finished = false) (h : s.answer = some t) : Moves s .answer t := by
  cases hp : s.outboundPump <;> simp only [answer, hp, reduceCtorEq] at h
  cases hu : s.upstream with
  | rejected status =>
    simp only [hu, Option.some.injEq] at h
    rw [← h]
    exact .rejected hf hp hu
  | accepted responses failure =>
    simp only [hu, Option.some.injEq] at h
    rw [← h, ← hu]
    exact .accepted hf hp hu

lemma receive_moves (hf : s.finished = false) (h : s.receive = some t) : Moves s .receive t := by
  cases hp : s.outboundPump <;> simp only [receive, hp, reduceCtorEq] at h
  rcases hu : s.upstream with status | ⟨_ | ⟨resp, responses⟩, _ | status⟩ <;>
    simp only [hu, reduceCtorEq, Option.some.injEq, countDelivered_eq] at h
  · rw [← h, finish_eq]
    exact .receiveEnd hf hp hu
  · rw [← h]
    exact .receiveError hf hp hu
  all_goals
    rw [← h]
    exact .receive hf hp hu

lemma sendResponse_moves (hf : s.finished = false) (h : s.sendResponse = some t) :
    Moves s .sendResponse t := by
  cases hp : s.outboundPump <;> simp only [sendResponse, hp, reduceCtorEq] at h
  case sending resp =>
    rcases hr : s.responses.trySend (.ok resp) with (_ | _) | responses <;>
      simp only [hr, reduceCtorEq, Option.some.injEq] at h
    · rw [← h, finish_eq]
      exact .responseRefused hf (by simp [hp, OutboundPump.held]) (Channel.trySend_closed hr)
    · rw [← h]
      exact .sendResponse hf hp hr
  case failing status =>
    rcases hr : s.responses.trySend (.error status) with (_ | _) | responses <;>
      simp only [hr, reduceCtorEq, Option.some.injEq] at h
    · rw [← h, finish_eq]
      exact .responseRefused hf (by simp [hp, OutboundPump.held]) (Channel.trySend_closed hr)
    · rw [← h, finish_eq]
      exact .sendStatus hf hp hr

lemma upstreamTake_moves (h : s.upstreamTake = some t) : Moves s .upstreamTake t := by
  by_cases hp : s.outboundPump = .unpolled
  · simp [upstreamTake, hp] at h
  · have ht : s.requests.recv.map (fun requests => { s with requests }) = some t := by
      cases hq : s.outboundPump <;> simp_all [upstreamTake]
    obtain ⟨requests, hr, ht⟩ := Option.map_eq_some_iff.mp ht
    rw [← ht]
    exact .upstreamTake hp hr

lemma upstreamClose_moves (h : s.upstreamClose = some t) : Moves s .upstreamClose t := by
  by_cases hp : s.outboundPump = .unpolled
  · simp [upstreamClose, hp] at h
  · cases hc : s.requests.closed with
    | true => cases hq : s.outboundPump <;> simp [upstreamClose, hq, hc] at h
    | false =>
      have ht : some { s with requests := s.requests.close } = some t := by
        cases hq : s.outboundPump <;> simp_all [upstreamClose]
      rw [← Option.some.inj ht]
      exact .upstreamClose hp hc

lemma clientTake_moves (h : s.clientTake = some t) : Moves s .clientTake t := by
  obtain ⟨responses, hr, rfl⟩ := Option.map_eq_some_iff.mp h
  exact .clientTake hr

lemma clientClose_moves (h : s.clientClose = some t) : Moves s .clientClose t := by
  cases hc : s.responses.closed with
  | true => simp [clientClose, hc] at h
  | false =>
    simp only [clientClose, hc, Bool.false_eq_true, ↓reduceIte, Option.some.injEq] at h
    rw [← h]
    exact .clientClose hc

lemma moves (h : s.step a = some t) : Moves s a t := by
  have running {o : Option Stream} (h : (if s.finished then none else o) = some t) :
      s.finished = false ∧ o = some t := by
    cases hf : s.finished <;> simp_all
  cases a with
  | readFrame => exact readFrame_moves (running h).1 (running h).2
  | readEnd => exact readEnd_moves (running h).1 (running h).2
  | readError => exact readError_moves (running h).1 (running h).2
  | sendRequest => exact sendRequest_moves (running h).1 (running h).2
  | call => exact call_moves (running h).1 (running h).2
  | answer => exact answer_moves (running h).1 (running h).2
  | receive => exact receive_moves (running h).1 (running h).2
  | sendResponse => exact sendResponse_moves (running h).1 (running h).2
  | upstreamTake => exact upstreamTake_moves h
  | upstreamClose => exact upstreamClose_moves h
  | clientTake => exact clientTake_moves h
  | clientClose => exact clientClose_moves h

inductive Taps (s t : Stream) : Prop
  | silent (read : t.read = s.read) (subscription : t.subscription = s.subscription)
      (opened : t.opened = s.opened) (finished : t.finished = s.finished)
      (observed : t.observed = s.observed)
  | frame (req : StreamingPullRequest) (running : s.finished = false) (read : t.read = s.read ++ [req])
      (subscription : t.subscription = s.latched req)
      (opened : t.opened = (s.opened || req.subscription ≠ "")) (finished : t.finished = false)
      (observed : t.observed = s.observed ++ (s.opening req ++ s.acking req))
  | response (resp : StreamingPullResponse) (running : s.finished = false) (read : t.read = s.read)
      (subscription : t.subscription = s.subscription) (opened : t.opened = s.opened)
      (finished : t.finished = false) (observed : t.observed = s.observed ++ s.delivering resp)
  | ending (running : s.finished = false) (read : t.read = s.read)
      (subscription : t.subscription = s.subscription) (opened : t.opened = s.opened)
      (finished : t.finished = true) (observed : t.observed = s.observed ++ s.closing)

lemma taps (h : s.step a = some t) : Taps s t := by
  cases moves h with
  | readFrame running => exact .frame _ running rfl rfl rfl running rfl
  | receive running => exact .response _ running rfl rfl rfl running rfl
  | readEnd running | readError running | requestRefused running | receiveEnd running
  | sendStatus running | responseRefused running => exact .ending running rfl rfl rfl rfl rfl
  | _ => exact .silent rfl rfl rfl rfl rfl

/-! A task that has ended leaves its pumps as they stand; only its channels are still emptied or closed. -/

lemma ended_step (hf : s.finished = true) (h : s.step a = some t) :
    t = { s with requests := t.requests, responses := t.responses } ∧
      (a ≠ .clientClose → t.responses.closed = s.responses.closed) := by
  cases moves h with
  | clientTake some =>
    obtain ⟨hs, ht, -⟩ := Channel.recv_some some
    exact ⟨rfl, fun _ => ht.trans hs.symm⟩
  | clientClose here => exact ⟨rfl, fun hne => absurd rfl hne⟩
  | upstreamTake | upstreamClose => exact ⟨rfl, fun _ => rfl⟩
  | _ => simp_all

lemma ended_exec (hf : τ.finished = true) (h : exec step τ bs = some s) :
    s = { τ with requests := s.requests, responses := s.responses } := by
  refine (exec_invariant (P := fun u => u = { τ with requests := u.requests, responses := u.responses })
    (fun u b v hu hv => ?_) rfl h)
  have hv' := (ended_step (by rw [hu]; exact hf) hv).1
  rw [hv', hu]

end PubSubTui.Proxy.Stream
