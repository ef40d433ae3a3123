import PubSubTui.Proxy.StreamingMoves

/-! A call whose frames are not all there at its start. What it has done with the first of them it does whatever
comes after. -/

namespace PubSubTui.Proxy.Stream

open Library ActionSystem

variable {s t : Stream} {a : Action} {as : List Action}

def awaiting (s : Stream) (frames : List StreamingPullRequest) : Stream := { s with inbound := s.inbound ++ frames }

lemma step_of_moves (h : Moves s a t) : s.step a = some t := by
  cases h with
  | readFrame running pump next => simp [step, readFrame, running, pump, next, tap_eq, latched, opening, acking]
  | readEnd running pump next => simp [step, readEnd, running, pump, next, finish_eq, closing]
  | readError running pump => simp [step, readError, running, pump, finish_eq, closing]
  | sendRequest running pump room => simp [step, sendRequest, running, pump, room]
  | requestRefused running pump gone =>
    simp [step, sendRequest, running, pump, Channel.trySend, gone, finish_eq, closing]
  | call running pump => simp [step, call, running, pump]
  | rejected running pump next | accepted running pump next => simp [step, answer, running, pump, next]
  | receive running pump next => simp [step, receive, running, pump, next, countDelivered_eq, delivering]
  | receiveError running pump next => simp [step, receive, running, pump, next]
  | receiveEnd running pump next => simp [step, receive, running, pump, next, finish_eq, closing]
  | sendResponse running pump room => simp [step, sendResponse, running, pump, room]
  | sendStatus running pump room => simp [step, sendResponse, running, pump, room, finish_eq, closing]
  | responseRefused running pump gone =>
    cases hp : s.outboundPump with
    | unpolled | calling | receiving => simp [hp, OutboundPump.held] at pump
    | sending resp | failing status => simp [step, sendResponse, running, hp, Channel.trySend, gone, finish_eq, closing]
  | upstreamTake pump some =>
    cases hp : s.outboundPump with
    | unpolled => exact absurd hp pump
    | calling | receiving | sending _ | failing _ => simp [step, upstreamTake, hp, some]
  | upstreamClose pump here =>
    cases hp : s.outboundPump with
    | unpolled => exact absurd hp pump
    | calling | receiving | sending _ | failing _ => simp [step, upstreamClose, hp, here]
  | clientTake some => simp [step, clientTake, some]
  | clientClose here => simp [step, clientClose, here]

lemma step_awaiting (frames : List StreamingPullRequest) (ha : a ≠ .readEnd) (h : s.step a = some t) :
    (s.awaiting frames).step a = some (t.awaiting frames) := by
  apply step_of_moves
  cases moves h with
  | readEnd => exact absurd rfl ha
  | readFrame running pump next =>
    exact .readFrame (s := s.awaiting frames) running pump (by rw [awaiting, next, List.cons_append])
  | readError running pump => exact .readError (s := s.awaiting frames) running pump
  | sendRequest running pump room => exact .sendRequest (s := s.awaiting frames) running pump room
  | requestRefused running pump gone => exact .requestRefused (s := s.awaiting frames) running pump gone
  | call running pump => exact .call (s := s.awaiting frames) running pump
  | rejected running pump next => exact .rejected (s := s.awaiting frames) running pump next
  | accepted running pump next => exact .accepted (s := s.awaiting frames) running pump next
  | receive running pump next => exact .receive (s := s.awaiting frames) running pump next
  | receiveError running pump next => exact .receiveError (s := s.awaiting frames) running pump next
  | receiveEnd running pump next => exact .receiveEnd (s := s.awaiting frames) running pump next
  | sendResponse running pump room => exact .sendResponse (s := s.awaiting frames) running pump room
  | sendStatus running pump room => exact .sendStatus (s := s.awaiting frames) running pump room
  | responseRefused running pump gone => exact .responseRefused (s := s.awaiting frames) running pump gone
  | upstreamTake pump some => exact .upstreamTake (s := s.awaiting frames) pump some
  | upstreamClose pump here => exact .upstreamClose (s := s.awaiting frames) pump here
  | clientTake some => exact .clientTake (s := s.awaiting frames) some
  | clientClose here => exact .clientClose (s := s.awaiting frames) here

lemma exec_awaiting (frames : List StreamingPullRequest) (ha : .readEnd ∉ as) (h : exec step s as = some t) :
    exec step (s.awaiting frames) as = some (t.awaiting frames) := by
  induction as generalizing s with
  | nil =>
    cases h
    rfl
  | cons a as ih =>
    obtain ⟨hne, hrest⟩ := not_or.mp (mt List.mem_cons.mpr ha)
    cases hstep : s.step a with
    | none => simp [exec, hstep] at h
    | some u =>
      rw [exec_cons hstep] at h
      rw [exec_cons (step_awaiting frames (Ne.symm hne) hstep)]
      exact ih hrest h

lemma received_of_step (ha : a ≠ .clientTake) (h : s.step a = some t) :
    t.responses.received = s.responses.received := by
  cases moves h with
  | clientTake => exact absurd rfl ha
  | sendResponse running pump room | sendStatus running pump room => exact (Channel.trySend_ok room).2.2.1
  | _ => rfl

end PubSubTui.Proxy.Stream
