import Mathlib.Tactic
import PubSubTui.Library.ActionSystem
import PubSubTui.Library.Channel
import PubSubTui.Observe.Events
import PubSubTui.Proxy.Messages

/-! One proxied `StreamingPull`: two pumps interleaved at their await points, the two bounded channels they
feed, and a client and an upstream that move at any time. -/

namespace PubSubTui.Proxy

open Library Observe

def streamBuffer : ℕ := 64

abbrev Item := Except Status StreamingPullResponse

inductive Upstream
  | rejected (status : Status)
  | accepted (responses : List StreamingPullResponse) (failure : Option Status)

def Upstream.produced : Upstream → List Item
  | rejected status => [.error status]
  | accepted responses failure => responses.map .ok ++ failure.toList.map .error

/-- The point the client-to-server pump waits at: the client's next frame, or room for one it has read. -/
inductive InboundPump
  | reading
  | sending (req : StreamingPullRequest)

def InboundPump.held : InboundPump → List StreamingPullRequest
  | reading => []
  | sending req => [req]

/-- The point the server-to-client pump waits at; before its first poll the call has not been made. -/
inductive OutboundPump
  | unpolled
  | calling
  | receiving
  | sending (resp : StreamingPullResponse)
  | failing (status : Status)

def OutboundPump.held : OutboundPump → List Item
  | unpolled | calling | receiving => []
  | sending resp => [.ok resp]
  | failing status => [.error status]

/-- `read` and `observed` record what the inbound pump has read and what was emitted. -/
structure Stream where
  peer : Option SocketAddr
  inbound : List StreamingPullRequest
  inboundPump : InboundPump := .reading
  requests : Channel streamBuffer StreamingPullRequest := .empty
  upstream : Upstream
  outboundPump : OutboundPump := .unpolled
  responses : Channel streamBuffer Item := .empty
  subscription : String := ""
  opened : Bool := false
  finished : Bool := false
  read : List StreamingPullRequest := []
  observed : List Observation := []

inductive Action
  | readFrame | readEnd | readError | sendRequest
  | call | answer | receive | sendResponse
  | upstreamTake | upstreamClose | clientTake | clientClose
  deriving DecidableEq

namespace Stream

def observe (s : Stream) (o : Observation) : Stream := { s with observed := s.observed ++ [o] }

def latch (s : Stream) (req : StreamingPullRequest) : Stream :=
  if req.subscription = "" then s
  else
    let s := { s with subscription := req.subscription }
    if s.opened then s
    else { s with opened := true }.observe (.consumerOpen req.subscription s.peer)

def countAcks (s : Stream) (req : StreamingPullRequest) : Stream :=
  if req.ackIds = [] then s else s.observe (.ack s.subscription s.peer req.ackIds.length)

def countDelivered (s : Stream) (resp : StreamingPullResponse) : Stream :=
  if resp.receivedMessages.length > 0 then
    s.observe (.deliver s.subscription s.peer resp.receivedMessages.length)
  else s

/-- One branch of the `select!` has completed: the other is dropped where it stands and the task closes up. -/
def finish (s : Stream) : Stream :=
  let s := { s with finished := true }
  if s.opened then s.observe (.consumerClose s.subscription s.peer) else s

def readFrame (s : Stream) : Option Stream :=
  match s.inboundPump, s.inbound with
  | .reading, req :: inbound =>
    some (({ s with inbound, read := s.read ++ [req], inboundPump := .sending req }.latch req).countAcks req)
  | _, _ => none

def readEnd (s : Stream) : Option Stream :=
  match s.inboundPump, s.inbound with
  | .reading, [] => some s.finish
  | _, _ => none

def readError (s : Stream) : Option Stream :=
  match s.inboundPump with
  | .reading => some s.finish
  | .sending _ => none

def sendRequest (s : Stream) : Option Stream :=
  match s.inboundPump with
  | .reading => none
  | .sending req =>
    match s.requests.trySend req with
    | .ok requests => some { s with requests, inboundPump := .reading }
    | .error .closed => some s.finish
    | .error .full => none

def call (s : Stream) : Option Stream :=
  match s.outboundPump with
  | .unpolled => some { s with outboundPump := .calling }
  | _ => none

def answer (s : Stream) : Option Stream :=
  match s.outboundPump, s.upstream with
  | .calling, .rejected status =>
    some { s with upstream := .accepted [] none, outboundPump := .failing status }
  | .calling, .accepted _ _ => some { s with outboundPump := .receiving }
  | _, _ => none

def receive (s : Stream) : Option Stream :=
  match s.outboundPump, s.upstream with
  | .receiving, .accepted (resp :: responses) failure =>
    some ({ s with upstream := .accepted responses failure, outboundPump := .sending resp }.countDelivered resp)
  | .receiving, .accepted [] (some status) =>
    some { s with upstream := .accepted [] none, outboundPump := .failing status }
  | .receiving, .accepted [] none => some s.finish
  | _, _ => none

def sendResponse (s : Stream) : Option Stream :=
  match s.outboundPump with
  | .sending resp =>
    match s.responses.trySend (.ok resp) with
    | .ok responses => some { s with responses, outboundPump := .receiving }
    | .error .closed => some s.finish
    | .error .full => none
  | .failing status =>
    match s.responses.trySend (.error status) with
    | .ok responses => some { s with responses, outboundPump := .receiving }.finish
    | .error .closed => some s.finish
    | .error .full => none
  | _ => none

/-- The upstream sees the request stream once the call is made. -/
def upstreamTake (s : Stream) : Option Stream :=
  match s.outboundPump with
  | .unpolled => none
  | _ => s.requests.recv.map (fun requests => { s with requests })

def upstreamClose (s : Stream) : Option Stream :=
  match s.outboundPump, s.requests.closed with
  | .unpolled, _ | _, true => none
  | _, false => some { s with requests := s.requests.close }

def clientTake (s : Stream) : Option Stream :=
  s.responses.recv.map (fun responses => { s with responses })

def clientClose (s : Stream) : Option Stream :=
  if s.responses.closed then none else some { s with responses := s.responses.close }

/-- The pumps move only while the task runs; the client and the upstream outlive it. -/
def step (s : Stream) : Action → Option Stream
  | .readFrame => if s.finished then none else s.readFrame
  | .readEnd => if s.finished then none else s.readEnd
  | .readError => if s.finished then none else s.readError
  | .sendRequest => if s.finished then none else s.sendRequest
  | .call => if s.finished then none else s.call
  | .answer => if s.finished then none else s.answer
  | .receive => if s.finished then none else s.receive
  | .sendResponse => if s.finished then none else s.sendResponse
  | .upstreamTake => s.upstreamTake
  | .upstreamClose => s.upstreamClose
  | .clientTake => s.clientTake
  | .clientClose => s.clientClose

end Stream

structure Script where
  peer : Option SocketAddr
  frames : List StreamingPullRequest
  upstream : Upstream

def Script.start (script : Script) : Stream where
  peer := script.peer
  inbound := script.frames
  upstream := script.upstream

abbrev Reaches (script : Script) (as : List Action) (s : Stream) : Prop :=
  ActionSystem.exec Stream.step script.start as = some s

namespace Stream

def latched (s : Stream) (req : StreamingPullRequest) : String :=
  if req.subscription = "" then s.subscription else req.subscription

def opening (s : Stream) (req : StreamingPullRequest) : List Observation :=
  if req.subscription = "" ∨ s.opened then [] else [.consumerOpen req.subscription s.peer]

def acking (s : Stream) (req : StreamingPullRequest) : List Observation :=
  if req.ackIds = [] then [] else [.ack (s.latched req) s.peer req.ackIds.length]

def delivering (s : Stream) (resp : StreamingPullResponse) : List Observation :=
  if resp.receivedMessages.length > 0 then
    [.deliver s.subscription s.peer resp.receivedMessages.length]
  else []

def closing (s : Stream) : List Observation :=
  if s.opened then [.consumerClose s.subscription s.peer] else []

lemma tap_eq (s : Stream) (req : StreamingPullRequest) :
    (s.latch req).countAcks req = { s with
      subscription := s.latched req
      opened := s.opened || req.subscription ≠ ""
      observed := s.observed ++ (s.opening req ++ s.acking req) } := by
  by_cases hs : req.subscription = "" <;> by_cases ha : req.ackIds = [] <;> cases ho : s.opened <;>
    simp [latch, countAcks, latched, opening, acking, observe, hs, ha, ho] <;> simp [← ho]

lemma countDelivered_eq (s : Stream) (resp : StreamingPullResponse) :
    s.countDelivered resp = { s with observed := s.observed ++ s.delivering resp } := by
  by_cases h : resp.receivedMessages.length > 0 <;> simp [countDelivered, delivering, observe, h]

lemma finish_eq (s : Stream) :
    s.finish = { s with finished := true, observed := s.observed ++ s.closing } := by
  cases h : s.opened <;> simp [finish, closing, observe, h]

end Stream

end PubSubTui.Proxy
