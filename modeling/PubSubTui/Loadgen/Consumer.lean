import PubSubTui.Proxy.Arrivals
import PubSubTui.Proxy.SubscriptionLatch

/-! A streaming consumer of the load generator, and the relayed call it holds open. -/

namespace PubSubTui.Loadgen

open Library Observe Proxy ActionSystem

def ackDeadlineSecs : ℤ := 10

def requestBuffer : ℕ := 16

inductive Phase
  | opening
  | calling
  | waiting
  | sending (ack : StreamingPullRequest)
  | returned

def Phase.held : Phase → List StreamingPullRequest
  | sending ack => [ack]
  | opening | calling | waiting | returned => []

structure Consumer where
  subscription : String
  phase : Phase := .opening
  requests : Channel requestBuffer StreamingPullRequest := .empty

def openFrame (subscription : String) : StreamingPullRequest where
  subscription
  streamAckDeadlineSeconds := ackDeadlineSecs

def ackIdsOf (response : StreamingPullResponse) : List String := response.receivedMessages.map (·.ackId)

def ackFrame (response : StreamingPullResponse) : Option StreamingPullRequest :=
  if ackIdsOf response = [] then none else some { ackIds := ackIdsOf response }

namespace Consumer

def send (c : Consumer) (frame : StreamingPullRequest) (next : Phase) : Option Consumer :=
  match c.requests.trySend frame with
  | .ok requests => some { c with requests, phase := next }
  | .error .closed => some { c with phase := .returned }
  | .error .full => none

def advance (c : Consumer) : Option Consumer :=
  match c.phase with
  | .opening => c.send (openFrame c.subscription) .calling
  | .sending ack => c.send ack .waiting
  | .calling | .waiting | .returned => none

def called (c : Consumer) (accepted : Bool) : Option Consumer :=
  match c.phase with
  | .calling => some { c with phase := if accepted then .waiting else .returned }
  | .opening | .waiting | .sending _ | .returned => none

def receive (c : Consumer) : Item → Consumer
  | .ok response => { c with phase := (ackFrame response).elim .waiting .sending }
  | .error _ => { c with phase := .returned }

end Consumer

/-- A consumer, and its call as the proxy serves it. What the consumer has handed to the connection has arrived. -/
structure Consumption where
  consumer : Consumer
  stream : Stream

namespace Consumption

/-- `lose` is the end of the responses, or a failure of the connection; `hangUp` drops the request stream. -/
inductive Action
  | advance | called (accepted : Bool) | take | lose | upload | hangUp | relay (a : Proxy.Action)

def start (subscription : String) (peer : Option SocketAddr) (upstream : Upstream) : Consumption where
  consumer := { subscription }
  stream := { peer, inbound := [], upstream }

def take (c : Consumption) : Option Consumption :=
  match c.consumer.phase with
  | .waiting => c.stream.responses.poll.map fun (item, responses) =>
    { consumer := c.consumer.receive item, stream := { c.stream with responses } }
  | .opening | .calling | .sending _ | .returned => none

def lose (c : Consumption) : Option Consumption :=
  match c.consumer.phase with
  | .waiting => some { c with consumer := { c.consumer with phase := .returned } }
  | .opening | .calling | .sending _ | .returned => none

def upload (c : Consumption) : Option Consumption :=
  c.consumer.requests.poll.map fun (frame, requests) =>
    { consumer := { c.consumer with requests }, stream := c.stream.awaiting [frame] }

def hangUp (c : Consumption) : Option Consumption :=
  if c.consumer.requests.closed then none
  else some { c with consumer := { c.consumer with requests := c.consumer.requests.close } }

/-- The frames end once the consumer has returned and all it sent has arrived. -/
def relay (c : Consumption) (a : Proxy.Action) : Option Consumption :=
  match c.consumer.phase, a with
  | .opening, _ | _, .clientTake => none
  | .returned, .readEnd =>
    if c.consumer.requests.queue = [] then (c.stream.step .readEnd).map ({ c with stream := · }) else none
  | _, .readEnd => none
  | _, a => (c.stream.step a).map ({ c with stream := · })

def step (c : Consumption) : Action → Option Consumption
  | .advance => c.consumer.advance.map ({ c with consumer := · })
  | .called accepted => (c.consumer.called accepted).map ({ c with consumer := · })
  | .take => c.take
  | .lose => c.lose
  | .upload => c.upload
  | .hangUp => c.hangUp
  | .relay a => c.relay a

variable {c d : Consumption} {a : Action} {as : List Action}

inductive Moves (c : Consumption) : Action → Consumption → Prop
  | opened {requests : Channel requestBuffer StreamingPullRequest} (hphase : c.consumer.phase = .opening)
      (room : c.consumer.requests.trySend (openFrame c.consumer.subscription) = .ok requests) :
      Moves c .advance { c with consumer := { c.consumer with requests, phase := .calling } }
  | acknowledged {ack : StreamingPullRequest} {requests : Channel requestBuffer StreamingPullRequest}
      (hphase : c.consumer.phase = .sending ack) (room : c.consumer.requests.trySend ack = .ok requests) :
      Moves c .advance { c with consumer := { c.consumer with requests, phase := .waiting } }
  | refused (gone : c.consumer.requests.closed = true) :
      Moves c .advance { c with consumer := { c.consumer with phase := .returned } }
  | accepted (hphase : c.consumer.phase = .calling) :
      Moves c (.called true) { c with consumer := { c.consumer with phase := .waiting } }
  | rejected : Moves c (.called false) { c with consumer := { c.consumer with phase := .returned } }
  | took {item : Item} {responses : Channel streamBuffer Item} (hphase : c.consumer.phase = .waiting)
      (next : c.stream.responses.poll = some (item, responses)) :
      Moves c .take { consumer := c.consumer.receive item, stream := { c.stream with responses } }
  | lost : Moves c .lose { c with consumer := { c.consumer with phase := .returned } }
  | uploaded {frame : StreamingPullRequest} {requests : Channel requestBuffer StreamingPullRequest}
      (next : c.consumer.requests.poll = some (frame, requests)) :
      Moves c .upload { consumer := { c.consumer with requests }, stream := c.stream.awaiting [frame] }
  | hungUp (here : c.consumer.requests.closed = false) :
      Moves c .hangUp { c with consumer := { c.consumer with requests := c.consumer.requests.close } }
  | relayed {b : Proxy.Action} {stream : Stream} (called : c.consumer.phase ≠ .opening) (hne : b ≠ .clientTake)
      (ended : b = .readEnd → c.consumer.phase = .returned ∧ c.consumer.requests.queue = [])
      (moved : c.stream.step b = some stream) : Moves c (.relay b) { c with stream }

lemma advance_moves (h : c.step .advance = some d) : Moves c .advance d := by
  obtain ⟨consumer, hconsumer, rfl⟩ := Option.map_eq_some_iff.mp h
  rw [Consumer.advance] at hconsumer
  split at hconsumer
  · rename_i hphase
    rw [Consumer.send] at hconsumer
    split at hconsumer
    · rename_i requests room
      cases hconsumer
      exact .opened hphase room
    · rename_i gone
      cases hconsumer
      exact .refused (Channel.trySend_closed gone)
    · cases hconsumer
  · rename_i ack hphase
    rw [Consumer.send] at hconsumer
    split at hconsumer
    · rename_i requests room
      cases hconsumer
      exact .acknowledged hphase room
    · rename_i gone
      cases hconsumer
      exact .refused (Channel.trySend_closed gone)
    · cases hconsumer
  all_goals cases hconsumer

lemma relay_moves {b : Proxy.Action} (h : c.relay b = some d) : Moves c (.relay b) d := by
  rw [relay.eq_def] at h
  split at h
  · cases h
  · cases h
  · rename_i _ _ hphase
    split_ifs at h with hqueue
    obtain ⟨stream, hstream, rfl⟩ := Option.map_eq_some_iff.mp h
    exact .relayed (by simp [hphase]) (by simp) (fun _ => ⟨hphase, hqueue⟩) hstream
  · cases h
  · rename_i htake hend hcalled _
    obtain ⟨stream, hstream, rfl⟩ := Option.map_eq_some_iff.mp h
    exact .relayed hcalled htake (fun heq => (hend heq).elim) hstream

lemma moves (h : c.step a = some d) : Moves c a d := by
  cases a with
  | advance => exact advance_moves h
  | called accepted =>
    obtain ⟨consumer, hconsumer, rfl⟩ := Option.map_eq_some_iff.mp h
    cases hphase : c.consumer.phase with
    | calling =>
      simp only [Consumer.called, hphase, Option.some.injEq] at hconsumer
      subst hconsumer
      cases accepted with
      | true => exact .accepted hphase
      | false => exact .rejected
    | opening | waiting | sending _ | returned => simp [Consumer.called, hphase] at hconsumer
  | take =>
    cases hphase : c.consumer.phase with
    | waiting =>
      simp only [step, take, hphase] at h
      obtain ⟨⟨item, responses⟩, hpoll, rfl⟩ := Option.map_eq_some_iff.mp h
      exact .took hphase hpoll
    | opening | calling | sending _ | returned => simp [step, take, hphase] at h
  | lose =>
    cases hphase : c.consumer.phase with
    | waiting =>
      simp only [step, lose, hphase, Option.some.injEq] at h
      subst h
      exact .lost
    | opening | calling | sending _ | returned => simp [step, lose, hphase] at h
  | upload =>
    obtain ⟨⟨frame, requests⟩, hpoll, rfl⟩ := Option.map_eq_some_iff.mp h
    exact .uploaded hpoll
  | hangUp =>
    simp only [step, hangUp] at h
    split_ifs at h with here
    cases h
    exact .hungUp (by simpa using here)
  | relay b => exact relay_moves h

def ackOf : Item → Option StreamingPullRequest
  | .ok response => ackFrame response
  | .error _ => none

def owed (subscription : String) (items : List Item) : List StreamingPullRequest :=
  openFrame subscription :: items.filterMap ackOf

variable {subscription : String} {peer : Option SocketAddr} {upstream : Upstream}

structure Sound (subscription : String) (peer : Option SocketAddr) (upstream : Upstream) (c : Consumption) : Prop where
  joined : ∃ as, Reaches ⟨peer, c.consumer.requests.received, upstream⟩ as c.stream ∧
    (.readEnd ∈ as → c.consumer.phase = .returned ∧ c.consumer.requests.queue = [])
  named : c.consumer.subscription = subscription
  unopened : c.consumer.phase = .opening → c.consumer.requests.sent = [] ∧ c.stream.responses.received = []
  current : c.consumer.phase ≠ .opening → c.consumer.phase ≠ .returned →
    c.consumer.requests.sent ++ c.consumer.phase.held = owed subscription c.stream.responses.received
  behind : c.consumer.requests.sent <+: owed subscription c.stream.responses.received

lemma sound_start : Sound subscription peer upstream (start subscription peer upstream) where
  joined := ⟨[], rfl, by simp⟩
  named := rfl
  unopened _ := ⟨rfl, rfl⟩
  current h _ := absurd rfl h
  behind := List.nil_prefix

lemma Sound.joined_of (hc : Sound subscription peer upstream c)
    (hreceived : d.consumer.requests.received = c.consumer.requests.received) (hstream : d.stream = c.stream)
    (hended : c.consumer.phase = .returned → c.consumer.requests.queue = [] →
      d.consumer.phase = .returned ∧ d.consumer.requests.queue = []) :
    ∃ as, Reaches ⟨peer, d.consumer.requests.received, upstream⟩ as d.stream ∧
      (.readEnd ∈ as → d.consumer.phase = .returned ∧ d.consumer.requests.queue = []) := by
  obtain ⟨as, hreaches, hend⟩ := hc.joined
  refine ⟨as, ?_, fun hmem => hended (hend hmem).1 (hend hmem).2⟩
  rw [hreceived, hstream]
  exact hreaches

lemma Sound.returned (hc : Sound subscription peer upstream c) :
    Sound subscription peer upstream { c with consumer := { c.consumer with phase := .returned } } where
  joined := hc.joined_of rfl rfl fun _ hqueue => ⟨rfl, hqueue⟩
  named := hc.named
  unopened h := nomatch h
  current _ h := absurd rfl h
  behind := hc.behind

lemma ackOf_receive (c : Consumer) (item : Item) (h : (c.receive item).phase ≠ .returned) :
    (c.receive item).phase.held = (ackOf item).toList := by
  cases item with
  | error => exact absurd rfl h
  | ok response =>
    rw [Consumer.receive, ackOf]
    cases ackFrame response <;> rfl

lemma receive_phase (c : Consumer) (item : Item) : (c.receive item).phase ≠ .opening := by
  cases item with
  | error => simp [Consumer.receive]
  | ok response =>
    rw [Consumer.receive]
    cases ackFrame response <;> simp

lemma owed_snoc (items : List Item) (item : Item) :
    owed subscription (items ++ [item]) = owed subscription items ++ (ackOf item).toList := by
  cases h : ackOf item <;> simp [owed, h]

lemma sound_took {item : Item} {responses : Channel streamBuffer Item} (hc : Sound subscription peer upstream c)
    (hphase : c.consumer.phase = .waiting) (next : c.stream.responses.poll = some (item, responses)) :
    Sound subscription peer upstream
      { consumer := c.consumer.receive item, stream := { c.stream with responses } } := by
  obtain ⟨-, -, -, hreceived⟩ := Channel.poll_some next
  have hrequests : (c.consumer.receive item).requests = c.consumer.requests := by cases item <;> rfl
  have howed : owed subscription responses.received =
      c.consumer.requests.sent ++ (ackOf item).toList := by
    have hcurrent := hc.current (by simp [hphase]) (by simp [hphase])
    rw [hphase, Phase.held, List.append_nil] at hcurrent
    rw [hreceived, owed_snoc, ← hcurrent]
  refine ⟨?_, ?_, fun h => absurd h (receive_phase _ _), fun _ h => ?_, ?_⟩
  · obtain ⟨as, hreaches, hend⟩ := hc.joined
    refine ⟨as ++ [.clientTake], ?_, fun hmem => ?_⟩
    · have hstep : c.stream.step .clientTake = some { c.stream with responses } := by
        rw [Stream.step, Stream.clientTake, Channel.recv_of_poll next, Option.map_some]
      dsimp only
      rw [hrequests]
      exact exec_through hreaches hstep rfl
    · have hmem : .readEnd ∈ as := by simpa using hmem
      simp [hphase] at hend
      exact absurd hmem hend
  · cases item <;> exact hc.named
  · dsimp only
    rw [hrequests, ackOf_receive _ _ h, howed]
  · dsimp only
    rw [hrequests, howed]
    exact List.prefix_append _ _

lemma sound_uploaded {frame : StreamingPullRequest} {requests : Channel requestBuffer StreamingPullRequest}
    (hc : Sound subscription peer upstream c) (next : c.consumer.requests.poll = some (frame, requests)) :
    Sound subscription peer upstream
      { consumer := { c.consumer with requests }, stream := c.stream.awaiting [frame] } := by
  obtain ⟨-, -, hqueue, hreceived⟩ := Channel.poll_some next
  have hsent : requests.sent = c.consumer.requests.sent := by
    simp [Channel.sent, hqueue, hreceived]
  refine ⟨?_, hc.named, fun h => ?_, fun h h' => ?_, ?_⟩
  · obtain ⟨as, hreaches, hend⟩ := hc.joined
    have hreading : .readEnd ∉ as := by
      intro hmem
      have hnil := (hend hmem).2
      rw [hqueue] at hnil
      cases hnil
    refine ⟨as, ?_, fun hmem => absurd hmem hreading⟩
    dsimp only
    rw [hreceived]
    exact Stream.exec_awaiting [frame] hreading hreaches
  · dsimp only
    rw [hsent]
    exact hc.unopened h
  · dsimp only
    rw [hsent]
    exact hc.current h h'
  · dsimp only
    rw [hsent]
    exact hc.behind

lemma sound_relayed {b : Proxy.Action} {stream : Stream} (hc : Sound subscription peer upstream c)
    (called : c.consumer.phase ≠ .opening) (hne : b ≠ .clientTake)
    (ended : b = .readEnd → c.consumer.phase = .returned ∧ c.consumer.requests.queue = [])
    (moved : c.stream.step b = some stream) : Sound subscription peer upstream { c with stream } := by
  have hreceived := Stream.received_of_step hne moved
  refine ⟨?_, hc.named, fun h => absurd h called, fun h h' => ?_, ?_⟩
  · obtain ⟨as, hreaches, hend⟩ := hc.joined
    refine ⟨as ++ [b], ?_, fun hmem => ?_⟩
    · exact exec_through hreaches moved rfl
    · rcases List.mem_append.mp hmem with hmem | hmem
      · exact hend hmem
      · exact ended (List.mem_singleton.mp hmem).symm
  · dsimp only
    rw [hreceived]
    exact hc.current h h'
  · dsimp only
    rw [hreceived]
    exact hc.behind

lemma sound_step (hc : Sound subscription peer upstream c) (h : c.step a = some d) :
    Sound subscription peer upstream d := by
  cases moves h with
  | opened hphase room =>
    obtain ⟨hsent, hitems⟩ := hc.unopened hphase
    have howed : owed subscription c.stream.responses.received = [openFrame c.consumer.subscription] := by
      rw [hitems, hc.named]
      rfl
    have hrequests := Channel.sent_trySend room
    rw [hsent, List.nil_append] at hrequests
    refine ⟨hc.joined_of (Channel.trySend_ok room).2.2.1 rfl (by simp [hphase]), hc.named, (nomatch ·),
      fun _ _ => ?_, ?_⟩
    · dsimp only
      rw [hrequests, howed]
      rfl
    · dsimp only
      rw [hrequests, howed]
  | acknowledged hphase room =>
    have hcurrent := hc.current (by simp [hphase]) (by simp [hphase])
    rw [hphase, Phase.held, ← Channel.sent_trySend room] at hcurrent
    refine ⟨hc.joined_of (Channel.trySend_ok room).2.2.1 rfl (by simp [hphase]), hc.named, (nomatch ·),
      fun _ _ => ?_, ?_⟩
    · dsimp only
      rw [hcurrent]
      exact List.append_nil _
    · dsimp only
      rw [hcurrent]
  | refused | rejected | lost => exact hc.returned
  | accepted hphase =>
    have hcurrent := hc.current (by simp [hphase]) (by simp [hphase])
    rw [hphase] at hcurrent
    exact ⟨hc.joined_of rfl rfl (by simp [hphase]), hc.named, (nomatch ·), fun _ _ => hcurrent, hc.behind⟩
  | took hphase next => exact sound_took hc hphase next
  | uploaded next => exact sound_uploaded hc next
  | hungUp here =>
    exact ⟨hc.joined_of rfl rfl fun hphase hqueue => ⟨hphase, hqueue⟩, hc.named, hc.unopened, hc.current, hc.behind⟩
  | relayed called hne ended moved => exact sound_relayed hc called hne ended moved

end Consumption

end PubSubTui.Loadgen
