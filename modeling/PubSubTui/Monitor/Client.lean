import PubSubTui.Library.Watch
import PubSubTui.Monitor.Encoding

/-! The state stream: what the server sends on a connection, and the supervised client that reads it. -/

namespace PubSubTui.Monitor

open Library Observe

structure Connection where
  cursor : Option ℕ := none
  inFlight : List Proto.StateSnapshot := []
  ended : Bool := false

namespace Connection

def send (connection : Connection) (snapshots : Watch AppState) (now : Instant) : Connection :=
  { connection with
    cursor := some snapshots.version, inFlight := connection.inFlight ++ [toWire snapshots.latest now] }

/-- A turn of the server's side: the current snapshot at once, then whatever has changed. -/
def poll (connection : Connection) (snapshots : Watch AppState) (now : Instant) : Option Connection :=
  if connection.ended then none
  else match connection.cursor with
    | none => some (connection.send snapshots now)
    | some seen =>
      match snapshots.signal seen with
      | .changed => some (connection.send snapshots now)
      | .closed => some { connection with ended := true }
      | .pending => none

end Connection

inductive Link
  | down
  | dialled
  | streaming (connection : Connection)
  | stopped

namespace Link

def IsUp : Link → Prop
  | dialled | streaming _ => True
  | down | stopped => False

instance (link : Link) : Decidable link.IsUp :=
  match link with
  | dialled | streaming _ => isTrue trivial
  | down | stopped => isFalse id

def inFlight : Link → List Proto.StateSnapshot
  | streaming connection => connection.inFlight
  | down | dialled | stopped => []

/-- The server's process ends: what was sent may still arrive, and nothing follows it. -/
def sever : Link → Link
  | streaming connection => streaming { connection with ended := true }
  | link => link

end Link

structure Client where
  link : Link := .down
  snapshots : Watch AppState := { initial := {} }
  connected : Watch Bool := { initial := false }

namespace Client

inductive Action
  | dialled | dialFailed | subscribed | subscribeFailed
  | received (now : Instant)
  | ended | failed
  deriving DecidableEq

def retry (client : Client) : Client :=
  let connected := client.connected.post false
  if client.snapshots.hasReceiver then { client with link := .down, connected }
  else
    { link := .stopped
      snapshots := { client.snapshots with hasSender := false }
      connected := { connected with hasSender := false } }

variable (E : Encoder)

/-- A message over the limit is not decoded, and fails the stream. -/
def receive (client : Client) (connection : Connection) (now : Instant) : Option Client :=
  match connection.inFlight with
  | [] => none
  | snapshot :: inFlight =>
    if maxDecodingMessageSize < E.encodedLen snapshot then some client.retry
    else match client.snapshots.send (fromWire snapshot now) with
      | some snapshots => some { client with link := .streaming { connection with inFlight }, snapshots }
      | none => some client.retry

def step (client : Client) : Action → Option Client
  | .dialled =>
    match client.link with
    | .down => some { client with link := .dialled, connected := client.connected.post true }
    | _ => none
  | .dialFailed =>
    match client.link with
    | .down => some client.retry
    | _ => none
  | .subscribed =>
    match client.link with
    | .dialled => some { client with link := .streaming {} }
    | _ => none
  | .subscribeFailed =>
    match client.link with
    | .dialled => some client.retry
    | _ => none
  | .received now =>
    match client.link with
    | .streaming connection => client.receive E connection now
    | _ => none
  | .ended =>
    match client.link with
    | .streaming connection =>
      if connection.ended ∧ connection.inFlight = [] then some client.retry else none
    | _ => none
  | .failed =>
    match client.link with
    | .streaming _ => some client.retry
    | _ => none

def serve (client : Client) (snapshots : Watch AppState) (now : Instant) : Option Client :=
  match client.link with
  | .streaming connection =>
    (connection.poll snapshots now).map fun connection => { client with link := .streaming connection }
  | _ => none

inductive Moves (client : Client) : Client → Prop
  | dialled (idle : client.link = .down) :
    Moves client { client with link := .dialled, connected := client.connected.post true }
  | retried (live : client.link ≠ .stopped) : Moves client client.retry
  | subscribed (up : client.link = .dialled) : Moves client { client with link := .streaming {} }
  | received {connection : Connection} {snapshot : Proto.StateSnapshot} {inFlight : List Proto.StateSnapshot}
    (now : Instant) (up : client.link = .streaming connection) (next : connection.inFlight = snapshot :: inFlight)
    (read : client.snapshots.hasReceiver = true) :
    Moves client { client with
      link := .streaming { connection with inFlight }
      snapshots := { client.snapshots with sent := client.snapshots.sent ++ [fromWire snapshot now] } }

inductive Serves (snapshots : Watch AppState) (client : Client) : Client → Prop
  | sent {connection : Connection} (now : Instant) (up : client.link = .streaming connection)
    (live : connection.ended = false) :
    Serves snapshots client { client with link := .streaming (connection.send snapshots now) }
  | closed {connection : Connection} {seen : ℕ} (up : client.link = .streaming connection)
    (live : connection.ended = false) (at_ : connection.cursor = some seen) (gone : snapshots.signal seen = .closed) :
    Serves snapshots client { client with link := .streaming { connection with ended := true } }

variable {E} {client client' : Client} {a : Action} {snapshots : Watch AppState} {now : Instant}

lemma moves (h : client.step E a = some client') : client.Moves client' := by
  cases a with
  | dialled =>
    simp only [step] at h
    split at h
    · cases h
      exact .dialled ‹_›
    · cases h
  | subscribed =>
    simp only [step] at h
    split at h
    · cases h
      exact .subscribed ‹_›
    · cases h
  | dialFailed | subscribeFailed | failed =>
    simp only [step] at h
    split at h
    · rename_i hlink
      cases h
      exact .retried (by simp [hlink])
    · cases h
  | ended =>
    simp only [step] at h
    split at h
    · rename_i hlink
      split_ifs at h
      cases h
      exact .retried (by simp [hlink])
    · cases h
  | received now =>
    simp only [step] at h
    split at h
    · rename_i connection hlink
      rw [receive] at h
      split at h
      · cases h
      · rename_i hnext
        split_ifs at h with hlong
        · cases h
          exact .retried (by simp [hlink])
        · split at h
          · rename_i sent hsend
            obtain ⟨hread, rfl⟩ := Watch.send_some hsend
            cases h
            exact .received now hlink hnext hread
          · cases h
            exact .retried (by simp [hlink])
    · cases h

lemma serves (h : client.serve snapshots now = some client') : client.Serves snapshots client' := by
  rw [serve] at h
  split at h
  · rename_i connection hlink
    obtain ⟨polled, hpoll, rfl⟩ := Option.map_eq_some_iff.mp h
    rw [Connection.poll] at hpoll
    split_ifs at hpoll with hended
    have hlive : connection.ended = false := by simpa using hended
    split at hpoll
    · cases hpoll
      exact .sent now hlink hlive
    · split at hpoll
      · cases hpoll
        exact .sent now hlink hlive
      · cases hpoll
        exact .closed hlink hlive ‹_› ‹_›
      · cases hpoll
  · cases h

end Client

end PubSubTui.Monitor
