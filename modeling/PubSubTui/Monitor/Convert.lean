import Mathlib.Tactic
import PubSubTui.Observe.State

/-! The state as it crosses the wire to a user interface. Instants travel as ages in milliseconds. -/

namespace PubSubTui.Monitor

open Std Observe

namespace Proto

structure Publisher where
  published : ℕ
  millisSinceLastSeen : ℕ
  deriving DecidableEq

structure Topic where
  exists_ : Bool
  publishCount : ℕ
  publishers : ExtTreeMap String Publisher

structure Subscription where
  exists_ : Bool
  topic : Option String
  delivered : ℕ
  acked : ℕ
  liveConsumers : ℕ
  deriving DecidableEq

structure Attribute where
  key : String
  value : String
  deriving DecidableEq

structure RecentMessage where
  seq : ℕ
  topic : String
  data : List UInt8
  attributes : List Attribute
  originalLen : ℕ
  truncated : Bool
  millisSinceSeen : ℕ
  deriving DecidableEq

structure StateSnapshot where
  topics : ExtTreeMap String Topic
  subscriptions : ExtTreeMap String Subscription
  recentMessages : List RecentMessage
  recentBufferCapacity : ℕ

end Proto

def millisSince (seen now : Instant) : ℕ := min ((now - seen) / 10 ^ 6) (2 ^ 64 - 1)

def publisherToWire (publisher : Publisher) (now : Instant) : Proto.Publisher where
  published := publisher.published
  millisSinceLastSeen := millisSince publisher.lastSeen now

def topicToWire (topic : Topic) (now : Instant) : Proto.Topic where
  exists_ := topic.exists_
  publishCount := topic.publishCount
  publishers := topic.publishers.map (fun _ publisher => publisherToWire publisher now)

def subscriptionToWire (sub : Subscription) : Proto.Subscription where
  exists_ := sub.exists_
  topic := sub.topic
  delivered := sub.delivered
  acked := sub.acked
  liveConsumers := sub.liveConsumers

def messageToWire (message : RecentMessage) (now : Instant) : Proto.RecentMessage where
  seq := message.seq
  topic := message.topic
  data := message.data
  attributes := message.attributes.map (fun (key, value) => { key, value })
  originalLen := message.originalLen
  truncated := message.truncated
  millisSinceSeen := millisSince message.seen now

def toWire (state : AppState) (now : Instant) : Proto.StateSnapshot where
  topics := state.topics.map (fun _ topic => topicToWire topic now)
  subscriptions := state.subscriptions.map (fun _ sub => subscriptionToWire sub)
  recentMessages := state.recentMessages.map (messageToWire · now)
  recentBufferCapacity := state.recentBufferCapacity

/-- Nothing before the earliest instant can be represented. -/
def checkedSub (now : Instant) (duration : ℕ) : Option Instant :=
  if duration ≤ now then some (now - duration) else none

def fromMillis (millis : ℕ) : ℕ := millis * 10 ^ 6

def publisherFromWire (publisher : Proto.Publisher) (now : Instant) : Publisher where
  published := publisher.published
  lastSeen := (checkedSub now (fromMillis publisher.millisSinceLastSeen)).getD now

def topicFromWire (topic : Proto.Topic) (now : Instant) : Topic where
  exists_ := topic.exists_
  publishCount := topic.publishCount
  publishers := topic.publishers.map (fun _ publisher => publisherFromWire publisher now)

def subscriptionFromWire (sub : Proto.Subscription) : Subscription where
  exists_ := sub.exists_
  topic := sub.topic
  delivered := sub.delivered
  acked := sub.acked
  liveConsumers := sub.liveConsumers

def messageFromWire (message : Proto.RecentMessage) (now : Instant) : RecentMessage where
  seq := message.seq
  topic := message.topic
  data := message.data
  attributes := message.attributes.map (fun attr => (attr.key, attr.value))
  originalLen := message.originalLen
  truncated := message.truncated
  seen := (checkedSub now (fromMillis message.millisSinceSeen)).getD now

def fromWire (snapshot : Proto.StateSnapshot) (now : Instant) : AppState where
  topics := snapshot.topics.map (fun _ topic => topicFromWire topic now)
  subscriptions := snapshot.subscriptions.map (fun _ sub => subscriptionFromWire sub)
  recentMessages := snapshot.recentMessages.map (messageFromWire · now)
  recentBufferCapacity := snapshot.recentBufferCapacity

end PubSubTui.Monitor
