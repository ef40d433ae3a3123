import Mathlib.Tactic
import PubSubTui.Library.TreeMaps
import PubSubTui.Observe.Events

/-! The application state and the task that owns it. Counters are natural numbers: the totals of a run are
assumed to fit the 64 bits the monitor keeps them in. -/

namespace PubSubTui.Observe

open Std Library.TreeMaps

def publisherActiveWindow : ℕ := 10 * 10 ^ 9

structure Publisher where
  published : ℕ
  lastSeen : Instant
  deriving DecidableEq

structure Topic where
  exists_ : Bool := false
  publishCount : ℕ := 0
  publishers : ExtTreeMap String Publisher := ∅

structure Subscription where
  exists_ : Bool := false
  topic : Option String := none
  delivered : ℕ := 0
  acked : ℕ := 0
  liveConsumers : ℕ := 0
  deriving DecidableEq

structure RecentMessage where
  seq : ℕ
  topic : String
  data : List UInt8
  attributes : List (String × String)
  originalLen : ℕ
  truncated : Bool
  seen : Instant
  deriving DecidableEq

def RecentMessage.ofPublished (seq : ℕ) (topic : String) (message : PublishedMessage) (seen : Instant) :
    RecentMessage where
  seq
  topic
  data := message.data
  attributes := message.attributes
  originalLen := message.originalLen
  truncated := message.truncated
  seen

structure AppState where
  topics : ExtTreeMap String Topic := ∅
  subscriptions : ExtTreeMap String Subscription := ∅
  recentMessages : List RecentMessage := []
  recentBufferCapacity : ℕ := 0
  nextSeq : ℕ := 0

namespace AppState

def topicMut (s : AppState) (name : String) (update : Topic → Topic) : AppState :=
  { s with topics := upsert s.topics name (fun entry => update (entry.getD {})) }

def subscriptionMut (s : AppState) (name : String) (update : Subscription → Subscription) : AppState :=
  { s with subscriptions := upsert s.subscriptions name (fun entry => update (entry.getD {})) }

def pushRecent (s : AppState) (topic : String) (message : PublishedMessage) (now : Instant) : AppState :=
  { s with
    nextSeq := s.nextSeq + 1
    recentMessages := s.recentMessages ++ [.ofPublished s.nextSeq topic message now] }

def popWhileOver (cap : ℕ) : List RecentMessage → List RecentMessage
  | [] => []
  | m :: ms => if (m :: ms).length > cap then popWhileOver cap ms else m :: ms

def trimRecent (s : AppState) (cap : ℕ) : AppState :=
  { s with recentMessages := popWhileOver cap s.recentMessages }

def countPublish (entry : Topic) (key : String) (count : ℕ) (now : Instant) : Topic :=
  { entry with
    publishCount := entry.publishCount + count
    publishers := upsert entry.publishers key fun publisher =>
      { published := (publisher.getD { published := 0, lastSeen := now }).published + count
        lastSeen := now } }

def clearTopics (s : AppState) : AppState :=
  { s with topics := s.topics.map (fun _ (topic : Topic) => { topic with exists_ := false }) }

def listTopics (s : AppState) (topics : List String) : AppState :=
  topics.foldl (fun s name => s.topicMut name (fun topic => { topic with exists_ := true })) s

def clearSubscriptions (s : AppState) : AppState :=
  { s with
    subscriptions := s.subscriptions.map (fun _ (sub : Subscription) => { sub with exists_ := false }) }

def listSubscriptions (s : AppState) (subscriptions : List SubscriptionInfo) : AppState :=
  subscriptions.foldl
    (fun s info => s.subscriptionMut info.name
      (fun sub => { sub with exists_ := true, topic := some info.topic })) s

def applyAdmin (s : AppState) (topics : List String) (subscriptions : List SubscriptionInfo) : AppState :=
  ((s.clearTopics.listTopics topics).clearSubscriptions).listSubscriptions subscriptions

def apply (s : AppState) (observation : Observation) (now : Instant) : AppState :=
  match observation with
  | .publish topic peer messages =>
    let s := s.topicMut topic (countPublish · (peerKey peer) messages.length now)
    messages.foldl (fun s message => s.pushRecent topic message now) s
  | .deliver subscription _ messages =>
    s.subscriptionMut subscription (fun sub => { sub with delivered := sub.delivered + messages })
  | .ack subscription _ messages =>
    s.subscriptionMut subscription (fun sub => { sub with acked := sub.acked + messages })
  | .consumerOpen subscription _ =>
    s.subscriptionMut subscription (fun sub => { sub with liveConsumers := sub.liveConsumers + 1 })
  | .consumerClose subscription _ =>
    s.subscriptionMut subscription (fun sub => { sub with liveConsumers := sub.liveConsumers - 1 })
  | .adminSnapshot topics subscriptions => s.applyAdmin topics subscriptions

def topicCount (s : AppState) : ℕ :=
  (s.topics.toList.filter (fun t => t.2.exists_)).length

def connectedPublishers (s : AppState) (now : Instant) : ℕ :=
  ((s.topics.toList.flatMap (fun t => t.2.publishers.toList)).filter
    (fun p => now - p.2.lastSeen ≤ publisherActiveWindow)).length

def connectedConsumers (s : AppState) : ℕ :=
  (s.subscriptions.toList.map (fun sub => sub.2.liveConsumers)).sum

def activeConsumersOf (s : AppState) (topic : String) : List (String × Subscription) :=
  s.subscriptions.toList.filter (fun sub => sub.2.topic = some topic ∧ sub.2.acked > 0)

end AppState

end PubSubTui.Observe
