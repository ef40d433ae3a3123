import PubSubTui.Library.TreeMaps
import PubSubTui.Monitor.Convert

/-! How long a snapshot is on the wire, against the limit of the client that reads it. -/

namespace PubSubTui.Monitor

open Std Library.TreeMaps Observe

/-- The limit of a client that sets none. -/
def maxDecodingMessageSize : ℕ := 4 * 1024 * 1024

/-- The bytes that the parts of a snapshot take in its protobuf encoding; an entry of a nested map counts
towards the entry that holds the map. -/
structure Encoder where
  publisherEntry : String → Proto.Publisher → ℕ
  topicEntry : String → Bool → ℕ → ℕ → ℕ
  subscriptionEntry : String → Proto.Subscription → ℕ
  messageRecord : Proto.RecentMessage → ℕ
  capacityField : ℕ → ℕ
  data_le : ∀ message, message.data.length ≤ messageRecord message
  capacityField_zero : capacityField 0 = 0

namespace Encoder

variable (E : Encoder)

def topicLen (name : String) (topic : Proto.Topic) : ℕ :=
  E.topicEntry name topic.exists_ topic.publishCount (total E.publisherEntry topic.publishers)

def encodedLen (snapshot : Proto.StateSnapshot) : ℕ :=
  total E.topicLen snapshot.topics + total E.subscriptionEntry snapshot.subscriptions +
    (snapshot.recentMessages.map E.messageRecord).sum + E.capacityField snapshot.recentBufferCapacity

end Encoder

section Protobuf

def varintLen (n : ℕ) : ℕ := Nat.log2 n / 7 + 1

def lengthDelimited (len : ℕ) : ℕ := 1 + varintLen len + len

def lengthDelimitedField (len : ℕ) : ℕ := if len = 0 then 0 else lengthDelimited len

def uint64Field (n : ℕ) : ℕ := if n = 0 then 0 else 1 + varintLen n

def boolField (b : Bool) : ℕ := if b then 2 else 0

def mapEntry (key : String) (valueLen : ℕ) : ℕ :=
  lengthDelimited (lengthDelimitedField key.utf8ByteSize + lengthDelimitedField valueLen)

lemma le_lengthDelimitedField (len : ℕ) : len ≤ lengthDelimitedField len := by
  rw [lengthDelimitedField]
  split_ifs with h
  · omega
  · rw [lengthDelimited]
    omega

/-- Proto3 as the wire protocol's file lays the messages out: fields at their defaults are left out, and
every field number fits a key of one byte. -/
def protobuf : Encoder where
  publisherEntry key publisher :=
    mapEntry key (uint64Field publisher.published + uint64Field publisher.millisSinceLastSeen)
  topicEntry key exists_ publishCount publishersLen :=
    mapEntry key (boolField exists_ + uint64Field publishCount + publishersLen)
  subscriptionEntry key sub :=
    mapEntry key (boolField sub.exists_ + sub.topic.elim 0 (fun topic => lengthDelimited topic.utf8ByteSize) +
      uint64Field sub.delivered + uint64Field sub.acked + uint64Field sub.liveConsumers)
  messageRecord message :=
    lengthDelimited (uint64Field message.seq + lengthDelimitedField message.topic.utf8ByteSize +
      lengthDelimitedField message.data.length +
      (message.attributes.map fun a => lengthDelimited
        (lengthDelimitedField a.key.utf8ByteSize + lengthDelimitedField a.value.utf8ByteSize)).sum +
      uint64Field message.originalLen + boolField message.truncated + uint64Field message.millisSinceSeen)
  capacityField := uint64Field
  data_le message := by
    have hdata := le_lengthDelimitedField message.data.length
    rw [lengthDelimited]
    omega
  capacityField_zero := rfl

end Protobuf

lemma encodedLen_initial (E : Encoder) (now : Instant) : E.encodedLen (toWire {} now) = 0 := by
  have hempty {α β : Type} (f : String → α → β) :
      (∅ : ExtTreeMap String α).map f = (∅ : ExtTreeMap String β) := by
    refine ExtTreeMap.ext_getElem? fun x => ?_
    simp
  simp [Encoder.encodedLen, toWire, hempty, E.capacityField_zero]

end PubSubTui.Monitor
