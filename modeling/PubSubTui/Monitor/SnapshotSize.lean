import PubSubTui.Monitor.Encoding
import PubSubTui.Observe.RecentBuffer
import PubSubTui.Proxy.Unary

/-! The length of a snapshot, counted from the observations it was folded from: every topic and subscription they
name has one entry, which its own observations have made, and the newest messages have a record each. -/

namespace PubSubTui.Monitor

open Std Library Library.TreeMaps Observe

def defaultRecentBuffer : ℕ := 200

def defaultMaxPayloadBytes : ℕ := 64 * 1024

def topicNames : Observation → List String
  | .publish topic _ _ => [topic]
  | .adminSnapshot topics _ => topics
  | _ => []

def subscriptionNames : Observation → List String
  | .deliver subscription .. | .ack subscription .. => [subscription]
  | .consumerOpen subscription _ | .consumerClose subscription _ => [subscription]
  | .adminSnapshot _ subscriptions => subscriptions.map SubscriptionInfo.name
  | .publish .. => []

section History

variable (history : List (Observation × Instant)) (now : Instant) (recentBuffer : ℕ)

def topicsNamed : Finset String := (history.flatMap fun e => topicNames e.1).toFinset

def subscriptionsNamed : Finset String := (history.flatMap fun e => subscriptionNames e.1).toFinset

def topicOf (name : String) : Topic := history.foldl (fun entry e => entry.after name e.1 e.2) {}

def subscriptionFrom (name : String) : Subscription :=
  (history.map Prod.fst).foldl (Subscription.after name) {}

def newestMessages : List RecentMessage := (numbered 0 (publishedMessages history)).rtake recentBuffer

def ageMillis (seen now : Instant) : ℕ := min ((now - seen) / 10 ^ 6) (2 ^ 64 - 1)

namespace Encoder

variable (E : Encoder)

def topicShare (name : String) (topic : Topic) : ℕ :=
  E.topicEntry name topic.exists_ topic.publishCount (total (fun key (publisher : Publisher) =>
    E.publisherEntry key ⟨publisher.published, ageMillis publisher.lastSeen now⟩) topic.publishers)

def subscriptionShare (name : String) (sub : Subscription) : ℕ :=
  E.subscriptionEntry name ⟨sub.exists_, sub.topic, sub.delivered, sub.acked, sub.liveConsumers⟩

def messageShare (message : RecentMessage) : ℕ :=
  E.messageRecord ⟨message.seq, message.topic, message.data, message.attributes.map fun (key, value) => ⟨key, value⟩,
    message.originalLen, message.truncated, ageMillis message.seen now⟩

def historyLen : ℕ :=
  ∑ name ∈ topicsNamed history, E.topicShare now name (topicOf history name) +
  ∑ name ∈ subscriptionsNamed history, E.subscriptionShare name (subscriptionFrom history name) +
  ((newestMessages history recentBuffer).map (E.messageShare now)).sum + E.capacityField recentBuffer

lemma topicShare_eq (name : String) (topic : Topic) : E.topicShare now name topic =
    E.topicLen name (topicToWire topic now) := by
  rw [topicShare, topicLen, topicToWire, total_map]
  rfl

end Encoder

variable {history recentBuffer} {name : String}

lemma mem_topicsNamed : name ∈ topicsNamed history ↔ ∃ e ∈ history, e.1.namesTopic name := by
  simp only [topicsNamed, List.mem_toFinset, List.mem_flatMap]
  refine exists_congr fun e => and_congr_right fun _ => ?_
  cases e.1 <;> simp [topicNames, Observation.namesTopic, eq_comm]

lemma mem_subscriptionsNamed :
    name ∈ subscriptionsNamed history ↔ ∃ e ∈ history, e.1.namesSubscription name := by
  simp only [subscriptionsNamed, List.mem_toFinset, List.mem_flatMap]
  refine exists_congr fun e => and_congr_right fun _ => ?_
  cases e.1 <;> simp [subscriptionNames, Observation.namesSubscription, eq_comm]

def untrimmed (history : List (Observation × Instant)) (recentBuffer : ℕ) : AppState :=
  ({ recentBufferCapacity := recentBuffer } : AppState).applyAll history

lemma topicEntries_eq (E : Encoder) :
    total E.topicLen (toWire (untrimmed history recentBuffer) now).topics =
      ∑ name ∈ topicsNamed history, E.topicShare now name (topicOf history name) := by
  have hmem (x : String) : x ∈ (untrimmed history recentBuffer).topics ↔ x ∈ topicsNamed history := by
    rw [untrimmed, AppState.mem_topics_applyAll, mem_topicsNamed]
    simp
  rw [toWire, total_map, total_eq_sum_of_subset _ fun x hx => (hmem x).mp hx]
  apply Finset.sum_congr rfl
  intro x hx
  have hentry : (untrimmed history recentBuffer).topicAt x = topicOf history x := by
    rw [untrimmed, AppState.topicAt_applyAll]
    simp [topicOf, AppState.topicAt]
  obtain ⟨topic, htopic⟩ := Option.isSome_iff_exists.mp (ExtTreeMap.isSome_getElem?_iff_mem.mpr ((hmem x).mpr hx))
  rw [E.topicShare_eq, ← hentry, AppState.topicAt, htopic]
  rfl

lemma subscriptionEntries_eq (E : Encoder) :
    total E.subscriptionEntry (toWire (untrimmed history recentBuffer) now).subscriptions =
      ∑ name ∈ subscriptionsNamed history, E.subscriptionShare name (subscriptionFrom history name) := by
  have hmem (x : String) :
      x ∈ (untrimmed history recentBuffer).subscriptions ↔ x ∈ subscriptionsNamed history := by
    rw [untrimmed, AppState.mem_subscriptions_applyAll, mem_subscriptionsNamed]
    simp
  rw [toWire, total_map, total_eq_sum_of_subset _ fun x hx => (hmem x).mp hx]
  apply Finset.sum_congr rfl
  intro x hx
  have hentry : (untrimmed history recentBuffer).subscriptionAt x = subscriptionFrom history x := by
    rw [untrimmed, AppState.subscriptionAt_applyAll]
    simp [subscriptionFrom, AppState.subscriptionAt]
  obtain ⟨sub, hsub⟩ := Option.isSome_iff_exists.mp (ExtTreeMap.isSome_getElem?_iff_mem.mpr ((hmem x).mpr hx))
  rw [← hentry, AppState.subscriptionAt, hsub]
  rfl

lemma recentMessages_eq :
    ((untrimmed history recentBuffer).trimRecent recentBuffer).recentMessages =
      newestMessages history recentBuffer := by
  rw [AppState.trimRecent_eq, untrimmed, AppState.recentMessages_applyAll]
  rfl

lemma encodedLen_eq (E : Encoder) :
    E.encodedLen (toWire ((untrimmed history recentBuffer).trimRecent recentBuffer) now) =
      E.historyLen history now recentBuffer := by
  let snapshot := toWire ((untrimmed history recentBuffer).trimRecent recentBuffer) now
  have htopics : total E.topicLen snapshot.topics =
      ∑ name ∈ topicsNamed history, E.topicShare now name (topicOf history name) :=
    topicEntries_eq now E
  have hsubscriptions : total E.subscriptionEntry snapshot.subscriptions =
      ∑ name ∈ subscriptionsNamed history, E.subscriptionShare name (subscriptionFrom history name) :=
    subscriptionEntries_eq now E
  have hmessages : snapshot.recentMessages =
      (newestMessages history recentBuffer).map (messageToWire · now) :=
    congrArg (List.map (messageToWire · now)) recentMessages_eq
  have hcapacity : snapshot.recentBufferCapacity = recentBuffer :=
    AppState.recentBufferCapacity_applyAll _ history
  rw [Encoder.encodedLen, htopics, hsubscriptions, hmessages, hcapacity, List.map_map]
  rfl

variable (history recentBuffer) in
lemma newestMessages_contents :
    (newestMessages history recentBuffer).map RecentMessage.contents =
      (publishedMessages history).rtake recentBuffer := by
  rw [newestMessages, List.rtake, List.map_drop, numbered_contents, length_numbered, List.rtake]

lemma map_data_length (messages : List RecentMessage) :
    messages.map (fun message => message.data.length) =
      (messages.map RecentMessage.contents).map fun m => m.2.1.data.length := by
  rw [List.map_map]
  rfl

lemma data_le_historyLen (E : Encoder) :
    ((newestMessages history recentBuffer).map fun message => message.data.length).sum ≤
      E.historyLen history now recentBuffer := by
  have hrecords : ((newestMessages history recentBuffer).map fun message => message.data.length).sum ≤
      ((newestMessages history recentBuffer).map (E.messageShare now)).sum :=
    List.sum_le_sum fun message _ => E.data_le (messageToWire message now)
  rw [Encoder.historyLen]
  omega

end History

def historyTo (bursts : List (Burst × Bool)) (i : ℕ) : List (Observation × Instant) :=
  (bursts.take (i + 1)).flatMap (fun b => b.1.history)

variable {bursts : List (Burst × Bool)} {recentBuffer i : ℕ} {snapshot : AppState}

lemma run_getElem? (h : (run recentBuffer bursts)[i]? = some snapshot) :
    snapshot = (untrimmed (historyTo bursts i) recentBuffer).trimRecent recentBuffer :=
  AppState.snapshots_getElem? _ recentBuffer h

lemma length_run : (run recentBuffer bursts).length = (bursts.takeWhile (·.2)).length :=
  AppState.length_snapshots _ recentBuffer bursts

theorem snapshots_fit_iff (E : Encoder) (recentBuffer : ℕ) (bursts : List (Burst × Bool)) :
    (∀ snapshot ∈ {} :: run recentBuffer bursts, ∀ now,
      E.encodedLen (toWire snapshot now) ≤ maxDecodingMessageSize) ↔
    ∀ i < (bursts.takeWhile (·.2)).length, ∀ now,
      E.historyLen (historyTo bursts i) now recentBuffer ≤ maxDecodingMessageSize := by
  constructor
  · intro hfit i hi now
    have hi' : i < (run recentBuffer bursts).length := by rwa [length_run]
    have hget := List.getElem?_eq_getElem hi'
    have hmem := List.mem_cons_of_mem {} (List.getElem_mem hi')
    have hlen := hfit _ hmem now
    rwa [run_getElem? hget, encodedLen_eq] at hlen
  · intro hfit snapshot hmem now
    rcases List.mem_cons.mp hmem with rfl | hmem
    · rw [encodedLen_initial]
      exact Nat.zero_le _
    · obtain ⟨i, hi, hget⟩ := List.mem_iff_getElem.mp hmem
      rw [run_getElem? (List.getElem?_eq_some_iff.mpr ⟨hi, hget⟩), encodedLen_eq]
      exact hfit i (by rwa [← length_run]) now

def flooding (count payloadCap : ℕ) : Proxy.PublishRequest where
  topic := "projects/p/topics/t"
  messages := List.replicate count { data := List.replicate payloadCap 0 }

def floodBurst (count payloadCap : ℕ) : Burst where
  now := 0
  first := .publish (flooding count payloadCap).topic none
    ((flooding count payloadCap).messages.map (Proxy.capture payloadCap))
  rest := []

lemma publishedMessages_flooding (count payloadCap : ℕ) :
    publishedMessages (historyTo [(floodBurst count payloadCap, true)] 0) =
      List.replicate count ((flooding count payloadCap).topic,
        Proxy.capture payloadCap { data := List.replicate payloadCap 0 }, 0) := by
  simp [publishedMessages, historyTo, Burst.history, Burst.observations, floodBurst, Observation.captures, flooding]

lemma sum_rtake_replicate {α : Type} {k n : ℕ} (h : k ≤ n) (a : α) (f : α → ℕ) :
    (((List.replicate k a).rtake n).map f).sum = k * f a := by
  rw [List.rtake, List.length_replicate, Nat.sub_eq_zero_of_le h, List.drop_zero, List.map_replicate,
    List.sum_replicate, smul_eq_mul]

lemma flooding_le_historyLen (E : Encoder) {count payloadCap recentBuffer : ℕ} (h : count ≤ recentBuffer)
    (now : Instant) :
    count * payloadCap ≤
      E.historyLen (historyTo [(floodBurst count payloadCap, true)] 0) now recentBuffer := by
  refine Nat.le_trans (Nat.le_of_eq ?_) (data_le_historyLen now E)
  rw [map_data_length, newestMessages_contents, publishedMessages_flooding, sum_rtake_replicate h,
    Proxy.length_capture, List.length_replicate, Nat.min_self]

theorem default_bounds_overflow :
    let burst := floodBurst 65 defaultMaxPayloadBytes
    burst.observations =
      (Proxy.publish defaultMaxPayloadBytes (fun _ => .ok {}) none (flooding 65 defaultMaxPayloadBytes)).2 ∧
    ∃ snapshot ∈ run defaultRecentBuffer [(burst, true)],
      maxDecodingMessageSize < protobuf.encodedLen (toWire snapshot burst.now) := by
  intro burst
  have hlength : 0 < (run defaultRecentBuffer [(burst, true)]).length := by
    rw [length_run]
    exact Nat.one_pos
  have hlimit : maxDecodingMessageSize < 65 * defaultMaxPayloadBytes := by decide
  refine ⟨by simp only [burst, floodBurst, Burst.observations, Proxy.publish, Proxy.tapped],
    _, List.getElem_mem hlength, ?_⟩
  rw [run_getElem? (List.getElem?_eq_getElem hlength), encodedLen_eq]
  exact hlimit.trans_le (flooding_le_historyLen protobuf (by decide) burst.now)

end PubSubTui.Monitor
