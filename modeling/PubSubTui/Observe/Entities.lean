import Mathlib.Tactic
import PubSubTui.Observe.State

/-! Seen from one topic or one subscription, an observation acts on that entity's entry alone. -/

namespace PubSubTui.Observe

open Std Library.TreeMaps

namespace Observation

def namesTopic (t : String) : Observation → Prop
  | publish topic _ _ => topic = t
  | adminSnapshot topics _ => t ∈ topics
  | _ => False

def namesSubscription (x : String) : Observation → Prop
  | deliver subscription _ _ | ack subscription _ _ => subscription = x
  | consumerOpen subscription _ | consumerClose subscription _ => subscription = x
  | adminSnapshot _ subscriptions => ∃ info ∈ subscriptions, info.name = x
  | publish _ _ _ => False

end Observation

def lastListing (subscriptions : List SubscriptionInfo) (x : String) : Option SubscriptionInfo :=
  (subscriptions.filter (fun info => info.name = x)).getLast?

def numbered (seq : ℕ) : List (String × PublishedMessage × Instant) → List RecentMessage
  | [] => []
  | (topic, message, seen) :: rest => .ofPublished seq topic message seen :: numbered (seq + 1) rest

def Topic.after (t : String) (entry : Topic) (o : Observation) (now : Instant) : Topic :=
  match o with
  | .publish topic peer messages =>
    if topic = t then AppState.countPublish entry (peerKey peer) messages.length now else entry
  | .adminSnapshot topics _ => { entry with exists_ := t ∈ topics }
  | _ => entry

def Subscription.after (x : String) (entry : Subscription) (o : Observation) : Subscription :=
  match o with
  | .deliver subscription _ messages =>
    if subscription = x then { entry with delivered := entry.delivered + messages } else entry
  | .ack subscription _ messages =>
    if subscription = x then { entry with acked := entry.acked + messages } else entry
  | .consumerOpen subscription _ =>
    if subscription = x then { entry with liveConsumers := entry.liveConsumers + 1 } else entry
  | .consumerClose subscription _ =>
    if subscription = x then { entry with liveConsumers := entry.liveConsumers - 1 } else entry
  | .adminSnapshot _ subscriptions =>
    match lastListing subscriptions x with
    | some info => { entry with exists_ := true, topic := some info.topic }
    | none => { entry with exists_ := false }
  | .publish _ _ _ => entry

namespace AppState

def topicAt (s : AppState) (t : String) : Topic := s.topics[t]?.getD {}

def subscriptionAt (s : AppState) (x : String) : Subscription := s.subscriptions[x]?.getD {}

variable (s : AppState) (name t x : String) (now : Instant)

@[simp] lemma subscriptions_topicMut (update : Topic → Topic) :
    (s.topicMut name update).subscriptions = s.subscriptions := rfl

@[simp] lemma recentMessages_topicMut (update : Topic → Topic) :
    (s.topicMut name update).recentMessages = s.recentMessages := rfl

@[simp] lemma nextSeq_topicMut (update : Topic → Topic) :
    (s.topicMut name update).nextSeq = s.nextSeq := rfl

@[simp] lemma topics_subscriptionMut (update : Subscription → Subscription) :
    (s.subscriptionMut name update).topics = s.topics := rfl

@[simp] lemma recentMessages_subscriptionMut (update : Subscription → Subscription) :
    (s.subscriptionMut name update).recentMessages = s.recentMessages := rfl

@[simp] lemma nextSeq_subscriptionMut (update : Subscription → Subscription) :
    (s.subscriptionMut name update).nextSeq = s.nextSeq := rfl

@[simp] lemma mem_topicMut (update : Topic → Topic) :
    t ∈ (s.topicMut name update).topics ↔ name = t ∨ t ∈ s.topics := mem_upsert

@[simp] lemma mem_subscriptionMut (update : Subscription → Subscription) :
    x ∈ (s.subscriptionMut name update).subscriptions ↔ name = x ∨ x ∈ s.subscriptions := mem_upsert

@[simp] lemma topicAt_topicMut (update : Topic → Topic) :
    (s.topicMut name update).topicAt t = if name = t then update (s.topicAt t) else s.topicAt t := by
  simp only [topicAt, topicMut, getElem?_upsert]
  split_ifs with h <;> simp [h]

@[simp] lemma topicAt_subscriptionMut (update : Subscription → Subscription) :
    (s.subscriptionMut name update).topicAt t = s.topicAt t := rfl

@[simp] lemma subscriptionAt_topicMut (update : Topic → Topic) :
    (s.topicMut name update).subscriptionAt x = s.subscriptionAt x := rfl

@[simp] lemma subscriptionAt_subscriptionMut (update : Subscription → Subscription) :
    (s.subscriptionMut name update).subscriptionAt x =
      if name = x then update (s.subscriptionAt x) else s.subscriptionAt x := by
  simp only [subscriptionAt, subscriptionMut, getElem?_upsert]
  split_ifs with h <;> simp [h]

lemma foldl_pushRecent (messages : List PublishedMessage) :
    messages.foldl (fun s message => s.pushRecent name message now) s =
      { s with
        nextSeq := s.nextSeq + messages.length
        recentMessages := s.recentMessages ++ numbered s.nextSeq (messages.map (name, ·, now)) } := by
  induction messages generalizing s with
  | nil => simp [numbered]
  | cons m ms ih =>
    rw [List.foldl_cons, ih]
    simp [pushRecent, numbered, Nat.add_comm, Nat.add_left_comm]

@[simp] lemma topicAt_clearTopics : s.clearTopics.topicAt t = { s.topicAt t with exists_ := false } := by
  cases h : s.topics[t]? <;> simp [topicAt, clearTopics, h]

@[simp] lemma mem_clearTopics : t ∈ s.clearTopics.topics ↔ t ∈ s.topics := by simp [clearTopics]

@[simp] lemma subscriptionAt_clearSubscriptions :
    s.clearSubscriptions.subscriptionAt x = { s.subscriptionAt x with exists_ := false } := by
  cases h : s.subscriptions[x]? <;> simp [subscriptionAt, clearSubscriptions, h]

@[simp] lemma mem_clearSubscriptions : x ∈ s.clearSubscriptions.subscriptions ↔ x ∈ s.subscriptions := by
  simp [clearSubscriptions]

lemma topicAt_listTopics (topics : List String) :
    (s.listTopics topics).topicAt t =
      if t ∈ topics then { s.topicAt t with exists_ := true } else s.topicAt t := by
  induction topics generalizing s with
  | nil => simp [listTopics]
  | cons name topics ih =>
    rw [listTopics, List.foldl_cons, ← listTopics, ih, topicAt_topicMut]
    by_cases hn : t = name <;> by_cases ht : t ∈ topics <;> simp [hn, ht, Ne.symm]

lemma mem_listTopics (topics : List String) :
    t ∈ (s.listTopics topics).topics ↔ t ∈ s.topics ∨ t ∈ topics := by
  induction topics generalizing s with
  | nil => simp [listTopics]
  | cons name topics ih =>
    rw [listTopics, List.foldl_cons, ← listTopics, ih, mem_topicMut, List.mem_cons]
    tauto

lemma listTopics_frame (topics : List String) :
    (s.listTopics topics).subscriptions = s.subscriptions ∧
      (s.listTopics topics).recentMessages = s.recentMessages ∧
      (s.listTopics topics).recentBufferCapacity = s.recentBufferCapacity ∧
      (s.listTopics topics).nextSeq = s.nextSeq := by
  induction topics generalizing s with
  | nil => exact ⟨rfl, rfl, rfl, rfl⟩
  | cons name topics ih => exact ih (s.topicMut name _)

lemma subscriptionAt_listSubscriptions (infos : List SubscriptionInfo) :
    (s.listSubscriptions infos).subscriptionAt x =
      match lastListing infos x with
      | some info => { s.subscriptionAt x with exists_ := true, topic := some info.topic }
      | none => s.subscriptionAt x := by
  induction infos generalizing s with
  | nil => simp [lastListing, listSubscriptions]
  | cons info infos ih =>
    rw [listSubscriptions, List.foldl_cons, ← listSubscriptions, ih, subscriptionAt_subscriptionMut]
    by_cases hn : info.name = x
    · cases hl : (infos.filter (fun info => info.name = x)).getLast? <;>
        simp [lastListing, hn, List.getLast?_cons, hl]
    · simp [lastListing, hn]

lemma mem_listSubscriptions (infos : List SubscriptionInfo) :
    x ∈ (s.listSubscriptions infos).subscriptions ↔
      x ∈ s.subscriptions ∨ ∃ info ∈ infos, info.name = x := by
  induction infos generalizing s with
  | nil => simp [listSubscriptions]
  | cons info infos ih =>
    rw [listSubscriptions, List.foldl_cons, ← listSubscriptions, ih, mem_subscriptionMut,
      List.exists_mem_cons_iff]
    tauto

lemma listSubscriptions_frame (infos : List SubscriptionInfo) :
    (s.listSubscriptions infos).topics = s.topics ∧
      (s.listSubscriptions infos).recentMessages = s.recentMessages ∧
      (s.listSubscriptions infos).recentBufferCapacity = s.recentBufferCapacity ∧
      (s.listSubscriptions infos).nextSeq = s.nextSeq := by
  induction infos generalizing s with
  | nil => exact ⟨rfl, rfl, rfl, rfl⟩
  | cons info infos ih => exact ih (s.subscriptionMut info.name _)

lemma topicAt_applyAdmin (topics : List String) (infos : List SubscriptionInfo) :
    (s.applyAdmin topics infos).topicAt t = { s.topicAt t with exists_ := t ∈ topics } := by
  have h : (s.applyAdmin topics infos).topicAt t = (s.clearTopics.listTopics topics).topicAt t := by
    rw [topicAt, applyAdmin, (listSubscriptions_frame _ infos).1]
    rfl
  rw [h, topicAt_listTopics, topicAt_clearTopics]
  split_ifs with ht <;> simp [ht]

lemma subscriptionAt_applyAdmin (topics : List String) (infos : List SubscriptionInfo) :
    (s.applyAdmin topics infos).subscriptionAt x =
      (s.subscriptionAt x).after x (.adminSnapshot topics infos) := by
  have h : (s.clearTopics.listTopics topics).subscriptionAt x = s.subscriptionAt x := by
    rw [subscriptionAt, (listTopics_frame _ topics).1]
    rfl
  rw [applyAdmin, subscriptionAt_listSubscriptions, subscriptionAt_clearSubscriptions, h]
  simp only [Subscription.after]

lemma topicAt_apply (o : Observation) : (s.apply o now).topicAt t = (s.topicAt t).after t o now := by
  cases o with
  | publish topic peer messages =>
    simp only [apply, foldl_pushRecent, Topic.after]
    exact topicAt_topicMut s topic t (countPublish · (peerKey peer) messages.length now)
  | deliver | ack | consumerOpen | consumerClose => rfl
  | adminSnapshot topics infos => exact topicAt_applyAdmin s t topics infos

lemma mem_topics_apply (o : Observation) :
    t ∈ (s.apply o now).topics ↔ t ∈ s.topics ∨ o.namesTopic t := by
  cases o with
  | publish topic peer messages =>
    simp only [apply, foldl_pushRecent, Observation.namesTopic]
    exact (mem_topicMut s topic t _).trans or_comm
  | deliver | ack | consumerOpen | consumerClose => simp [apply, Observation.namesTopic]
  | adminSnapshot topics infos =>
    rw [apply, applyAdmin, (listSubscriptions_frame _ infos).1]
    exact (mem_listTopics _ t topics).trans (by simp [Observation.namesTopic])

lemma subscriptionAt_apply (o : Observation) :
    (s.apply o now).subscriptionAt x = (s.subscriptionAt x).after x o := by
  cases o with
  | publish topic peer messages =>
    simp only [apply, foldl_pushRecent, Subscription.after]
    rfl
  | deliver name | ack name | consumerOpen name | consumerClose name =>
    exact subscriptionAt_subscriptionMut s name x _
  | adminSnapshot topics infos => exact subscriptionAt_applyAdmin s x topics infos

lemma mem_subscriptions_apply (o : Observation) :
    x ∈ (s.apply o now).subscriptions ↔ x ∈ s.subscriptions ∨ o.namesSubscription x := by
  cases o with
  | publish topic peer messages =>
    simp [apply, foldl_pushRecent, Observation.namesSubscription]
  | deliver name | ack name | consumerOpen name | consumerClose name =>
    exact (mem_subscriptionMut s name x _).trans or_comm
  | adminSnapshot topics infos =>
    rw [apply, applyAdmin, mem_listSubscriptions, mem_clearSubscriptions, (listTopics_frame _ topics).1]
    rfl

lemma applyAdmin_frame (topics : List String) (infos : List SubscriptionInfo) :
    (s.applyAdmin topics infos).recentMessages = s.recentMessages ∧
      (s.applyAdmin topics infos).recentBufferCapacity = s.recentBufferCapacity ∧
      (s.applyAdmin topics infos).nextSeq = s.nextSeq := by
  obtain ⟨-, hr, hc, hn⟩ := listSubscriptions_frame (s.clearTopics.listTopics topics).clearSubscriptions infos
  obtain ⟨-, hr', hc', hn'⟩ := listTopics_frame s.clearTopics topics
  exact ⟨hr.trans hr', hc.trans hc', hn.trans hn'⟩

lemma ext_entities {s s' : AppState} (ht : ∀ t, t ∈ s.topics ↔ t ∈ s'.topics)
    (hta : ∀ t, s.topicAt t = s'.topicAt t) (hx : ∀ x, x ∈ s.subscriptions ↔ x ∈ s'.subscriptions)
    (hxa : ∀ x, s.subscriptionAt x = s'.subscriptionAt x) (hr : s.recentMessages = s'.recentMessages)
    (hc : s.recentBufferCapacity = s'.recentBufferCapacity) (hn : s.nextSeq = s'.nextSeq) : s = s' := by
  have htopics : s.topics = s'.topics := ext_of_getD {} ht hta
  have hsubs : s.subscriptions = s'.subscriptions := ext_of_getD {} hx hxa
  cases s
  cases s'
  simp_all

def applyAll (history : List (Observation × Instant)) : AppState :=
  history.foldl (fun s e => s.apply e.1 e.2) s

lemma applyAll_append (h k : List (Observation × Instant)) :
    s.applyAll (h ++ k) = (s.applyAll h).applyAll k := List.foldl_append

lemma topicAt_applyAll (h : List (Observation × Instant)) :
    (s.applyAll h).topicAt t = h.foldl (fun entry e => entry.after t e.1 e.2) (s.topicAt t) :=
  (List.foldl_hom (AppState.topicAt · t) (fun s e => (topicAt_apply s t e.2 e.1).symm)).symm

lemma subscriptionAt_applyAll (h : List (Observation × Instant)) :
    (s.applyAll h).subscriptionAt x = (h.map Prod.fst).foldl (Subscription.after x) (s.subscriptionAt x) := by
  rw [List.foldl_map]
  exact (List.foldl_hom (AppState.subscriptionAt · x)
    (fun s e => (subscriptionAt_apply s x e.2 e.1).symm)).symm

end AppState

end PubSubTui.Observe
