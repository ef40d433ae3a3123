import Mathlib.Tactic
import PubSubTui.Observe.Accounting

/-! What the admin poller lists is kept apart from what traffic counts. Existence is that of the latest
snapshot, a parent topic that of the latest snapshot to list the subscription. -/

namespace PubSubTui.Observe

open Std Library Library.TreeMaps

namespace Observation

def snapshot : Observation → Option (List String × List SubscriptionInfo)
  | adminSnapshot topics subscriptions => some (topics, subscriptions)
  | _ => none

def listing (x : String) (o : Observation) : Option SubscriptionInfo :=
  o.snapshot.bind (fun listed => lastListing listed.2 x)

end Observation

def latestSnapshot (history : List (Observation × Instant)) : Option (List String × List SubscriptionInfo) :=
  (history.filterMap (fun e => e.1.snapshot)).getLast?

def latestTopic (history : List (Observation × Instant)) (x : String) : Option String :=
  (history.filterMap (fun e => (e.1.listing x).map SubscriptionInfo.topic)).getLast?

structure KeepsCounters (s s' : AppState) : Prop where
  publishCount (t : String) : (s'.topicAt t).publishCount = (s.topicAt t).publishCount
  publishers (t : String) : (s'.topicAt t).publishers = (s.topicAt t).publishers
  delivered (x : String) : (s'.subscriptionAt x).delivered = (s.subscriptionAt x).delivered
  acked (x : String) : (s'.subscriptionAt x).acked = (s.subscriptionAt x).acked
  liveConsumers (x : String) : (s'.subscriptionAt x).liveConsumers = (s.subscriptionAt x).liveConsumers
  recentMessages : s'.recentMessages = s.recentMessages
  nextSeq : s'.nextSeq = s.nextSeq
  topics (t : String) : t ∈ s.topics → t ∈ s'.topics
  subscriptions (x : String) : x ∈ s.subscriptions → x ∈ s'.subscriptions

lemma isSome_lastListing {infos : List SubscriptionInfo} {x : String} :
    (lastListing infos x).isSome = true ↔ ∃ info ∈ infos, info.name = x := by
  rw [lastListing, List.getLast?_isSome]
  simp [List.filter_eq_nil_iff]

lemma Topic.exists_after (entry : Topic) (t : String) (o : Observation) (now : Instant) :
    some (entry.after t o now).exists_ =
      (o.snapshot.map (fun listed => decide (t ∈ listed.1))).or (some entry.exists_) := by
  cases o with
  | publish topic peer messages =>
    by_cases h : topic = t <;> simp [after, Observation.snapshot, AppState.countPublish, h]
  | deliver | ack | consumerOpen | consumerClose | adminSnapshot => rfl

lemma Subscription.exists_after (entry : Subscription) (x : String) (o : Observation) :
    some (entry.after x o).exists_ =
      (o.snapshot.map (fun listed => (lastListing listed.2 x).isSome)).or (some entry.exists_) := by
  cases o with
  | adminSnapshot topics infos =>
    cases h : lastListing infos x <;> simp [after, Observation.snapshot, h]
  | publish => rfl
  | deliver name | ack name | consumerOpen name | consumerClose name =>
    by_cases h : name = x <;> simp [after, Observation.snapshot, h]

lemma Subscription.topic_after (entry : Subscription) (x : String) (o : Observation) :
    (entry.after x o).topic = ((o.listing x).map SubscriptionInfo.topic).or entry.topic := by
  cases o with
  | adminSnapshot topics infos =>
    cases h : lastListing infos x <;> simp [after, Observation.listing, Observation.snapshot, h]
  | publish => rfl
  | deliver name | ack name | consumerOpen name | consumerClose name =>
    by_cases h : name = x <;> simp [after, Observation.listing, Observation.snapshot, h]

namespace AppState

variable (s : AppState) (t x : String) (now : Instant) (history : List (Observation × Instant))

lemma topicExists_applyAll : some ((s.applyAll history).topicAt t).exists_ =
    ((latestSnapshot history).map (fun listed => decide (t ∈ listed.1))).or (some (s.topicAt t).exists_) := by
  rw [topicAt_applyAll]
  refine (Folds.foldl_last (fun entry : Topic => some entry.exists_)
    (fun entry e => entry.exists_after t e.1 e.2) _ _).trans ?_
  rw [latestSnapshot, ← List.getLast?_map, List.map_filterMap]

lemma subscriptionExists_applyAll : some ((s.applyAll history).subscriptionAt x).exists_ =
    ((latestSnapshot history).map (fun listed => (lastListing listed.2 x).isSome)).or
      (some (s.subscriptionAt x).exists_) := by
  rw [subscriptionAt_applyAll]
  refine (Folds.foldl_last (fun entry : Subscription => some entry.exists_)
    (fun entry o => entry.exists_after x o) _ _).trans ?_
  rw [latestSnapshot, ← List.getLast?_map, List.map_filterMap, List.filterMap_map]
  rfl

lemma topic_applyAll :
    ((s.applyAll history).subscriptionAt x).topic = (latestTopic history x).or (s.subscriptionAt x).topic := by
  rw [subscriptionAt_applyAll]
  apply (Folds.foldl_last Subscription.topic (fun entry o => entry.topic_after x o) _ _).trans
  rw [latestTopic, List.filterMap_map]
  rfl

lemma keepsCounters_adminSnapshot (topics : List String) (infos : List SubscriptionInfo) :
    KeepsCounters s (s.apply (.adminSnapshot topics infos) now) := by
  obtain ⟨hrecent, -, hseq⟩ := s.applyAdmin_frame topics infos
  constructor
  case publishCount => exact fun t => by rw [topicAt_apply]; rfl
  case publishers => exact fun t => by rw [topicAt_apply]; rfl
  case delivered => exact fun x => by rw [subscriptionAt_apply, Subscription.delivered_after]; rfl
  case acked => exact fun x => by rw [subscriptionAt_apply, Subscription.acked_after]; rfl
  case liveConsumers =>
    intro x
    rw [subscriptionAt_apply]
    cases h : lastListing infos x <;> simp [Subscription.after, h]
  case recentMessages => exact hrecent
  case nextSeq => exact hseq
  case topics => exact fun t ht => (s.mem_topics_apply t now _).mpr (.inl ht)
  case subscriptions => exact fun x hx => (s.mem_subscriptions_apply x now _).mpr (.inl hx)

lemma topicCount_eq (listed : Finset String) (h : ∀ t, (s.topicAt t).exists_ = true ↔ t ∈ listed) :
    s.topicCount = listed.card := by
  apply length_filter_eq_card
  intro t
  rw [← h, topicAt]
  cases s.topics[t]? <;> simp

lemma mem_activeConsumersOf : x ∈ (s.activeConsumersOf t).map Prod.fst ↔
    (s.subscriptionAt x).topic = some t ∧ 0 < (s.subscriptionAt x).acked := by
  rw [activeConsumersOf, mem_filter_keys, subscriptionAt]
  cases s.subscriptions[x]? <;> simp

end AppState

theorem admin_reconciliation (history : List (Observation × Instant)) (topics : List String)
    (infos : List SubscriptionInfo) (hlatest : latestSnapshot history = some (topics, infos)) :
    let s := ({} : AppState).applyAll history
    (∀ t, (s.topicAt t).exists_ = true ↔ t ∈ topics) ∧
    (∀ x, (s.subscriptionAt x).exists_ = true ↔ ∃ info ∈ infos, info.name = x) ∧
    s.topicCount = topics.dedup.length ∧
    (∀ x, (s.subscriptionAt x).topic = latestTopic history x) ∧
    (∀ (state : AppState) listed listedInfos now,
      KeepsCounters state (state.apply (.adminSnapshot listed listedInfos) now)) ∧
    ∀ t, ((s.activeConsumersOf t).map Prod.fst).Pairwise (fun x y => compare x y = .lt) ∧
      (∀ x sub, (x, sub) ∈ s.activeConsumersOf t → s.subscriptions[x]? = some sub) ∧
      ∀ x, x ∈ (s.activeConsumersOf t).map Prod.fst ↔
        latestTopic history x = some t ∧ 0 < tally (Observation.ackedOn x) (history.map Prod.fst) := by
  intro s
  have htopic (t : String) : (s.topicAt t).exists_ = true ↔ t ∈ topics := by
    have hflag := AppState.topicExists_applyAll {} t history
    rw [hlatest, Option.map_some, Option.some_or, Option.some.injEq] at hflag
    rw [hflag, decide_eq_true_eq]
  have hparent (x : String) : (s.subscriptionAt x).topic = latestTopic history x := by
    simpa using AppState.topic_applyAll {} x history
  refine ⟨htopic, ?_, ?_, hparent, fun state listed listedInfos now =>
    state.keepsCounters_adminSnapshot now listed listedInfos, fun t => ⟨ordered_filter_keys _ _, ?_, ?_⟩⟩
  · intro x
    have hflag := AppState.subscriptionExists_applyAll {} x history
    rw [hlatest, Option.map_some, Option.some_or, Option.some.injEq] at hflag
    rw [hflag, isSome_lastListing]
  · rw [s.topicCount_eq topics.toFinset (by simpa using htopic), List.card_toFinset]
  · intro x sub hmem
    exact ExtTreeMap.mem_toList_iff_getElem?_eq_some.mp (List.mem_of_mem_filter hmem)
  · intro x
    rw [s.mem_activeConsumersOf, hparent]
    have hacked := AppState.acked_applyAll {} x history
    simp only [AppState.subscriptionAt_default, Nat.zero_add] at hacked
    rw [hacked]

theorem admin_reconciliation_of_vanished_topic :
    let history : List (Observation × Instant) :=
      [(.adminSnapshot ["t", "u", "t"] [{ name := "s", topic := "t" }], 0), (.ack "s" none 2, 1),
        (.adminSnapshot ["u", "u"] [], 2)]
    let s := ({} : AppState).applyAll history
    s.topicCount = 1 ∧ (s.topicAt "t").exists_ = false ∧ "s" ∈ (s.activeConsumersOf "t").map Prod.fst := by
  intro history s
  obtain ⟨htopic, -, hcount, -, -, hactive⟩ := admin_reconciliation history ["u", "u"] [] rfl
  refine ⟨hcount, ?_, ((hactive "t").2.2 "s").mpr ⟨rfl, by decide⟩⟩
  exact Bool.eq_false_iff.mpr (mt (htopic "t").mp (by decide))

end PubSubTui.Observe
