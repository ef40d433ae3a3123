import Mathlib.Tactic
import PubSubTui.Library.Folds
import PubSubTui.Observe.Entities

/-! Every counter of the state is a sum over the observations folded into it. -/

namespace PubSubTui.Observe

open Std Library Library.TreeMaps

namespace Observation

def published : Observation → ℕ
  | publish _ _ messages => messages.length
  | _ => 0

def publishedTo (t : String) : Observation → ℕ
  | publish topic _ messages => if topic = t then messages.length else 0
  | _ => 0

def publishedBy (t key : String) : Observation → ℕ
  | publish topic peer messages => if topic = t ∧ peerKey peer = key then messages.length else 0
  | _ => 0

def deliveredOn (x : String) : Observation → ℕ
  | deliver subscription _ messages => if subscription = x then messages else 0
  | _ => 0

def ackedOn (x : String) : Observation → ℕ
  | ack subscription _ messages => if subscription = x then messages else 0
  | _ => 0

def delivered : Observation → ℕ
  | deliver _ _ messages => messages
  | _ => 0

def acked : Observation → ℕ
  | ack _ _ messages => messages
  | _ => 0

def IsPublishBy (t key : String) : Observation → Prop
  | publish topic peer _ => topic = t ∧ peerKey peer = key
  | _ => False

instance (t key : String) : DecidablePred (IsPublishBy t key)
  | publish topic peer _ => inferInstanceAs (Decidable (topic = t ∧ peerKey peer = key))
  | deliver .. | ack .. | consumerOpen .. | consumerClose .. | adminSnapshot .. => inferInstanceAs (Decidable False)

end Observation

def tally (weight : Observation → ℕ) (observations : List Observation) : ℕ :=
  (observations.map weight).sum

lemma tally_append (weight : Observation → ℕ) (l k : List Observation) :
    tally weight (l ++ k) = tally weight l + tally weight k := by simp [tally]

def lastPublish (t key : String) (history : List (Observation × Instant)) : Option Instant :=
  (history.filterMap (fun e => if e.1.IsPublishBy t key then some e.2 else none)).getLast?

namespace Topic

def publishedBy (entry : Topic) (key : String) : ℕ := entry.publishers[key]?.elim 0 Publisher.published

def lastSeen (entry : Topic) (key : String) : Option Instant := entry.publishers[key]?.map Publisher.lastSeen

def publishersTotal (entry : Topic) : ℕ := total (fun _ p => p.published) entry.publishers

variable (entry : Topic) (t key : String) (o : Observation) (now : Instant)

lemma publishCount_after : (entry.after t o now).publishCount = entry.publishCount + o.publishedTo t := by
  cases o with
  | publish topic peer messages =>
    by_cases h : topic = t <;> simp [after, AppState.countPublish, Observation.publishedTo, h]
  | deliver | ack | consumerOpen | consumerClose | adminSnapshot => rfl

lemma publishedBy_after :
    (entry.after t o now).publishedBy key = entry.publishedBy key + o.publishedBy t key := by
  cases o with
  | publish topic peer messages =>
    by_cases ht : topic = t
    · by_cases hk : peerKey peer = key
      · cases he : entry.publishers[key]? <;>
          simp [after, AppState.countPublish, publishedBy, Observation.publishedBy, ht, hk, he]
      · simp [after, AppState.countPublish, publishedBy, Observation.publishedBy, ht, hk]
    · simp [after, Observation.publishedBy, ht]
  | deliver | ack | consumerOpen | consumerClose | adminSnapshot => rfl

lemma lastSeen_after :
    (entry.after t o now).lastSeen key =
      (if o.IsPublishBy t key then some now else none).or (entry.lastSeen key) := by
  cases o with
  | publish topic peer messages =>
    by_cases ht : topic = t
    · by_cases hk : peerKey peer = key <;>
        simp [after, AppState.countPublish, lastSeen, Observation.IsPublishBy, ht, hk]
    · simp [after, Observation.IsPublishBy, ht]
  | deliver | ack | consumerOpen | consumerClose | adminSnapshot =>
    simp [after, lastSeen, Observation.IsPublishBy]

lemma mem_publishers_after :
    key ∈ (entry.after t o now).publishers ↔ key ∈ entry.publishers ∨ o.IsPublishBy t key := by
  cases o with
  | publish topic peer messages =>
    by_cases ht : topic = t <;>
      simp [after, AppState.countPublish, Observation.IsPublishBy, ht, or_comm]
  | deliver | ack | consumerOpen | consumerClose | adminSnapshot =>
    simp [after, Observation.IsPublishBy]

lemma balanced_after (h : entry.publishCount = entry.publishersTotal) :
    (entry.after t o now).publishCount = (entry.after t o now).publishersTotal := by
  cases o with
  | publish topic peer messages =>
    by_cases ht : topic = t
    · have hu := total_upsert (m := entry.publishers) (k := peerKey peer)
        (f := fun publisher =>
          { published := (publisher.getD { published := 0, lastSeen := now }).published + messages.length
            lastSeen := now }) (fun _ p => p.published)
      simp only [after, ht, ↓reduceIte, AppState.countPublish, publishersTotal] at h ⊢
      cases he : entry.publishers[peerKey peer]? <;> simp [he] at hu <;> omega
    · simpa [after, ht] using h
  | deliver | ack | consumerOpen | consumerClose | adminSnapshot => exact h

end Topic

namespace Subscription

variable (entry : Subscription) (x : String) (o : Observation)

lemma delivered_after : (entry.after x o).delivered = entry.delivered + o.deliveredOn x := by
  cases o with
  | adminSnapshot topics infos =>
    cases h : lastListing infos x <;> simp [after, Observation.deliveredOn, h]
  | publish => rfl
  | deliver name | ack name | consumerOpen name | consumerClose name =>
    by_cases h : name = x <;> simp [after, Observation.deliveredOn, h]

lemma acked_after : (entry.after x o).acked = entry.acked + o.ackedOn x := by
  cases o with
  | adminSnapshot topics infos =>
    cases h : lastListing infos x <;> simp [after, Observation.ackedOn, h]
  | publish => rfl
  | deliver name | ack name | consumerOpen name | consumerClose name =>
    by_cases h : name = x <;> simp [after, Observation.ackedOn, h]

end Subscription

namespace AppState

variable (s : AppState) (t x key : String) (now : Instant) (o : Observation)
variable (history : List (Observation × Instant))

def publishTotal : ℕ := total (fun _ topic => topic.publishCount) s.topics

lemma publishTotal_topicMut (name : String) (update : Topic → Topic) :
    (s.topicMut name update).publishTotal + (s.topicAt name).publishCount =
      s.publishTotal + (update (s.topicAt name)).publishCount := by
  have h := total_upsert (m := s.topics) (k := name) (f := fun entry => update (entry.getD {}))
    (fun _ topic => topic.publishCount)
  have he : s.topics[name]?.elim 0 (fun topic => topic.publishCount) = (s.topicAt name).publishCount := by
    cases hn : s.topics[name]? <;> simp [topicAt, hn]
  rw [he] at h
  exact h

lemma publishTotal_listTopics (topics : List String) : (s.listTopics topics).publishTotal = s.publishTotal := by
  induction topics generalizing s with
  | nil => rfl
  | cons name topics ih =>
    have h := s.publishTotal_topicMut name (fun topic => { topic with exists_ := true })
    exact (ih _).trans (by simpa using h)

lemma publishTotal_apply : (s.apply o now).publishTotal = s.publishTotal + o.published := by
  cases o with
  | publish topic peer messages =>
    have h := s.publishTotal_topicMut topic (countPublish · (peerKey peer) messages.length now)
    simp only [apply, foldl_pushRecent, Observation.published]
    simp only [countPublish] at h
    exact Nat.add_right_cancel (h.trans (by omega) : _ = s.publishTotal + messages.length +
      (s.topicAt topic).publishCount)
  | deliver | ack | consumerOpen | consumerClose => rfl
  | adminSnapshot topics infos =>
    have hs : (s.applyAdmin topics infos).publishTotal = (s.clearTopics.listTopics topics).publishTotal := by
      rw [publishTotal, applyAdmin, (listSubscriptions_frame _ infos).1]
      rfl
    rw [apply, hs, publishTotal_listTopics, publishTotal, clearTopics, total_map]
    rfl

lemma nextSeq_apply : (s.apply o now).nextSeq = s.nextSeq + o.published := by
  cases o with
  | publish topic peer messages => simp [apply, foldl_pushRecent, Observation.published]
  | deliver | ack | consumerOpen | consumerClose => rfl
  | adminSnapshot topics infos => exact (s.applyAdmin_frame topics infos).2.2

lemma tally_fst (weight : Observation → ℕ) :
    (history.map (fun e => weight e.1)).sum = tally weight (history.map Prod.fst) := by
  rw [tally, List.map_map]
  rfl

lemma publishCount_applyAll : ((s.applyAll history).topicAt t).publishCount =
    (s.topicAt t).publishCount + tally (Observation.publishedTo t) (history.map Prod.fst) := by
  rw [topicAt_applyAll, ← tally_fst]
  exact Folds.foldl_counter Topic.publishCount (fun entry e => entry.publishCount_after t e.1 e.2) _ _

lemma publishedBy_applyAll : ((s.applyAll history).topicAt t).publishedBy key =
    (s.topicAt t).publishedBy key + tally (Observation.publishedBy t key) (history.map Prod.fst) := by
  rw [topicAt_applyAll, ← tally_fst]
  exact Folds.foldl_counter (Topic.publishedBy · key)
    (fun entry e => entry.publishedBy_after t key e.1 e.2) _ _

lemma lastSeen_applyAll : ((s.applyAll history).topicAt t).lastSeen key =
    (lastPublish t key history).or ((s.topicAt t).lastSeen key) := by
  rw [topicAt_applyAll]
  exact Folds.foldl_last (Topic.lastSeen · key)
    (fun entry e => entry.lastSeen_after t key e.1 e.2) _ _

lemma delivered_applyAll : ((s.applyAll history).subscriptionAt x).delivered =
    (s.subscriptionAt x).delivered + tally (Observation.deliveredOn x) (history.map Prod.fst) := by
  rw [subscriptionAt_applyAll]
  exact Folds.foldl_counter Subscription.delivered (fun entry o => entry.delivered_after x o) _ _

lemma acked_applyAll : ((s.applyAll history).subscriptionAt x).acked =
    (s.subscriptionAt x).acked + tally (Observation.ackedOn x) (history.map Prod.fst) := by
  rw [subscriptionAt_applyAll]
  exact Folds.foldl_counter Subscription.acked (fun entry o => entry.acked_after x o) _ _

lemma nextSeq_applyAll :
    (s.applyAll history).nextSeq = s.nextSeq + tally Observation.published (history.map Prod.fst) := by
  rw [← tally_fst]
  exact Folds.foldl_counter AppState.nextSeq (fun s e => s.nextSeq_apply e.2 e.1) _ _

lemma publishTotal_applyAll :
    (s.applyAll history).publishTotal = s.publishTotal + tally Observation.published (history.map Prod.fst) := by
  rw [← tally_fst]
  exact Folds.foldl_counter AppState.publishTotal (fun s e => s.publishTotal_apply e.2 e.1) _ _

lemma balanced_applyAll (h : (s.topicAt t).publishCount = (s.topicAt t).publishersTotal) :
    ((s.applyAll history).topicAt t).publishCount = ((s.applyAll history).topicAt t).publishersTotal := by
  rw [topicAt_applyAll]
  exact List.foldlRecOn (motive := fun entry : Topic => entry.publishCount = entry.publishersTotal)
    history _ h (fun entry he e _ => entry.balanced_after t e.1 e.2 he)

lemma mem_topics_applyAll :
    t ∈ (s.applyAll history).topics ↔ t ∈ s.topics ∨ ∃ e ∈ history, e.1.namesTopic t :=
  Folds.foldl_flag (fun s : AppState => t ∈ s.topics) (fun s e => s.mem_topics_apply t e.2 e.1) _ _

lemma mem_subscriptions_applyAll :
    x ∈ (s.applyAll history).subscriptions ↔
      x ∈ s.subscriptions ∨ ∃ e ∈ history, e.1.namesSubscription x :=
  Folds.foldl_flag (fun s : AppState => x ∈ s.subscriptions)
    (fun s e => s.mem_subscriptions_apply x e.2 e.1) _ _

lemma mem_publishers_applyAll :
    key ∈ ((s.applyAll history).topicAt t).publishers ↔
      key ∈ (s.topicAt t).publishers ∨ ∃ e ∈ history, e.1.IsPublishBy t key := by
  rw [topicAt_applyAll]
  exact Folds.foldl_flag (fun entry : Topic => key ∈ entry.publishers)
    (fun entry e => entry.mem_publishers_after t key e.1 e.2) _ _

@[simp] lemma topicAt_default : ({} : AppState).topicAt t = {} := by simp [topicAt]

@[simp] lemma subscriptionAt_default : ({} : AppState).subscriptionAt x = {} := by simp [subscriptionAt]

end AppState

theorem traffic_accounting (history : List (Observation × Instant)) (t key x : String) :
    let s := ({} : AppState).applyAll history
    let observations := history.map Prod.fst
    ((s.topicAt t).publishCount = tally (Observation.publishedTo t) observations ∧
      (s.topicAt t).publishedBy key = tally (Observation.publishedBy t key) observations ∧
      (s.topicAt t).lastSeen key = lastPublish t key history ∧
      (s.topicAt t).publishCount = total (fun _ p => p.published) (s.topicAt t).publishers ∧
      s.nextSeq = total (fun _ topic => topic.publishCount) s.topics ∧
      (s.subscriptionAt x).delivered = tally (Observation.deliveredOn x) observations ∧
      (s.subscriptionAt x).acked = tally (Observation.ackedOn x) observations) ∧
    (t ∈ s.topics ↔ ∃ o ∈ observations, o.namesTopic t) ∧
    (key ∈ (s.topicAt t).publishers ↔ ∃ o ∈ observations, o.IsPublishBy t key) ∧
    (x ∈ s.subscriptions ↔ ∃ o ∈ observations, o.namesSubscription x) ∧
    ∀ later, (t ∈ s.topics → t ∈ (s.applyAll later).topics) ∧
      (key ∈ (s.topicAt t).publishers → key ∈ ((s.applyAll later).topicAt t).publishers) ∧
      (x ∈ s.subscriptions → x ∈ (s.applyAll later).subscriptions) := by
  intro s observations
  refine ⟨⟨?_, ?_, ?_, ?_, ?_, ?_, ?_⟩, ?_, ?_, ?_, ?_⟩
  · simpa using AppState.publishCount_applyAll {} t history
  · simpa [Topic.publishedBy] using AppState.publishedBy_applyAll {} t key history
  · simpa [Topic.lastSeen] using AppState.lastSeen_applyAll {} t key history
  · exact AppState.balanced_applyAll {} t history (by simp [Topic.publishersTotal])
  · have hseq := AppState.nextSeq_applyAll {} history
    have hsum := AppState.publishTotal_applyAll {} history
    simp only [AppState.publishTotal, total_empty] at hsum
    exact hseq.trans hsum.symm
  · simpa using AppState.delivered_applyAll {} x history
  · simpa using AppState.acked_applyAll {} x history
  · simpa [observations] using AppState.mem_topics_applyAll {} t history
  · simpa [observations] using AppState.mem_publishers_applyAll {} t key history
  · simpa [observations] using AppState.mem_subscriptions_applyAll {} x history
  · intro later
    exact ⟨fun h => (s.mem_topics_applyAll t later).mpr (.inl h),
      fun h => (s.mem_publishers_applyAll t key later).mpr (.inl h),
      fun h => (s.mem_subscriptions_applyAll x later).mpr (.inl h)⟩

end PubSubTui.Observe
