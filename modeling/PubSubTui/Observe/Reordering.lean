import Mathlib.Tactic
import PubSubTui.Observe.DroppedObservations
import PubSubTui.Observe.Reconciliation
import PubSubTui.Observe.RecentBuffer

/-! The proxy and the poller send their observations in any order. Each part of the state hears only some of
them, and those arrive in an order that every interleaving agrees on. -/

namespace PubSubTui.Observe

open Library

namespace Observation

def isPublish : Observation → Bool
  | publish .. => true
  | _ => false

def isSnapshot (o : Observation) : Bool := o.snapshot.isSome

def brackets (x : String) (o : Observation) : Bool := 0 < o.bracketsOn x

end Observation

/-- The same observations in two orders that agree on the publishes, on the admin snapshots and, for each
subscription, on its consumers' openings and closings. -/
structure Reordered (history history' : List (Observation × Instant)) : Prop where
  perm : history.Perm history'
  publishes : history.filter (fun e => e.1.isPublish) = history'.filter (fun e => e.1.isPublish)
  snapshots : history.filter (fun e => e.1.isSnapshot) = history'.filter (fun e => e.1.isSnapshot)
  brackets (x : String) :
    history.filter (fun e => e.1.brackets x) = history'.filter (fun e => e.1.brackets x)

structure KeepsListings (s s' : AppState) : Prop where
  topicExists (t : String) : (s'.topicAt t).exists_ = (s.topicAt t).exists_
  subscriptionExists (x : String) : (s'.subscriptionAt x).exists_ = (s.subscriptionAt x).exists_
  topic (x : String) : (s'.subscriptionAt x).topic = (s.subscriptionAt x).topic

def Topic.traffic (entry : Topic) : Topic := { entry with exists_ := false }

lemma Topic.ext_traffic {entry entry' : Topic} (h : entry.traffic = entry'.traffic)
    (he : entry.exists_ = entry'.exists_) : entry = entry' := by
  cases entry
  cases entry'
  simp_all [traffic]

lemma Topic.traffic_after_skip (entry : Topic) (t : String) (now : Instant) {o : Observation}
    (h : o.isPublish = false) : (entry.after t o now).traffic = entry.traffic := by
  cases o with
  | publish => simp [Observation.isPublish] at h
  | deliver | ack | consumerOpen | consumerClose | adminSnapshot => rfl

lemma Topic.traffic_after_congr {entry entry' : Topic} (t : String) (now : Instant) {o : Observation}
    (ho : o.isPublish = true) (h : entry.traffic = entry'.traffic) :
    (entry.after t o now).traffic = (entry'.after t o now).traffic := by
  cases o <;> simp only [Observation.isPublish, Bool.false_eq_true] at ho
  simp only [traffic, mk.injEq, true_and] at h
  simp only [after]
  split_ifs <;> simp [traffic, AppState.countPublish, h]

lemma Subscription.live_after_skip (entry : Subscription) (x : String) {o : Observation}
    (h : o.brackets x = false) : (entry.after x o).liveConsumers = entry.liveConsumers := by
  refine Nat.eq_of_dist_eq_zero (Nat.le_zero.mp ?_)
  apply (live_after_moves x entry o).trans
  simpa [Observation.brackets] using h

lemma Subscription.live_after_congr {entry entry' : Subscription} (x : String) (o : Observation)
    (h : entry.liveConsumers = entry'.liveConsumers) :
    (entry.after x o).liveConsumers = (entry'.after x o).liveConsumers := by
  refine Nat.eq_of_dist_eq_zero (Nat.le_zero.mp ?_)
  apply (live_after_mono x entry entry' o).trans
  rw [h, Nat.dist_self]

lemma captures_of_not_publish {o : Observation} (now : Instant) (h : o.isPublish = false) :
    o.captures now = [] := by
  cases o with
  | publish => simp [Observation.isPublish] at h
  | deliver | ack | consumerOpen | consumerClose | adminSnapshot => rfl

lemma publishedMessages_filter (history : List (Observation × Instant)) :
    publishedMessages (history.filter (fun e => e.1.isPublish)) = publishedMessages history := by
  induction history with
  | nil => rfl
  | cons e history ih =>
    cases he : e.1.isPublish with
    | true =>
      rw [List.filter_cons_of_pos (p := fun e : Observation × Instant => e.1.isPublish) he, publishedMessages,
        List.flatMap_cons, ← publishedMessages, ih]
      rfl
    | false =>
      rw [List.filter_cons_of_neg (by simp [he]), ih, publishedMessages, publishedMessages, List.flatMap_cons,
        captures_of_not_publish e.2 he, List.nil_append]

lemma filterMap_snapshots {β : Type*} (f : List String × List SubscriptionInfo → Option β)
    (history : List (Observation × Instant)) :
    (history.filter (fun e => e.1.isSnapshot)).filterMap (fun e => e.1.snapshot.bind f) =
      history.filterMap (fun e => e.1.snapshot.bind f) := by
  rw [List.filterMap_filter]
  apply List.filterMap_congr
  intro e _
  cases he : e.1.snapshot <;> simp [Observation.isSnapshot, he]

namespace Reordered

variable {history history' : List (Observation × Instant)}

lemma tally_eq (h : Reordered history history') (weight : Observation → ℕ) :
    tally weight (history.map Prod.fst) = tally weight (history'.map Prod.fst) :=
  tally_perm weight (h.perm.map Prod.fst)

lemma filterMap_snapshot (h : Reordered history history') {β : Type*}
    (f : List String × List SubscriptionInfo → Option β) :
    history.filterMap (fun e => e.1.snapshot.bind f) = history'.filterMap (fun e => e.1.snapshot.bind f) := by
  rw [← filterMap_snapshots, h.snapshots, filterMap_snapshots]

lemma latestSnapshot_eq (h : Reordered history history') : latestSnapshot history = latestSnapshot history' := by
  have heq := h.filterMap_snapshot some
  simp only [Option.bind_fun_some] at heq
  rw [latestSnapshot, latestSnapshot, heq]

lemma latestTopic_eq (h : Reordered history history') (x : String) :
    latestTopic history x = latestTopic history' x := by
  have heq := h.filterMap_snapshot (fun listed => (lastListing listed.2 x).map SubscriptionInfo.topic)
  simp only [latestTopic, Observation.listing, Option.map_bind, Function.comp_def, heq]

variable (s : AppState)

lemma topicAt_eq (h : Reordered history history') (t : String) :
    (s.applyAll history).topicAt t = (s.applyAll history').topicAt t := by
  refine Topic.ext_traffic ?_ ?_
  · have hview (l : List (Observation × Instant)) : ((s.applyAll l).topicAt t).traffic =
        ((l.filter (fun e => e.1.isPublish)).foldl (fun entry e => entry.after t e.1 e.2) (s.topicAt t)).traffic := by
      rw [AppState.topicAt_applyAll]
      exact Folds.foldl_filter Topic.traffic (fun entry e he => entry.traffic_after_skip t e.2 he)
        (fun _ _ e he heq => Topic.traffic_after_congr t e.2 he heq) rfl l
    rw [hview, hview, h.publishes]
  · have hflag := s.topicExists_applyAll t history
    rw [h.latestSnapshot_eq, ← s.topicExists_applyAll t history'] at hflag
    exact Option.some.inj hflag

lemma liveConsumers_eq (h : Reordered history history') (x : String) :
    ((s.applyAll history).subscriptionAt x).liveConsumers =
      ((s.applyAll history').subscriptionAt x).liveConsumers := by
  have hview (l : List (Observation × Instant)) : ((s.applyAll l).subscriptionAt x).liveConsumers =
      ((l.filter (fun e => e.1.brackets x)).foldl (fun entry e => entry.after x e.1)
        (s.subscriptionAt x)).liveConsumers := by
    rw [AppState.subscriptionAt_applyAll, List.foldl_map]
    exact Folds.foldl_filter (f := fun (entry : Subscription) (e : Observation × Instant) => entry.after x e.1)
      Subscription.liveConsumers (fun entry e he => entry.live_after_skip x he)
      (fun _ _ e _ heq => Subscription.live_after_congr x e.1 heq) rfl l
  rw [hview, hview, h.brackets]

lemma subscriptionAt_eq (h : Reordered history history') (x : String) :
    (s.applyAll history).subscriptionAt x = (s.applyAll history').subscriptionAt x := by
  have hexists := s.subscriptionExists_applyAll x history
  rw [h.latestSnapshot_eq, ← s.subscriptionExists_applyAll x history'] at hexists
  have htopic := s.topic_applyAll x history
  rw [h.latestTopic_eq, ← s.topic_applyAll x history'] at htopic
  have hdelivered := s.delivered_applyAll x history
  rw [h.tally_eq, ← s.delivered_applyAll x history'] at hdelivered
  have hacked := s.acked_applyAll x history
  rw [h.tally_eq, ← s.acked_applyAll x history'] at hacked
  have hlive := h.liveConsumers_eq s x
  generalize (s.applyAll history).subscriptionAt x = entry at *
  generalize (s.applyAll history').subscriptionAt x = entry' at *
  cases entry
  cases entry'
  simp_all

lemma applyAll_eq (h : Reordered history history') : s.applyAll history = s.applyAll history' := by
  apply AppState.ext_entities
  · intro t
    rw [AppState.mem_topics_applyAll, AppState.mem_topics_applyAll]
    simp only [h.perm.mem_iff]
  · exact h.topicAt_eq s
  · intro x
    rw [AppState.mem_subscriptions_applyAll, AppState.mem_subscriptions_applyAll]
    simp only [h.perm.mem_iff]
  · exact h.subscriptionAt_eq s
  · rw [AppState.recentMessages_applyAll, AppState.recentMessages_applyAll, ← publishedMessages_filter,
      h.publishes, publishedMessages_filter]
  · rw [AppState.recentBufferCapacity_applyAll, AppState.recentBufferCapacity_applyAll]
  · rw [AppState.nextSeq_applyAll, AppState.nextSeq_applyAll, h.tally_eq]

end Reordered

lemma AppState.keepsListings_of_traffic (s : AppState) (now : Instant) {o : Observation}
    (h : o.isSnapshot = false) : KeepsListings s (s.apply o now) := by
  have hnone : o.snapshot = none := by simpa [Observation.isSnapshot] using h
  constructor
  case topicExists =>
    intro t
    have hflag := (s.topicAt t).exists_after t o now
    rw [hnone, Option.map_none, Option.none_or] at hflag
    rw [topicAt_apply, Option.some.inj hflag]
  case subscriptionExists =>
    intro x
    have hflag := (s.subscriptionAt x).exists_after x o
    rw [hnone, Option.map_none, Option.none_or] at hflag
    rw [subscriptionAt_apply, Option.some.inj hflag]
  case topic =>
    intro x
    rw [subscriptionAt_apply, Subscription.topic_after, Observation.listing, hnone]
    rfl

theorem order_of_sources_irrelevant (s : AppState) (history history' : List (Observation × Instant))
    (h : Reordered history history') :
    s.applyAll history = s.applyAll history' ∧
    (∀ (state : AppState) topics infos now, KeepsCounters state (state.apply (.adminSnapshot topics infos) now)) ∧
    ∀ (state : AppState) (o : Observation) now, o.isSnapshot = false → KeepsListings state (state.apply o now) :=
  ⟨h.applyAll_eq s, fun state topics infos now => state.keepsCounters_adminSnapshot now topics infos,
    fun state _ now ho => state.keepsListings_of_traffic now ho⟩

theorem order_of_sources_irrelevant_of_race :
    let published : Observation × Instant :=
      (.publish "t" none [{ data := [1], attributes := [], originalLen := 1, truncated := false }], 0)
    let listed : Observation × Instant := (.adminSnapshot ["t"] [{ name := "s", topic := "t" }], 1)
    let opened : Observation × Instant := (.consumerOpen "s" none, 2)
    let acked : Observation × Instant := (.ack "s" none 1, 3)
    let closed : Observation × Instant := (.consumerClose "s" none, 4)
    ({} : AppState).applyAll [published, listed, opened, acked, closed] =
      ({} : AppState).applyAll [opened, closed, listed, acked, published] := by
  intro published listed opened acked closed
  have h : Reordered [published, listed, opened, acked, closed] [opened, closed, listed, acked, published] := by
    refine ⟨by decide, by decide, by decide, fun x => ?_⟩
    by_cases hx : "s" = x <;>
      simp [published, listed, opened, acked, closed, Observation.brackets, Observation.bracketsOn, hx]
  exact (order_of_sources_irrelevant {} _ _ h).1

end PubSubTui.Observe
