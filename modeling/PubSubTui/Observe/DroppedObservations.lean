import Mathlib.Data.Nat.Dist
import Mathlib.Tactic
import PubSubTui.Library.Channel
import PubSubTui.Observe.Accounting

/-! The sink drops what its channel has no room for. A dropped observation costs the counters what it
carried, and a live-consumer count at most one. -/

namespace PubSubTui.Observe

open Library

namespace Observation

def bracketsOn (x : String) : Observation → ℕ
  | consumerOpen subscription _ | consumerClose subscription _ => if subscription = x then 1 else 0
  | _ => 0

variable {t x key : String} {o : Observation}

lemma publishedTo_of_unnamed (h : ¬ o.namesTopic t) : o.publishedTo t = 0 := by
  cases o <;> simp_all [publishedTo, namesTopic]

lemma publishedBy_of_unnamed (h : ¬ o.IsPublishBy t key) : o.publishedBy t key = 0 := by
  cases o <;> simp_all [publishedBy, IsPublishBy]

lemma deliveredOn_of_unnamed (h : ¬ o.namesSubscription x) : o.deliveredOn x = 0 := by
  cases o <;> simp_all [deliveredOn, namesSubscription]

lemma ackedOn_of_unnamed (h : ¬ o.namesSubscription x) : o.ackedOn x = 0 := by
  cases o <;> simp_all [ackedOn, namesSubscription]

lemma bracketsOn_of_unnamed (h : ¬ o.namesSubscription x) : o.bracketsOn x = 0 := by
  cases o <;> simp_all [bracketsOn, namesSubscription]

end Observation

lemma tally_perm (weight : Observation → ℕ) {l k : List Observation} (h : l.Perm k) :
    tally weight l = tally weight k := (h.map weight).sum_eq

lemma tally_eq_zero {weight : Observation → ℕ} {l : List Observation} (h : ∀ o ∈ l, weight o = 0) :
    tally weight l = 0 := by
  simpa [tally, List.sum_eq_zero_iff] using h

namespace Subscription

variable (x : String) (a b : Subscription) (o : Observation)

lemma live_after_moves : Nat.dist (a.after x o).liveConsumers a.liveConsumers ≤ o.bracketsOn x := by
  cases o with
  | adminSnapshot topics infos =>
    cases h : lastListing infos x <;> simp [after, Observation.bracketsOn, h]
  | publish => simp [after]
  | deliver name | ack name =>
    by_cases h : name = x <;> simp [after, h]
  | consumerOpen name | consumerClose name =>
    by_cases h : name = x <;> simp [after, Observation.bracketsOn, h, Nat.dist] <;> omega

lemma live_after_mono : Nat.dist (a.after x o).liveConsumers (b.after x o).liveConsumers ≤
    Nat.dist a.liveConsumers b.liveConsumers := by
  cases o with
  | adminSnapshot topics infos => cases h : lastListing infos x <;> simp [after, h]
  | publish => simp [after]
  | deliver name | ack name =>
    by_cases h : name = x <;> simp [after, h]
  | consumerOpen name | consumerClose name =>
    by_cases h : name = x <;> simp [after, h, Nat.dist] <;> omega

lemma live_foldl_sublist {kept l : List Observation} (h : kept.Sublist l) :
    Nat.dist (l.foldl (after x) a).liveConsumers (kept.foldl (after x) a).liveConsumers +
      tally (Observation.bracketsOn x) kept ≤ tally (Observation.bracketsOn x) l := by
  have hh := Folds.foldl_sublist (fun a b => Nat.dist a.liveConsumers b.liveConsumers)
    (fun a b c => Nat.dist.triangle_inequality _ _ _) (live_after_moves x)
    (fun a b o => live_after_mono x a b o) h a a
  simpa [tally] using hh

end Subscription

abbrev ObservationSink := Channel 8192 Observation

theorem dropped_observations (s : AppState) (history survivors : List (Observation × Instant))
    (dropped : List Observation) (t key x : String)
    (hsub : (survivors.map Prod.fst).Sublist (history.map Prod.fst))
    (hdrop : (history.map Prod.fst).Perm (survivors.map Prod.fst ++ dropped)) :
    let full := s.applyAll history
    let kept := s.applyAll survivors
    ((full.topicAt t).publishCount = (kept.topicAt t).publishCount + tally (Observation.publishedTo t) dropped ∧
      (full.topicAt t).publishedBy key =
        (kept.topicAt t).publishedBy key + tally (Observation.publishedBy t key) dropped ∧
      (full.subscriptionAt x).delivered =
        (kept.subscriptionAt x).delivered + tally (Observation.deliveredOn x) dropped ∧
      (full.subscriptionAt x).acked =
        (kept.subscriptionAt x).acked + tally (Observation.ackedOn x) dropped ∧
      Nat.dist (full.subscriptionAt x).liveConsumers (kept.subscriptionAt x).liveConsumers ≤
        tally (Observation.bracketsOn x) dropped) ∧
    ((∀ o ∈ dropped, ¬ o.namesTopic t) → (full.topicAt t).publishCount = (kept.topicAt t).publishCount) ∧
    ((∀ o ∈ dropped, ¬ o.IsPublishBy t key) →
      (full.topicAt t).publishedBy key = (kept.topicAt t).publishedBy key) ∧
    ((∀ o ∈ dropped, ¬ o.namesSubscription x) →
      (full.subscriptionAt x).delivered = (kept.subscriptionAt x).delivered ∧
      (full.subscriptionAt x).acked = (kept.subscriptionAt x).acked ∧
      (full.subscriptionAt x).liveConsumers = (kept.subscriptionAt x).liveConsumers) := by
  intro full kept
  have split (weight : Observation → ℕ) : tally weight (history.map Prod.fst) =
      tally weight (survivors.map Prod.fst) + tally weight dropped := by
    rw [tally_perm weight hdrop, tally_append]
  have hcount : (full.topicAt t).publishCount =
      (kept.topicAt t).publishCount + tally (Observation.publishedTo t) dropped := by
    rw [AppState.publishCount_applyAll, AppState.publishCount_applyAll, split, Nat.add_assoc]
  have hby : (full.topicAt t).publishedBy key =
      (kept.topicAt t).publishedBy key + tally (Observation.publishedBy t key) dropped := by
    rw [AppState.publishedBy_applyAll, AppState.publishedBy_applyAll, split, Nat.add_assoc]
  have hdelivered : (full.subscriptionAt x).delivered =
      (kept.subscriptionAt x).delivered + tally (Observation.deliveredOn x) dropped := by
    rw [AppState.delivered_applyAll, AppState.delivered_applyAll, split, Nat.add_assoc]
  have hacked : (full.subscriptionAt x).acked =
      (kept.subscriptionAt x).acked + tally (Observation.ackedOn x) dropped := by
    rw [AppState.acked_applyAll, AppState.acked_applyAll, split, Nat.add_assoc]
  have hlive : Nat.dist (full.subscriptionAt x).liveConsumers (kept.subscriptionAt x).liveConsumers ≤
      tally (Observation.bracketsOn x) dropped := by
    have hh := Subscription.live_foldl_sublist x (s.subscriptionAt x) hsub
    rw [split, ← AppState.subscriptionAt_applyAll, ← AppState.subscriptionAt_applyAll] at hh
    dsimp only [full, kept]
    omega
  refine ⟨⟨hcount, hby, hdelivered, hacked, hlive⟩, ?_, ?_, ?_⟩
  · intro h
    rw [hcount, tally_eq_zero fun o ho => Observation.publishedTo_of_unnamed (h o ho), Nat.add_zero]
  · intro h
    rw [hby, tally_eq_zero fun o ho => Observation.publishedBy_of_unnamed (h o ho), Nat.add_zero]
  · intro h
    rw [tally_eq_zero fun o ho => Observation.bracketsOn_of_unnamed (h o ho)] at hlive
    refine ⟨?_, ?_, Nat.eq_of_dist_eq_zero (Nat.le_zero.mp hlive)⟩
    · rw [hdelivered, tally_eq_zero fun o ho => Observation.deliveredOn_of_unnamed (h o ho), Nat.add_zero]
    · rw [hacked, tally_eq_zero fun o ho => Observation.ackedOn_of_unnamed (h o ho), Nat.add_zero]

theorem dropped_open_and_ack :
    let full := ({} : AppState).applyAll
      [(.consumerOpen "s" none, 0), (.ack "s" none 4, 1), (.ack "s" none 3, 2), (.consumerClose "s" none, 3)]
    let kept := ({} : AppState).applyAll [(.ack "s" none 3, 2), (.consumerClose "s" none, 3)]
    (full.subscriptionAt "s").acked = (kept.subscriptionAt "s").acked + 4 ∧
      Nat.dist (full.subscriptionAt "s").liveConsumers (kept.subscriptionAt "s").liveConsumers ≤ 1 := by
  have h := dropped_observations {}
    [(.consumerOpen "s" none, 0), (.ack "s" none 4, 1), (.ack "s" none 3, 2), (.consumerClose "s" none, 3)]
    [(.ack "s" none 3, 2), (.consumerClose "s" none, 3)] [.consumerOpen "s" none, .ack "s" none 4] "t" "unknown" "s"
    (by decide) (by decide)
  exact ⟨h.1.2.2.2.1, h.1.2.2.2.2⟩

end PubSubTui.Observe
