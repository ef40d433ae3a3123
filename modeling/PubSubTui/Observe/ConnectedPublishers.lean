import Mathlib.Tactic
import PubSubTui.Observe.Accounting

/-! A publisher is kept once for each topic it publishes to, and counted as often. -/

namespace PubSubTui.Observe

open Std Library Library.TreeMaps

def Observation.publisher : Observation → Option (String × String)
  | publish topic peer _ => some (topic, peerKey peer)
  | _ => none

def recentPublishers (history : List (Observation × Instant)) (now : Instant) : Finset (String × String) :=
  ((history.filter (fun e => now - e.2 ≤ publisherActiveWindow)).filterMap (fun e => e.1.publisher)).toFinset

def recentPeers (history : List (Observation × Instant)) (now : Instant) : Finset String :=
  (recentPublishers history now).image Prod.snd

variable {history : List (Observation × Instant)} {now : Instant} {t key : String}

lemma publisher_eq_some {o : Observation} : o.publisher = some (t, key) ↔ o.IsPublishBy t key := by
  cases o <;> simp [Observation.publisher, Observation.IsPublishBy]

lemma mem_recentPublishers : (t, key) ∈ recentPublishers history now ↔
    ∃ e ∈ history, e.1.IsPublishBy t key ∧ now - e.2 ≤ publisherActiveWindow := by
  simp only [recentPublishers, List.mem_toFinset, List.mem_filterMap, List.mem_filter, publisher_eq_some,
    decide_eq_true_eq]
  constructor
  · rintro ⟨e, ⟨he, hw⟩, hp⟩
    exact ⟨e, he, hp, hw⟩
  · rintro ⟨e, he, hp, hw⟩
    exact ⟨e, ⟨he, hw⟩, hp⟩

lemma recent_getLast_iff {seen : List Instant} (clock : seen.Pairwise (· ≤ ·)) (window : ℕ) :
    (∃ last, seen.getLast? = some last ∧ now - last ≤ window) ↔ ∃ x ∈ seen, now - x ≤ window := by
  constructor
  · rintro ⟨last, hlast, hw⟩
    exact ⟨last, List.mem_of_getLast? hlast, hw⟩
  · rintro ⟨x, hx, hw⟩
    have hne : seen ≠ [] := List.ne_nil_of_mem hx
    have hle : x ≤ seen.getLast hne := clock.rel_getLast hx
    exact ⟨seen.getLast hne, List.getLast?_eq_some_getLast hne, (Nat.sub_le_sub_left hle now).trans hw⟩

lemma lastPublish_recent_iff (clock : history.Pairwise (fun e e' => e.2 ≤ e'.2)) :
    (∃ seen, lastPublish t key history = some seen ∧ now - seen ≤ publisherActiveWindow) ↔
      (t, key) ∈ recentPublishers history now := by
  have hsorted : (history.filterMap (fun e => if e.1.IsPublishBy t key then some e.2 else none)).Pairwise
      (· ≤ ·) := by
    rw [List.pairwise_filterMap]
    refine clock.imp fun hle seen hseen seen' hseen' => ?_
    split_ifs at hseen hseen'
    cases hseen
    cases hseen'
    exact hle
  rw [lastPublish, recent_getLast_iff hsorted, mem_recentPublishers]
  simp only [List.mem_filterMap]
  constructor
  · rintro ⟨seen, ⟨e, he, hseen⟩, hw⟩
    split_ifs at hseen with hp
    cases hseen
    exact ⟨e, he, hp, hw⟩
  · rintro ⟨e, he, hp, hw⟩
    exact ⟨e.2, ⟨e, he, if_pos hp⟩, hw⟩

namespace AppState

lemma connectedPublishers_eq (s : AppState) (now : Instant) :
    s.connectedPublishers now = total (fun _ topic => (topic.publishers.toList.filter
      (fun p => now - p.2.lastSeen ≤ publisherActiveWindow)).length) s.topics := by
  rw [connectedPublishers, List.filter_flatMap, List.length_flatMap]
  rfl

lemma recent_publisher_iff (clock : history.Pairwise (fun e e' => e.2 ≤ e'.2)) :
    (∃ p, (((({} : AppState).applyAll history).topicAt t).publishers)[key]? = some p ∧
      decide (now - p.lastSeen ≤ publisherActiveWindow) = true) ↔ (t, key) ∈ recentPublishers history now := by
  rw [← lastPublish_recent_iff clock]
  have hseen := lastSeen_applyAll {} t key history
  simp only [topicAt_default, Topic.lastSeen, ExtTreeMap.getElem?_empty, Option.map_none, Option.or_none] at hseen
  rw [← hseen]
  simp

lemma connectedPublishers_applyAll (clock : history.Pairwise (fun e e' => e.2 ≤ e'.2)) :
    (({} : AppState).applyAll history).connectedPublishers now = (recentPublishers history now).card := by
  let s := ({} : AppState).applyAll history
  let publishersOf (t : String) := ((recentPublishers history now).filter (fun p => p.1 = t)).image Prod.snd
  have hmem (t key : String) : key ∈ publishersOf t ↔ (t, key) ∈ recentPublishers history now := by
    simp [publishersOf]
  have hcard (t : String) : (publishersOf t).card =
      ((recentPublishers history now).filter (fun p => p.1 = t)).card := by
    apply Finset.card_image_of_injOn
    rintro ⟨t₁, k₁⟩ h₁ ⟨t₂, k₂⟩ h₂ hk
    obtain ⟨-, ht₁⟩ := Finset.mem_filter.mp (Finset.mem_coe.mp h₁)
    obtain ⟨-, ht₂⟩ := Finset.mem_filter.mp (Finset.mem_coe.mp h₂)
    exact Prod.ext (ht₁.trans ht₂.symm) hk
  have htopic (t : String) (topic : Topic) (ht : s.topics[t]? = some topic) :
      (topic.publishers.toList.filter (fun p => now - p.2.lastSeen ≤ publisherActiveWindow)).length =
        ((recentPublishers history now).filter (fun p => p.1 = t)).card := by
    have hentry : s.topicAt t = topic := by rw [topicAt, ht, Option.getD_some]
    rw [← hcard]
    apply length_filter_eq_card
    intro key
    rw [hmem, ← recent_publisher_iff clock, ← hentry]
  have hkeys (p : String × String) (hp : p ∈ recentPublishers history now) : p.1 ∈ s.topics.keys.toFinset := by
    obtain ⟨e, he, hpub, -⟩ := mem_recentPublishers.mp hp
    have hnamed : e.1.namesTopic p.1 := by
      cases ho : e.1 <;> simp_all [Observation.IsPublishBy, Observation.namesTopic]
    simpa using (mem_topics_applyAll {} p.1 history).mpr (.inr ⟨e, he, hnamed⟩)
  rw [connectedPublishers_eq, Finset.card_eq_sum_card_fiberwise hkeys, total_eq_sum]
  apply Finset.sum_congr rfl
  intro t ht
  obtain ⟨topic, htop⟩ := Option.isSome_iff_exists.mp
    (ExtTreeMap.isSome_getElem?_iff_mem.mpr (ExtTreeMap.mem_keys.mp (List.mem_toFinset.mp ht)))
  rw [htop, Option.elim_some]
  exact htopic t topic htop

end AppState

theorem connected_publishers_iff (history : List (Observation × Instant)) (now : Instant)
    (clock : history.Pairwise (fun e e' => e.2 ≤ e'.2)) :
    (({} : AppState).applyAll history).connectedPublishers now = (recentPeers history now).card ↔
      ∀ e ∈ history, ∀ e' ∈ history, ∀ t t' key, e.1.IsPublishBy t key → e'.1.IsPublishBy t' key →
        now - e.2 ≤ publisherActiveWindow → now - e'.2 ≤ publisherActiveWindow → t = t' := by
  rw [AppState.connectedPublishers_applyAll clock, recentPeers, eq_comm, Finset.card_image_iff]
  constructor
  · intro hinj e he e' he' t t' key hp hp' hw hw'
    have hmem : (t, key) ∈ recentPublishers history now := mem_recentPublishers.mpr ⟨e, he, hp, hw⟩
    have hmem' : (t', key) ∈ recentPublishers history now := mem_recentPublishers.mpr ⟨e', he', hp', hw'⟩
    exact congrArg Prod.fst (hinj hmem hmem' rfl)
  · rintro honce ⟨t, key⟩ hmem ⟨t', key'⟩ hmem' heq
    obtain rfl : key = key' := heq
    obtain ⟨e, he, hp, hw⟩ := mem_recentPublishers.mp hmem
    obtain ⟨e', he', hp', hw'⟩ := mem_recentPublishers.mp hmem'
    rw [honce e he e' he' t t' key hp hp' hw hw']

def twoTopics : List (Observation × Instant) :=
  [(.publish "projects/p/topics/a" (some (.v4 127 0 0 1 5000)) [⟨[104], [], 1, false⟩], 0),
    (.publish "projects/p/topics/b" (some (.v4 127 0 0 1 5000)) [⟨[104], [], 1, false⟩], 1)]

theorem one_client_counted_twice :
    (({} : AppState).applyAll twoTopics).connectedPublishers 2 = 2 ∧ (recentPeers twoTopics 2).card = 1 := by
  have clock : twoTopics.Pairwise (fun e e' => e.2 ≤ e'.2) := by decide
  rw [AppState.connectedPublishers_applyAll clock]
  decide

theorem connected_publishers_of_idle_topic :
    (({} : AppState).applyAll
      [(.publish "a" none [], 0), (.publish "b" none [], 20 * 10 ^ 9)]).connectedPublishers (21 * 10 ^ 9) =
      (recentPeers [(.publish "a" none [], 0), (.publish "b" none [], 20 * 10 ^ 9)] (21 * 10 ^ 9)).card := by
  apply (connected_publishers_iff _ (21 * 10 ^ 9) (by decide)).mpr
  simp only [List.mem_cons, List.not_mem_nil, or_false, forall_eq_or_imp, forall_eq, publisherActiveWindow]
  simp [Observation.IsPublishBy]

end PubSubTui.Observe
