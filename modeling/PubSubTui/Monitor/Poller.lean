import PubSubTui.Observe.Reconciliation

/-! The admin poller: it lists the topics and the subscriptions, and asks for the topic of each subscription. -/

namespace PubSubTui.Monitor

open Observe

/-- A subscription listed comes with the topic of its configuration. -/
structure Admin where
  topics : Option (List String)
  subscriptions : Option (List (String × Option String))

/-- A subscription whose configuration cannot be fetched is skipped; a listing that fails is the end of the poll. -/
def pollOnce (admin : Admin) : Option Observation := do
  let topics ← admin.topics
  let listed ← admin.subscriptions
  some (.adminSnapshot topics (listed.filterMap fun (name, config) => config.map fun topic => { name, topic }))

def Admin.listing (admin : Admin) : Option (List String × List SubscriptionInfo) :=
  (pollOnce admin).bind Observation.snapshot

variable {admin : Admin} {o : Observation} {name : String}

lemma pollOnce_eq_some_iff : pollOnce admin = some o ↔ ∃ topics listed, admin.topics = some topics ∧
    admin.subscriptions = some listed ∧ o = .adminSnapshot topics
      (listed.filterMap fun (name, config) => config.map fun topic => { name, topic }) := by
  cases ht : admin.topics <;> cases hs : admin.subscriptions <;> simp [pollOnce, ht, hs, eq_comm]

section Fetched

variable {listed : List (String × Option String)} {topic : String}

def fetched (listed : List (String × Option String)) : List SubscriptionInfo :=
  listed.filterMap fun (name, config) => config.map fun topic => { name, topic }

lemma listing_of_answers {topics : List String} (ht : admin.topics = some topics)
    (hs : admin.subscriptions = some listed) : admin.listing = some (topics, fetched listed) := by
  rw [Admin.listing, pollOnce_eq_some_iff.mpr ⟨topics, listed, ht, hs, rfl⟩]
  rfl

lemma mem_fetched {info : SubscriptionInfo} : info ∈ fetched listed ↔ (info.name, some info.topic) ∈ listed := by
  simp only [fetched, List.mem_filterMap, Prod.exists, Option.map_eq_some_iff]
  constructor
  · rintro ⟨name, config, hmem, topic, rfl, rfl⟩
    exact hmem
  · intro hmem
    exact ⟨info.name, some info.topic, hmem, info.topic, rfl, rfl⟩

lemma exists_fetched_iff : (∃ info ∈ fetched listed, info.name = name) ↔ ∃ topic, (name, some topic) ∈ listed := by
  constructor
  · rintro ⟨info, hinfo, rfl⟩
    exact ⟨info.topic, mem_fetched.mp hinfo⟩
  · rintro ⟨topic, hmem⟩
    exact ⟨{ name, topic }, mem_fetched.mpr hmem, rfl⟩

lemma lastListing_fetched (hmem : (name, some topic) ∈ listed)
    (hunique : ∀ topic', (name, some topic') ∈ listed → topic' = topic) :
    (lastListing (fetched listed) name).map SubscriptionInfo.topic = some topic := by
  obtain ⟨info, hinfo⟩ := Option.isSome_iff_exists.mp (isSome_lastListing.mpr (exists_fetched_iff.mpr ⟨topic, hmem⟩))
  have hlast := List.mem_filter.mp (List.mem_of_getLast? hinfo)
  have hname : info.name = name := by simpa using hlast.2
  rw [hinfo, Option.map_some, hunique info.topic (hname ▸ mem_fetched.mp hlast.1)]

end Fetched

end PubSubTui.Monitor
