import PubSubTui.Observe.Reconciliation
import PubSubTui.Ui.App

/-! What a frame draws beside the tree and the messages: the statistics panel. -/

namespace PubSubTui.Ui

open Observe Library.TreeMaps

section Statistics

def statLine (inner : ℕ) (label value : String) : Line :=
  let used := label.length + value.length
  let gap := max (inner - used) 1
  [⟨label, .label⟩, ⟨String.ofList (List.replicate gap ' '), .base⟩, ⟨value, .count⟩]

/-- The capacity is zero until the first snapshot from a monitor that has observed something. -/
def bufferFree (state : AppState) : String :=
  let used := state.recentMessages.length
  let cap := state.recentBufferCapacity
  if cap = 0 then toString used else toString (cap - used) ++ " / " ++ toString cap

def totalPublished (state : AppState) : ℕ := (state.topics.toList.map (·.2.publishCount)).sum

def totalConsumed (state : AppState) : ℕ := (state.subscriptions.toList.map (·.2.acked)).sum

def statistics (state : AppState) (now : Instant) (width : UInt16) : List Line :=
  let inner := (saturatingSub width 2).toNat
  [statLine inner "Topics" (toString state.topicCount),
    statLine inner "Publishers (live)" (toString (state.connectedPublishers now)),
    statLine inner "Consumers (live)" (toString state.connectedConsumers),
    statLine inner "Messages published" (toString (totalPublished state)),
    statLine inner "Messages consumed" (toString (totalConsumed state)),
    statLine inner "Buffer free" (bufferFree state)].filter (· ≠ [])

lemma statistics_eq (state : AppState) (now : Instant) (width : UInt16) : statistics state now width =
    [("Topics", toString state.topicCount), ("Publishers (live)", toString (state.connectedPublishers now)),
      ("Consumers (live)", toString state.connectedConsumers), ("Messages published", toString (totalPublished state)),
      ("Messages consumed", toString (totalConsumed state)), ("Buffer free", bufferFree state)].map
      fun (label, value) => statLine (saturatingSub width 2).toNat label value := by
  simp [statistics, statLine]

lemma width_statLine (inner : ℕ) (label value : String) :
    ((statLine inner label value).map (·.content.length)).sum = max inner (label.length + value.length + 1) := by
  simp [statLine]
  omega

variable {history : List (Observation × Instant)} {s : AppState}

lemma totalPublished_applyAll (h : s.topics = ∅) :
    totalPublished (s.applyAll history) = tally Observation.published (history.map Prod.fst) := by
  have hempty : s.publishTotal = 0 := by rw [AppState.publishTotal, h, total_empty]
  exact (s.publishTotal_applyAll history).trans (by rw [hempty, Nat.zero_add])

lemma sum_ackedOn {names : Finset String} {observations : List Observation}
    (h : ∀ o ∈ observations, ∀ x, o.namesSubscription x → x ∈ names) :
    ∑ x ∈ names, tally (Observation.ackedOn x) observations = tally Observation.acked observations := by
  induction observations with
  | nil => simp [tally]
  | cons o observations ih =>
    have hhead : ∑ x ∈ names, o.ackedOn x = o.acked := by
      cases o with
      | ack subscription peer messages =>
        have hmem : subscription ∈ names := h _ List.mem_cons_self subscription rfl
        simp [Observation.ackedOn, Observation.acked, hmem]
      | publish | deliver | consumerOpen | consumerClose | adminSnapshot =>
        simp [Observation.ackedOn, Observation.acked]
    have htail := ih fun p hp => h p (List.mem_cons_of_mem o hp)
    simp only [tally, List.map_cons, List.sum_cons] at htail ⊢
    rw [Finset.sum_add_distrib, hhead, htail]

lemma totalConsumed_applyAll (h : s.subscriptions = ∅) :
    totalConsumed (s.applyAll history) = tally Observation.acked (history.map Prod.fst) := by
  have hacked (x : String) : ((s.applyAll history).subscriptionAt x).acked =
      tally (Observation.ackedOn x) (history.map Prod.fst) := by
    rw [AppState.acked_applyAll, AppState.subscriptionAt, h]
    simp
  have hnames : ∀ o ∈ history.map Prod.fst, ∀ x, o.namesSubscription x →
      x ∈ (s.applyAll history).subscriptions.keys.toFinset := by
    intro o ho x hx
    obtain ⟨e, he, rfl⟩ := List.mem_map.mp ho
    simpa using (s.mem_subscriptions_applyAll x history).mpr (.inr ⟨e, he, hx⟩)
  apply (total_eq_sum (fun _ sub => sub.acked) (s.applyAll history).subscriptions).trans
  rw [← sum_ackedOn hnames]
  apply Finset.sum_congr rfl
  intro x _
  rw [← hacked, AppState.subscriptionAt]
  cases (s.applyAll history).subscriptions[x]? <;> rfl

end Statistics

end PubSubTui.Ui
