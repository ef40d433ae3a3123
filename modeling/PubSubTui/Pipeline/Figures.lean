import PubSubTui.Pipeline.Provenance
import PubSubTui.Ui.Screen

/-! The figures beside the tree. Whatever interleaving has led to a frame, those that do not depend on the clock or on
who is connected are of one prefix of what its monitor has accepted, and all of the same prefix. -/

namespace PubSubTui.Pipeline

open Library Library.TreeMaps ActionSystem Observe Monitor Ui

def listedTopics (observations : List Observation) : List String :=
  ((observations.filterMap Observation.snapshot).getLast?.elim [] Prod.fst).dedup

/-- What the statistics panel says of these observations; how many peers are live is not theirs to tell. -/
def figures (capacity : ℕ) (observations : List Observation) (publishers consumers : ℕ) : List (String × String) :=
  let published := tally Observation.published observations
  [("Topics", toString (listedTopics observations).length), ("Publishers (live)", toString publishers),
    ("Consumers (live)", toString consumers), ("Messages published", toString published),
    ("Messages consumed", toString (tally Observation.acked observations)),
    ("Buffer free", if capacity = 0 then "0" else toString (capacity - published) ++ " / " ++ toString capacity)]

/-- The label comes first and the value last, flush with the margin where there is room for both. -/
structure Justified (inner : ℕ) (figure : String × String) (line : Line) : Prop where
  label : line.head?.map (·.content) = some figure.1
  value : line.getLast?.map (·.content) = some figure.2
  width : figure.1.length + figure.2.length < inner → (line.map (·.content.length)).sum = inner

lemma justified_statLine (inner : ℕ) (figure : String × String) :
    Justified inner figure (statLine inner figure.1 figure.2) where
  label := rfl
  value := rfl
  width h := by
    rw [width_statLine]
    exact max_eq_left h

section Amounting

variable {capacity : ℕ} {observations : List Observation} {state : AppState}

lemma amounting_eq : amounting capacity observations =
    ((Observer.emptyState capacity).applyAll (observations.map (·, 0))).trimRecent capacity := by
  rw [amounting, AppState.applyAll, List.foldl_map]

lemma topicCount_eraseTimes : state.eraseTimes.topicCount = state.topicCount := by
  rw [AppState.topicCount, AppState.topicCount, length_filter, length_filter, AppState.eraseTimes, total_map]
  rfl

lemma totalPublished_eraseTimes : totalPublished state.eraseTimes = totalPublished state :=
  total_map (fun _ (topic : Topic) => topic.publishCount) (fun _ (topic : Topic) => topic.eraseTimes) state.topics

lemma map_fst_timed : (observations.map (·, (0 : Instant))).map Prod.fst = observations := by
  simp [Function.comp_def]

lemma topicCount_amounting : (amounting capacity observations).topicCount = (listedTopics observations).length := by
  have hlisted : latestSnapshot (observations.map (·, 0)) = (observations.filterMap Observation.snapshot).getLast? := by
    rw [latestSnapshot, List.filterMap_map]
    rfl
  rw [amounting_eq, AppState.trimRecent_eq, listedTopics, ← List.card_toFinset]
  apply AppState.topicCount_eq
  intro t
  have hflag := AppState.topicExists_applyAll (Observer.emptyState capacity) t (observations.map (·, 0))
  rw [hlisted] at hflag
  have hnone : ((Observer.emptyState capacity).topicAt t).exists_ = false := by
    simp [Observer.emptyState, AppState.topicAt]
  change (((Observer.emptyState capacity).applyAll (observations.map (·, 0))).topicAt t).exists_ = true ↔ _
  cases hlast : (observations.filterMap Observation.snapshot).getLast? <;>
    simp_all

lemma length_recentMessages_amounting : (amounting capacity observations).recentMessages.length =
    min capacity (tally Observation.published observations) := by
  rw [amounting_eq, AppState.trimRecent_eq, AppState.recentMessages_applyAll]
  simp only [Observer.emptyState, List.nil_append, List.rtake, List.length_drop, length_numbered,
    length_publishedMessages, map_fst_timed]
  omega

lemma totalPublished_amounting :
    totalPublished (amounting capacity observations) = tally Observation.published observations := by
  have htotal : totalPublished ((Observer.emptyState capacity).applyAll (observations.map (·, 0))) = _ :=
    totalPublished_applyAll rfl
  rw [map_fst_timed] at htotal
  rw [amounting_eq, AppState.trimRecent_eq]
  exact htotal

lemma totalConsumed_amounting :
    totalConsumed (amounting capacity observations) = tally Observation.acked observations := by
  have htotal : totalConsumed ((Observer.emptyState capacity).applyAll (observations.map (·, 0))) = _ :=
    totalConsumed_applyAll rfl
  rw [map_fst_timed] at htotal
  rw [amounting_eq, AppState.trimRecent_eq]
  exact htotal

lemma capacity_amounting : (amounting capacity observations).recentBufferCapacity = capacity := by
  rw [amounting_eq, AppState.trimRecent_eq]
  exact AppState.recentBufferCapacity_applyAll _ _

lemma statistics_of_amounting (h : state.eraseTimes = { amounting capacity observations with nextSeq := 0 })
    (now : Instant) (width : UInt16) : statistics state now width =
      (figures capacity observations (state.connectedPublishers now) state.connectedConsumers).map
        fun (label, value) => statLine (saturatingSub width 2).toNat label value := by
  have htopics : state.topicCount = (listedTopics observations).length := by
    rw [← topicCount_eraseTimes, h]
    exact topicCount_amounting
  have hpublished : totalPublished state = tally Observation.published observations := by
    rw [← totalPublished_eraseTimes, h]
    exact totalPublished_amounting
  have hconsumed : totalConsumed state = tally Observation.acked observations := by
    have hsame : totalConsumed state = totalConsumed state.eraseTimes := rfl
    rw [hsame, h]
    exact totalConsumed_amounting
  have hcapacity : state.recentBufferCapacity = capacity := by
    have hsame : state.recentBufferCapacity = state.eraseTimes.recentBufferCapacity := rfl
    rw [hsame, h]
    exact capacity_amounting
  have hused : state.recentMessages.length = min capacity (tally Observation.published observations) := by
    have hsame : state.recentMessages.length = state.eraseTimes.recentMessages.length := by simp [AppState.eraseTimes]
    rw [hsame, h]
    exact length_recentMessages_amounting
  have hfree : bufferFree state = if capacity = 0 then "0"
      else toString (capacity - tally Observation.published observations) ++ " / " ++ toString capacity := by
    have hsub : capacity - min capacity (tally Observation.published observations) =
        capacity - tally Observation.published observations := by omega
    simp only [bufferFree, hcapacity, hused, hsub]
    split_ifs with hzero
    · rw [hzero, Nat.zero_min]
      rfl
    · rfl
  rw [statistics_eq, figures, htopics, hpublished, hconsumed, hfree]

end Amounting

/-- Every panel drawn adds up: its figures are those of some prefix of what one monitor accepted, the same prefix
for all of them. -/
theorem statistics_add_up {ι σ : Type} [DecidableEq ι] (E : Encoder) (serde : SerdeJson) (tree : TreeWidget σ)
    (recentBuffer : ℕ) (header : ι → String) (actions : List (System.Action ι)) (s : System ι σ)
    (h : exec (System.step E serde tree) (.start tree recentBuffer header) actions = some s) (i : ι) (width : UInt16) :
    ∀ frame ∈ (s.interfaces i).loop.frames, ∃ capacity observations,
      (capacity = 0 ∧ observations = [] ∨
        ∃ monitor ∈ s.monitors, capacity = monitor.recentBuffer ∧ observations <+: monitor.sink.sent) ∧
      List.Forall₂ (Justified (width.toNat - 2))
        (figures capacity observations (frame.state.connectedPublishers frame.now) frame.state.connectedConsumers)
        (statistics frame.state frame.now width) := by
  intro frame hframe
  obtain ⟨capacity, observations, hof, hamounting⟩ : ∃ capacity observations,
      (capacity = 0 ∧ observations = [] ∨
        ∃ monitor ∈ s.monitors, capacity = monitor.recentBuffer ∧ observations <+: monitor.sink.sent) ∧
      frame.state.eraseTimes = { amounting capacity observations with nextSeq := 0 } := by
    rcases System.amounting_of_frame h hframe with hempty | ⟨monitor, hm, observations, hinit, hamounting⟩
    · exact ⟨0, [], .inl ⟨rfl, rfl⟩, hempty⟩
    · exact ⟨monitor.recentBuffer, observations, .inr ⟨monitor, hm, rfl, hinit⟩, hamounting⟩
  refine ⟨capacity, observations, hof, ?_⟩
  rw [statistics_of_amounting hamounting, toNat_saturatingSub, List.forall₂_map_right_iff, List.forall₂_same]
  exact fun figure _ => justified_statLine _ figure

theorem statistics_add_up_of_outage :
    ∃ s, exec (System.step protobuf noJson stillTree) (.start stillTree 200 fun _ => "") outage = some s ∧
      (s.interfaces ()).loop.frames.length = 3 ∧ ∀ frame ∈ (s.interfaces ()).loop.frames, ∃ capacity observations,
        (capacity = 0 ∧ observations = [] ∨
          ∃ monitor ∈ s.monitors, capacity = monitor.recentBuffer ∧ observations <+: monitor.sink.sent) ∧
        List.Forall₂ (Justified 30) (figures capacity observations (frame.state.connectedPublishers frame.now)
          frame.state.connectedConsumers) (statistics frame.state frame.now 32) := by
  obtain ⟨s, hs, hframes⟩ : ∃ s, exec (System.step protobuf noJson stillTree) (.start stillTree 200 fun _ => "")
      outage = some s ∧ (s.interfaces ()).loop.frames.length = 3 := ⟨_, rfl, rfl⟩
  exact ⟨s, hs, hframes, statistics_add_up protobuf noJson stillTree 200 (fun _ => "") outage s hs () 32⟩

end PubSubTui.Pipeline
