import PubSubTui.Pipeline.Following

/-! Every snapshot there has been is a fold of observations its monitor took, in the order it took them. So what a
frame shows, the times apart, is what a prefix of them amounts to. -/

namespace PubSubTui.Pipeline

open Library Library.TreeMaps ActionSystem Observe Monitor Ui

def amounting (recentBuffer : ℕ) (observations : List Observation) : AppState :=
  (observations.foldl (fun s o => s.apply o 0) (Observer.emptyState recentBuffer)).trimRecent recentBuffer

section Times

variable {recentBuffer : ℕ} {observations : List Observation} {x state : AppState} {t t' : Instant}

lemma eraseTimes_publishes (h : Observer.Publishes recentBuffer observations x) :
    x.eraseTimes = amounting recentBuffer observations := by
  obtain ⟨history, rfl, rfl⟩ := h
  rw [AppState.eraseTimes_trimRecent, AppState.eraseTimes_applyAll]
  have hempty : (Observer.emptyState recentBuffer).eraseTimes = Observer.emptyState recentBuffer := by
    simp [AppState.eraseTimes, Observer.emptyState]
  rw [hempty, amounting]

lemma eraseTime_publisher (p : Publisher) :
    (publisherFromWire (publisherToWire p t) t').eraseTime = p.eraseTime := by
  -- The time it comes back with is named, for by `rfl` alone the clock's arithmetic would be computed.
  obtain ⟨lastSeen, h⟩ : ∃ lastSeen, publisherFromWire (publisherToWire p t) t' = ⟨p.published, lastSeen⟩ := ⟨_, rfl⟩
  rw [h, Publisher.eraseTime, Publisher.eraseTime]

lemma eraseTimes_topic (topic : Topic) : (topicFromWire (topicToWire topic t) t').eraseTimes = topic.eraseTimes := by
  have hpublishers : ((topic.publishers.map (fun _ p => publisherToWire p t)).map
      (fun _ p => publisherFromWire p t')).map (fun _ p => p.eraseTime) = topic.publishers.map (fun _ p => p.eraseTime) := by
    rw [map_map_congr (h := fun _ p => publisherFromWire (publisherToWire p t) t') fun _ _ _ => rfl]
    exact map_map_congr fun _ p _ => eraseTime_publisher p
  rw [Topic.eraseTimes, topicFromWire, topicToWire, hpublishers]
  rfl

lemma eraseTimes_shows (h : Shows x state) : state.eraseTimes = { x.eraseTimes with nextSeq := 0 } := by
  obtain ⟨t, t', rfl⟩ := h
  have htopics : ((x.topics.map (fun _ topic => topicToWire topic t)).map (fun _ topic => topicFromWire topic t')).map
      (fun _ topic => topic.eraseTimes) = x.topics.map (fun _ topic => topic.eraseTimes) := by
    rw [map_map_congr (h := fun _ topic => topicFromWire (topicToWire topic t) t') fun _ _ _ => rfl]
    exact map_map_congr fun _ topic _ => eraseTimes_topic topic
  have hsubscriptions : (toWire x t).subscriptions.map (fun _ sub => subscriptionFromWire sub) = x.subscriptions :=
    (map_map_congr (h := fun _ sub => sub) fun _ sub _ => subscription_round_trip sub).trans Std.ExtTreeMap.map_id
  have hmessages : (fromWire (toWire x t) t').recentMessages.map RecentMessage.eraseTime =
      x.recentMessages.map RecentMessage.eraseTime := by
    rw [recentMessages_carried, List.map_map]
    exact List.map_congr_left fun m _ => eraseTime_carried m
  rw [AppState.eraseTimes, hmessages, fromWire, hsubscriptions, toWire, htopics]
  rfl

end Times

namespace System

variable {ι σ : Type} [DecidableEq ι] {E : Encoder} {serde : SerdeJson} {tree : TreeWidget σ} {s : System ι σ}
  {actions : List (Action ι)} {recentBuffer : ℕ} {header : ι → String} {monitor : Observer}

lemma folded_monitors (h : exec (step E serde tree) (start tree recentBuffer header) actions = some s)
    (hm : monitor ∈ s.monitors) :
    ∃ bursts underway, Observer.Folded monitor.recentBuffer monitor bursts underway := by
  refine exec_invariant (P := fun s => ∀ monitor ∈ s.monitors, ∃ bursts underway,
    Observer.Folded monitor.recentBuffer monitor bursts underway) ?_ ?_ h monitor hm
  · intro s a t hs hstep monitor hm
    cases moves hstep with
    | interface => exact hs monitor hm
    | restart recentBuffer =>
      rcases List.mem_append.mp hm with hm | hm
      · exact hs monitor hm
      · obtain rfl := List.mem_singleton.mp hm
        exact ⟨[], [], Observer.folded_start⟩
    | monitor kept hmonitor =>
      rcases List.mem_append.mp hm with hm | hm
      · exact hs monitor (List.mem_append_left _ hm)
      · obtain rfl := List.mem_singleton.mp hm
        obtain ⟨bursts, underway, hfolded⟩ := hs s.monitor (by simp [monitors])
        obtain ⟨bursts', underway', hfolded'⟩ := Observer.folded_step hfolded hmonitor
        exact ⟨bursts', underway', hfolded'.bound ▸ hfolded'⟩
  · intro monitor hm
    obtain rfl := List.mem_singleton.mp hm
    exact ⟨[], [], Observer.folded_start⟩

lemma publishes_of_log (h : exec (step E serde tree) (start tree recentBuffer header) actions = some s) {x : AppState}
    (hx : x ∈ s.log) : x = {} ∨ ∃ monitor ∈ s.monitors, ∃ observations, observations <+: monitor.sink.received ∧
      Observer.Publishes monitor.recentBuffer observations x := by
  obtain ⟨monitor, hm, hx⟩ := List.mem_flatMap.mp hx
  obtain ⟨bursts, underway, hfolded⟩ := folded_monitors h hm
  rw [Watch.history, hfolded.initial] at hx
  rcases List.mem_cons.mp hx with rfl | hx
  · exact .inl rfl
  · exact .inr ⟨monitor, hm, hfolded.publishes hx⟩

def offered (actions : List (Action ι)) : List Observation :=
  actions.filterMap fun
    | .monitor (.observe observation) => some observation
    | _ => none

lemma accepted_sublist {t : System ι σ} (h : exec (step E serde tree) s actions = some t) :
    (t.monitors.flatMap (·.sink.sent)).Sublist (s.monitors.flatMap (·.sink.sent) ++ offered actions) := by
  induction actions generalizing s with
  | nil =>
    cases h
    simp [offered]
  | cons a actions ih =>
    cases ha : s.step E serde tree a with
    | none => simp [exec, ha] at h
    | some u =>
      apply (ih (by rwa [exec_cons ha] at h)).trans
      cases moves ha with
      | interface => exact List.Sublist.refl _
      | restart recentBuffer =>
        have hfresh : (Observer.start recentBuffer).sink.sent = [] := rfl
        simp [monitors, hfresh, offered]
      | @monitor action monitor kept hmonitor =>
        have hsent : monitor.sink.sent.Sublist (s.monitor.sink.sent ++ Observer.offered [action]) :=
          Observer.accepted_sublist (by rw [exec_single, hmonitor])
        have hoffered : offered (.monitor action :: actions) = Observer.offered [action] ++ offered actions := by
          cases action <;> rfl
        rw [hoffered, ← List.append_assoc]
        refine List.Sublist.append_right ?_ _
        simpa [monitors] using hsent

lemma amounting_of_frame (h : exec (step E serde tree) (start tree recentBuffer header) actions = some s) {i : ι}
    {frame : Frame} (hframe : frame ∈ (s.interfaces i).loop.frames) : frame.state.eraseTimes = {} ∨
      ∃ monitor ∈ s.monitors, ∃ observations, observations <+: monitor.sink.sent ∧
        frame.state.eraseTimes = { amounting monitor.recentBuffer observations with nextSeq := 0 } := by
  have hdrawn : Reads s.log (s.interfaces i).drawn := (reads_exec h i).sublist (List.sublist_append_left _ _)
  obtain ⟨x, hx, hshows⟩ := hdrawn.exists_mem (List.mem_map_of_mem hframe)
  rw [eraseTimes_shows hshows]
  rcases publishes_of_log h hx with rfl | ⟨monitor, hm, observations, hinit, hpublishes⟩
  · left
    simp [AppState.eraseTimes]
  · right
    refine ⟨monitor, hm, observations, hinit.trans Channel.received_prefix_sent, ?_⟩
    rw [eraseTimes_publishes hpublishes]

end System

theorem frames_show_what_was_observed {ι σ : Type} [DecidableEq ι] (E : Encoder) (serde : SerdeJson)
    (tree : TreeWidget σ) (recentBuffer : ℕ) (header : ι → String) (actions : List (System.Action ι)) (s : System ι σ)
    (h : exec (System.step E serde tree) (.start tree recentBuffer header) actions = some s) (i : ι) :
    (s.monitors.flatMap (·.sink.sent)).Sublist (System.offered actions) ∧
    ∀ frame ∈ (s.interfaces i).loop.frames, frame.state.eraseTimes = {} ∨
      ∃ monitor ∈ s.monitors, ∃ observations, observations <+: monitor.sink.sent ∧
        frame.state.eraseTimes = { amounting monitor.recentBuffer observations with nextSeq := 0 } := by
  exact ⟨System.accepted_sublist h, fun _ hframe => System.amounting_of_frame h hframe⟩

theorem frames_show_what_was_observed_of_outage :
    ∃ s, exec (System.step protobuf noJson stillTree) (.start stillTree 200 fun _ => "") outage = some s ∧
      (s.interfaces ()).loop.frames ≠ [] ∧ ∀ frame ∈ (s.interfaces ()).loop.frames, frame.state.eraseTimes = {} ∨
        ∃ monitor ∈ s.monitors, ∃ observations, observations <+: monitor.sink.sent ∧
          frame.state.eraseTimes = { amounting monitor.recentBuffer observations with nextSeq := 0 } := by
  obtain ⟨s, hs, hframes⟩ : ∃ s, exec (System.step protobuf noJson stillTree)
      (.start stillTree 200 fun _ => "") outage = some s ∧ (s.interfaces ()).loop.frames.length = 3 := ⟨_, rfl, rfl⟩
  refine ⟨s, hs, ?_, (frames_show_what_was_observed protobuf noJson stillTree 200 (fun _ => "") outage s hs ()).2⟩
  apply List.ne_nil_of_length_pos
  rw [hframes]
  decide

end PubSubTui.Pipeline
