import PubSubTui.Monitor.Convert

/-! A snapshot read back from the wire is the state it was made of, but for the instants, which are moved to
the receiver's clock and lose what an age in whole milliseconds leaves out. -/

namespace PubSubTui.Monitor

open Std Library.TreeMaps Observe

def restamp (t t' x : Instant) : Instant := t' - (t - x) / 10 ^ 6 * 10 ^ 6

def restampPublisher (t t' : Instant) (publisher : Publisher) : Publisher :=
  { publisher with lastSeen := restamp t t' publisher.lastSeen }

def restampTopic (t t' : Instant) (topic : Topic) : Topic :=
  { topic with publishers := topic.publishers.map (fun _ publisher => restampPublisher t t' publisher) }

def restampMessage (t t' : Instant) (message : RecentMessage) : RecentMessage :=
  { message with seen := restamp t t' message.seen }

def restampState (t t' : Instant) (s : AppState) : AppState :=
  { s with
    topics := s.topics.map (fun _ topic => restampTopic t t' topic)
    recentMessages := s.recentMessages.map (restampMessage t t')
    nextSeq := 0 }

def publisherAt (s : AppState) (name key : String) : Option Publisher :=
  s.topics[name]?.bind (fun topic => topic.publishers[key]?)

def wirePublisherAt (w : Proto.StateSnapshot) (name key : String) : Option Proto.Publisher :=
  w.topics[name]?.bind (fun topic => topic.publishers[key]?)

def LastSeen (s : AppState) (x : Instant) : Prop :=
  ∃ name key publisher, publisherAt s name key = some publisher ∧ publisher.lastSeen = x

def Seen (s : AppState) (x : Instant) : Prop := ∃ message ∈ s.recentMessages, message.seen = x

def PublisherAge (w : Proto.StateSnapshot) (millis : ℕ) : Prop :=
  ∃ name key publisher, wirePublisherAt w name key = some publisher ∧ publisher.millisSinceLastSeen = millis

def MessageAge (w : Proto.StateSnapshot) (millis : ℕ) : Prop :=
  ∃ message ∈ w.recentMessages, message.millisSinceSeen = millis

section Instants

variable {t t' x millis : ℕ}

lemma checkedSub_of_le {duration : ℕ} (h : duration ≤ t') : (checkedSub t' duration).getD t' = t' - duration := by
  rw [checkedSub, if_pos h, Option.getD_some]

lemma millisSince_eq (h : (t - x) / 10 ^ 6 < 2 ^ 64) : millisSince x t = (t - x) / 10 ^ 6 := by
  rw [millisSince]
  exact Nat.min_eq_left (Nat.le_pred_of_lt h)

lemma restamp_eq (hfits : (t - x) / 10 ^ 6 < 2 ^ 64) (hsub : fromMillis ((t - x) / 10 ^ 6) ≤ t') :
    (checkedSub t' (fromMillis (millisSince x t))).getD t' = restamp t t' x := by
  rw [millisSince_eq hfits, checkedSub_of_le hsub]
  rfl

lemma millisSince_fromMillis (hfits : millis < 2 ^ 64) (hsub : fromMillis millis ≤ t') :
    millisSince ((checkedSub t' (fromMillis millis)).getD t') t' = millis := by
  rw [checkedSub_of_le hsub, millisSince, fromMillis]
  rw [fromMillis] at hsub
  omega

end Instants

section Records

variable {t t' : Instant}

lemma subscription_round_trip (sub : Subscription) : subscriptionFromWire (subscriptionToWire sub) = sub := rfl

lemma subscription_wire_round_trip (sub : Proto.Subscription) :
    subscriptionToWire (subscriptionFromWire sub) = sub := rfl

lemma message_round_trip {message : RecentMessage} (hfits : (t - message.seen) / 10 ^ 6 < 2 ^ 64)
    (hsub : fromMillis ((t - message.seen) / 10 ^ 6) ≤ t') :
    messageFromWire (messageToWire message t) t' = restampMessage t t' message := by
  have hseen := restamp_eq hfits hsub
  simp [messageFromWire, messageToWire, restampMessage, hseen, Function.comp_def]

lemma message_wire_round_trip {message : Proto.RecentMessage} (hfits : message.millisSinceSeen < 2 ^ 64)
    (hsub : fromMillis message.millisSinceSeen ≤ t') :
    messageToWire (messageFromWire message t') t' = message := by
  have hage := millisSince_fromMillis hfits hsub
  simp [messageFromWire, messageToWire, hage, Function.comp_def]

lemma topic_round_trip {topic : Topic}
    (hfits : ∀ (key : String) (publisher : Publisher), topic.publishers[key]? = some publisher →
      (t - publisher.lastSeen) / 10 ^ 6 < 2 ^ 64 ∧ fromMillis ((t - publisher.lastSeen) / 10 ^ 6) ≤ t') :
    topicFromWire (topicToWire topic t) t' = restampTopic t t' topic := by
  have hpublishers : (topicToWire topic t).publishers.map (fun _ publisher => publisherFromWire publisher t') =
      topic.publishers.map (fun _ publisher => restampPublisher t t' publisher) := by
    apply map_map_congr
    intro key publisher hp
    have hseen := restamp_eq (hfits key publisher hp).1 (hfits key publisher hp).2
    simp [publisherFromWire, publisherToWire, restampPublisher, hseen]
  rw [topicFromWire, hpublishers]
  rfl

lemma topic_wire_round_trip {topic : Proto.Topic}
    (hfits : ∀ (key : String) (publisher : Proto.Publisher), topic.publishers[key]? = some publisher →
      publisher.millisSinceLastSeen < 2 ^ 64 ∧ fromMillis publisher.millisSinceLastSeen ≤ t') :
    topicToWire (topicFromWire topic t') t' = topic := by
  have hpublishers : (topicFromWire topic t').publishers.map (fun _ publisher => publisherToWire publisher t') =
      topic.publishers := by
    refine (map_map_congr (h := fun _ publisher => publisher) fun key publisher hp => ?_).trans ExtTreeMap.map_id
    have hage := millisSince_fromMillis (hfits key publisher hp).1 (hfits key publisher hp).2
    simp [publisherFromWire, publisherToWire, hage]
  rw [topicToWire, hpublishers]
  rfl

end Records

theorem wire_round_trip (t t' : Instant) :
    (∀ s : AppState,
      (∀ x, LastSeen s x ∨ Seen s x → (t - x) / 10 ^ 6 < 2 ^ 64 ∧ fromMillis ((t - x) / 10 ^ 6) ≤ t') →
        fromWire (toWire s t) t' = restampState t t' s) ∧
    ∀ w : Proto.StateSnapshot,
      (∀ millis, PublisherAge w millis ∨ MessageAge w millis → millis < 2 ^ 64 ∧ fromMillis millis ≤ t') →
        toWire (fromWire w t') t' = w := by
  constructor
  · intro s hages
    have htopics : (toWire s t).topics.map (fun _ topic => topicFromWire topic t') =
        s.topics.map (fun _ topic => restampTopic t t' topic) := by
      refine map_map_congr fun name topic ht => topic_round_trip fun key publisher hp => ?_
      exact hages _ (.inl ⟨name, key, publisher, Option.bind_eq_some_iff.mpr ⟨topic, ht, hp⟩, rfl⟩)
    have hsubscriptions : (toWire s t).subscriptions.map (fun _ sub => subscriptionFromWire sub) =
        s.subscriptions :=
      (map_map_congr (h := fun _ sub => sub) fun _ sub _ => subscription_round_trip sub).trans ExtTreeMap.map_id
    have hmessages : (toWire s t).recentMessages.map (messageFromWire · t') =
        s.recentMessages.map (restampMessage t t') := by
      rw [toWire, List.map_map]
      apply List.map_congr_left
      intro message hm
      obtain ⟨hfits, hsub⟩ := hages _ (.inr ⟨message, hm, rfl⟩)
      exact message_round_trip hfits hsub
    rw [fromWire, htopics, hsubscriptions, hmessages]
    rfl
  · intro w hages
    have htopics : (fromWire w t').topics.map (fun _ topic => topicToWire topic t') = w.topics := by
      refine (map_map_congr (h := fun _ topic => topic) fun name topic ht => ?_).trans ExtTreeMap.map_id
      apply topic_wire_round_trip
      intro key publisher hp
      exact hages _ (.inl ⟨name, key, publisher, Option.bind_eq_some_iff.mpr ⟨topic, ht, hp⟩, rfl⟩)
    have hsubscriptions : (fromWire w t').subscriptions.map (fun _ sub => subscriptionToWire sub) =
        w.subscriptions :=
      (map_map_congr (h := fun _ sub => sub) fun _ sub _ => subscription_wire_round_trip sub).trans
        ExtTreeMap.map_id
    have hmessages : (fromWire w t').recentMessages.map (messageToWire · t') = w.recentMessages := by
      rw [fromWire, List.map_map]
      refine (List.map_congr_left (g := id) fun message hm => ?_).trans (List.map_id _)
      obtain ⟨hfits, hsub⟩ := hages _ (.inr ⟨message, hm, rfl⟩)
      exact message_wire_round_trip hfits hsub
    rw [toWire, htopics, hsubscriptions, hmessages]
    rfl

def sampled : AppState where
  topics := (∅ : ExtTreeMap String Topic).insert "t"
    { publishCount := 1, publishers := (∅ : ExtTreeMap String Publisher).insert "p" ⟨1, 1500000⟩ }
  recentMessages := [⟨0, "t", [7], [("k", "v")], 1, false, 2000000⟩]
  recentBufferCapacity := 200
  nextSeq := 1

lemma lastSeen_sampled {x : Instant} (h : LastSeen sampled x) : x = 1500000 := by
  obtain ⟨name, key, publisher, hp, rfl⟩ := h
  obtain ⟨topic, ht, hp⟩ := Option.bind_eq_some_iff.mp hp
  simp only [sampled, ExtTreeMap.getElem?_insert, ExtTreeMap.getElem?_empty] at ht
  split_ifs at ht
  cases ht
  simp only [ExtTreeMap.getElem?_insert, ExtTreeMap.getElem?_empty] at hp
  split_ifs at hp
  cases hp
  rfl

theorem wire_round_trip_of_sampled :
    fromWire (toWire sampled 4200000) 90000000 = restampState 4200000 90000000 sampled ∧
      (restampState 4200000 90000000 sampled).recentMessages =
        [⟨0, "t", [7], [("k", "v")], 1, false, 88000000⟩] := by
  refine ⟨(wire_round_trip 4200000 90000000).1 sampled ?_, rfl⟩
  rintro x (hx | ⟨message, hm, rfl⟩)
  · rw [lastSeen_sampled hx]
    decide
  · obtain rfl := List.mem_singleton.mp hm
    decide

end PubSubTui.Monitor
