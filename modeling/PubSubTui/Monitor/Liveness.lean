import PubSubTui.Monitor.RoundTrip
import PubSubTui.Observe.ConnectedPublishers

/-! How old a publisher or a message looks to the receiver. An age loses less than a millisecond on the way,
unless it reaches back before the receiver's clock. -/

namespace PubSubTui.Monitor

open Std Library.TreeMaps Observe

def publishersWith (s : AppState) (q : Publisher → Bool) : ℕ :=
  ((s.topics.toList.flatMap (fun t => t.2.publishers.toList)).filter (fun p => q p.2)).length

def publishersYoungerThan (s : AppState) (age : ℕ) (now : Instant) : ℕ :=
  publishersWith s (fun p => now - p.lastSeen < age)

section Counts

lemma connectedPublishers_eq_with (s : AppState) (now : Instant) :
    s.connectedPublishers now = publishersWith s (fun p => now - p.lastSeen ≤ publisherActiveWindow) := rfl

variable {s : AppState} {q q' : Publisher → Bool}

lemma publishersWith_eq (s : AppState) (q : Publisher → Bool) :
    publishersWith s q = total (fun _ topic => total (fun _ p => if q p then 1 else 0) topic.publishers) s.topics := by
  rw [publishersWith, List.filter_flatMap, List.length_flatMap, total]
  simp only [length_filter]

lemma publishersWith_le (h : ∀ name key p, publisherAt s name key = some p → q p = true → q' p = true) :
    publishersWith s q ≤ publishersWith s q' := by
  rw [publishersWith_eq, publishersWith_eq]
  refine total_le fun name topic ht => total_le fun key p hp => ?_
  have hq := h name key p (Option.bind_eq_some_iff.mpr ⟨topic, ht, hp⟩)
  split_ifs <;> simp_all

end Counts

section Transit

variable {t t' x d : ℕ}

lemma age_after_transit (hx : x ≤ t) (hsub : fromMillis (millisSince x t) ≤ t') :
    (t + d - x ≤ publisherActiveWindow →
      t' + d - (checkedSub t' (fromMillis (millisSince x t))).getD t' ≤ publisherActiveWindow) ∧
    (t' + d - (checkedSub t' (fromMillis (millisSince x t))).getD t' ≤ publisherActiveWindow →
      t + d - x < publisherActiveWindow + 10 ^ 6) := by
  rw [checkedSub_of_le hsub]
  simp only [fromMillis, millisSince, publisherActiveWindow] at hsub ⊢
  constructor <;> omega

end Transit

variable {s : AppState} {w : Proto.StateSnapshot} {t t' d now : Instant} {name key : String}

lemma wirePublisherAt_toWire :
    wirePublisherAt (toWire s t) name key = (publisherAt s name key).map (publisherToWire · t) := by
  cases h : s.topics[name]? <;> simp [wirePublisherAt, publisherAt, toWire, topicToWire, h]

lemma publisherAt_fromWire :
    publisherAt (fromWire w now) name key = (wirePublisherAt w name key).map (publisherFromWire · now) := by
  cases h : w.topics[name]? <;> simp [wirePublisherAt, publisherAt, fromWire, topicFromWire, h]

lemma publisherAt_transit : publisherAt (fromWire (toWire s t) t') name key =
    (publisherAt s name key).map (fun p => publisherFromWire (publisherToWire p t) t') := by
  rw [publisherAt_fromWire, wirePublisherAt_toWire, Option.map_map]
  rfl

lemma publishersWith_transit (q : Publisher → Bool) : publishersWith (fromWire (toWire s t) t') q =
    publishersWith s (fun p => q (publisherFromWire (publisherToWire p t) t')) := by
  simp only [publishersWith_eq, fromWire, toWire, topicFromWire, topicToWire, total_map]

theorem liveness_survives_transit (s : AppState) (t t' d : Instant)
    (hclock : ∀ x, LastSeen s x → x ≤ t ∧ fromMillis (millisSince x t) ≤ t') :
    let restored := fromWire (toWire s t) t'
    (∀ name key, (publisherAt restored name key).isSome = (publisherAt s name key).isSome) ∧
    (∀ name key p p', publisherAt s name key = some p → publisherAt restored name key = some p' →
      (t + d - p.lastSeen ≤ publisherActiveWindow → t' + d - p'.lastSeen ≤ publisherActiveWindow) ∧
      (t' + d - p'.lastSeen ≤ publisherActiveWindow → t + d - p.lastSeen < publisherActiveWindow + 10 ^ 6)) ∧
    s.connectedPublishers (t + d) ≤ restored.connectedPublishers (t' + d) ∧
    restored.connectedPublishers (t' + d) ≤ publishersYoungerThan s (publisherActiveWindow + 10 ^ 6) (t + d) := by
  intro restored
  have hage (name key : String) (p : Publisher) (hp : publisherAt s name key = some p) :=
    age_after_transit (d := d) (hclock p.lastSeen ⟨name, key, p, hp, rfl⟩).1
      (hclock p.lastSeen ⟨name, key, p, hp, rfl⟩).2
  have hcount : restored.connectedPublishers (t' + d) = publishersWith s (fun p =>
      t' + d - (publisherFromWire (publisherToWire p t) t').lastSeen ≤ publisherActiveWindow) :=
    publishersWith_transit (fun p => t' + d - p.lastSeen ≤ publisherActiveWindow)
  refine ⟨?_, ?_, ?_, ?_⟩
  · intro name key
    rw [publisherAt_transit, Option.isSome_map]
  · intro name key p p' hp hp'
    rw [publisherAt_transit, hp] at hp'
    cases hp'
    exact hage name key p hp
  · rw [hcount, connectedPublishers_eq_with]
    apply publishersWith_le
    intro name key p hp hq
    simp only [decide_eq_true_eq] at hq ⊢
    exact (hage name key p hp).1 hq
  · rw [hcount]
    apply publishersWith_le
    intro name key p hp hq
    simp only [decide_eq_true_eq] at hq ⊢
    exact (hage name key p hp).2 hq

theorem liveness_survives_transit_of_sampled :
    sampled.connectedPublishers (4200000 + 300) ≤
      (fromWire (toWire sampled 4200000) 90000000).connectedPublishers (90000000 + 300) := by
  refine (liveness_survives_transit sampled 4200000 90000000 300 fun x hx => ?_).2.2.1
  rw [lastSeen_sampled hx]
  decide

/-! An age that reaches back before the receiver's clock is taken for no age at all. -/

structure NeverRevives (w : Proto.StateSnapshot) (now : Instant) : Prop where
  publishers : ∀ name key sent p, wirePublisherAt w name key = some sent →
    publisherAt (fromWire w now) name key = some p →
    publisherActiveWindow < fromMillis sent.millisSinceLastSeen → ¬ now - p.lastSeen ≤ publisherActiveWindow
  messages : ∀ (i j : ℕ) (sent sent' : Proto.RecentMessage) (m m' : RecentMessage),
    w.recentMessages[i]? = some sent → w.recentMessages[j]? = some sent' →
    (fromWire w now).recentMessages[i]? = some m → (fromWire w now).recentMessages[j]? = some m' →
    sent'.millisSinceSeen < sent.millisSinceSeen → m.seen ≤ m'.seen

lemma revived_iff {now age : ℕ} (hstale : publisherActiveWindow < age) :
    now - (checkedSub now age).getD now ≤ publisherActiveWindow ↔ now < age := by
  rw [checkedSub]
  split_ifs with h <;> simp only [Option.getD_some, Option.getD_none] <;> omega

lemma younger_iff {now age age' : ℕ} (h : age' < age) :
    (checkedSub now age).getD now ≤ (checkedSub now age').getD now ↔ (now < age → 0 < age' → now < age') := by
  change @LE.le ℕ _ _ _ ↔ _
  simp only [checkedSub]
  split_ifs <;> simp only [Option.getD_some, Option.getD_none] <;> omega

theorem never_revives_iff (w : Proto.StateSnapshot) (now : Instant) :
    NeverRevives w now ↔
      (∀ name key sent, wirePublisherAt w name key = some sent →
        publisherActiveWindow < fromMillis sent.millisSinceLastSeen →
          fromMillis sent.millisSinceLastSeen ≤ now) ∧
      ∀ sent ∈ w.recentMessages, ∀ sent' ∈ w.recentMessages, now < fromMillis sent.millisSinceSeen →
        0 < sent'.millisSinceSeen → now < fromMillis sent'.millisSinceSeen := by
  have hmessage (i : ℕ) : (fromWire w now).recentMessages[i]? =
      w.recentMessages[i]?.map (messageFromWire · now) := List.getElem?_map
  constructor
  · rintro ⟨hpublishers, hmessages⟩
    refine ⟨fun name key sent hsent hstale => ?_, fun sent hsent sent' hsent' hlong hpos => ?_⟩
    · have hp : publisherAt (fromWire w now) name key = some (publisherFromWire sent now) := by
        rw [publisherAt_fromWire, hsent, Option.map_some]
      exact Nat.not_lt.mp (mt (revived_iff hstale).mpr (hpublishers name key sent _ hsent hp hstale))
    · obtain ⟨i, hi⟩ := List.mem_iff_getElem?.mp hsent
      obtain ⟨j, hj⟩ := List.mem_iff_getElem?.mp hsent'
      by_contra hshort
      have hlt : fromMillis sent'.millisSinceSeen < fromMillis sent.millisSinceSeen :=
        (Nat.not_lt.mp hshort).trans_lt hlong
      have hless : sent'.millisSinceSeen < sent.millisSinceSeen := by
        simp only [fromMillis] at hlt
        omega
      have hseen := hmessages i j sent sent' _ _ hi hj (by rw [hmessage, hi]; rfl) (by rw [hmessage, hj]; rfl) hless
      exact hshort ((younger_iff hlt).mp hseen hlong (by simpa [fromMillis] using hpos))
  · rintro ⟨hpublishers, hmessages⟩
    refine ⟨fun name key sent p hsent hp hstale => ?_, fun i j sent sent' m m' hi hj hm hm' hless => ?_⟩
    · rw [publisherAt_fromWire, hsent, Option.map_some] at hp
      cases hp
      exact mt (revived_iff hstale).mp (Nat.not_lt.mpr (hpublishers name key sent hsent hstale))
    · rw [hmessage, hi, Option.map_some] at hm
      rw [hmessage, hj, Option.map_some] at hm'
      cases hm
      cases hm'
      have hlt : fromMillis sent'.millisSinceSeen < fromMillis sent.millisSinceSeen := by
        simp only [fromMillis]
        omega
      apply (younger_iff hlt).mpr
      intro hlong hpos
      refine hmessages sent (List.mem_of_getElem? hi) sent' (List.mem_of_getElem? hj) hlong ?_
      simpa [fromMillis] using hpos

/-- What a receiver may be sent whose earliest instant is five seconds ago: a publisher last seen twenty seconds ago,
and messages seen six seconds and one second ago. -/
def rebooted : Proto.StateSnapshot where
  topics := (∅ : ExtTreeMap String Proto.Topic).insert "t"
    { exists_ := true, publishCount := 1, publishers := (∅ : ExtTreeMap String Proto.Publisher).insert "p" ⟨1, 20000⟩ }
  subscriptions := ∅
  recentMessages := [⟨0, "t", [], [], 0, false, 6000⟩, ⟨1, "t", [], [], 0, false, 1000⟩]
  recentBufferCapacity := 200

theorem stale_publisher_revived :
    ¬ NeverRevives rebooted (5 * 10 ^ 9) ∧ (fromWire rebooted (5 * 10 ^ 9)).connectedPublishers (5 * 10 ^ 9) = 1 ∧
      (fromWire rebooted (5 * 10 ^ 9)).recentMessages.map RecentMessage.seen = [5 * 10 ^ 9, 4 * 10 ^ 9] := by
  refine ⟨fun h => ?_, by decide, by decide⟩
  exact absurd (h.publishers "t" "p" ⟨1, 20000⟩ ⟨1, 5 * 10 ^ 9⟩ rfl rfl (by decide)) (by decide)

end PubSubTui.Monitor
