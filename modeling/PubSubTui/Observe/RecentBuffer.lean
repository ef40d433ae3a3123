import Mathlib.Data.List.DropRight
import Mathlib.Tactic
import PubSubTui.Observe.Accounting

/-! The owning task folds observations in bursts and trims the recent messages once per burst. Its snapshots
are those of a fold that never trims, cut to the newest messages. -/

namespace PubSubTui.Observe

open Library.TreeMaps

/-- What one turn of the loop drains: the observation waited for and those already queued behind it. -/
structure Burst where
  now : Instant
  first : Observation
  rest : List Observation

def Burst.observations (b : Burst) : List Observation := b.first :: b.rest

def Burst.history (b : Burst) : List (Observation × Instant) := b.observations.map (·, b.now)

namespace AppState

def foldBurst (recentBuffer : ℕ) (s : AppState) (b : Burst) : AppState :=
  let s := s.apply b.first b.now
  let s := b.rest.foldl (fun s observation => s.apply observation b.now) s
  s.trimRecent recentBuffer

/-- The snapshots published from here on; a burst carries whether a reader is left when it is sent. -/
def snapshots (recentBuffer : ℕ) (s : AppState) : List (Burst × Bool) → List AppState
  | [] => []
  | (b, readers) :: bursts =>
    let s := s.foldBurst recentBuffer b
    if readers then s :: snapshots recentBuffer s bursts else []

end AppState

def run (recentBuffer : ℕ) (bursts : List (Burst × Bool)) : List AppState :=
  AppState.snapshots recentBuffer { recentBufferCapacity := recentBuffer } bursts

def Observation.captures (now : Instant) : Observation → List (String × PublishedMessage × Instant)
  | publish topic _ messages => messages.map (topic, ·, now)
  | _ => []

def publishedMessages (history : List (Observation × Instant)) : List (String × PublishedMessage × Instant) :=
  history.flatMap (fun e => e.1.captures e.2)

lemma rtake_append_rtake {α : Type*} (n : ℕ) (l k : List α) : (l.rtake n ++ k).rtake n = (l ++ k).rtake n := by
  simp only [List.rtake_eq_reverse_take_reverse, List.reverse_append, List.reverse_reverse, List.take_append,
    List.take_take]
  congr 3
  omega

lemma numbered_append (seq : ℕ) (l k : List (String × PublishedMessage × Instant)) :
    numbered seq (l ++ k) = numbered seq l ++ numbered (seq + l.length) k := by
  induction l generalizing seq with
  | nil => simp [numbered]
  | cons m l ih =>
    obtain ⟨topic, message, seen⟩ := m
    simp [numbered, ih, Nat.add_assoc, Nat.add_comm 1]

lemma length_numbered (seq : ℕ) (l : List (String × PublishedMessage × Instant)) :
    (numbered seq l).length = l.length := by
  induction l generalizing seq with
  | nil => rfl
  | cons m l ih => simp [numbered, ih]

lemma length_captures (o : Observation) (now : Instant) : (o.captures now).length = o.published := by
  cases o <;> simp [Observation.captures, Observation.published]

lemma length_publishedMessages (history : List (Observation × Instant)) :
    (publishedMessages history).length = tally Observation.published (history.map Prod.fst) := by
  simp [publishedMessages, tally, List.length_flatMap, length_captures, Function.comp_def]

lemma popWhileOver_eq (cap : ℕ) (l : List RecentMessage) : AppState.popWhileOver cap l = l.rtake cap := by
  induction l with
  | nil => simp [AppState.popWhileOver]
  | cons m ms ih =>
    rw [AppState.popWhileOver, ih]
    split_ifs with h
    · have hd : (m :: ms).length - cap = ms.length - cap + 1 := by
        simp only [List.length_cons] at h ⊢
        omega
      rw [List.rtake, List.rtake, hd, List.drop_succ_cons]
    · rw [List.rtake, Nat.sub_eq_zero_of_le (Nat.not_lt.mp h), List.drop_zero]

namespace AppState

variable (s : AppState) (o : Observation) (now : Instant) (recentBuffer : ℕ)
variable (history : List (Observation × Instant))

lemma trimRecent_eq : s.trimRecent recentBuffer = { s with recentMessages := s.recentMessages.rtake recentBuffer } := by
  rw [trimRecent, popWhileOver_eq]

lemma listTopics_recentMessages (l : List RecentMessage) (topics : List String) :
    ({ s with recentMessages := l } : AppState).listTopics topics =
      { s.listTopics topics with recentMessages := l } := by
  induction topics generalizing s with
  | nil => rfl
  | cons name topics ih => exact ih (s.topicMut name (fun topic => { topic with exists_ := true }))

lemma listSubscriptions_recentMessages (l : List RecentMessage) (infos : List SubscriptionInfo) :
    ({ s with recentMessages := l } : AppState).listSubscriptions infos =
      { s.listSubscriptions infos with recentMessages := l } := by
  induction infos generalizing s with
  | nil => rfl
  | cons info infos ih =>
    exact ih (s.subscriptionMut info.name (fun sub => { sub with exists_ := true, topic := some info.topic }))

lemma apply_recentMessages (l : List RecentMessage) :
    ({ s with recentMessages := l } : AppState).apply o now =
      { s.apply o now with recentMessages := l ++ numbered s.nextSeq (o.captures now) } := by
  cases o with
  | publish topic peer messages =>
    simp only [apply, foldl_pushRecent, Observation.captures]
    rfl
  | deliver | ack | consumerOpen | consumerClose => simp [apply, Observation.captures, numbered, subscriptionMut]
  | adminSnapshot topics infos =>
    simp only [apply, applyAdmin, Observation.captures, numbered, List.append_nil]
    refine (congrArg (fun s => (clearSubscriptions s).listSubscriptions infos)
      (listTopics_recentMessages s.clearTopics l topics)).trans ?_
    exact listSubscriptions_recentMessages (s.clearTopics.listTopics topics).clearSubscriptions l infos

lemma applyAll_recentMessages (l : List RecentMessage) :
    ({ s with recentMessages := l } : AppState).applyAll history =
      { s.applyAll history with recentMessages := l ++ numbered s.nextSeq (publishedMessages history) } := by
  induction history generalizing s l with
  | nil => simp [applyAll, publishedMessages, numbered]
  | cons e history ih =>
    have hn : (s.apply e.1 e.2).nextSeq = s.nextSeq + (e.1.captures e.2).length := by
      rw [nextSeq_apply, length_captures]
    have hh := ih (s.apply e.1 e.2) (l ++ numbered s.nextSeq (e.1.captures e.2))
    rw [← apply_recentMessages, hn, List.append_assoc, ← numbered_append] at hh
    exact hh

lemma recentMessages_applyAll :
    (s.applyAll history).recentMessages =
      s.recentMessages ++ numbered s.nextSeq (publishedMessages history) :=
  congrArg recentMessages (s.applyAll_recentMessages history s.recentMessages)

lemma trimRecent_applyAll :
    ((s.trimRecent recentBuffer).applyAll history).trimRecent recentBuffer =
      (s.applyAll history).trimRecent recentBuffer := by
  simp only [trimRecent_eq, applyAll_recentMessages, recentMessages_applyAll, rtake_append_rtake]

lemma foldBurst_eq (b : Burst) :
    s.foldBurst recentBuffer b = (s.applyAll b.history).trimRecent recentBuffer := by
  simp [foldBurst, applyAll, Burst.history, Burst.observations, List.foldl_map]

lemma snapshots_getElem? {bursts : List (Burst × Bool)} {i : ℕ} {snapshot : AppState}
    (h : (snapshots recentBuffer s bursts)[i]? = some snapshot) :
    snapshot = (s.applyAll ((bursts.take (i + 1)).flatMap (fun b => b.1.history))).trimRecent recentBuffer := by
  induction bursts generalizing s i with
  | nil => simp [snapshots] at h
  | cons b bursts ih =>
    obtain ⟨b, readers⟩ := b
    cases readers with
    | false => simp [snapshots] at h
    | true =>
      cases i with
      | zero =>
        simp only [snapshots, ↓reduceIte, List.getElem?_cons_zero, Option.some.injEq] at h
        simp [← h, foldBurst_eq]
      | succ i =>
        simp only [snapshots, ↓reduceIte, List.getElem?_cons_succ] at h
        have hh := ih _ h
        rw [foldBurst_eq, trimRecent_applyAll, ← applyAll_append] at hh
        simpa using hh

lemma length_snapshots (bursts : List (Burst × Bool)) :
    (snapshots recentBuffer s bursts).length = (bursts.takeWhile (·.2)).length := by
  induction bursts generalizing s with
  | nil => rfl
  | cons b bursts ih =>
    obtain ⟨b, readers⟩ := b
    cases readers with
    | false => rfl
    | true =>
      simp only [snapshots, ↓reduceIte, List.length_cons, List.takeWhile_cons_of_pos]
      rw [ih]

end AppState

def Publisher.eraseTime (p : Publisher) : Publisher := { p with lastSeen := 0 }

def Topic.eraseTimes (entry : Topic) : Topic :=
  { entry with publishers := entry.publishers.map (fun _ (p : Publisher) => p.eraseTime) }

def RecentMessage.eraseTime (m : RecentMessage) : RecentMessage := { m with seen := 0 }

def AppState.eraseTimes (s : AppState) : AppState :=
  { s with
    topics := s.topics.map (fun _ (entry : Topic) => entry.eraseTimes)
    recentMessages := s.recentMessages.map RecentMessage.eraseTime }

def RecentMessage.contents (m : RecentMessage) : String × PublishedMessage × Instant :=
  (m.topic, { data := m.data, attributes := m.attributes, originalLen := m.originalLen, truncated := m.truncated },
    m.seen)

lemma Topic.eraseTimes_after (t : String) (entry : Topic) (o : Observation) (now : Instant) :
    (entry.after t o now).eraseTimes = entry.eraseTimes.after t o 0 := by
  cases o with
  | publish topic peer messages =>
    by_cases h : topic = t
    · simp only [after, h, ↓reduceIte, AppState.countPublish, eraseTimes]
      congr 1
      apply map_upsert Publisher.eraseTime
      intro v
      cases v <;> rfl
    · simp [after, h]
  | deliver | ack | consumerOpen | consumerClose | adminSnapshot => rfl

lemma numbered_contents (seq : ℕ) (l : List (String × PublishedMessage × Instant)) :
    (numbered seq l).map RecentMessage.contents = l := by
  induction l generalizing seq with
  | nil => rfl
  | cons m l ih => simp [numbered, ih, RecentMessage.contents, RecentMessage.ofPublished]

lemma numbered_seq (seq : ℕ) (l : List (String × PublishedMessage × Instant)) :
    (numbered seq l).map RecentMessage.seq = List.range' seq l.length := by
  induction l generalizing seq with
  | nil => rfl
  | cons m l ih => simp [numbered, ih, RecentMessage.ofPublished, List.range'_succ]

lemma numbered_eraseTime (seq : ℕ) (now : Instant) (o : Observation) :
    (numbered seq (o.captures now)).map RecentMessage.eraseTime = numbered seq (o.captures 0) := by
  cases o with
  | publish topic peer messages =>
    induction messages generalizing seq with
    | nil => rfl
    | cons m ms ih =>
      simpa [Observation.captures, numbered, RecentMessage.eraseTime, RecentMessage.ofPublished] using ih (seq + 1)
  | deliver | ack | consumerOpen | consumerClose | adminSnapshot => rfl

namespace AppState

variable (s : AppState) (o : Observation) (now : Instant)

@[simp] lemma mem_eraseTimes (t : String) : t ∈ s.eraseTimes.topics ↔ t ∈ s.topics := by simp [eraseTimes]

@[simp] lemma topicAt_eraseTimes (t : String) : s.eraseTimes.topicAt t = (s.topicAt t).eraseTimes := by
  have he : ({} : Topic).eraseTimes = {} := by simp [Topic.eraseTimes]
  cases h : s.topics[t]? <;> simp [topicAt, eraseTimes, h, he]

@[simp] lemma subscriptionAt_eraseTimes (x : String) : s.eraseTimes.subscriptionAt x = s.subscriptionAt x := rfl

lemma recentMessages_apply :
    (s.apply o now).recentMessages = s.recentMessages ++ numbered s.nextSeq (o.captures now) :=
  congrArg recentMessages (s.apply_recentMessages o now s.recentMessages)

lemma recentBufferCapacity_apply : (s.apply o now).recentBufferCapacity = s.recentBufferCapacity := by
  cases o with
  | publish topic peer messages => simp [apply, foldl_pushRecent, topicMut]
  | deliver | ack | consumerOpen | consumerClose => rfl
  | adminSnapshot topics infos => exact (s.applyAdmin_frame topics infos).2.1

lemma recentBufferCapacity_applyAll (history : List (Observation × Instant)) :
    (s.applyAll history).recentBufferCapacity = s.recentBufferCapacity :=
  List.foldlRecOn (motive := fun t : AppState => t.recentBufferCapacity = s.recentBufferCapacity)
    history _ rfl (fun t ht e _ => (t.recentBufferCapacity_apply e.1 e.2).trans ht)

lemma eraseTimes_apply : (s.apply o now).eraseTimes = s.eraseTimes.apply o 0 := by
  apply ext_entities
  · intro t
    simp [mem_topics_apply]
  · intro t
    simp [topicAt_apply, Topic.eraseTimes_after]
  · intro x
    rw [mem_subscriptions_apply]
    exact s.mem_subscriptions_apply x now o
  · intro x
    simp [subscriptionAt_apply]
  · rw [recentMessages_apply, eraseTimes, recentMessages_apply, List.map_append, numbered_eraseTime]
    rfl
  · rw [recentBufferCapacity_apply]
    exact s.recentBufferCapacity_apply o now
  · rw [nextSeq_apply]
    exact s.nextSeq_apply now o

lemma eraseTimes_applyAll (history : List (Observation × Instant)) :
    (s.applyAll history).eraseTimes = (history.map Prod.fst).foldl (fun s o => s.apply o 0) s.eraseTimes := by
  rw [List.foldl_map]
  exact (List.foldl_hom eraseTimes (fun s e => (s.eraseTimes_apply e.1 e.2).symm)).symm

lemma eraseTimes_trimRecent (cap : ℕ) : (s.trimRecent cap).eraseTimes = s.eraseTimes.trimRecent cap := by
  simp [trimRecent_eq, eraseTimes, List.rtake, List.map_drop]

end AppState

lemma recentMessages_of_run {recentBuffer : ℕ} {bursts : List (Burst × Bool)} {i : ℕ} {snapshot : AppState}
    (h : (run recentBuffer bursts)[i]? = some snapshot) : snapshot.recentMessages =
      (numbered 0 (publishedMessages ((bursts.take (i + 1)).flatMap fun b => b.1.history))).rtake recentBuffer := by
  rw [AppState.snapshots_getElem? _ _ h, AppState.trimRecent_eq, AppState.recentMessages_applyAll]
  rfl

theorem recent_messages_of_run (recentBuffer : ℕ) (bursts : List (Burst × Bool)) (i : ℕ) (snapshot : AppState)
    (h : (run recentBuffer bursts)[i]? = some snapshot) :
    let history := (bursts.take (i + 1)).flatMap (fun b => b.1.history)
    let messages := publishedMessages history
    let kept := min recentBuffer messages.length
    snapshot.recentMessages.map RecentMessage.contents = messages.rtake kept ∧
      snapshot.recentMessages.map RecentMessage.seq = List.range' (messages.length - kept) kept ∧
      snapshot.nextSeq = messages.length ∧
      ∀ bursts' i' snapshot', (run recentBuffer bursts')[i']? = some snapshot' →
        (bursts.take (i + 1)).flatMap (fun b => b.1.observations) =
          (bursts'.take (i' + 1)).flatMap (fun b => b.1.observations) →
        snapshot.eraseTimes = snapshot'.eraseTimes := by
  intro history messages kept
  let initial : AppState := { recentBufferCapacity := recentBuffer }
  have hs : snapshot = (initial.applyAll history).trimRecent recentBuffer := initial.snapshots_getElem? _ h
  have hr : snapshot.recentMessages = (numbered 0 messages).rtake recentBuffer := recentMessages_of_run h
  have hk : messages.length - recentBuffer = messages.length - kept := by omega
  refine ⟨?_, ?_, ?_, ?_⟩
  · rw [hr, List.rtake, List.map_drop, numbered_contents, length_numbered, hk]
    rfl
  · rw [hr, List.rtake, List.map_drop, numbered_seq, length_numbered, List.drop_range']
    congr 1 <;> omega
  · rw [hs, AppState.trimRecent_eq]
    exact (initial.nextSeq_applyAll history).trans (by rw [← length_publishedMessages, Nat.zero_add])
  · intro bursts' i' snapshot' h' hobs
    have hs' := initial.snapshots_getElem? _ h'
    have hfst (bursts : List (Burst × Bool)) : (bursts.flatMap (fun b => b.1.history)).map Prod.fst =
        bursts.flatMap (fun b => b.1.observations) := by
      simp [List.map_flatMap, Burst.history, Function.comp_def]
    rw [hs, hs', AppState.eraseTimes_trimRecent, AppState.eraseTimes_trimRecent, AppState.eraseTimes_applyAll,
      AppState.eraseTimes_applyAll, hfst, hfst, hobs]

theorem recent_messages_of_two_bursts :
    let m : PublishedMessage := { data := [1], attributes := [], originalLen := 1, truncated := false }
    let bursts : List (Burst × Bool) :=
      [({ now := 5, first := .publish "a" none [m], rest := [] }, true),
        ({ now := 7, first := .ack "s" none 1, rest := [.publish "b" none [m, m]] }, true)]
    ∃ snapshot, (run 1 bursts)[1]? = some snapshot ∧
      snapshot.recentMessages.map RecentMessage.contents = [("b", m, 7)] ∧
      snapshot.recentMessages.map RecentMessage.seq = [2] ∧ snapshot.nextSeq = 3 := by
  intro m bursts
  have h := recent_messages_of_run 1 bursts 1 _ rfl
  exact ⟨_, rfl, h.1, h.2.1, h.2.2.1⟩

end PubSubTui.Observe
