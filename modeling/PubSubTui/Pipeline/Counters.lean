import PubSubTui.Pipeline.Provenance

/-! While one monitor runs, no counter on the screen goes back, and the messages that come into view are newer
than all that were in view before. -/

namespace PubSubTui.Pipeline

open Library ActionSystem Observe Monitor Ui

structure NoOlder (s s' : AppState) : Prop where
  publishCount (t : String) : (s.topicAt t).publishCount ≤ (s'.topicAt t).publishCount
  publishedBy (t key : String) : (s.topicAt t).publishedBy key ≤ (s'.topicAt t).publishedBy key
  delivered (x : String) : (s.subscriptionAt x).delivered ≤ (s'.subscriptionAt x).delivered
  acked (x : String) : (s.subscriptionAt x).acked ≤ (s'.subscriptionAt x).acked
  messages : ∀ m' ∈ s'.recentMessages, m'.seq ∈ s.recentMessages.map RecentMessage.seq ∨
    ∀ m ∈ s.recentMessages, m.seq < m'.seq

section States

variable {s s' x x' : AppState} {t t' : Instant} {recentBuffer : ℕ} {history more : List (Observation × Instant)}

lemma NoOlder.refl (s : AppState) : NoOlder s s :=
  ⟨fun _ => le_rfl, fun _ _ => le_rfl, fun _ => le_rfl, fun _ => le_rfl, fun _ hm => .inl (List.mem_map_of_mem hm)⟩

lemma noOlder_empty (s : AppState) : NoOlder {} s where
  publishCount t := by simp
  publishedBy t key := by simp [Topic.publishedBy]
  delivered x := by simp
  acked x := by simp
  messages m' _ := .inr (by simp)

lemma topicAt_shows (h : Shows x s) (name : String) :
    (s.topicAt name).publishCount = (x.topicAt name).publishCount ∧
      ∀ key, (s.topicAt name).publishedBy key = (x.topicAt name).publishedBy key := by
  obtain ⟨t, t', rfl⟩ := h
  cases hname : x.topics[name]? with
  | none => simp [AppState.topicAt, fromWire, toWire, hname]
  | some topic =>
    refine ⟨by simp [AppState.topicAt, fromWire, toWire, topicFromWire, topicToWire, hname], fun key => ?_⟩
    cases hkey : topic.publishers[key]? <;>
      simp [AppState.topicAt, fromWire, toWire, topicFromWire, topicToWire, Topic.publishedBy, publisherFromWire,
        publisherToWire, hname, hkey]

lemma subscriptionAt_shows (h : Shows x s) (name : String) : s.subscriptionAt name = x.subscriptionAt name := by
  obtain ⟨t, t', rfl⟩ := h
  cases hname : x.subscriptions[name]? <;>
    simp [AppState.subscriptionAt, fromWire, toWire, subscription_round_trip, hname]

lemma seqs_shows (h : Shows x s) : s.recentMessages.map RecentMessage.seq = x.recentMessages.map RecentMessage.seq := by
  obtain ⟨t, t', rfl⟩ := h
  exact seqs_carried

lemma NoOlder.of_shows (h : NoOlder x x') (hs : Shows x s) (hs' : Shows x' s') : NoOlder s s' where
  publishCount t := by
    rw [(topicAt_shows hs t).1, (topicAt_shows hs' t).1]
    exact h.publishCount t
  publishedBy t key := by
    rw [(topicAt_shows hs t).2, (topicAt_shows hs' t).2]
    exact h.publishedBy t key
  delivered y := by
    rw [subscriptionAt_shows hs, subscriptionAt_shows hs']
    exact h.delivered y
  acked y := by
    rw [subscriptionAt_shows hs, subscriptionAt_shows hs']
    exact h.acked y
  messages m' hm' := by
    have hseq : m'.seq ∈ x'.recentMessages.map RecentMessage.seq := seqs_shows hs' ▸ List.mem_map_of_mem hm'
    obtain ⟨n', hn', hsame⟩ := List.mem_map.mp hseq
    rw [seqs_shows hs, ← hsame]
    refine (h.messages n' hn').imp_right fun hnewer m hm => ?_
    have hold : m.seq ∈ x.recentMessages.map RecentMessage.seq := seqs_shows hs ▸ List.mem_map_of_mem hm
    obtain ⟨n, hn, hold⟩ := List.mem_map.mp hold
    exact hold ▸ hnewer n hn

lemma mem_seqs_fold {seq : ℕ} : seq ∈ (((Observer.emptyState recentBuffer).applyAll history).trimRecent
      recentBuffer).recentMessages.map RecentMessage.seq ↔
    (publishedMessages history).length - recentBuffer ≤ seq ∧ seq < (publishedMessages history).length := by
  rw [AppState.trimRecent_eq, AppState.recentMessages_applyAll]
  change seq ∈ (([] ++ numbered 0 (publishedMessages history)).rtake recentBuffer).map RecentMessage.seq ↔ _
  rw [List.nil_append, List.rtake, List.map_drop, numbered_seq, length_numbered, List.drop_range', List.mem_range'_1]
  omega

lemma noOlder_fold : NoOlder (((Observer.emptyState recentBuffer).applyAll history).trimRecent recentBuffer)
    (((Observer.emptyState recentBuffer).applyAll (history ++ more)).trimRecent recentBuffer) := by
  have hsplit := (Observer.emptyState recentBuffer).applyAll_append history more
  constructor
  case publishCount =>
    intro t
    change (AppState.topicAt (AppState.applyAll _ _) t).publishCount ≤
      (AppState.topicAt (AppState.applyAll _ _) t).publishCount
    rw [hsplit, AppState.publishCount_applyAll _ t more]
    exact Nat.le_add_right _ _
  case publishedBy =>
    intro t key
    change (AppState.topicAt (AppState.applyAll _ _) t).publishedBy key ≤
      (AppState.topicAt (AppState.applyAll _ _) t).publishedBy key
    rw [hsplit, AppState.publishedBy_applyAll _ t key more]
    exact Nat.le_add_right _ _
  case delivered =>
    intro x
    change (AppState.subscriptionAt (AppState.applyAll _ _) x).delivered ≤
      (AppState.subscriptionAt (AppState.applyAll _ _) x).delivered
    rw [hsplit, AppState.delivered_applyAll _ x more]
    exact Nat.le_add_right _ _
  case acked =>
    intro x
    change (AppState.subscriptionAt (AppState.applyAll _ _) x).acked ≤
      (AppState.subscriptionAt (AppState.applyAll _ _) x).acked
    rw [hsplit, AppState.acked_applyAll _ x more]
    exact Nat.le_add_right _ _
  case messages =>
    intro m' hm'
    have hseq' := mem_seqs_fold.mp (List.mem_map_of_mem hm')
    have hgrown : (publishedMessages history).length ≤ (publishedMessages (history ++ more)).length := by
      simp [publishedMessages]
    rcases Nat.lt_or_ge m'.seq (publishedMessages history).length with hlt | hge
    · left
      apply mem_seqs_fold.mpr
      omega
    · right
      intro m hm
      exact (mem_seqs_fold.mp (List.mem_map_of_mem hm)).2.trans_le hge

end States

lemma history_noOlder {recentBuffer : ℕ} {monitor : Observer} {bursts : List Burst} {underway : List Observation}
    (h : Observer.Folded recentBuffer monitor bursts underway) : monitor.snapshots.history.Pairwise NoOlder := by
  rw [Watch.history, h.initial]
  refine .cons (fun s _ => noOlder_empty s) (List.pairwise_iff_getElem.mpr fun i j hi hj hij => ?_)
  rw [(h.sent_getElem? (List.getElem?_eq_getElem hi)).2, (h.sent_getElem? (List.getElem?_eq_getElem hj)).2]
  have hsplit : bursts.take (j + 1) = bursts.take (i + 1) ++ (bursts.take (j + 1)).drop (i + 1) := by
    conv_lhs => rw [← List.take_append_drop (i + 1) (bursts.take (j + 1))]
    rw [List.take_take, Nat.min_eq_left (by omega)]
  rw [hsplit, List.flatMap_append]
  exact noOlder_fold

namespace System

variable {ι σ : Type} [DecidableEq ι] {E : Encoder} {serde : SerdeJson} {tree : TreeWidget σ} {s t : System ι σ}
  {actions : List (Action ι)} {recentBuffer : ℕ} {header : ι → String}

def Action.Restarts : Action ι → Prop
  | restart _ => True
  | _ => False

lemma past_of_no_restart (h : exec (step E serde tree) s actions = some t) (hlife : ∀ a ∈ actions, ¬ a.Restarts) :
    t.past = s.past := by
  have halong : Along (step E serde tree) (fun _ a => ¬ a.Restarts) s actions := along_of_forall_mem hlife
  refine exec_invariant_along (P := fun u : System ι σ => u.past = s.past) ?_ rfl halong h
  intro u a v hu hkept hstep
  cases moves hstep with
  | monitor | interface => exact hu
  | restart => exact absurd trivial hkept

end System

theorem counters_never_go_back {ι σ : Type} [DecidableEq ι] (E : Encoder) (serde : SerdeJson) (tree : TreeWidget σ)
    (recentBuffer : ℕ) (header : ι → String) (actions : List (System.Action ι)) (s : System ι σ)
    (h : exec (System.step E serde tree) (.start tree recentBuffer header) actions = some s)
    (hlife : ∀ a ∈ actions, ¬ a.Restarts) (i : ι) :
    (s.interfaces i).loop.frames.Pairwise (fun frame later => NoOlder frame.state later.state) := by
  have hdrawn : Reads s.log (s.interfaces i).drawn := (System.reads_exec h i).sublist (List.sublist_append_left _ _)
  have hpast : s.past = [] := System.past_of_no_restart h hlife
  have hcurrent : s.monitor ∈ s.monitors := List.mem_append_right _ List.mem_cons_self
  obtain ⟨bursts, underway, hfolded⟩ := System.folded_monitors h hcurrent
  have hlog : s.log.Pairwise NoOlder := by
    rw [System.log, System.monitors, hpast]
    simpa using history_noOlder hfolded
  refine (List.pairwise_map.mp (hdrawn.pairwise hlog NoOlder.refl)).imp ?_
  rintro frame later ⟨x, x', hx, hx', horder⟩
  exact horder.of_shows hx hx'

theorem counters_never_go_back_of_outage :
    ∃ s, exec (System.step protobuf noJson stillTree) (.start stillTree 200 fun _ => "") outage = some s ∧
      (s.interfaces ()).loop.frames.length = 3 ∧
      (s.interfaces ()).loop.frames.Pairwise (fun frame later => NoOlder frame.state later.state) := by
  obtain ⟨s, hs, hframes⟩ : ∃ s, exec (System.step protobuf noJson stillTree)
      (.start stillTree 200 fun _ => "") outage = some s ∧ (s.interfaces ()).loop.frames.length = 3 := ⟨_, rfl, rfl⟩
  refine ⟨s, hs, hframes, counters_never_go_back protobuf noJson stillTree 200 (fun _ => "") outage s hs ?_ ()⟩
  simp [outage, System.Action.Restarts]

end PubSubTui.Pipeline
