import PubSubTui.Library.ActionSystem
import PubSubTui.Library.Watch
import PubSubTui.Observe.DroppedObservations
import PubSubTui.Observe.RecentBuffer

/-! The task that owns the state, between two moves of which any producer may offer an observation. What it
publishes is what a fold in bursts publishes. -/

namespace PubSubTui.Observe

open Library ActionSystem

inductive Phase
  | waiting
  /-- Draining what is there already, all under one reading of the clock. -/
  | folding (now : Instant)
  | stopped
  deriving DecidableEq

structure Observer where
  recentBuffer : ℕ
  sink : ObservationSink := .empty
  state : AppState
  phase : Phase := .waiting
  snapshots : Watch AppState := { initial := {} }

namespace Observer

inductive Action
  | observe (observation : Observation)
  | recv (now : Instant)
  | tryRecv
  | publish
  | dropReaders
  deriving DecidableEq

def emptyState (recentBuffer : ℕ) : AppState := { recentBufferCapacity := recentBuffer }

def start (recentBuffer : ℕ) : Observer where
  recentBuffer
  state := emptyState recentBuffer

/-- Publish the state of a burst that has been drained; without readers the task ends, and its ends of the two
channels with it. -/
def publish (s : Observer) : Observer :=
  let state := s.state.trimRecent s.recentBuffer
  match s.snapshots.send state with
  | some snapshots => { s with state, snapshots, phase := .waiting }
  | none =>
    { s with state, phase := .stopped, sink := s.sink.close, snapshots := { s.snapshots with hasSender := false } }

def step (s : Observer) : Action → Option Observer
  | .observe observation => some { s with sink := s.sink.offer observation }
  | .recv now =>
    match s.phase, s.sink.poll with
    | .waiting, some (first, sink) =>
      some { s with sink, state := s.state.apply first now, phase := .folding now }
    | _, _ => none
  | .tryRecv =>
    match s.phase, s.sink.poll with
    | .folding now, some (observation, sink) => some { s with sink, state := s.state.apply observation now }
    | _, _ => none
  | .publish =>
    match s.phase, s.sink.poll with
    | .folding _, none => some s.publish
    | _, _ => none
  | .dropReaders => some { s with snapshots := { s.snapshots with hasReceiver := false } }

def offered (actions : List Action) : List Observation :=
  actions.filterMap fun
    | .observe observation => some observation
    | _ => none

inductive Moves (s : Observer) : Action → Observer → Prop
  | observe (observation : Observation) :
    Moves s (.observe observation) { s with sink := s.sink.offer observation }
  | recv {first : Observation} {sink : ObservationSink} (now : Instant) (idle : s.phase = .waiting)
    (next : s.sink.poll = some (first, sink)) :
    Moves s (.recv now) { s with sink, state := s.state.apply first now, phase := .folding now }
  | tryRecv {observation : Observation} {sink : ObservationSink} {now : Instant} (busy : s.phase = .folding now)
    (next : s.sink.poll = some (observation, sink)) :
    Moves s .tryRecv { s with sink, state := s.state.apply observation now }
  | publish {now : Instant} (busy : s.phase = .folding now) (drained : s.sink.poll = none)
    (read : s.snapshots.hasReceiver = true) :
    Moves s .publish { s with
      state := s.state.trimRecent s.recentBuffer
      snapshots := { s.snapshots with sent := s.snapshots.sent ++ [s.state.trimRecent s.recentBuffer] }
      phase := .waiting }
  | stop {now : Instant} (busy : s.phase = .folding now) (drained : s.sink.poll = none)
    (unread : s.snapshots.hasReceiver = false) :
    Moves s .publish { s with
      state := s.state.trimRecent s.recentBuffer
      phase := .stopped
      sink := s.sink.close
      snapshots := { s.snapshots with hasSender := false } }
  | dropReaders : Moves s .dropReaders { s with snapshots := { s.snapshots with hasReceiver := false } }

variable {recentBuffer : ℕ} {s t : Observer} {a : Action} {as : List Action}

lemma moves (h : s.step a = some t) : Moves s a t := by
  cases a with
  | observe observation =>
    cases h
    exact .observe observation
  | recv now =>
    simp only [step] at h
    split at h
    · cases h
      exact .recv now ‹_› ‹_›
    · cases h
  | tryRecv =>
    simp only [step] at h
    split at h
    · cases h
      exact .tryRecv ‹_› ‹_›
    · cases h
  | publish =>
    simp only [step] at h
    split at h
    · cases h
      rename_i now hphase hdrained
      rw [publish]
      cases hsend : s.snapshots.send (s.state.trimRecent s.recentBuffer) with
      | none => exact .stop hphase hdrained (Watch.send_none hsend)
      | some snapshots =>
        obtain ⟨hread, rfl⟩ := Watch.send_some hsend
        exact .publish hphase hdrained hread
    · cases h
  | dropReaders =>
    cases h
    exact .dropReaders

end Observer

namespace AppState

lemma snapshots_snoc (recentBuffer : ℕ) (s : AppState) (bursts : List Burst) (b : Burst) :
    snapshots recentBuffer s ((bursts ++ [b]).map (·, true)) =
      snapshots recentBuffer s (bursts.map (·, true)) ++
        [(bursts.foldl (foldBurst recentBuffer) s).foldBurst recentBuffer b] := by
  induction bursts generalizing s with
  | nil => rfl
  | cons c bursts ih =>
    simp only [List.cons_append, List.map_cons, snapshots, ↓reduceIte, List.foldl_cons]
    rw [ih]

end AppState

namespace Observer

structure Folded (recentBuffer : ℕ) (s : Observer) (bursts : List Burst) (underway : List Observation) : Prop where
  bound : s.recentBuffer = recentBuffer
  initial : s.snapshots.initial = {}
  published : s.snapshots.sent = run recentBuffer (bursts.map (·, true))
  received : s.sink.received = bursts.flatMap Burst.observations ++ underway
  waiting : s.phase = .waiting → underway = [] ∧
    s.state = bursts.foldl (AppState.foldBurst recentBuffer) (emptyState recentBuffer)
  folding : ∀ now, s.phase = .folding now → underway ≠ [] ∧
    s.state = (bursts.foldl (AppState.foldBurst recentBuffer) (emptyState recentBuffer)).applyAll
      (underway.map (·, now))

variable {recentBuffer : ℕ} {s t : Observer} {a : Action} {as : List Action} {bursts : List Burst}
  {underway : List Observation}

lemma folded_start : Folded recentBuffer (start recentBuffer) [] [] where
  bound := rfl
  initial := rfl
  published := rfl
  received := rfl
  waiting _ := ⟨rfl, rfl⟩
  folding now h := by cases h

lemma folded_step (hs : Folded recentBuffer s bursts underway) (h : s.step a = some t) :
    ∃ bursts underway, Folded recentBuffer t bursts underway := by
  cases moves h with
  | observe observation =>
    exact ⟨bursts, underway, hs.bound, hs.initial, hs.published, by rw [Channel.received_offer, hs.received],
      hs.waiting, hs.folding⟩
  | @recv first sink now idle next =>
    obtain ⟨hunder, hstate⟩ := hs.waiting idle
    refine ⟨bursts, [first], hs.bound, hs.initial, hs.published, ?_, (by rintro ⟨⟩), ?_⟩
    · rw [(Channel.poll_some next).2.2.2, hs.received, hunder, List.append_nil]
    · rintro now' ⟨⟩
      exact ⟨by simp, by rw [hstate]; rfl⟩
  | @tryRecv observation sink now busy next =>
    obtain ⟨hunder, hstate⟩ := hs.folding now busy
    refine ⟨bursts, underway ++ [observation], hs.bound, hs.initial, hs.published, ?_, ?_, ?_⟩
    · rw [(Channel.poll_some next).2.2.2, hs.received, List.append_assoc]
    · intro hphase
      rw [busy] at hphase
      cases hphase
    · intro now' hphase
      rw [busy] at hphase
      cases hphase
      refine ⟨by simp, ?_⟩
      rw [hstate, List.map_append, AppState.applyAll_append]
      rfl
  | @publish now busy drained read =>
    obtain ⟨hunder, hstate⟩ := hs.folding now busy
    obtain ⟨first, rest, rfl⟩ := List.exists_cons_of_ne_nil hunder
    let b : Burst := { now, first, rest }
    have hburst : s.state.trimRecent s.recentBuffer =
        (bursts.foldl (AppState.foldBurst recentBuffer) (emptyState recentBuffer)).foldBurst recentBuffer b := by
      rw [AppState.foldBurst_eq, hstate, hs.bound]
      rfl
    refine ⟨bursts ++ [b], [], hs.bound, hs.initial, ?_, ?_, ?_, (by rintro now' ⟨⟩)⟩
    · change s.snapshots.sent ++ [_] = _
      rw [hs.published, hburst]
      exact (AppState.snapshots_snoc recentBuffer _ bursts b).symm
    · rw [hs.received]
      simp [b, Burst.observations]
    · intro _
      rw [List.foldl_append]
      exact ⟨rfl, hburst⟩
  | stop busy drained unread =>
    exact ⟨bursts, underway, hs.bound, hs.initial, hs.published, hs.received, (by rintro ⟨⟩), (by rintro now ⟨⟩)⟩
  | dropReaders => exact ⟨bursts, underway, hs.bound, hs.initial, hs.published, hs.received, hs.waiting, hs.folding⟩

lemma folded_exec (h : exec step (start recentBuffer) as = some s) :
    ∃ bursts underway, Folded recentBuffer s bursts underway :=
  exec_invariant (P := fun s => ∃ bursts underway, Folded recentBuffer s bursts underway)
    (fun _ _ _ hs hstep => hs.elim fun _ hs => hs.elim fun _ hs => folded_step hs hstep)
    ⟨[], [], folded_start⟩ h

lemma accepted_sublist (h : exec step s as = some t) : t.sink.sent.Sublist (s.sink.sent ++ offered as) := by
  induction as generalizing s with
  | nil =>
    cases h
    simp [offered]
  | cons a as ih =>
    cases ha : s.step a with
    | none => simp [exec, ha] at h
    | some u =>
      apply (ih (by rwa [exec_cons ha] at h)).trans
      have hsame (hsent : u.sink.sent = s.sink.sent) (hoff : offered (a :: as) = offered as) :
          (u.sink.sent ++ offered as).Sublist (s.sink.sent ++ offered (a :: as)) := by
        rw [hsent, hoff]
      cases moves ha with
      | observe observation =>
        simpa [offered] using (Channel.sent_offer_sublist s.sink observation).append_right (offered as)
      | recv now idle next | tryRecv busy next =>
        obtain ⟨-, -, hq, hr⟩ := Channel.poll_some next
        exact hsame (by simp [Channel.sent, hq, hr]) rfl
      | publish | stop | dropReaders => exact hsame rfl rfl

def Publishes (recentBuffer : ℕ) (observations : List Observation) (snapshot : AppState) : Prop :=
  ∃ history : List (Observation × Instant), history.map Prod.fst = observations ∧
    snapshot = ((emptyState recentBuffer).applyAll history).trimRecent recentBuffer

lemma map_fst_history (bursts : List Burst) :
    (bursts.flatMap Burst.history).map Prod.fst = bursts.flatMap Burst.observations := by
  simp [List.map_flatMap, Burst.history, Function.comp_def]

lemma Folded.sent_getElem? (hs : Folded recentBuffer s bursts underway) {i : ℕ} {snapshot : AppState}
    (h : s.snapshots.sent[i]? = some snapshot) : i < bursts.length ∧
      snapshot =
        ((emptyState recentBuffer).applyAll ((bursts.take (i + 1)).flatMap Burst.history)).trimRecent recentBuffer := by
  rw [hs.published] at h
  constructor
  · have hlt := (List.getElem?_eq_some_iff.mp h).1
    rw [run, AppState.length_snapshots] at hlt
    exact hlt.trans_le ((List.takeWhile_sublist _).length_le.trans (by simp))
  · rw [run] at h
    rw [AppState.snapshots_getElem? _ recentBuffer h, ← List.map_take, List.flatMap_map]
    rfl

lemma Folded.publishes (hs : Folded recentBuffer s bursts underway) {snapshot : AppState}
    (h : snapshot ∈ s.snapshots.sent) :
    ∃ observations, observations <+: s.sink.received ∧ Publishes recentBuffer observations snapshot := by
  obtain ⟨i, hi⟩ := List.mem_iff_getElem?.mp h
  refine ⟨(bursts.take (i + 1)).flatMap Burst.observations, ?_, _, map_fst_history _, (hs.sent_getElem? hi).2⟩
  rw [hs.received]
  refine List.IsPrefix.trans ?_ (List.prefix_append _ underway)
  conv_rhs => rw [← List.take_append_drop (i + 1) bursts, List.flatMap_append]
  exact List.prefix_append _ _

lemma Folded.length_sent (hs : Folded recentBuffer s bursts underway) : s.snapshots.sent.length = bursts.length := by
  rw [hs.published, run, AppState.length_snapshots, List.takeWhile_eq_self_iff.mpr (by simp), List.length_map]

lemma Folded.latest (hs : Folded recentBuffer s bursts underway) (idle : s.phase = .waiting) (hb : bursts ≠ []) :
    Publishes recentBuffer s.sink.received s.snapshots.latest := by
  have hne : s.snapshots.sent ≠ [] := by
    rw [← List.length_pos_iff, hs.length_sent]
    exact List.length_pos_iff.mpr hb
  have hlast : s.snapshots.sent[bursts.length - 1]? = some s.snapshots.latest := by
    rw [Watch.latest, List.getLastD_eq_getLast?, ← hs.length_sent, ← List.getLast?_eq_getElem?,
      List.getLast?_eq_some_getLast hne, Option.getD_some]
  have hpos : bursts.length - 1 + 1 = bursts.length := Nat.sub_add_cancel (List.length_pos_iff.mpr hb)
  refine ⟨_, ?_, (hs.sent_getElem? hlast).2⟩
  rw [hpos, List.take_length, map_fst_history, hs.received, (hs.waiting idle).1, List.append_nil]

theorem observer_refines_run (recentBuffer : ℕ) (actions : List Action) (s : Observer)
    (h : exec step (start recentBuffer) actions = some s) :
    s.sink.sent.Sublist (offered actions) ∧
    ∃ (bursts : List Burst) (underway : List Observation),
      s.snapshots.sent = run recentBuffer (bursts.map (·, true)) ∧
      s.sink.received = bursts.flatMap Burst.observations ++ underway ∧
      (∀ snapshot ∈ s.snapshots.sent, ∃ observations, observations <+: s.sink.sent ∧
        Publishes recentBuffer observations snapshot) ∧
      (s.phase = .waiting → underway = []) ∧
      (s.phase = .waiting → s.sink.queue = [] → s.sink.sent ≠ [] →
        Publishes recentBuffer s.sink.sent s.snapshots.latest) := by
  obtain ⟨bursts, underway, hs⟩ := folded_exec h
  refine ⟨by simpa [start] using accepted_sublist h, bursts, underway, hs.published, hs.received, ?_,
    fun idle => (hs.waiting idle).1, fun idle hqueue hne => ?_⟩
  · intro snapshot hmem
    obtain ⟨observations, hinit, hpublishes⟩ := hs.publishes hmem
    exact ⟨observations, hinit.trans Channel.received_prefix_sent, hpublishes⟩
  · have hall : s.sink.sent = s.sink.received := by rw [Channel.sent, hqueue, List.append_nil]
    rw [hall] at hne ⊢
    apply hs.latest idle
    rintro rfl
    apply hne
    rw [hs.received, (hs.waiting idle).1]
    rfl

theorem observer_refines_run_of_late_arrival :
    let actions : List Action :=
      [.observe (.ack "s" none 1), .recv 5, .observe (.ack "s" none 2), .tryRecv, .publish]
    ∃ s, exec step (start 200) actions = some s ∧
      Publishes 200 [.ack "s" none 1, .ack "s" none 2] s.snapshots.latest := by
  intro actions
  obtain ⟨s, hs, idle, hqueue, hsent⟩ : ∃ s, exec step (start 200) actions = some s ∧ s.phase = .waiting ∧
      s.sink.queue = [] ∧ s.sink.sent = [.ack "s" none 1, .ack "s" none 2] := ⟨_, rfl, rfl, rfl, rfl⟩
  obtain ⟨-, bursts, underway, -, -, -, -, hall⟩ := observer_refines_run 200 actions s hs
  refine ⟨s, hs, ?_⟩
  rw [hsent] at hall
  exact hall idle hqueue (by simp)

end Observer

end PubSubTui.Observe
