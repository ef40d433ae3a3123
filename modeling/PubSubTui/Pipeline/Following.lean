import PubSubTui.Library.Readings
import PubSubTui.Pipeline.System
import PubSubTui.Ui.Selection

/-! What an interface shows, holds and is about to receive is, in this order, a reading of the snapshots there
have been: none is made up, and none is older than one before it. -/

namespace PubSubTui.Pipeline

open Library ActionSystem Observe Monitor Ui

def Carries (x : AppState) (message : Proto.StateSnapshot) : Prop := ∃ t, message = toWire x t

def Shows (x state : AppState) : Prop := ∃ t t', state = fromWire (toWire x t) t'

lemma Carries.received {x : AppState} {message : Proto.StateSnapshot} (h : Carries x message) (now : Instant) :
    Shows x (fromWire message now) := by
  obtain ⟨t, rfl⟩ := h
  exact ⟨t, now, rfl⟩

lemma shows_empty : Shows {} {} := by
  refine ⟨0, 0, ?_⟩
  simp [fromWire, toWire]

namespace Interface

variable {σ : Type}

def drawn (interface : Interface σ) : List (AppState → Prop) := interface.loop.frames.map (fun frame => (Shows · frame.state))

def pending (interface : Interface σ) : List (AppState → Prop) :=
  interface.client.link.inFlight.map (fun message => (Carries · message))

/-- What the interface has drawn and holds, what its client has stored last, and what is under way. -/
def chain (interface : Interface σ) : List (AppState → Prop) :=
  interface.drawn ++ (Shows · interface.loop.snapshot) :: (Shows · interface.client.snapshots.latest) :: interface.pending

variable {E : Encoder} {serde : SerdeJson} {tree : TreeWidget σ} {log : List AppState} {snapshots : Watch AppState}
  {interface interface' : Interface σ} {client : Client} {loop : RunLoop σ}

lemma reads_client (h : Reads log interface.chain) (hm : interface.client.Moves client) :
    Reads log ({ interface with client } : Interface σ).chain := by
  cases hm with
  | dialled idle =>
    simp only [chain, pending, idle, Link.inFlight] at h ⊢
    exact h
  | retried =>
    have hdown : interface.client.retry.link.inFlight = [] := by
      rw [Client.retry]
      split_ifs <;> rfl
    have hlatest : interface.client.retry.snapshots.latest = interface.client.snapshots.latest := by
      rw [Client.retry]
      split_ifs <;> rfl
    apply h.sublist
    rw [chain, pending, hdown, hlatest]
    exact (List.Sublist.refl _).append (((List.nil_sublist _).cons_cons _).cons_cons _)
  | subscribed up =>
    simp only [chain, pending, up, Link.inFlight] at h ⊢
    exact h
  | @received connection snapshot inFlight now up next read =>
    rw [chain, pending, up] at h
    simp only [Link.inFlight, next, List.map_cons] at h
    -- The value stored before is passed over, and the message becomes the one stored.
    have hnext : Reads log (interface.drawn ++ [(Shows · interface.loop.snapshot)] ++ (Carries · snapshot) ::
        inFlight.map (fun message => (Carries · message))) := by
      rw [← List.append_cons]
      exact h.sublist ((List.Sublist.refl _).append ((List.sublist_cons_self _ _).cons_cons _))
    have hstored := hnext.weaken (fun x hx => Carries.received hx now)
    rw [← List.append_cons] at hstored
    simpa only [chain, drawn, pending, Link.inFlight, Watch.latest_snoc] using hstored

lemma reads_served (h : Reads log interface.chain) (hlog : log.getLast? = some snapshots.latest)
    (hs : interface.client.Serves snapshots client) : Reads log ({ interface with client } : Interface σ).chain := by
  cases hs with
  | @sent connection now up live =>
    have hsent := h.snoc (P := (Carries · (toWire snapshots.latest now))) hlog ⟨now, rfl⟩
    rw [chain, pending, up] at hsent
    simpa [chain, pending, Connection.send, Link.inFlight] using! hsent
  | closed up =>
    rw [chain, pending, up] at h
    exact h

lemma chain_after : (interface.after loop).chain = loop.frames.map (fun frame => (Shows · frame.state)) ++
    (Shows · loop.snapshot) :: (Shows · interface.client.snapshots.latest) :: interface.pending := by
  rw [after]
  split_ifs <;> rfl

lemma reads_turned (h : Reads log interface.chain)
    (ht : interface.loop.Turned serde tree interface.client.snapshots interface.client.connected loop) :
    Reads log (interface.after loop).chain := by
  have hread : Reads log (interface.drawn ++ (Shows · loop.snapshot) ::
      (Shows · interface.client.snapshots.latest) :: interface.pending) := by
    rcases ht.snapshot with ⟨hsame, -⟩ | ⟨hlatest, -⟩
    · rw [hsame]
      exact h
    · rw [hlatest]
      apply Reads.again
      exact h.sublist ((List.Sublist.refl _).append (List.sublist_cons_self _ _))
  rw [chain_after]
  rcases ht.frames with ⟨-, hframes⟩ | ⟨-, now, hframes⟩
  · rw [hframes]
    exact hread
  · rw [hframes, List.map_append, List.map_singleton, ← List.append_cons]
    exact hread.again

lemma chain_sever : interface.sever.chain = interface.chain := by
  cases hlink : interface.client.link <;> simp [chain, drawn, pending, sever, Link.sever, Link.inFlight, hlink]

end Interface

namespace System

variable {ι σ : Type} [DecidableEq ι] {E : Encoder} {serde : SerdeJson} {tree : TreeWidget σ} {s : System ι σ}
  {actions : List (Action ι)} {recentBuffer : ℕ} {header : ι → String}

lemma reads_exec (h : exec (step E serde tree) (start tree recentBuffer header) actions = some s) (i : ι) :
    Reads s.log (s.interfaces i).chain := by
  refine interfaces_invariant (P := fun log _ interface => Reads log interface.chain) ?_ ?_ ?_ ?_ h i
  · intro title
    exact .read shows_empty (.read shows_empty (.done _))
  · intro log snapshots interface action interface' hlog _ hs hstep
    cases Interface.moves hstep with
    | client hm => exact Interface.reads_client hs hm
    | served hs' => exact Interface.reads_served hs hlog hs'
    | turned _ ht => exact Interface.reads_turned hs ht
  · intro log snapshots interface x hs
    exact hs.append_log [x]
  · intro log snapshots interface hs
    rw [Interface.chain_sever]
    exact hs.append_log [_]

end System

/-- However the monitor, the connections and the loops interleave, fail and are restarted, the frames of an
interface show snapshots that were published, each no older than the one before. -/
theorem frames_follow_the_log {ι σ : Type} [DecidableEq ι] (E : Encoder) (serde : SerdeJson) (tree : TreeWidget σ)
    (recentBuffer : ℕ) (header : ι → String) (actions : List (System.Action ι)) (s : System ι σ)
    (h : exec (System.step E serde tree) (.start tree recentBuffer header) actions = some s) (i : ι) :
    ∃ positions : List ℕ, positions.Pairwise (· ≤ ·) ∧
      List.Forall₂ (fun p frame => ∃ x, s.log[p]? = some x ∧ Shows x (Frame.state frame)) positions
        (s.interfaces i).loop.frames := by
  have hdrawn : Reads s.log (s.interfaces i).drawn := (System.reads_exec h i).sublist (List.sublist_append_left _ _)
  obtain ⟨positions, hsorted, hread⟩ := hdrawn.positions
  exact ⟨positions, hsorted, List.forall₂_map_right_iff.mp hread⟩

/-- A frame before the connection, one of the first snapshot, and one of the second, after a failure. -/
def outage : List (System.Action Unit) :=
  [.interface () (.start true 0), .interface () (.client .dialled), .interface () (.client .subscribed),
    .monitor (.observe (.ack "s" none 1)), .monitor (.recv 5), .monitor .publish,
    .interface () (.serve 6), .interface () (.client (.received 7)), .interface () (.turn .snapshots true 8),
    .interface () (.client .failed), .monitor (.observe (.ack "s" none 2)), .monitor (.recv 9), .monitor .publish,
    .interface () (.client .dialled), .interface () (.client .subscribed), .interface () (.serve 10),
    .interface () (.client (.received 11)), .interface () (.turn .snapshots true 12)]

theorem frames_follow_the_log_of_outage :
    ∃ s, exec (System.step protobuf noJson stillTree) (.start stillTree 200 fun _ => "") outage = some s ∧
      (s.interfaces ()).loop.frames.length = 3 ∧ ∃ positions : List ℕ, positions.Pairwise (· ≤ ·) ∧
        List.Forall₂ (fun p frame => ∃ x, s.log[p]? = some x ∧ Shows x (Frame.state frame)) positions
          (s.interfaces ()).loop.frames := by
  obtain ⟨s, hs, hframes⟩ : ∃ s, exec (System.step protobuf noJson stillTree)
      (.start stillTree 200 fun _ => "") outage = some s ∧ (s.interfaces ()).loop.frames.length = 3 := ⟨_, rfl, rfl⟩
  exact ⟨s, hs, hframes, frames_follow_the_log protobuf noJson stillTree 200 (fun _ => "") outage s hs ()⟩

end PubSubTui.Pipeline
