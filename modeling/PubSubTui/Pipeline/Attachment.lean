import PubSubTui.Pipeline.Following
import PubSubTui.Ui.ViewModel

/-! The two ends of an interface: the supervisor lives as long as the loop, the indicator says where the
connection is, and the screen shows what the loop has last taken. -/

namespace PubSubTui.Pipeline

open Library ActionSystem Observe Monitor Ui

namespace Interface

variable {σ : Type}

structure Attached (interface : Interface σ) : Prop where
  reader : interface.client.snapshots.hasReceiver = true ↔ interface.loop.phase ≠ .ended
  statusReader : interface.client.connected.hasReceiver = true ↔ interface.loop.phase ≠ .ended
  writer : interface.client.snapshots.hasSender = true ↔ interface.client.link ≠ .stopped
  statusWriter : interface.client.connected.hasSender = true ↔ interface.client.link ≠ .stopped
  stopped : interface.client.link = .stopped → interface.loop.phase = .ended
  status : interface.loop.phase ≠ .ended → (interface.client.connected.latest = true ↔ interface.client.link.IsUp)

structure Shown (interface : Interface σ) : Prop where
  snapshot : interface.client.snapshots.Sees interface.loop.seenSnapshot interface.loop.snapshot
  isConnected : interface.client.connected.Sees interface.loop.seenConnected interface.loop.isConnected
  screen : interface.loop.phase = .running → ∃ now, interface.loop.frames.getLast? =
    some { state := interface.loop.snapshot, connected := interface.loop.isConnected, now }

variable {E : Encoder} {serde : SerdeJson} {tree : TreeWidget σ} {snapshots : Watch AppState} {interface : Interface σ}
  {client : Client} {loop : RunLoop σ}

section Attached

lemma attached_client (h : interface.Attached) (hm : interface.client.Moves client) :
    ({ interface with client } : Interface σ).Attached := by
  cases hm with
  | dialled idle =>
    have hlive : interface.client.link ≠ .stopped := by simp [idle]
    refine ⟨h.reader, ?_, iff_of_true (h.writer.mpr hlive) (by simp), ?_, (by rintro ⟨⟩), fun hphase => ?_⟩
    · simpa using h.statusReader
    · exact iff_of_true (by simpa using h.statusWriter.mpr hlive) (by simp)
    · have hread := h.statusReader.mpr hphase
      simp [Watch.post_of_receiver hread, Link.IsUp]
  | retried live =>
    cases hread : interface.client.snapshots.hasReceiver with
    | true =>
      have hphase := h.reader.mp hread
      simp only [Client.retry, hread, ↓reduceIte]
      refine ⟨h.reader, ?_, iff_of_true (h.writer.mpr live) (by simp), ?_, (by rintro ⟨⟩), fun _ => ?_⟩
      · simpa using h.statusReader
      · exact iff_of_true (by simpa using h.statusWriter.mpr live) (by simp)
      · simp [Watch.post_of_receiver (h.statusReader.mpr hphase), Link.IsUp]
    | false =>
      have hended : interface.loop.phase = .ended := by
        by_contra hphase
        rw [h.reader.mpr hphase] at hread
        cases hread
      simp only [Client.retry, hread, Bool.false_eq_true, ↓reduceIte]
      refine ⟨?_, ?_, (by simp), (by simp), fun _ => hended, fun hphase => absurd hended hphase⟩
      · simpa [hread] using h.reader
      · simpa using h.statusReader
  | subscribed up =>
    have hlive : interface.client.link ≠ .stopped := by simp [up]
    refine ⟨h.reader, h.statusReader, iff_of_true (h.writer.mpr hlive) (by simp),
      iff_of_true (h.statusWriter.mpr hlive) (by simp), (by rintro ⟨⟩), fun hphase => ?_⟩
    simpa [up, Link.IsUp] using h.status hphase
  | received now up next read =>
    have hlive : interface.client.link ≠ .stopped := by simp [up]
    refine ⟨h.reader, h.statusReader, iff_of_true (h.writer.mpr hlive) (by simp),
      iff_of_true (h.statusWriter.mpr hlive) (by simp), (by rintro ⟨⟩), fun hphase => ?_⟩
    simpa [up, Link.IsUp] using h.status hphase

lemma attached_served (h : interface.Attached) (hs : interface.client.Serves snapshots client) :
    ({ interface with client } : Interface σ).Attached := by
  cases hs with
  | sent now up | closed up =>
    have hlive : interface.client.link ≠ .stopped := by simp [up]
    refine ⟨h.reader, h.statusReader, iff_of_true (h.writer.mpr hlive) (by simp),
      iff_of_true (h.statusWriter.mpr hlive) (by simp), (by rintro ⟨⟩), fun hphase => ?_⟩
    simpa [up, Link.IsUp] using h.status hphase

lemma attached_after (h : interface.Attached) (live : interface.loop.phase ≠ .ended) :
    (interface.after loop).Attached := by
  have hlink : interface.client.link ≠ .stopped := mt h.stopped live
  rw [after]
  split_ifs with hended
  · exact ⟨by simp [hended], by simp [hended], h.writer, h.statusWriter, fun _ => hended,
      fun hphase => absurd hended hphase⟩
  · exact ⟨iff_of_true (h.reader.mpr live) hended, iff_of_true (h.statusReader.mpr live) hended, h.writer,
      h.statusWriter, fun hstopped => absurd hstopped hlink, fun _ => h.status live⟩

lemma attached_sever (h : interface.Attached) : interface.sever.Attached := by
  have hstopped : interface.sever.client.link = .stopped ↔ interface.client.link = .stopped := by
    cases hlink : interface.client.link <;> simp [sever, Link.sever, hlink]
  have hup : interface.sever.client.link.IsUp ↔ interface.client.link.IsUp := by
    cases hlink : interface.client.link <;> simp [sever, Link.sever, Link.IsUp, hlink]
  exact ⟨h.reader, h.statusReader, h.writer.trans (not_congr hstopped).symm,
    h.statusWriter.trans (not_congr hstopped).symm, fun hs => h.stopped (hstopped.mp hs),
    fun hphase => (h.status hphase).trans hup.symm⟩

end Attached

section Shown

lemma shown_client (h : interface.Shown) (hm : interface.client.Moves client) :
    ({ interface with client } : Interface σ).Shown := by
  cases hm with
  | dialled => exact ⟨h.snapshot, h.isConnected.post true, h.screen⟩
  | retried =>
    rw [Client.retry]
    split_ifs
    · exact ⟨h.snapshot, h.isConnected.post false, h.screen⟩
    · have hposted := h.isConnected.post false
      exact ⟨⟨h.snapshot.seen_le, h.snapshot.current⟩, ⟨hposted.seen_le, hposted.current⟩, h.screen⟩
  | subscribed => exact ⟨h.snapshot, h.isConnected, h.screen⟩
  | received => exact ⟨h.snapshot.snoc _, h.isConnected, h.screen⟩

lemma shown_served (h : interface.Shown) (hs : interface.client.Serves snapshots client) :
    ({ interface with client } : Interface σ).Shown := by
  cases hs with
  | sent | closed => exact ⟨h.snapshot, h.isConnected, h.screen⟩

lemma sees_of_refreshed {α : Type} {w : Watch α} {seen seen' : ℕ} {v v' : α} (h : w.Sees seen v)
    (hr : v' = v ∧ seen' = seen ∨ v' = w.latest ∧ seen' ∈ [seen, w.version]) : w.Sees seen' v' := by
  rcases hr with ⟨rfl, rfl⟩ | ⟨rfl, hseen⟩
  · exact h
  · apply Watch.sees_latest
    rcases List.mem_pair.mp hseen with rfl | rfl
    · exact h.seen_le
    · exact le_rfl

lemma shown_turned (h : interface.Shown)
    (ht : interface.loop.Turned serde tree interface.client.snapshots interface.client.connected loop) :
    (interface.after loop).Shown := by
  have hsnapshot := sees_of_refreshed h.snapshot ht.snapshot
  have hconnected := sees_of_refreshed h.isConnected ht.isConnected
  have hscreen : loop.phase = .running → ∃ now, loop.frames.getLast? =
      some { state := loop.snapshot, connected := loop.isConnected, now } := by
    intro hrunning
    rcases ht.frames with ⟨hended, -⟩ | ⟨-, now, hframes⟩
    · rw [hrunning] at hended
      cases hended
    · exact ⟨now, by rw [hframes, List.getLast?_concat]⟩
  rw [after]
  split_ifs
  · exact ⟨⟨hsnapshot.seen_le, hsnapshot.current⟩, ⟨hconnected.seen_le, hconnected.current⟩, hscreen⟩
  · exact ⟨hsnapshot, hconnected, hscreen⟩

end Shown

structure Driven (serde : SerdeJson) (tree : TreeWidget σ) (interface : Interface σ) : Prop where
  consistent : interface.loop.app.Consistent
  kept : interface.loop.phase ≠ .ended → interface.loop.app.shouldQuit = false

lemma driven_turned (h : interface.Driven serde tree) (live : interface.loop.phase ≠ .ended)
    (ht : interface.loop.Turned serde tree interface.client.snapshots interface.client.connected loop) :
    (interface.after loop).Driven serde tree := by
  obtain ⟨inputs, hrun, -⟩ := ht.app
  have hconsistent : loop.app.Consistent :=
    exec_invariant (P := App.Consistent) (fun _ _ _ hc hstep => (App.moves_of_step hc hstep).consistent hc)
      h.consistent hrun
  constructor
  · rw [loop_after]
    exact hconsistent
  · rw [loop_after]
    intro hphase
    rcases ht.frames with ⟨hended, -⟩ | ⟨hrunning, -⟩
    · exact absurd hended hphase
    · exact ht.kept (h.kept live) hrunning

lemma draw_total (hc : loop.app.Consistent) {terminal : Bool} {now : Instant} :
    ∃ loop', loop.draw serde tree terminal now = some loop' := by
  rw [RunLoop.draw]
  split_ifs
  · obtain ⟨app, happ, -⟩ : ∃ app, loop.app.step serde tree (.frame loop.snapshot now) = some app ∧
        loop.app.Moves serde (.frame loop.snapshot now) app := App.step_moves _ hc
    exact ⟨_, Option.map_eq_some_iff.mpr ⟨app, happ, rfl⟩⟩
  · exact ⟨_, rfl⟩

lemma turn_total {connected : Watch Bool} (hc : loop.app.Consistent) (hrunning : loop.phase = .running)
    {event : Option Event} {t : Instant} {terminal : Bool} {now : Instant} :
    ∃ loop', loop.turn serde tree snapshots connected (.input event t) terminal now = some loop' := by
  rw [RunLoop.turn, hrunning]
  cases event with
  | none => exact ⟨_, rfl⟩
  | some event =>
    obtain ⟨app, happ, hmoves⟩ : ∃ app, loop.app.step serde tree (.event event loop.snapshot t) = some app ∧
        loop.app.Moves serde (.event event loop.snapshot t) app := App.step_moves _ hc
    simp only [RunLoop.wake, happ, Option.map_some, Option.bind_some, RunLoop.proceed]
    split_ifs
    · exact ⟨_, rfl⟩
    · exact ⟨_, rfl⟩
    · exact draw_total (hmoves.consistent hc)

end Interface

namespace System

variable {ι σ : Type} [DecidableEq ι] {E : Encoder} {serde : SerdeJson} {tree : TreeWidget σ} {s : System ι σ}
  {actions : List (Action ι)} {recentBuffer : ℕ} {header : ι → String}

lemma attached_exec (h : exec (step E serde tree) (start tree recentBuffer header) actions = some s) (i : ι) :
    (s.interfaces i).Attached ∧ (s.interfaces i).Shown ∧ (s.interfaces i).Driven serde tree := by
  refine interfaces_invariant (P := fun _ _ interface => interface.Attached ∧ interface.Shown ∧
    interface.Driven serde tree) ?_ ?_ ?_ ?_ h i
  · intro title
    exact ⟨⟨by simp [RunLoop.new], by simp [RunLoop.new], by simp, by simp, (by rintro ⟨⟩),
      fun _ => by simp [Watch.latest, Link.IsUp]⟩, ⟨Watch.sees_latest le_rfl, Watch.sees_latest le_rfl, (by rintro ⟨⟩)⟩,
      ⟨fun _ => ⟨rfl, rfl⟩, fun _ => rfl⟩⟩
  · rintro log snapshots interface action interface' - - ⟨hattached, hshown, hdriven⟩ hstep
    cases Interface.moves hstep with
    | client hm =>
      exact ⟨Interface.attached_client hattached hm, Interface.shown_client hshown hm, hdriven.consistent, hdriven.kept⟩
    | served hs =>
      exact ⟨Interface.attached_served hattached hs, Interface.shown_served hshown hs, hdriven.consistent, hdriven.kept⟩
    | turned live ht =>
      exact ⟨Interface.attached_after hattached live, Interface.shown_turned hshown ht,
        Interface.driven_turned hdriven live ht⟩
  · exact fun _ _ _ _ hs => hs
  · rintro log snapshots interface ⟨hattached, hshown, hdriven⟩
    exact ⟨Interface.attached_sever hattached, ⟨hshown.snapshot, hshown.isConnected, hshown.screen⟩,
      hdriven.consistent, hdriven.kept⟩

end System

/-- The indicator and the picture on the screen are out of date only while the loop has a change to take. -/
theorem screen_is_current {ι σ : Type} [DecidableEq ι] (E : Encoder) (serde : SerdeJson) (tree : TreeWidget σ)
    (recentBuffer : ℕ) (header : ι → String) (actions : List (System.Action ι)) (s : System ι σ)
    (h : exec (System.step E serde tree) (.start tree recentBuffer header) actions = some s) (i : ι)
    (hrunning : (s.interfaces i).loop.phase = .running) :
    ∃ frame, (s.interfaces i).loop.frames.getLast? = some frame ∧
      ((frame.connected = true ↔ (s.interfaces i).client.link.IsUp) ∨
        (s.interfaces i).client.connected.signal (s.interfaces i).loop.seenConnected = .changed) ∧
      (frame.state = (s.interfaces i).client.snapshots.latest ∨
        (s.interfaces i).client.snapshots.signal (s.interfaces i).loop.seenSnapshot = .changed) := by
  obtain ⟨hattached, hshown, -⟩ := System.attached_exec h i
  obtain ⟨now, hframe⟩ := hshown.screen hrunning
  refine ⟨_, hframe, ?_, ?_⟩
  · by_cases hsignal : (s.interfaces i).client.connected.signal (s.interfaces i).loop.seenConnected = .changed
    · exact .inr hsignal
    · left
      dsimp only
      rw [hshown.isConnected.eq_latest hsignal]
      exact hattached.status (by simp [hrunning])
  · by_cases hsignal : (s.interfaces i).client.snapshots.signal (s.interfaces i).loop.seenSnapshot = .changed
    · exact .inr hsignal
    · exact .inl (hshown.snapshot.eq_latest hsignal)

theorem screen_is_current_of_outage :
    ∃ s, exec (System.step protobuf noJson stillTree) (.start stillTree 200 fun _ => "") outage = some s ∧
      ∃ frame, (s.interfaces ()).loop.frames.getLast? = some frame ∧
        (frame.state = (s.interfaces ()).client.snapshots.latest ∨
          (s.interfaces ()).client.snapshots.signal (s.interfaces ()).loop.seenSnapshot = .changed) := by
  obtain ⟨s, hs, hrunning⟩ : ∃ s, exec (System.step protobuf noJson stillTree)
      (.start stillTree 200 fun _ => "") outage = some s ∧ (s.interfaces ()).loop.phase = .running := ⟨_, rfl, rfl⟩
  obtain ⟨frame, hframe, -, hstate⟩ :=
    screen_is_current protobuf noJson stillTree 200 (fun _ => "") outage s hs () hrunning
  exact ⟨s, hs, frame, hframe, hstate⟩

/-- Nothing but its user, its terminal or the end of its input ends a render loop, whatever becomes of the monitor
and the connection. -/
theorem loop_ends_only_on_request {ι σ : Type} [DecidableEq ι] (E : Encoder) (serde : SerdeJson) (tree : TreeWidget σ)
    (recentBuffer : ℕ) (header : ι → String) (actions : List (System.Action ι)) (s : System ι σ)
    (h : exec (System.step E serde tree) (.start tree recentBuffer header) actions = some s) (i : ι) :
    let interface := s.interfaces i
    (interface.client.link = .stopped → interface.loop.phase = .ended) ∧
    (interface.loop.phase = .running →
      interface.client.snapshots.signal interface.loop.seenSnapshot ≠ .closed ∧
      interface.client.connected.signal interface.loop.seenConnected ≠ .closed ∧
      ∀ event t terminal now, ∃ interface', interface.step E serde tree s.monitor.snapshots
        (.turn (.input event t) terminal now) = some interface') ∧
    ∀ action interface', interface.step E serde tree s.monitor.snapshots action = some interface' →
      interface.loop.phase ≠ .ended → interface'.loop.phase = .ended →
        (∃ now, action = .start false now) ∨ ∃ wakeup terminal now, action = .turn wakeup terminal now ∧
          (terminal = false ∨ (∃ t, wakeup = .input none t) ∨
            ∃ event t, wakeup = .input (some event) t ∧
              interface.loop.app.Quits (.event event interface.loop.snapshot t)) := by
  intro interface
  obtain ⟨hattached, hshown, hdriven⟩ := System.attached_exec h i
  have hopen (hphase : interface.loop.phase ≠ .ended) :
      interface.client.snapshots.signal interface.loop.seenSnapshot ≠ .closed ∧
        interface.client.connected.signal interface.loop.seenConnected ≠ .closed := by
    have hlive : interface.client.link ≠ .stopped := mt hattached.stopped hphase
    exact ⟨Watch.signal_ne_closed (hattached.writer.mpr hlive),
      Watch.signal_ne_closed (hattached.statusWriter.mpr hlive)⟩
  refine ⟨hattached.stopped, fun hrunning => ?_, ?_⟩
  · obtain ⟨hsnapshots, hconnected⟩ := hopen (by simp [hrunning])
    refine ⟨hsnapshots, hconnected, fun event t terminal now => ?_⟩
    obtain ⟨loop, hloop⟩ : ∃ loop, interface.loop.turn serde tree interface.client.snapshots
        interface.client.connected (.input event t) terminal now = some loop :=
      Interface.turn_total hdriven.consistent hrunning
    exact ⟨_, Option.map_eq_some_iff.mpr ⟨loop, hloop, rfl⟩⟩
  · intro action interface' hstep hphase hended
    cases action with
    | client action =>
      obtain ⟨client, -, rfl⟩ := Option.map_eq_some_iff.mp hstep
      exact absurd hended hphase
    | serve now =>
      obtain ⟨client, -, rfl⟩ := Option.map_eq_some_iff.mp hstep
      exact absurd hended hphase
    | start terminal now =>
      obtain ⟨loop, hloop, rfl⟩ := Option.map_eq_some_iff.mp hstep
      rw [Interface.loop_after] at hended
      obtain rfl := RunLoop.ended_of_start hloop hended
      exact .inl ⟨now, rfl⟩
    | turn wakeup terminal now =>
      obtain ⟨loop, hloop, rfl⟩ := Option.map_eq_some_iff.mp hstep
      rw [Interface.loop_after] at hended
      refine .inr ⟨wakeup, terminal, now, rfl, ?_⟩
      rcases RunLoop.ended_of_turn hloop hended with hterminal | hinput | ⟨event, t, app, hwakeup, happ, hquit⟩ |
        hquit | ⟨-, hclosed⟩
      · exact .inl hterminal
      · exact .inr (.inl hinput)
      · have hmoves := App.moves_of_step hdriven.consistent happ
        have hquits := (hmoves.shouldQuit_iff.mp hquit).resolve_left (by simp [hdriven.kept hphase])
        exact .inr (.inr ⟨event, t, hwakeup, hquits⟩)
      · rw [hdriven.kept hphase] at hquit
        cases hquit
      · exact absurd hclosed (hopen hphase).1

theorem loop_ends_only_on_request_of_outage :
    ∃ s, exec (System.step protobuf noJson stillTree) (.start stillTree 200 fun _ => "") outage = some s ∧
      ∀ event t terminal now, ∃ interface', (s.interfaces ()).step protobuf noJson stillTree s.monitor.snapshots
        (.turn (.input event t) terminal now) = some interface' := by
  obtain ⟨s, hs, hrunning⟩ : ∃ s, exec (System.step protobuf noJson stillTree)
      (.start stillTree 200 fun _ => "") outage = some s ∧ (s.interfaces ()).loop.phase = .running := ⟨_, rfl, rfl⟩
  have hloop := loop_ends_only_on_request protobuf noJson stillTree 200 (fun _ => "") outage s hs ()
  exact ⟨s, hs, (hloop.2.1 hrunning).2.2⟩

end PubSubTui.Pipeline
