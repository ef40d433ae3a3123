import PubSubTui.Monitor.SnapshotSize
import PubSubTui.Pipeline.Attachment
import PubSubTui.Pipeline.Provenance

/-! Once nothing new is offered, whatever the monitor has taken reaches the screen of every connected interface,
in whichever order the task, the server, the client and the loop do what is left for them to do. -/

namespace PubSubTui.Pipeline

open Library ActionSystem Observe Monitor Ui

inductive Settling
  | recv (now : Instant)
  | tryRecv
  | publish
  | serve (now : Instant)
  | received (now : Instant)
  | takeSnapshot (now : Instant)
  | takeStatus (now : Instant)

def Settling.action {ι : Type} (i : ι) : Settling → System.Action ι
  | recv now => .monitor (.recv now)
  | tryRecv => .monitor .tryRecv
  | publish => .monitor .publish
  | serve now => .interface i (.serve now)
  | received now => .interface i (.client (.received now))
  | takeSnapshot now => .interface i (.turn .snapshots true now)
  | takeStatus now => .interface i (.turn .connected true now)

namespace Interface

variable {σ : Type} {E : Encoder} {serde : SerdeJson} {tree : TreeWidget σ} {log : List AppState}
  {snapshots : Watch AppState}
  {interface : Interface σ} {client : Client} {loop : RunLoop σ} {connection : Connection}

structure Holds (stored : AppState) (inFlight : List Proto.StateSnapshot) (x : AppState) : Prop where
  stored : inFlight = [] → Shows x stored
  last : ∀ message, inFlight.getLast? = some message → Carries x message

/-- The newest snapshot that the client has, or is about to have, is the one its connection's cursor is at. -/
def Caught (snapshots : Watch AppState) (interface : Interface σ) : Prop :=
  ∀ connection seen, interface.client.link = .streaming connection → connection.ended = false →
    connection.cursor = some seen → ∃ x, snapshots.history[seen]? = some x ∧
      Holds interface.client.snapshots.latest connection.inFlight x

lemma caught_client (h : interface.Caught snapshots) (hm : interface.client.Moves client) :
    ({ interface with client } : Interface σ).Caught snapshots := by
  cases hm with
  | dialled => rintro _ _ ⟨⟩
  | retried =>
    intro connection seen hlink
    rw [Client.retry] at hlink
    split_ifs at hlink
  | subscribed =>
    rintro connection seen ⟨⟩ - hcursor
    cases hcursor
  | @received connection message inFlight now up next read =>
    rintro _ seen ⟨⟩ hlive hcursor
    obtain ⟨x, hx, hholds⟩ := h connection seen up hlive hcursor
    rw [next] at hholds
    refine ⟨x, hx, ?_, ?_⟩
    · rintro rfl
      rw [Watch.latest_snoc]
      exact (hholds.last message rfl).received now
    · intro message' hlast
      apply hholds.last
      rw [List.getLast?_cons, hlast]
      rfl

lemma caught_served (hs : interface.client.Serves snapshots client) :
    ({ interface with client } : Interface σ).Caught snapshots := by
  cases hs with
  | sent now up live =>
    rintro _ seen ⟨⟩ - hcursor
    cases hcursor
    refine ⟨snapshots.latest, Watch.history_version, by simp [Connection.send], fun message hlast => ?_⟩
    rw [Connection.send, List.getLast?_concat] at hlast
    cases hlast
    exact ⟨now, rfl⟩
  | closed =>
    rintro _ seen ⟨⟩ hlive
    cases hlive

lemma caught_after (h : interface.Caught snapshots) : (interface.after loop).Caught snapshots := by
  rw [after]
  split_ifs
  · exact h
  · exact h

lemma caught_published (h : interface.Caught snapshots) (x : AppState) :
    interface.Caught { snapshots with sent := snapshots.sent ++ [x] } := by
  intro connection seen hlink hlive hcursor
  obtain ⟨y, hy, hholds⟩ := h connection seen hlink hlive hcursor
  refine ⟨y, ?_, hholds⟩
  rw [Watch.history_snoc, List.getElem?_append_left (List.getElem?_eq_some_iff.mp hy).1, hy]

lemma caught_sever : interface.sever.Caught snapshots := by
  intro connection seen hlink hlive
  cases hbefore : interface.client.link with
  | streaming before =>
    simp only [sever, Link.sever, hbefore] at hlink
    cases hlink
    cases hlive
  | down | dialled | stopped => simp [sever, Link.sever, hbefore] at hlink

structure Streaming (interface : Interface σ) (connection : Connection) : Prop where
  up : interface.client.link = .streaming connection
  live : connection.ended = false
  running : interface.loop.phase = .running

def unsent (snapshots : Watch AppState) : Link → ℕ
  | .streaming connection => (if connection.cursor ≠ some snapshots.version then 3 else 0) + 2 * connection.inFlight.length
  | .down | .dialled | .stopped => 0

def untaken (client : Client) (loop : RunLoop σ) : ℕ :=
  (if loop.seenSnapshot ≠ client.snapshots.version then 1 else 0) +
  (if loop.seenConnected ≠ client.connected.version then 1 else 0)

def backlog (snapshots : Watch AppState) (interface : Interface σ) : ℕ :=
  unsent snapshots interface.client.link + untaken interface.client interface.loop

lemma backlog_published (x : AppState) :
    interface.backlog { snapshots with sent := snapshots.sent ++ [x] } ≤ interface.backlog snapshots + 3 := by
  have hunsent (link : Link) :
      unsent { snapshots with sent := snapshots.sent ++ [x] } link ≤ unsent snapshots link + 3 := by
    cases link with
    | streaming connection =>
      rw [unsent, unsent]
      split_ifs <;> omega
    | down | dialled | stopped => exact Nat.zero_le _
  have := hunsent interface.client.link
  rw [backlog, backlog]
  omega

def Advances (snapshots : Watch AppState) (interface interface' : Interface σ) : Prop :=
  (∃ connection, interface'.Streaming connection) ∧ interface'.backlog snapshots < interface.backlog snapshots

variable {now : Instant} {interface' : Interface σ} {wakeup : Wakeup} {woken : RunLoop σ}

lemma serve_advances (h : interface.Streaming connection) (hsender : snapshots.hasSender = true)
    (hstep : interface.step E serde tree snapshots (.serve now) = some interface') :
    interface.Advances snapshots interface' := by
  obtain ⟨client, hserve, rfl⟩ := Option.map_eq_some_iff.mp hstep
  simp only [Client.serve, h.up] at hserve
  obtain ⟨polled, hpoll, rfl⟩ := Option.map_eq_some_iff.mp hserve
  have hsent : polled = connection.send snapshots now ∧ connection.cursor ≠ some snapshots.version := by
    rw [Connection.poll, if_neg (by simp [h.live])] at hpoll
    split at hpoll
    · rename_i hcursor
      cases hpoll
      exact ⟨rfl, by simp [hcursor]⟩
    · rename_i seen hcursor
      split at hpoll
      · cases hpoll
        exact ⟨rfl, by simpa [hcursor] using Watch.signal_changed_iff.mp ‹_›⟩
      · exact absurd ‹_› (Watch.signal_ne_closed hsender)
      · cases hpoll
  obtain ⟨rfl, hcursor⟩ := hsent
  refine ⟨⟨connection.send snapshots now, rfl, h.live, h.running⟩, ?_⟩
  simp only [backlog, unsent, untaken, h.up, Connection.send, List.length_append, List.length_singleton, hcursor,
    ne_eq, not_true_eq_false, not_false_eq_true, ↓reduceIte]
  omega

lemma received_advances (h : interface.Streaming connection) (hattached : interface.Attached)
    (hfits : ∀ message ∈ connection.inFlight, E.encodedLen message ≤ maxDecodingMessageSize)
    (hstep : interface.step E serde tree snapshots (.client (.received now)) = some interface') :
    interface.Advances snapshots interface' := by
  obtain ⟨client, hclient, rfl⟩ := Option.map_eq_some_iff.mp hstep
  have hread : interface.client.snapshots.hasReceiver = true := hattached.reader.mpr (by simp [h.running])
  simp only [Client.step, h.up, Client.receive] at hclient
  cases hnext : connection.inFlight with
  | nil => simp [hnext] at hclient
  | cons message inFlight =>
    have hdecoded : ¬ maxDecodingMessageSize < E.encodedLen message :=
      Nat.not_lt_of_le (hfits message (hnext ▸ List.mem_cons_self))
    simp only [hnext, if_neg hdecoded, Watch.send_of_receiver hread] at hclient
    cases hclient
    refine ⟨⟨{ connection with inFlight }, rfl, h.live, h.running⟩, ?_⟩
    simp only [backlog, unsent, untaken, h.up, hnext, List.length_cons]
    split_ifs <;> omega

lemma turn_advances (h : interface.Streaming connection) (hdriven : interface.Driven serde tree)
    (hwake : interface.loop.wake serde tree interface.client.snapshots interface.client.connected wakeup = some woken)
    (hphase : woken.phase = .running) (happ : woken.app = interface.loop.app)
    (hless : untaken interface.client woken < untaken interface.client interface.loop)
    (hstep : interface.step E serde tree snapshots (.turn wakeup true now) = some interface') :
    interface.Advances snapshots interface' := by
  obtain ⟨loop, hturn, rfl⟩ := Option.map_eq_some_iff.mp hstep
  have hquit : woken.app.shouldQuit = false := happ ▸ hdriven.kept (by simp [h.running])
  simp only [RunLoop.turn, h.running, hwake, Option.bind_some] at hturn
  rw [RunLoop.proceed, if_neg (by simp [hphase]), if_neg (by simp [hquit]), RunLoop.draw, if_pos rfl] at hturn
  obtain ⟨app, -, rfl⟩ := Option.map_eq_some_iff.mp hturn
  rw [after, if_neg (by simp)]
  exact ⟨⟨connection, h.up, h.live, rfl⟩, Nat.add_lt_add_left hless _⟩

lemma snapshot_advances (h : interface.Streaming connection) (hattached : interface.Attached)
    (hdriven : interface.Driven serde tree)
    (hstep : interface.step E serde tree snapshots (.turn .snapshots true now) = some interface') :
    interface.Advances snapshots interface' := by
  cases hsignal : interface.client.snapshots.signal interface.loop.seenSnapshot with
  | pending => simp [step, RunLoop.turn, h.running, RunLoop.wake, hsignal] at hstep
  | closed => exact absurd hsignal (Watch.signal_ne_closed (hattached.writer.mpr (by simp [h.up])))
  | changed =>
    apply turn_advances h hdriven (RunLoop.wake_snapshots hsignal) h.running rfl _ hstep
    simp [untaken, Watch.signal_changed_iff.mp hsignal]

lemma status_advances (h : interface.Streaming connection) (hattached : interface.Attached)
    (hdriven : interface.Driven serde tree)
    (hstep : interface.step E serde tree snapshots (.turn .connected true now) = some interface') :
    interface.Advances snapshots interface' := by
  cases hsignal : interface.client.connected.signal interface.loop.seenConnected with
  | pending => simp [step, RunLoop.turn, h.running, RunLoop.wake, hsignal] at hstep
  | closed => exact absurd hsignal (Watch.signal_ne_closed (hattached.statusWriter.mpr (by simp [h.up])))
  | changed =>
    apply turn_advances h hdriven (RunLoop.wake_connected hsignal) h.running rfl _ hstep
    simp [untaken, Watch.signal_changed_iff.mp hsignal]

structure Settled (snapshots : Watch AppState) (interface : Interface σ) (connection : Connection) : Prop where
  cursor : connection.cursor = some snapshots.version
  delivered : connection.inFlight = []
  snapshot : interface.client.snapshots.signal interface.loop.seenSnapshot ≠ .changed
  isConnected : interface.client.connected.signal interface.loop.seenConnected ≠ .changed

lemma turn_of_wake (hdriven : interface.Driven serde tree) (hrunning : interface.loop.phase = .running)
    (hwake : interface.loop.wake serde tree interface.client.snapshots interface.client.connected wakeup = some woken)
    (hphase : woken.phase = .running) (happ : woken.app = interface.loop.app) :
    interface.step E serde tree snapshots (.turn wakeup true now) ≠ none := by
  have hquit : woken.app.shouldQuit = false := happ ▸ hdriven.kept (by simp [hrunning])
  obtain ⟨loop, hloop⟩ : ∃ loop, woken.draw serde tree true now = some loop := draw_total (happ ▸ hdriven.consistent)
  simp [step, RunLoop.turn, hrunning, hwake, RunLoop.proceed, hphase, hquit, hloop]

lemma settled_of_stuck (h : interface.Streaming connection) (hdriven : interface.Driven serde tree)
    (hserve : interface.step E serde tree snapshots (.serve now) = none)
    (hreceived : interface.step E serde tree snapshots (.client (.received now)) = none)
    (hsnapshot : interface.step E serde tree snapshots (.turn .snapshots true now) = none)
    (hstatus : interface.step E serde tree snapshots (.turn .connected true now) = none) :
    interface.Settled snapshots connection where
  cursor := by
    simp only [step, Client.serve, h.up, Option.map_eq_none_iff] at hserve
    rw [Connection.poll, if_neg (by simp [h.live])] at hserve
    split at hserve
    · cases hserve
    · rename_i seen hcursor
      split at hserve
      · cases hserve
      · cases hserve
      · rename_i hpending
        have hseen : seen = snapshots.version := Watch.signal_pending (by simp [hpending])
        rw [hcursor, hseen]
  delivered := by
    simp only [step, Client.step, h.up, Client.receive, Option.map_eq_none_iff] at hreceived
    split at hreceived
    · assumption
    · split_ifs at hreceived
      split at hreceived
      · cases hreceived
      · cases hreceived
  snapshot hsignal := turn_of_wake hdriven h.running (RunLoop.wake_snapshots hsignal) h.running rfl hsnapshot
  isConnected hsignal := turn_of_wake hdriven h.running (RunLoop.wake_connected hsignal) h.running rfl hstatus

end Interface

namespace System

variable {ι σ : Type} [DecidableEq ι] {E : Encoder} {serde : SerdeJson} {tree : TreeWidget σ} {s t : System ι σ}
  {actions : List (Action ι)} {recentBuffer : ℕ} {header : ι → String} {i : ι}

def settle (E : Encoder) (serde : SerdeJson) (tree : TreeWidget σ) (i : ι) (s : System ι σ) (a : Settling) :
    Option (System ι σ) :=
  s.step E serde tree (a.action i)

def Reachable (E : Encoder) (serde : SerdeJson) (tree : TreeWidget σ) (s : System ι σ) : Prop :=
  ∃ recentBuffer header actions, exec (step E serde tree) (start tree recentBuffer header) actions = some s

lemma Reachable.step {a : Action ι} (h : s.Reachable E serde tree) (hstep : s.step E serde tree a = some t) :
    t.Reachable E serde tree := by
  obtain ⟨recentBuffer, header, actions, hexec⟩ := h
  exact ⟨recentBuffer, header, actions ++ [a], exec_through hexec hstep rfl⟩

lemma caught_exec (h : exec (step E serde tree) (start tree recentBuffer header) actions = some s) (i : ι) :
    (s.interfaces i).Caught s.monitor.snapshots := by
  refine interfaces_invariant (P := fun _ snapshots interface => interface.Caught snapshots) ?_ ?_ ?_ ?_ h i
  · rintro title connection seen ⟨⟩
  · rintro log snapshots interface action interface' - - hs hstep
    cases Interface.moves hstep with
    | client hm => exact Interface.caught_client hs hm
    | served hs' => exact Interface.caught_served hs'
    | turned => exact Interface.caught_after hs
  · exact fun _ _ _ x hs => Interface.caught_published hs x
  · exact fun _ _ _ _ => Interface.caught_sever

/-- No snapshot of what a monitor has accepted, whenever it is taken and sent, is too long for a client. -/
def Fits (E : Encoder) (s : System ι σ) : Prop :=
  ∀ monitor ∈ s.monitors, ∀ (history : List (Observation × Instant)) (now : Instant),
    history.map Prod.fst <+: monitor.sink.sent → E.historyLen history now monitor.recentBuffer ≤ maxDecodingMessageSize

lemma fits_inFlight (h : exec (step E serde tree) (start tree recentBuffer header) actions = some s) (hfits : s.Fits E)
    (i : ι) : ∀ message ∈ (s.interfaces i).client.link.inFlight, E.encodedLen message ≤ maxDecodingMessageSize := by
  intro message hmem
  have hpending : (Carries · message) ∈ (s.interfaces i).chain :=
    List.mem_append_right _ (List.mem_cons_of_mem _ (List.mem_cons_of_mem _ (List.mem_map_of_mem hmem)))
  obtain ⟨x, hx, now, rfl⟩ := (reads_exec h i).exists_mem hpending
  rcases publishes_of_log h hx with rfl | ⟨monitor, hm, observations, hinit, history, rfl, rfl⟩
  · rw [encodedLen_initial]
    exact Nat.zero_le _
  · have hlen : E.encodedLen (toWire (((Observer.emptyState monitor.recentBuffer).applyAll history).trimRecent
        monitor.recentBuffer) now) = E.historyLen history now monitor.recentBuffer := encodedLen_eq now E
    rw [hlen]
    exact hfits monitor hm history now (hinit.trans Channel.received_prefix_sent)

omit [DecidableEq ι] in
lemma Fits.monitor {monitor' : Observer} (hfits : s.Fits E) (hbound : monitor'.recentBuffer = s.monitor.recentBuffer)
    (hsent : monitor'.sink.sent = s.monitor.sink.sent) : ({ s with monitor := monitor' } : System ι σ).Fits E := by
  intro m hm history now hinit
  rcases List.mem_append.mp hm with hm | hm
  · exact hfits m (List.mem_append_left _ hm) history now hinit
  · obtain rfl := List.mem_singleton.mp hm
    rw [hsent] at hinit
    rw [hbound]
    exact hfits s.monitor (by simp [monitors]) history now hinit

def backlog (i : ι) (s : System ι σ) : ℕ :=
  5 * s.monitor.sink.queue.length + (if s.monitor.phase = .waiting then 0 else 4) +
    (s.interfaces i).backlog s.monitor.snapshots

structure Underway (E : Encoder) (serde : SerdeJson) (tree : TreeWidget σ) (i : ι) (monitor : Observer)
    (s : System ι σ) : Prop where
  reachable : s.Reachable E serde tree
  streaming : ∃ connection, (s.interfaces i).Streaming connection
  bound : s.monitor.recentBuffer = monitor.recentBuffer
  accepted : s.monitor.sink.sent = monitor.sink.sent
  fits : s.Fits E

variable {monitor : Observer} {a : Settling}

lemma Underway.of_monitor {action : Observer.Action} (hs : s.Underway E serde tree i monitor) (hlive : s.Live)
    (quiet : ∀ observation, action ≠ .observe observation) (hstep : s.step E serde tree (.monitor action) = some t) :
    t.Underway E serde tree i monitor ∧ t.backlog i < s.backlog i := by
  have hreachable := hs.reachable.step hstep
  have hkeep {monitor' : Observer} (hr : ({ s with monitor := monitor' } : System ι σ).Reachable E serde tree)
      (hbound : monitor'.recentBuffer = s.monitor.recentBuffer) (hsent : monitor'.sink.sent = s.monitor.sink.sent) :
      ({ s with monitor := monitor' } : System ι σ).Underway E serde tree i monitor :=
    ⟨hr, hs.streaming, hbound.trans hs.bound, hsent.trans hs.accepted, hs.fits.monitor hbound hsent⟩
  cases moves hstep with
  | monitor kept hmonitor =>
    cases Observer.moves hmonitor with
    | observe observation => exact absurd rfl (quiet observation)
    | recv now idle next =>
      obtain ⟨-, -, hqueue, hreceived⟩ := Channel.poll_some next
      refine ⟨hkeep hreachable rfl (by simp [Channel.sent, hqueue, hreceived]), ?_⟩
      simp only [backlog, idle, hqueue, List.length_cons, reduceCtorEq, ↓reduceIte]
      omega
    | tryRecv busy next =>
      obtain ⟨-, -, hqueue, hreceived⟩ := Channel.poll_some next
      refine ⟨hkeep hreachable rfl (by simp [Channel.sent, hqueue, hreceived]), ?_⟩
      simp only [backlog, hqueue, List.length_cons]
      omega
    | publish busy drained read =>
      refine ⟨hkeep hreachable rfl rfl, ?_⟩
      have hless : Interface.backlog { s.monitor.snapshots with
          sent := s.monitor.snapshots.sent ++ [s.monitor.state.trimRecent s.monitor.recentBuffer] } (s.interfaces i) ≤
          (s.interfaces i).backlog s.monitor.snapshots + 3 := Interface.backlog_published _
      simp only [backlog, busy, reduceCtorEq, ↓reduceIte]
      exact (Nat.add_le_add_left hless _).trans_lt (by omega)
    | stop busy drained unread =>
      rw [hlive.hasReceiver] at unread
      cases unread
    | dropReaders => exact absurd rfl kept

lemma Underway.of_interface {action : Interface.Action} (hs : s.Underway E serde tree i monitor)
    (hstep : s.step E serde tree (.interface i action) = some t)
    (hadvances : ∀ interface', (s.interfaces i).step E serde tree s.monitor.snapshots action = some interface' →
      (s.interfaces i).Advances s.monitor.snapshots interface') :
    t.Underway E serde tree i monitor ∧ t.backlog i < s.backlog i := by
  have hreachable := hs.reachable.step hstep
  obtain ⟨interface', hinterface, rfl⟩ := Option.map_eq_some_iff.mp hstep
  obtain ⟨hstreaming, hless⟩ := hadvances interface' hinterface
  refine ⟨⟨hreachable, ?_, hs.bound, hs.accepted, hs.fits⟩, ?_⟩
  · simpa using hstreaming
  · simpa [backlog] using hless

lemma underway_settle (hs : s.Underway E serde tree i monitor) (hstep : s.settle E serde tree i a = some t) :
    t.Underway E serde tree i monitor ∧ t.backlog i < s.backlog i := by
  obtain ⟨recentBuffer, header, actions, hexec⟩ := hs.reachable
  obtain ⟨connection, hstreaming⟩ := hs.streaming
  have hlive := live_exec hexec
  obtain ⟨hattached, -, hdriven⟩ := attached_exec hexec i
  cases a with
  | serve now => exact hs.of_interface hstep fun _ h => Interface.serve_advances hstreaming hlive.hasSender h
  | received now =>
    have hfits := fits_inFlight hexec hs.fits i
    rw [hstreaming.up] at hfits
    exact hs.of_interface hstep fun _ h => Interface.received_advances hstreaming hattached hfits h
  | takeSnapshot now =>
    exact hs.of_interface hstep fun _ h => Interface.snapshot_advances hstreaming hattached hdriven h
  | takeStatus now => exact hs.of_interface hstep fun _ h => Interface.status_advances hstreaming hattached hdriven h
  | recv now | tryRecv | publish => exact hs.of_monitor hlive (by simp) hstep

lemma idle_of_stuck (hlive : s.Live) (hstuck : Stuck (settle E serde tree i) s) :
    s.monitor.phase = .waiting ∧ s.monitor.sink.queue = [] := by
  have hmonitor {action : Observer.Action} (hkept : action ≠ .dropReaders)
      (h : s.step E serde tree (.monitor action) = none) : s.monitor.step action = none := by
    rwa [step, if_neg hkept, Option.map_eq_none_iff] at h
  have hrecv := hmonitor (by simp) (hstuck (.recv 0))
  have htryRecv := hmonitor (by simp) (hstuck .tryRecv)
  have hpublish := hmonitor (by simp) (hstuck .publish)
  cases hphase : s.monitor.phase with
  | stopped => exact absurd hphase hlive.running
  | waiting =>
    refine ⟨rfl, ?_⟩
    cases hpoll : s.monitor.sink.poll with
    | none => exact Channel.poll_none hpoll hlive.sinkOpen
    | some next => simp [Observer.step, hphase, hpoll] at hrecv
  | folding now =>
    cases hpoll : s.monitor.sink.poll with
    | none => simp [Observer.step, hphase, hpoll] at hpublish
    | some next => simp [Observer.step, hphase, hpoll] at htryRecv

lemma settled_of_stuck {connection : Connection} (h : (s.interfaces i).Streaming connection)
    (hdriven : (s.interfaces i).Driven serde tree) (hstuck : Stuck (settle E serde tree i) s) :
    (s.interfaces i).Settled s.monitor.snapshots connection := by
  have hinterface {action : Interface.Action} (h : s.step E serde tree (.interface i action) = none) :
      (s.interfaces i).step E serde tree s.monitor.snapshots action = none := Option.map_eq_none_iff.mp h
  apply Interface.settled_of_stuck h hdriven
  · exact hinterface (hstuck (.serve 0))
  · exact hinterface (hstuck (.received 0))
  · exact hinterface (hstuck (.takeSnapshot 0))
  · exact hinterface (hstuck (.takeStatus 0))

def displayed (recentBuffer : ℕ) (accepted : List Observation) : AppState :=
  if accepted = [] then {} else { amounting recentBuffer accepted with nextSeq := 0 }

lemma displayed_of_idle (h : exec (step E serde tree) (start tree recentBuffer header) actions = some s)
    (hphase : s.monitor.phase = .waiting) (hqueue : s.monitor.sink.queue = []) :
    { s.monitor.snapshots.latest.eraseTimes with nextSeq := 0 } =
      displayed s.monitor.recentBuffer s.monitor.sink.sent := by
  obtain ⟨bursts, underway, hfolded⟩ := folded_monitors h (show s.monitor ∈ s.monitors by simp [monitors])
  have hsent : s.monitor.sink.sent = s.monitor.sink.received := by rw [Channel.sent, hqueue, List.append_nil]
  have hreceived := hfolded.received
  rw [(hfolded.waiting hphase).1, List.append_nil] at hreceived
  cases bursts with
  | nil =>
    have hlatest : s.monitor.snapshots.latest = {} := by
      rw [Watch.latest, hfolded.published, hfolded.initial]
      rfl
    have hnone : s.monitor.sink.sent = [] := hsent.trans hreceived
    rw [hlatest, displayed, if_pos hnone]
    simp [AppState.eraseTimes]
  | cons b bursts =>
    have hne : s.monitor.sink.sent ≠ [] := by
      rw [hsent, hreceived]
      simp [Burst.observations]
    rw [displayed, if_neg hne, hsent, eraseTimes_publishes (hfolded.latest hphase (by simp))]

end System

/-- Once no producer offers any more, an interface whose connection holds comes to show all that its monitor has
accepted, after a bounded number of moves and whatever their order. -/
theorem interfaces_catch_up {ι σ : Type} [DecidableEq ι] (E : Encoder) (serde : SerdeJson) (tree : TreeWidget σ)
    (recentBuffer : ℕ) (header : ι → String) (actions : List (System.Action ι)) (s : System ι σ)
    (h : exec (System.step E serde tree) (.start tree recentBuffer header) actions = some s) (i : ι)
    (connection : Connection) (hstreaming : (s.interfaces i).Streaming connection) (hfits : s.Fits E) :
    (∀ settling t, exec (System.settle E serde tree i) s settling = some t → settling.length ≤ s.backlog i) ∧
    (∃ settling t, exec (System.settle E serde tree i) s settling = some t ∧ Stuck (System.settle E serde tree i) t) ∧
    ∀ settling t, exec (System.settle E serde tree i) s settling = some t → Stuck (System.settle E serde tree i) t →
      ∃ frame, (t.interfaces i).loop.frames.getLast? = some frame ∧ frame.connected = true ∧
        frame.state.eraseTimes = System.displayed s.monitor.recentBuffer s.monitor.sink.sent := by
  have hstart : s.Underway E serde tree i s.monitor :=
    ⟨⟨recentBuffer, header, actions, h⟩, ⟨connection, hstreaming⟩, rfl, rfl, hfits⟩
  have hkeep : ∀ (s' : System ι σ) (a : Settling) (t : System ι σ), s'.Underway E serde tree i s.monitor →
      s'.settle E serde tree i a = some t → t.Underway E serde tree i s.monitor :=
    fun _ _ _ hs hstep => (System.underway_settle hs hstep).1
  have hless : ∀ (s' : System ι σ) (a : Settling) (t : System ι σ), s'.Underway E serde tree i s.monitor →
      s'.settle E serde tree i a = some t → t.backlog i < s'.backlog i :=
    fun _ _ _ hs hstep => (System.underway_settle hs hstep).2
  refine ⟨fun settling t hrun => ?_, exists_stuck_of_invariant hkeep hless hstart, fun settling t hrun hstuck => ?_⟩
  · exact (Nat.le_add_right _ _).trans (exec_length_le_of_invariant hkeep hless hstart hrun)
  · have hend : t.Underway E serde tree i s.monitor := exec_invariant hkeep hstart hrun
    obtain ⟨recentBuffer', header', actions', hexec⟩ := hend.reachable
    obtain ⟨connection', hup⟩ := hend.streaming
    obtain ⟨hattached, hshown, hdriven⟩ := System.attached_exec hexec i
    have hsettled := System.settled_of_stuck hup hdriven hstuck
    obtain ⟨now, hframe⟩ := hshown.screen hup.running
    refine ⟨_, hframe, ?_, ?_⟩
    · dsimp only
      rw [hshown.isConnected.eq_latest hsettled.isConnected]
      exact (hattached.status (by simp [hup.running])).mpr (by simp [hup.up, Link.IsUp])
    · obtain ⟨x, hx, hholds⟩ := System.caught_exec hexec i connection' _ hup.up hup.live hsettled.cursor
      rw [Watch.history_version] at hx
      cases hx
      dsimp only
      rw [hshown.snapshot.eq_latest hsettled.snapshot, eraseTimes_shows (hholds.stored hsettled.delivered)]
      obtain ⟨hphase, hqueue⟩ := System.idle_of_stuck (System.live_exec hexec) hstuck
      rw [System.displayed_of_idle hexec hphase hqueue, hend.bound, hend.accepted]

lemma historyLen_of_ack (t now : Instant) :
    protobuf.historyLen [] now 200 = 3 ∧ protobuf.historyLen [(.ack "s" none 1, t)] now 200 = 12 := by
  constructor
  · simp [Encoder.historyLen, topicsNamed, subscriptionsNamed, newestMessages, publishedMessages, numbered, List.rtake,
      protobuf, uint64Field, varintLen]
    decide
  · simp [Encoder.historyLen, topicsNamed, subscriptionsNamed, topicNames, subscriptionNames, newestMessages,
      publishedMessages, Observation.captures, numbered, List.rtake, Encoder.subscriptionShare, subscriptionFrom,
      Subscription.after, protobuf, mapEntry, lengthDelimited, lengthDelimitedField, uint64Field, boolField, varintLen]
    decide

theorem interfaces_catch_up_of_outage :
    ∃ s, exec (System.step protobuf noJson stillTree) (.start stillTree 200 fun _ => "") (outage.take 6) = some s ∧
      ∃ settling t, exec (System.settle protobuf noJson stillTree ()) s settling = some t ∧
        ∃ frame, (t.interfaces ()).loop.frames.getLast? = some frame ∧ frame.connected = true ∧
          frame.state.eraseTimes = System.displayed 200 [.ack "s" none 1] := by
  obtain ⟨s, hs, hstreaming, hpast, hbound, hsent⟩ :
      ∃ s, exec (System.step protobuf noJson stillTree) (.start stillTree 200 fun _ => "") (outage.take 6) = some s ∧
        (s.interfaces ()).Streaming {} ∧ s.past = [] ∧ s.monitor.recentBuffer = 200 ∧
        s.monitor.sink.sent = [.ack "s" none 1] :=
    ⟨_, rfl, ⟨rfl, rfl, rfl⟩, rfl, rfl, rfl⟩
  have hfits : s.Fits protobuf := by
    intro monitor hm history now hinit
    rw [System.monitors, hpast, List.nil_append, List.mem_singleton] at hm
    rw [hm, hsent] at hinit
    rw [hm, hbound]
    rcases List.prefix_cons_iff.mp hinit with hnil | ⟨rest, hrest, hnil⟩
    · rw [List.map_eq_nil_iff.mp hnil, (historyLen_of_ack 0 now).1]
      decide
    · rw [List.prefix_nil.mp hnil] at hrest
      obtain ⟨⟨o, t⟩, rfl, ho⟩ : ∃ e, history = [e] ∧ e.1 = .ack "s" none 1 := by
        obtain ⟨e, rest', rfl, he, hrest'⟩ := List.map_eq_cons_iff.mp hrest
        exact ⟨e, by rw [List.map_eq_nil_iff.mp hrest'], he⟩
      dsimp only at ho
      subst o
      rw [(historyLen_of_ack t now).2]
      decide
  obtain ⟨-, ⟨settling, t, hrun, hstuck⟩, hscreen⟩ :=
    interfaces_catch_up protobuf noJson stillTree 200 (fun _ => "") (outage.take 6) s hs () {} hstreaming hfits
  obtain ⟨frame, hframe, hconnected, hstate⟩ := hscreen settling t hrun hstuck
  rw [hbound, hsent] at hstate
  exact ⟨s, hs, settling, t, hrun, frame, hframe, hconnected, hstate⟩

end PubSubTui.Pipeline
