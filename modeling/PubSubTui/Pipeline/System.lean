import PubSubTui.Monitor.Client
import PubSubTui.Observe.Observer
import PubSubTui.Ui.RunLoop

/-! A monitor and the user interfaces that watch it, each with a supervised connection and a render loop of its
own. Any of them may move next, connections may fail at any time, and the monitor may be started afresh. -/

namespace PubSubTui.Pipeline

open Library ActionSystem Observe Monitor Ui

variable {σ : Type} (E : Encoder) (serde : SerdeJson) (tree : TreeWidget σ)

structure Interface (σ : Type) where
  client : Client := {}
  loop : RunLoop σ

namespace Interface

inductive Action
  | client (action : Client.Action)
  | serve (now : Instant)
  | start (terminal : Bool) (now : Instant)
  | turn (wakeup : Wakeup) (terminal : Bool) (now : Instant)

/-- The loop holds the receivers of both channels, and they go with it. -/
def after (interface : Interface σ) (loop : RunLoop σ) : Interface σ :=
  if loop.phase = .ended then
    { loop
      client := { interface.client with
        snapshots := { interface.client.snapshots with hasReceiver := false }
        connected := { interface.client.connected with hasReceiver := false } } }
  else { interface with loop }

def sever (interface : Interface σ) : Interface σ :=
  { interface with client := { interface.client with link := interface.client.link.sever } }

def step (snapshots : Watch AppState) (interface : Interface σ) : Action → Option (Interface σ)
  | .client action => (interface.client.step E action).map fun client => { interface with client }
  | .serve now => (interface.client.serve snapshots now).map fun client => { interface with client }
  | .start terminal now =>
    (interface.loop.start serde tree interface.client.snapshots interface.client.connected terminal now).map
      interface.after
  | .turn wakeup terminal now =>
    (interface.loop.turn serde tree interface.client.snapshots interface.client.connected wakeup terminal now).map
      interface.after

inductive Moves (snapshots : Watch AppState) (interface : Interface σ) : Interface σ → Prop
  | client {client : Client} (h : interface.client.Moves client) : Moves snapshots interface { interface with client }
  | served {client : Client} (h : interface.client.Serves snapshots client) :
    Moves snapshots interface { interface with client }
  | turned {loop : RunLoop σ} (live : interface.loop.phase ≠ .ended)
    (h : interface.loop.Turned serde tree interface.client.snapshots interface.client.connected loop) :
    Moves snapshots interface (interface.after loop)

variable {E serde tree} {snapshots : Watch AppState} {interface interface' : Interface σ} {a : Action}

lemma loop_after {loop : RunLoop σ} : (interface.after loop).loop = loop := by
  rw [after]
  split_ifs <;> rfl

lemma moves (h : interface.step E serde tree snapshots a = some interface') :
    interface.Moves serde tree snapshots interface' := by
  cases a with
  | client action =>
    obtain ⟨client, hclient, rfl⟩ := Option.map_eq_some_iff.mp h
    exact .client (Client.moves hclient)
  | serve now =>
    obtain ⟨client, hclient, rfl⟩ := Option.map_eq_some_iff.mp h
    exact .served (Client.serves hclient)
  | start terminal now =>
    obtain ⟨loop, hloop, rfl⟩ := Option.map_eq_some_iff.mp h
    refine .turned (fun hended => ?_) (RunLoop.turned_of_start hloop)
    simp [RunLoop.start, hended] at hloop
  | turn wakeup terminal now =>
    obtain ⟨loop, hloop, rfl⟩ := Option.map_eq_some_iff.mp h
    refine .turned (fun hended => ?_) (RunLoop.turned_of_turn hloop)
    simp [RunLoop.turn, hended] at hloop

end Interface

structure System (ι σ : Type) where
  past : List Observer := []
  monitor : Observer
  interfaces : ι → Interface σ

namespace System

inductive Action (ι : Type)
  | monitor (action : Observer.Action)
  | restart (recentBuffer : ℕ)
  | interface (i : ι) (action : Interface.Action)

variable {ι : Type}

def start (recentBuffer : ℕ) (header : ι → String) : System ι σ where
  monitor := .start recentBuffer
  interfaces i := { loop := .new tree (header i) }

def monitors (s : System ι σ) : List Observer := s.past ++ [s.monitor]

def log (s : System ι σ) : List AppState := s.monitors.flatMap (·.snapshots.history)

structure Live (s : System ι σ) : Prop where
  running : s.monitor.phase ≠ .stopped
  hasSender : s.monitor.snapshots.hasSender = true
  hasReceiver : s.monitor.snapshots.hasReceiver = true
  sinkOpen : s.monitor.sink.closed = false

section Monitors

variable {tree} {s : System ι σ} {recentBuffer : ℕ} {header : ι → String}

lemma live_start : (start tree recentBuffer header).Live where
  running := by simp [start, Observer.start]
  hasSender := rfl
  hasReceiver := rfl
  sinkOpen := rfl

lemma snapshots_of_monitor {action : Observer.Action} {monitor : Observer} (hs : s.Live) (kept : action ≠ .dropReaders)
    (h : s.monitor.step action = some monitor) : monitor.snapshots = s.monitor.snapshots ∨
      ∃ x, monitor.snapshots = { s.monitor.snapshots with sent := s.monitor.snapshots.sent ++ [x] } := by
  cases Observer.moves h with
  | observe | recv | tryRecv => exact .inl rfl
  | publish => exact .inr ⟨_, rfl⟩
  | stop busy drained unread =>
    rw [hs.hasReceiver] at unread
    cases unread
  | dropReaders => exact absurd rfl kept

lemma getLast?_log (s : System ι σ) : s.log.getLast? = some s.monitor.snapshots.latest := by
  rw [log, monitors, List.flatMap_append, List.flatMap_singleton, List.getLast?_append, Watch.getLast?_history,
    Option.some_or]

end Monitors

variable [DecidableEq ι]

def step (s : System ι σ) : Action ι → Option (System ι σ)
  | .monitor action =>
    -- The state server reads the snapshots for as long as the monitor runs.
    if action = .dropReaders then none else (s.monitor.step action).map fun monitor => { s with monitor }
  | .restart recentBuffer =>
    some { past := s.past ++ [s.monitor], monitor := .start recentBuffer, interfaces := fun i => (s.interfaces i).sever }
  | .interface i action =>
    ((s.interfaces i).step E serde tree s.monitor.snapshots action).map fun interface =>
      { s with interfaces := Function.update s.interfaces i interface }

inductive Moves (s : System ι σ) : Action ι → System ι σ → Prop
  | monitor {action : Observer.Action} {monitor : Observer} (kept : action ≠ .dropReaders)
    (h : s.monitor.step action = some monitor) : Moves s (.monitor action) { s with monitor }
  | restart (recentBuffer : ℕ) : Moves s (.restart recentBuffer)
    { past := s.past ++ [s.monitor], monitor := .start recentBuffer, interfaces := fun i => (s.interfaces i).sever }
  | interface {i : ι} {action : Interface.Action} {interface : Interface σ}
    (h : (s.interfaces i).step E serde tree s.monitor.snapshots action = some interface) :
    Moves s (.interface i action) { s with interfaces := Function.update s.interfaces i interface }

variable {E serde tree} {s t : System ι σ} {a : Action ι} {actions : List (Action ι)} {recentBuffer : ℕ}
  {header : ι → String}

lemma moves (h : s.step E serde tree a = some t) : Moves E serde tree s a t := by
  cases a with
  | monitor action =>
    rw [step] at h
    split_ifs at h with hkept
    obtain ⟨monitor, hmonitor, rfl⟩ := Option.map_eq_some_iff.mp h
    exact .monitor hkept hmonitor
  | restart recentBuffer =>
    cases h
    exact .restart recentBuffer
  | interface i action =>
    obtain ⟨interface, hinterface, rfl⟩ := Option.map_eq_some_iff.mp h
    exact .interface hinterface

lemma live_step (hs : s.Live) (h : s.step E serde tree a = some t) : t.Live := by
  cases moves h with
  | restart recentBuffer => exact ⟨by simp [Observer.start], rfl, rfl, rfl⟩
  | interface h => exact ⟨hs.running, hs.hasSender, hs.hasReceiver, hs.sinkOpen⟩
  | monitor kept hmonitor =>
    cases Observer.moves hmonitor with
    | observe observation =>
      exact ⟨hs.running, hs.hasSender, hs.hasReceiver, by rw [Channel.closed_offer, hs.sinkOpen]⟩
    | recv now idle next => exact ⟨by simp, hs.hasSender, hs.hasReceiver, (Channel.poll_some next).2.1⟩
    | tryRecv busy next => exact ⟨hs.running, hs.hasSender, hs.hasReceiver, (Channel.poll_some next).2.1⟩
    | publish => exact ⟨by simp, hs.hasSender, hs.hasReceiver, hs.sinkOpen⟩
    | stop busy drained unread =>
      rw [hs.hasReceiver] at unread
      cases unread
    | dropReaders => exact absurd rfl kept

lemma live_exec (h : exec (step E serde tree) (start tree recentBuffer header) actions = some s) : s.Live :=
  exec_invariant (fun _ _ _ hs hstep => live_step hs hstep) live_start h

theorem interfaces_invariant {P : List AppState → Watch AppState → Interface σ → Prop}
    (hstart : ∀ title, P [({} : AppState)] { initial := {} } { loop := .new tree title })
    (hstep : ∀ log snapshots interface action interface', log.getLast? = some snapshots.latest →
      snapshots.hasSender = true → P log snapshots interface →
      interface.step E serde tree snapshots action = some interface' → P log snapshots interface')
    (hpublish : ∀ log snapshots interface x, P log snapshots interface →
      P (log ++ [x]) { snapshots with sent := snapshots.sent ++ [x] } interface)
    (hrestart : ∀ log snapshots interface, P log snapshots interface →
      P (log ++ [({} : AppState)]) { initial := {} } interface.sever)
    (h : exec (step E serde tree) (start tree recentBuffer header) actions = some s) (i : ι) :
    P s.log s.monitor.snapshots (s.interfaces i) := by
  have hinv : s.Live ∧ ∀ i, P s.log s.monitor.snapshots (s.interfaces i) := by
    refine exec_invariant (P := fun s => s.Live ∧ ∀ i, P s.log s.monitor.snapshots (s.interfaces i)) ?_
      ⟨live_start, fun i => hstart (header i)⟩ h
    rintro s a t ⟨hlive, hs⟩ hstep'
    refine ⟨live_step hlive hstep', fun i => ?_⟩
    cases moves hstep' with
    | @monitor action monitor kept hmonitor =>
      rcases snapshots_of_monitor hlive kept hmonitor with hsame | ⟨x, hx⟩
      · have hlog : ({ s with monitor } : System ι σ).log = s.log := by simp [log, monitors, hsame]
        rw [hlog]
        simpa only [hsame] using hs i
      · have hlog : ({ s with monitor } : System ι σ).log = s.log ++ [x] := by simp [log, monitors, hx]
        rw [hlog]
        simpa only [hx] using hpublish _ _ _ x (hs i)
    | restart recentBuffer =>
      have hlog : (System.mk (s.past ++ [s.monitor]) (.start recentBuffer) fun i => (s.interfaces i).sever).log =
          s.log ++ [({} : AppState)] := by
        simp [log, monitors, Observer.start, Watch.history]
      rw [hlog]
      exact hrestart _ _ _ (hs i)
    | @interface j action interface hinterface =>
      change P s.log s.monitor.snapshots (Function.update s.interfaces j interface i)
      by_cases hij : i = j
      · subst hij
        rw [Function.update_self]
        exact hstep _ _ _ _ _ s.getLast?_log hlive.hasSender (hs i) hinterface
      · rw [Function.update_of_ne hij]
        exact hs i
  exact hinv.2 i

end System

end PubSubTui.Pipeline
