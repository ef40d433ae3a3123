import PubSubTui.Library.ActionSystem
import PubSubTui.Library.Watch
import PubSubTui.Ui.App

/-! The render loop: it draws, waits for whichever comes first of an input, a tick and a change, and draws again. -/

namespace PubSubTui.Ui

open Library ActionSystem Observe

inductive LoopPhase
  | starting
  | running
  | ended
  deriving DecidableEq

structure Frame where
  state : AppState
  connected : Bool
  now : Instant

structure RunLoop (σ : Type) where
  app : App σ
  phase : LoopPhase := .starting
  snapshot : AppState := {}
  seenSnapshot : ℕ := 0
  isConnected : Bool := false
  seenConnected : ℕ := 0
  frames : List Frame := []

/-- The branch of the `select!` that completes; no event stands for the end of the input thread. -/
inductive Wakeup
  | input (event : Option Event) (now : Instant)
  | tick
  | snapshots
  | connected

def Input.state : Input → AppState
  | .event _ state _ | .frame state _ => state

namespace RunLoop

variable {σ : Type} (serde : SerdeJson) (tree : TreeWidget σ)

def new (header : String) : RunLoop σ where
  app := .new tree header

variable (loop : RunLoop σ) (snapshots : Watch AppState) (connected : Watch Bool)

/-- Draw a frame, or leave the loop where the terminal fails to. -/
def draw (terminal : Bool) (now : Instant) : Option (RunLoop σ) :=
  if terminal then
    (loop.app.step serde tree (.frame loop.snapshot now)).map fun app =>
      { loop with
        app
        phase := .running
        frames := loop.frames ++ [{ state := loop.snapshot, connected := loop.isConnected, now }] }
  else some { loop with phase := .ended }

/-- Up to the first frame. The values read here count as not yet seen. -/
def start (terminal : Bool) (now : Instant) : Option (RunLoop σ) :=
  match loop.phase with
  | .starting => { loop with snapshot := snapshots.latest, isConnected := connected.latest }.draw serde tree terminal now
  | _ => none

def wake : Wakeup → Option (RunLoop σ)
  | .input none _ => some { loop with phase := .ended }
  | .input (some event) now =>
    (loop.app.step serde tree (.event event loop.snapshot now)).map fun app => { loop with app }
  | .tick => some loop
  | .snapshots =>
    match snapshots.signal loop.seenSnapshot with
    | .pending => none
    | .closed => some { loop with phase := .ended }
    | .changed => some { loop with snapshot := snapshots.latest, seenSnapshot := snapshots.version }
  | .connected =>
    match connected.signal loop.seenConnected with
    | .pending => none
    | .closed => some loop
    | .changed => some { loop with isConnected := connected.latest, seenConnected := connected.version }

def proceed (terminal : Bool) (now : Instant) : Option (RunLoop σ) :=
  if loop.phase = .ended then some loop
  else if loop.app.shouldQuit then some { loop with phase := .ended }
  else loop.draw serde tree terminal now

def turn (wakeup : Wakeup) (terminal : Bool) (now : Instant) : Option (RunLoop σ) :=
  match loop.phase with
  | .running => (loop.wake serde tree snapshots connected wakeup).bind fun loop => loop.proceed serde tree terminal now
  | _ => none

structure Refreshed (loop loop' : RunLoop σ) : Prop where
  snapshot : loop'.snapshot = loop.snapshot ∧ loop'.seenSnapshot = loop.seenSnapshot ∨
    loop'.snapshot = snapshots.latest ∧ loop'.seenSnapshot ∈ [loop.seenSnapshot, snapshots.version]
  isConnected : loop'.isConnected = loop.isConnected ∧ loop'.seenConnected = loop.seenConnected ∨
    loop'.isConnected = connected.latest ∧ loop'.seenConnected ∈ [loop.seenConnected, connected.version]

structure Woken (loop loop' : RunLoop σ) : Prop extends Refreshed snapshots connected loop loop' where
  frames : loop'.frames = loop.frames
  app : ∃ inputs, exec (App.step serde tree) loop.app inputs = some loop'.app ∧
    ∀ input ∈ inputs, input.state = loop.snapshot

structure Turned (loop loop' : RunLoop σ) : Prop extends Refreshed snapshots connected loop loop' where
  frames : loop'.phase = .ended ∧ loop'.frames = loop.frames ∨ loop'.phase = .running ∧
    ∃ now, loop'.frames = loop.frames ++ [{ state := loop'.snapshot, connected := loop'.isConnected, now }]
  app : ∃ inputs, exec (App.step serde tree) loop.app inputs = some loop'.app ∧
    ∀ input ∈ inputs, input.state = loop.snapshot ∨ input.state = loop'.snapshot
  kept : loop.app.shouldQuit = false → loop'.phase = .running → loop'.app.shouldQuit = false

section Turns

variable {serde tree loop snapshots connected} {woken loop' : RunLoop σ} {terminal : Bool} {now : Instant}
  {wakeup : Wakeup}

lemma Woken.turned_of_ended (hw : loop.Woken serde tree snapshots connected woken) (hframes : loop'.frames = woken.frames)
    (hended : loop'.phase = .ended) (hr : Refreshed snapshots connected loop loop') (happ : loop'.app = woken.app) :
    loop.Turned serde tree snapshots connected loop' where
  toRefreshed := hr
  frames := .inl ⟨hended, hframes.trans hw.frames⟩
  app := by
    obtain ⟨inputs, hrun, hinputs⟩ := hw.app
    exact ⟨inputs, happ ▸ hrun, fun input hinput => .inl (hinputs input hinput)⟩
  kept _ hrunning := by
    rw [hended] at hrunning
    cases hrunning

lemma Woken.turned_of_draw (hw : loop.Woken serde tree snapshots connected woken)
    (hkept : loop.app.shouldQuit = false → woken.app.shouldQuit = false)
    (hdraw : woken.draw serde tree terminal now = some loop') : loop.Turned serde tree snapshots connected loop' := by
  rw [draw] at hdraw
  split_ifs at hdraw
  · obtain ⟨drawn, hdrawn, rfl⟩ := Option.map_eq_some_iff.mp hdraw
    obtain ⟨inputs, hrun, hinputs⟩ := hw.app
    refine ⟨⟨hw.snapshot, hw.isConnected⟩, .inr ⟨rfl, now, by rw [hw.frames]⟩,
      ⟨inputs ++ [.frame woken.snapshot now], ?_, ?_⟩, fun hquit _ => ?_⟩
    · rw [exec_append, hrun, Option.bind_some, exec_single]
      exact hdrawn
    · intro input hinput
      rcases List.mem_append.mp hinput with hinput | hinput
      · exact .inl (hinputs input hinput)
      · obtain rfl := List.mem_singleton.mp hinput
        exact .inr rfl
    · obtain ⟨panel, -, rfl⟩ := Option.map_eq_some_iff.mp hdrawn
      exact hkept hquit
  · cases hdraw
    exact hw.turned_of_ended rfl rfl ⟨hw.snapshot, hw.isConnected⟩ rfl

lemma turned_of_start (h : loop.start serde tree snapshots connected terminal now = some loop') :
    loop.Turned serde tree snapshots connected loop' := by
  rw [start] at h
  split at h
  · have hw : loop.Woken serde tree snapshots connected
        { loop with snapshot := snapshots.latest, isConnected := connected.latest } :=
      { snapshot := .inr ⟨rfl, by simp⟩, isConnected := .inr ⟨rfl, by simp⟩, frames := rfl, app := ⟨[], rfl, by simp⟩ }
    exact hw.turned_of_draw id h
  · cases h

lemma woken_of_wake (h : loop.wake serde tree snapshots connected wakeup = some woken) :
    loop.Woken serde tree snapshots connected woken := by
  have still : Refreshed snapshots connected loop loop := ⟨.inl ⟨rfl, rfl⟩, .inl ⟨rfl, rfl⟩⟩
  have none_read : ∃ inputs, exec (App.step serde tree) loop.app inputs = some loop.app ∧
      ∀ input ∈ inputs, input.state = loop.snapshot := ⟨[], rfl, by simp⟩
  cases wakeup with
  | input event now =>
    cases event with
    | none =>
      cases h
      exact ⟨⟨still.snapshot, still.isConnected⟩, rfl, none_read⟩
    | some event =>
      obtain ⟨app, happ, rfl⟩ := Option.map_eq_some_iff.mp h
      refine ⟨⟨still.snapshot, still.isConnected⟩, rfl, [.event event loop.snapshot now], ?_, by simp [Input.state]⟩
      rw [exec_single]
      exact happ
  | tick =>
    cases h
    exact ⟨still, rfl, none_read⟩
  | snapshots =>
    simp only [wake] at h
    split at h
    · cases h
    · cases h
      exact ⟨⟨still.snapshot, still.isConnected⟩, rfl, none_read⟩
    · cases h
      exact ⟨⟨.inr ⟨rfl, by simp⟩, .inl ⟨rfl, rfl⟩⟩, rfl, none_read⟩
  | connected =>
    simp only [wake] at h
    split at h
    · cases h
    · cases h
      exact ⟨still, rfl, none_read⟩
    · cases h
      exact ⟨⟨.inl ⟨rfl, rfl⟩, .inr ⟨rfl, by simp⟩⟩, rfl, none_read⟩

lemma turned_of_turn (h : loop.turn serde tree snapshots connected wakeup terminal now = some loop') :
    loop.Turned serde tree snapshots connected loop' := by
  rw [turn] at h
  split at h
  · obtain ⟨woken, hwake, h⟩ := Option.bind_eq_some_iff.mp h
    have hw := woken_of_wake hwake
    rw [proceed] at h
    split_ifs at h with hended hquit
    · cases h
      exact hw.turned_of_ended rfl hended hw.toRefreshed rfl
    · cases h
      exact hw.turned_of_ended rfl rfl ⟨hw.snapshot, hw.isConnected⟩ rfl
    · exact hw.turned_of_draw (fun _ => by simpa using hquit) h
  · cases h

lemma wake_snapshots (h : snapshots.signal loop.seenSnapshot = .changed) :
    loop.wake serde tree snapshots connected .snapshots =
      some { loop with snapshot := snapshots.latest, seenSnapshot := snapshots.version } := by
  simp only [wake, h]

lemma wake_connected (h : connected.signal loop.seenConnected = .changed) :
    loop.wake serde tree snapshots connected .connected =
      some { loop with isConnected := connected.latest, seenConnected := connected.version } := by
  simp only [wake, h]

lemma ended_of_draw (h : loop.draw serde tree terminal now = some loop') (hended : loop'.phase = .ended) :
    terminal = false := by
  rw [draw] at h
  split_ifs at h with hterminal
  · obtain ⟨app, -, rfl⟩ := Option.map_eq_some_iff.mp h
    cases hended
  · simpa using hterminal

lemma ended_of_start (h : loop.start serde tree snapshots connected terminal now = some loop')
    (hended : loop'.phase = .ended) : terminal = false := by
  rw [start] at h
  split at h
  · exact ended_of_draw h hended
  · cases h

lemma ended_of_wake (h : loop.wake serde tree snapshots connected wakeup = some woken) (hended : woken.phase = .ended) :
    loop.phase = .ended ∨ (∃ t, wakeup = .input none t) ∨
      wakeup = .snapshots ∧ snapshots.signal loop.seenSnapshot = .closed := by
  cases wakeup with
  | input event now =>
    cases event with
    | none => exact .inr (.inl ⟨now, rfl⟩)
    | some event =>
      obtain ⟨app, -, rfl⟩ := Option.map_eq_some_iff.mp h
      exact .inl hended
  | tick =>
    cases h
    exact .inl hended
  | snapshots =>
    simp only [wake] at h
    split at h
    · cases h
    · exact .inr (.inr ⟨rfl, ‹_›⟩)
    · cases h
      exact .inl hended
  | connected =>
    simp only [wake] at h
    split at h
    · cases h
    all_goals
      cases h
      exact .inl hended

lemma quit_of_wake (h : loop.wake serde tree snapshots connected wakeup = some woken)
    (hquit : woken.app.shouldQuit = true) : loop.app.shouldQuit = true ∨
      ∃ event t app, wakeup = .input (some event) t ∧
        loop.app.step serde tree (.event event loop.snapshot t) = some app ∧ app.shouldQuit = true := by
  cases wakeup with
  | input event now =>
    cases event with
    | none =>
      cases h
      exact .inl hquit
    | some event =>
      obtain ⟨app, happ, rfl⟩ := Option.map_eq_some_iff.mp h
      exact .inr ⟨event, now, app, rfl, happ, hquit⟩
  | tick =>
    cases h
    exact .inl hquit
  | snapshots | connected =>
    simp only [wake] at h
    split at h
    · cases h
    all_goals
      cases h
      exact .inl hquit

lemma ended_of_turn (h : loop.turn serde tree snapshots connected wakeup terminal now = some loop')
    (hended : loop'.phase = .ended) : terminal = false ∨ (∃ t, wakeup = .input none t) ∨
      (∃ event t app, wakeup = .input (some event) t ∧
        loop.app.step serde tree (.event event loop.snapshot t) = some app ∧ app.shouldQuit = true) ∨
      loop.app.shouldQuit = true ∨ wakeup = .snapshots ∧ snapshots.signal loop.seenSnapshot = .closed := by
  rw [turn] at h
  split at h
  · rename_i hrunning
    obtain ⟨woken, hwake, h⟩ := Option.bind_eq_some_iff.mp h
    rw [proceed] at h
    split_ifs at h with hwoken hquit
    · rcases ended_of_wake hwake hwoken with hphase | hinput | hclosed
      · rw [hrunning] at hphase
        cases hphase
      · exact .inr (.inl hinput)
      · exact .inr (.inr (.inr (.inr hclosed)))
    · rcases quit_of_wake hwake hquit with hbefore | hevent
      · exact .inr (.inr (.inr (.inl hbefore)))
      · exact .inr (.inr (.inl hevent))
    · exact .inl (ended_of_draw h hended)
  · cases h

end Turns

end RunLoop

end PubSubTui.Ui
