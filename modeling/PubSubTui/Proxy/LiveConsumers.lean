import PubSubTui.Observe.Accounting
import PubSubTui.Proxy.StreamingRelay
import PubSubTui.Proxy.SubscriptionLatch

/-! Many streaming pulls feeding one state. Each leads its consumer through one life, and the live count of a
subscription is the number of lives on it that have begun and not ended. -/

namespace PubSubTui.Proxy

open Library Library.TreeMaps Observe ActionSystem

structure Consumer where
  script : Script
  run : List Action
  stream : Stream
  reaches : Reaches script run stream
  name : String
  named : ∀ req ∈ script.frames, req.subscription ≠ "" → req.subscription = name

section Names

variable {frames : List StreamingPullRequest} {name : String}

lemma mem_named {x : String} : x ∈ named frames ↔ ∃ req ∈ frames, req.subscription ≠ "" ∧ req.subscription = x := by
  simp only [named, List.mem_filter, List.mem_map, decide_eq_true_eq]
  constructor
  · rintro ⟨⟨req, hreq, rfl⟩, hx⟩
    exact ⟨req, hreq, hx, rfl⟩
  · rintro ⟨req, hreq, hx, rfl⟩
    exact ⟨⟨req, hreq, rfl⟩, hx⟩

lemma lastNamed_eq (h : ∀ req ∈ frames, req.subscription ≠ "" → req.subscription = name)
    (hne : named frames ≠ []) : lastNamed frames = name := by
  obtain ⟨x, hx⟩ := Option.ne_none_iff_exists'.mp (mt List.getLast?_eq_none_iff.mp hne)
  obtain ⟨req, hreq, hsub, rfl⟩ := mem_named.mp (List.mem_of_getLast? hx)
  rw [lastNamed, hx, Option.getD_some]
  exact h req hreq hsub

end Names

namespace Stream

variable {script : Script} {as : List Action} {a : Action} {s t : Stream} {name : String}

def BracketsNamed (name : String) (s : Stream) : Prop :=
  ∀ o ∈ s.observed, opens o = true ∨ closes o = true → subscriptionOf o = some name

lemma bracketsNamed_step (hnamed : ∀ req ∈ t.read, req.subscription ≠ "" → req.subscription = name)
    (hl : Latched s) (hs : BracketsNamed name s) (h : s.step a = some t) : BracketsNamed name t := by
  intro o ho hbracket
  cases taps h with
  | silent _ _ _ _ observed => exact hs o (observed ▸ ho) hbracket
  | frame req _ read _ _ _ observed =>
    rw [observed, List.mem_append, List.mem_append] at ho
    rcases ho with ho | ho | ho
    · exact hs o ho hbracket
    · obtain ⟨-, hsub, hname⟩ := mem_opening hl ho
      rw [hname, hnamed req (by simp [read]) hsub]
    · rw [acking] at ho
      split_ifs at ho <;> simp_all [opens, closes]
  | response resp _ _ _ _ _ observed =>
    rw [observed, List.mem_append] at ho
    rcases ho with ho | ho
    · exact hs o ho hbracket
    · rw [delivering] at ho
      split_ifs at ho <;> simp_all [opens, closes]
  | ending _ read _ _ _ observed =>
    rw [observed, List.mem_append] at ho
    rcases ho with ho | ho
    · exact hs o ho hbracket
    · obtain ⟨hopened, hname⟩ := mem_closing ho
      rw [hname, hl.subscription, lastNamed_eq (by rwa [read] at hnamed) (hl.opened.mp hopened)]

lemma bracketsNamed (hnamed : ∀ req ∈ script.frames, req.subscription ≠ "" → req.subscription = name)
    (h : Reaches script as s) : BracketsNamed name s := by
  have hinv : Latched s ∧ Relayed script s ∧ BracketsNamed name s := by
    refine exec_invariant (P := fun u => Latched u ∧ Relayed script u ∧ BracketsNamed name u)
      (fun u b v hu hv => ?_) ⟨latched_start script, relayed_start script, by simp [BracketsNamed, Script.start]⟩ h
    obtain ⟨hl, hr, hb⟩ := hu
    have hr' := relayed_step hr hv
    refine ⟨latched_step hl hv, hr', bracketsNamed_step (fun req hreq => hnamed req ?_) hl hb hv⟩
    rw [← hr'.frames]
    exact List.mem_append_left _ hreq
  exact hinv.2.2

end Stream

section Fleet

variable {ι : Type*} [DecidableEq ι]

def folded (history : List (Emission ι)) : AppState :=
  ({} : AppState).applyAll (history.map fun e => (e.observation, e.time))

variable {name : ι → String} {lives lives' : ι → Life} {x : String} {i : ι} {history : List (Emission ι)}

variable {consumers : ι → Consumer}

lemma streams_before {earlier later : List (Emission ι)}
    (streams : ∀ i, emittedBy i (earlier ++ later) <+: (consumers i).stream.observed) (i : ι) :
    emittedBy i earlier <+: (consumers i).stream.observed := by
  refine List.IsPrefix.trans ?_ (streams i)
  rw [emittedBy_append]
  exact List.prefix_append _ _

lemma exists_lives (streams : ∀ i, emittedBy i history <+: (consumers i).stream.observed) :
    ∃ lives : ι → Life, ∀ i, exec Life.advance .idle (emittedBy i history) = some (lives i) := by
  have hlife (i : ι) : ∃ l, exec Life.advance .idle (emittedBy i history) = some l := by
    obtain ⟨rest, hrest⟩ := streams i
    have hall := Stream.exec_life (consumers i).reaches
    rw [← hrest, exec_append] at hall
    obtain ⟨l, hl, -⟩ := Option.bind_eq_some_iff.mp hall
    exact ⟨l, hl⟩
  exact ⟨fun i => (hlife i).choose, fun i => (hlife i).choose_spec⟩

lemma emitted_brackets (streams : ∀ i, emittedBy i history <+: (consumers i).stream.observed) (i : ι) :
    ∀ o ∈ emittedBy i history, opens o = true ∨ closes o = true →
      subscriptionOf o = some (consumers i).name := by
  intro o ho
  have hmem : o ∈ (consumers i).stream.observed := (streams i).subset ho
  exact Stream.bracketsNamed (consumers i).named (consumers i).reaches o hmem

variable [Fintype ι]

def openOn (consumers : ι → Consumer) (history : List (Emission ι)) (x : String) : Finset ι :=
  Finset.univ.filter (fun i => (consumers i).name = x ∧ Life.consuming (emittedBy i history) = true)

def openAnywhere (history : List (Emission ι)) : Finset ι :=
  Finset.univ.filter (fun i => Life.consuming (emittedBy i history) = true)

lemma card_openOn (hlives : ∀ i, exec Life.advance .idle (emittedBy i history) = some (lives i)) :
    (openOn consumers history x).card = livesOn (fun i => (consumers i).name) lives x := by
  rw [openOn, Finset.card_filter, livesOn]
  apply Finset.sum_congr rfl
  intro i _
  rw [ite_and, Life.consuming_eq (hlives i)]

lemma card_openAnywhere {keys : Finset String} (hkeys : ∀ i, (consumers i).name ∈ keys) :
    (openAnywhere history).card = ∑ x ∈ keys, (openOn consumers history x).card := by
  rw [Finset.card_eq_sum_card_fiberwise (f := fun i => (consumers i).name) (t := keys)
    fun i _ => hkeys i]
  apply Finset.sum_congr rfl
  intro x _
  rw [openAnywhere, openOn, Finset.filter_filter]
  simp only [and_comm]

lemma connectedConsumers_eq {state : AppState}
    (hstate : ∀ x, (state.subscriptionAt x).liveConsumers = (openOn consumers history x).card) :
    state.connectedConsumers = (openAnywhere history).card := by
  let names := Finset.univ.image (fun i => (consumers i).name)
  have hnames (i : ι) : (consumers i).name ∈ state.subscriptions.keys.toFinset ∪ names :=
    Finset.mem_union_right _ (Finset.mem_image_of_mem _ (Finset.mem_univ i))
  have hkeys : ∀ x ∈ state.subscriptions, x ∈ state.subscriptions.keys.toFinset ∪ names := fun x hx =>
    Finset.mem_union_left _ (by simpa using hx)
  rw [card_openAnywhere hnames]
  apply (total_eq_sum_of_subset (fun _ sub => sub.liveConsumers) hkeys).trans
  apply Finset.sum_congr rfl
  intro x _
  rw [← hstate x, AppState.subscriptionAt]
  cases state.subscriptions[x]? <;> rfl

lemma live_folded
    (others : ∀ e ∈ history, e.source = none → opens e.observation = false ∧ closes e.observation = false)
    (streams : ∀ i, emittedBy i history <+: (consumers i).stream.observed) (x : String) :
    ((folded history).subscriptionAt x).liveConsumers = (openOn consumers history x).card := by
  obtain ⟨lives, hlives⟩ := exists_lives streams
  rw [card_openOn hlives]
  have hidle (y : String) : (({} : AppState).subscriptionAt y).liveConsumers =
      0 + livesOn (fun i => (consumers i).name) (fun _ => .idle) y := by
    simp [livesOn, Life.consumers]
  have hlive := live_applyAll (x := x) others (emitted_brackets streams) hlives hidle
  rwa [Nat.zero_add] at hlive

lemma live_pos_of_close {earlier later : List (Emission ι)} {e : Emission ι}
    (others : ∀ p ∈ earlier ++ e :: later, p.source = none →
      opens p.observation = false ∧ closes p.observation = false)
    (streams : ∀ i, emittedBy i (earlier ++ e :: later) <+: (consumers i).stream.observed)
    (hclose : closes e.observation = true) (hname : subscriptionOf e.observation = some x) :
    0 < ((folded earlier).subscriptionAt x).liveConsumers := by
  have hstreams := streams_before streams
  rw [live_folded (fun p hp => others p (List.mem_append_left _ hp)) hstreams, Finset.card_pos]
  cases hsource : e.source with
  | none => simp [(others e (by simp) hsource).2] at hclose
  | some i =>
    have hmem : e.observation ∈ emittedBy i (earlier ++ e :: later) := by
      simp [emittedBy_append, emittedBy_cons, hsource]
    have hx := (emitted_brackets streams i _ hmem (.inr hclose)).symm.trans hname
    obtain ⟨lives, hlives⟩ := exists_lives hstreams
    obtain ⟨after, hafter⟩ := exists_lives streams
    have hrun := hafter i
    rw [emittedBy_append, emittedBy_cons, if_pos hsource, exec_append, hlives i, Option.bind_some,
      exec_append, exec_single] at hrun
    obtain ⟨l, hadv, -⟩ := Option.bind_eq_some_iff.mp hrun
    have hlive : lives i = .live := by
      rcases Life.advance_cases hadv with ⟨ho, -, -⟩ | ⟨-, hl, -⟩ | ⟨-, hc, -⟩
      · cases ho' : e.observation <;> simp [ho', opens, closes] at ho hclose
      · exact hl
      · simp [hc] at hclose
    have hconsuming := Life.consuming_eq (hlives i)
    rw [hlive] at hconsuming
    refine ⟨i, Finset.mem_filter.mpr ⟨Finset.mem_univ i, Option.some.inj hx, ?_⟩⟩
    by_contra hne
    simp [hne, Life.consumers] at hconsuming

theorem live_consumers_of_interleaving (consumers : ι → Consumer) (history : List (Emission ι))
    (others : ∀ e ∈ history, e.source = none → opens e.observation = false ∧ closes e.observation = false)
    (streams : ∀ i, emittedBy i history <+: (consumers i).stream.observed) :
    (∀ earlier later, history = earlier ++ later →
      (∀ x, ((folded earlier).subscriptionAt x).liveConsumers = (openOn consumers earlier x).card) ∧
      (folded earlier).connectedConsumers = (openAnywhere earlier).card) ∧
    (∀ earlier e later x, history = earlier ++ e :: later → closes e.observation = true →
      subscriptionOf e.observation = some x → 0 < ((folded earlier).subscriptionAt x).liveConsumers) ∧
    ((∀ i, (consumers i).stream.finished = true ∧ emittedBy i history = (consumers i).stream.observed) →
      ∀ x, ((folded history).subscriptionAt x).liveConsumers = 0) := by
  refine ⟨?_, ?_, ?_⟩
  · rintro earlier later rfl
    have hlive := live_folded (fun p hp => others p (List.mem_append_left _ hp)) (streams_before streams)
    exact ⟨hlive, connectedConsumers_eq hlive⟩
  · rintro earlier e later x rfl hclose hname
    exact live_pos_of_close others streams hclose hname
  · intro ended x
    rw [live_folded others streams, Finset.card_eq_zero, openOn, Finset.filter_eq_empty_iff]
    rintro i - ⟨-, hconsuming⟩
    obtain ⟨hfinished, hall⟩ := ended i
    have hlife := Stream.exec_life (consumers i).reaches
    rw [← hall] at hlife
    have hcount := Life.consuming_eq hlife
    rw [if_pos hconsuming] at hcount
    cases ho : (consumers i).stream.opened <;>
      simp [Stream.life, ho, hfinished, Life.consumers] at hcount

end Fleet

def visiting : Script where
  peer := none
  frames := [{ subscription := "projects/p/subscriptions/s" }]
  upstream := .accepted [] none

def visitor : Consumer where
  script := visiting
  run := [.readFrame, .sendRequest, .readEnd]
  stream := _
  reaches := rfl
  name := "projects/p/subscriptions/s"
  named := by simp [visiting]

def twoVisits : List (Emission Bool) :=
  [⟨some false, .consumerOpen "projects/p/subscriptions/s" none, 0⟩,
    ⟨some true, .consumerOpen "projects/p/subscriptions/s" none, 1⟩,
    ⟨none, .deliver "projects/p/subscriptions/s" none 1, 2⟩,
    ⟨some false, .consumerClose "projects/p/subscriptions/s" none, 3⟩,
    ⟨some true, .consumerClose "projects/p/subscriptions/s" none, 4⟩]

theorem live_consumers_of_two_visits :
    (folded (twoVisits.take 3)).connectedConsumers = 2 ∧
      ∀ x, ((folded twoVisits).subscriptionAt x).liveConsumers = 0 := by
  have others : ∀ e ∈ twoVisits, e.source = none → opens e.observation = false ∧ closes e.observation = false := by
    decide
  have emitted (i : Bool) : emittedBy i twoVisits = visitor.stream.observed := by cases i <;> rfl
  have hlive := live_consumers_of_interleaving (fun _ => visitor) twoVisits others
    fun i => (emitted i).symm ▸ List.prefix_rfl
  exact ⟨(hlive.1 _ (twoVisits.drop 3) rfl).2, hlive.2.2 fun i => ⟨rfl, emitted i⟩⟩

end PubSubTui.Proxy
