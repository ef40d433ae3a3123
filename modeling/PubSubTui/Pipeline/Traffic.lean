import PubSubTui.Monitor.Poller
import PubSubTui.Observe.Observer
import PubSubTui.Proxy.Classification
import PubSubTui.Proxy.LiveConsumers
import PubSubTui.Proxy.StreamingCounts
import PubSubTui.Proxy.Transcoding
import PubSubTui.Proxy.Unary

/-! The monitor's process: streaming pulls, unary calls of either protocol and the admin poller all feed the one
channel of the task that owns the state, whoever is scheduled next. -/

namespace PubSubTui.Pipeline

open Library ActionSystem Observe Monitor Proxy

inductive Call
  | publish (upstream : PublishRequest → Except Status PublishResponse) (peer : Option SocketAddr)
    (request : PublishRequest)
  | pull (upstream : PullRequest → Except Status PullResponse) (peer : Option SocketAddr) (request : PullRequest)
  | acknowledge (upstream : AcknowledgeRequest → Except Status Unit) (peer : Option SocketAddr)
    (request : AcknowledgeRequest)
  | rest (parseUri : String → Option String) (send : UpstreamRequest → Exchange) (request : RestRequest)
    (peer : Option SocketAddr)

def Call.observed (proxy : RestProxy) : Call → List Observation
  | publish upstream peer request => (Proxy.publish proxy.payloadCap upstream peer request).2
  | pull upstream peer request => (Proxy.pull upstream peer request).2
  | acknowledge upstream peer request => (Proxy.acknowledge upstream peer request).2
  | rest parseUri send request peer => (proxy.handle parseUri send request peer).2

structure Process (ι : Type) where
  streams : ι → Stream
  polling : Bool := false
  observer : Observer
  offers : List (Emission ι) := []

namespace Process

inductive Action (ι : Type)
  | stream (i : ι) (action : Proxy.Action)
  | offer (i : ι)
  | call (call : Call)
  | connected
  | polled (admin : Admin)
  | recv (now : Instant)
  | tryRecv
  | publish

variable {ι : Type}

def start (scripts : ι → Script) (recentBuffer : ℕ) : Process ι where
  streams i := (scripts i).start
  observer := .start recentBuffer

def give (p : Process ι) (source : Option ι) (o : Observation) : Process ι :=
  { p with
    observer := { p.observer with sink := p.observer.sink.offer o }
    offers := p.offers ++ [{ source, observation := o, time := 0 }] }

variable [DecidableEq ι]

def step (proxy : RestProxy) (p : Process ι) : Action ι → Option (Process ι)
  | .stream i action =>
    ((p.streams i).step action).map fun stream => { p with streams := Function.update p.streams i stream }
  | .offer i => ((p.streams i).observed[(emittedBy i p.offers).length]?).map (p.give (some i))
  | .call call => some ((call.observed proxy).foldl (·.give none ·) p)
  | .connected => some { p with polling := true }
  | .polled admin => if p.polling then some ((pollOnce admin).elim p (p.give none)) else none
  | .recv now => (p.observer.step (.recv now)).map fun observer => { p with observer }
  | .tryRecv => (p.observer.step .tryRecv).map fun observer => { p with observer }
  | .publish => (p.observer.step .publish).map fun observer => { p with observer }

inductive Moves (p : Process ι) : Process ι → Prop
  | stream {i : ι} {action : Proxy.Action} {stream : Stream} (h : (p.streams i).step action = some stream) :
    Moves p { p with streams := Function.update p.streams i stream }
  | offered {i : ι} {o : Observation} (h : (p.streams i).observed[(emittedBy i p.offers).length]? = some o) :
    Moves p (p.give (some i) o)
  | unary {o : Observation} (quiet : opens o = false ∧ closes o = false) : Moves p (p.give none o)
  | connected (polling : Bool) : Moves p { p with polling }
  | task {action : Observer.Action} {observer : Observer} (own : ∀ o, action ≠ .observe o)
    (h : p.observer.step action = some observer) : Moves p { p with observer }

variable {proxy : RestProxy} {p q : Process ι} {a : Action ι} {actions : List (Action ι)} {scripts : ι → Script}
  {recentBuffer : ℕ}

def Unary (o : Observation) : Prop := (opens o = false ∧ closes o = false) ∧ o.snapshot = none

lemma observed_cases (proxy : RestProxy) (call : Call) :
    call.observed proxy = [] ∨ ∃ o, call.observed proxy = [o] ∧ Unary o := by
  have htapped {Req Resp : Type} {upstream : Req → Except Status Resp} {observation : Resp → Observation}
      {request : Req} (hunary : ∀ response, Unary (observation response)) :
      (tapped upstream observation request).2 = [] ∨ ∃ o, (tapped upstream observation request).2 = [o] ∧ Unary o := by
    rw [tapped]
    cases upstream request with
    | error => exact .inl rfl
    | ok response => exact .inr ⟨_, rfl, hunary response⟩
  cases call with
  | publish | pull | acknowledge => exact htapped fun _ => ⟨⟨rfl, rfl⟩, rfl⟩
  | rest parseUri send request peer =>
    rw [Call.observed, or_iff_not_imp_left]
    intro hne
    obtain ⟨body, status, headers, answer, hrelays, -⟩ := RestProxy.relays_of_observed hne
    rw [RestProxy.handle_of_relays hrelays] at hne ⊢
    obtain ⟨o, ho⟩ : ∃ o, proxy.observe request.method request.path request.headers body status headers answer peer =
        [o] := by
      apply List.length_eq_one_iff.mp
      exact le_antisymm length_observe_le (List.length_pos_iff.mpr hne)
    refine ⟨o, ho, ?_⟩
    obtain ⟨-, -, resource, verb, -, ⟨ht, -, -⟩⟩ := observe_eq_singleton_iff.mp ho
    cases ht <;> exact ⟨⟨rfl, rfl⟩, rfl⟩

lemma moves (h : p.step proxy a = some q) : p.Moves q := by
  cases a with
  | stream i action =>
    obtain ⟨stream, hstream, rfl⟩ := Option.map_eq_some_iff.mp h
    exact .stream hstream
  | offer i =>
    obtain ⟨o, ho, rfl⟩ := Option.map_eq_some_iff.mp h
    exact .offered ho
  | call call =>
    cases h
    rcases observed_cases proxy call with hnone | ⟨o, ho, hquiet, -⟩
    · rw [hnone]
      exact .connected p.polling
    · rw [ho]
      exact .unary hquiet
  | connected =>
    cases h
    exact .connected true
  | polled admin =>
    rw [step] at h
    split_ifs at h
    cases h
    cases hpoll : pollOnce admin with
    | none => exact .connected p.polling
    | some o =>
      obtain ⟨topics, listed, -, -, rfl⟩ := pollOnce_eq_some_iff.mp hpoll
      exact .unary ⟨rfl, rfl⟩
  | recv now | tryRecv | publish =>
    obtain ⟨observer, hobserver, rfl⟩ := Option.map_eq_some_iff.mp h
    exact .task (by simp) hobserver

def offered (p : Process ι) : List Observation := p.offers.map Emission.observation

structure Sound (scripts : ι → Script) (recentBuffer : ℕ) (p : Process ι) : Prop where
  streams (i : ι) : ∃ run, Reaches (scripts i) run (p.streams i)
  emitted (i : ι) : emittedBy i p.offers <+: (p.streams i).observed
  others : ∀ e ∈ p.offers, e.source = none → opens e.observation = false ∧ closes e.observation = false
  accepted : p.observer.sink.sent.Sublist p.offered
  folded : ∃ bursts underway, Observer.Folded recentBuffer p.observer bursts underway

lemma sound_start : (start scripts recentBuffer).Sound scripts recentBuffer where
  streams i := ⟨[], rfl⟩
  emitted i := List.nil_prefix
  others := by simp [start]
  accepted := List.Sublist.refl _
  folded := ⟨[], [], Observer.folded_start⟩

lemma observed_grows {s t : Stream} {action : Proxy.Action} (h : s.step action = some t) : s.observed <+: t.observed := by
  cases Stream.taps h with
  | silent _ _ _ _ observed => exact ⟨[], by rw [observed, List.append_nil]⟩
  | frame _ _ _ _ _ _ observed | response _ _ _ _ _ _ observed | ending _ _ _ _ _ observed =>
    exact ⟨_, observed.symm⟩

lemma emittedBy_snoc {i : ι} {offers : List (Emission ι)} (e : Emission ι) :
    emittedBy i (offers ++ [e]) = emittedBy i offers ++ if e.source = some i then [e.observation] else [] := by
  rw [emittedBy_append, emittedBy_cons]
  simp [emittedBy]

lemma sound_give {source : Option ι} {o : Observation} (hp : p.Sound scripts recentBuffer)
    (hemitted : ∀ i, source = some i → (p.streams i).observed[(emittedBy i p.offers).length]? = some o)
    (hquiet : source = none → opens o = false ∧ closes o = false) : (p.give source o).Sound scripts recentBuffer where
  streams := hp.streams
  emitted i := by
    change emittedBy i (p.offers ++ [_]) <+: (p.streams i).observed
    rw [emittedBy_snoc]
    dsimp only
    split_ifs with hsource
    · obtain ⟨rest, hrest⟩ := hp.emitted i
      have hnext := hemitted i hsource
      rw [← hrest, List.getElem?_append_right le_rfl, Nat.sub_self] at hnext
      cases rest with
      | nil => cases hnext
      | cons o' rest =>
        cases hnext
        exact ⟨rest, by rw [← hrest, List.append_assoc, List.singleton_append]⟩
    · rw [List.append_nil]
      exact hp.emitted i
  others e he hsource := by
    rcases List.mem_append.mp he with he | he
    · exact hp.others e he hsource
    · obtain rfl := List.mem_singleton.mp he
      exact hquiet hsource
  accepted := by
    apply (Channel.sent_offer_sublist p.observer.sink o).trans
    simpa [offered, give] using hp.accepted.append_right [o]
  folded := by
    obtain ⟨bursts, underway, hfolded⟩ := hp.folded
    exact Observer.folded_step hfolded (show p.observer.step (.observe o) = some _ from rfl)

lemma sound_step (hp : p.Sound scripts recentBuffer) (h : p.step proxy a = some q) : q.Sound scripts recentBuffer := by
  cases moves h with
  | @stream i action stream hstream =>
    refine ⟨fun j => ?_, fun j => ?_, hp.others, hp.accepted, hp.folded⟩
    · by_cases hij : j = i
      · subst hij
        obtain ⟨run, hrun⟩ := hp.streams j
        refine ⟨run ++ [action], ?_⟩
        simpa [Reaches, exec_append, show exec Stream.step (scripts j).start run = some _ from hrun, exec_single] using hstream
      · simpa [Function.update_of_ne hij] using hp.streams j
    · by_cases hij : j = i
      · subst hij
        simpa using (hp.emitted j).trans (observed_grows hstream)
      · simpa [Function.update_of_ne hij] using hp.emitted j
  | @offered i o ho =>
    refine sound_give hp (fun j hj => ?_) (by simp)
    cases hj
    exact ho
  | unary hquiet => exact sound_give hp (by simp) fun _ => hquiet
  | connected => exact ⟨hp.streams, hp.emitted, hp.others, hp.accepted, hp.folded⟩
  | @task action observer own hobserver =>
    obtain ⟨bursts, underway, hfolded⟩ := hp.folded
    refine ⟨hp.streams, hp.emitted, hp.others, ?_, Observer.folded_step hfolded hobserver⟩
    have haccepted : observer.sink.sent.Sublist (p.observer.sink.sent ++ Observer.offered [action]) :=
      Observer.accepted_sublist (by rw [exec_single, hobserver])
    have hnone : Observer.offered [action] = [] := by
      cases action with
      | observe o => exact absurd rfl (own o)
      | recv | tryRecv | publish | dropReaders => rfl
    rw [hnone, List.append_nil] at haccepted
    exact haccepted.trans hp.accepted

lemma sound_exec (h : exec (step proxy) (start scripts recentBuffer) actions = some p) :
    p.Sound scripts recentBuffer :=
  exec_invariant (fun _ _ _ hp hstep => sound_step hp hstep) sound_start h

/-- Nothing is on its way: every observation made has been offered, and all that was accepted is published. -/
structure Settled (p : Process ι) : Prop where
  emitted (i : ι) : emittedBy i p.offers = (p.streams i).observed
  idle : p.observer.phase = .waiting
  drained : p.observer.sink.queue = []

def shown (p : Process ι) : AppState := p.observer.snapshots.latest

lemma Settled.exists_history (hsettled : p.Settled) (hp : p.Sound scripts recentBuffer) :
    ∃ history : List (Observation × Instant), history.map Prod.fst = p.observer.sink.sent ∧
      p.shown.topics = ((Observer.emptyState recentBuffer).applyAll history).topics ∧
      p.shown.subscriptions = ((Observer.emptyState recentBuffer).applyAll history).subscriptions := by
  obtain ⟨bursts, underway, hfolded⟩ := hp.folded
  have hsent : p.observer.sink.sent = p.observer.sink.received := by
    rw [Channel.sent, hsettled.drained, List.append_nil]
  cases bursts with
  | nil =>
    have hreceived : p.observer.sink.received = [] := by
      rw [hfolded.received, (hfolded.waiting hsettled.idle).1]
      rfl
    have hlatest : p.shown = {} := by
      rw [shown, Watch.latest, hfolded.published, hfolded.initial]
      rfl
    refine ⟨[], by rw [hsent, hreceived]; rfl, ?_, ?_⟩
    all_goals
      rw [hlatest]
      rfl
  | cons b bursts =>
    obtain ⟨history, hfst, hshown⟩ := hfolded.latest hsettled.idle (by simp)
    refine ⟨history, hfst.trans hsent.symm, ?_, ?_⟩
    all_goals
      rw [shown, hshown, AppState.trimRecent_eq]

section Consumers

variable {names : ι → String} {x : String}

lemma Settled.live_shown (hsettled : p.Settled) (hp : p.Sound scripts recentBuffer) (x : String) :
    (p.shown.subscriptionAt x).liveConsumers =
      (p.observer.sink.sent.foldl (Subscription.after x) {}).liveConsumers := by
  obtain ⟨history, hfst, -, hsubscriptions⟩ := hsettled.exists_history hp
  rw [AppState.subscriptionAt, hsubscriptions, ← hfst]
  exact congrArg Subscription.liveConsumers (AppState.subscriptionAt_applyAll _ _ _)

lemma live_sent_le (hp : p.Sound scripts recentBuffer) (x : String) :
    Nat.dist (p.offered.foldl (Subscription.after x) {}).liveConsumers
        (p.observer.sink.sent.foldl (Subscription.after x) {}).liveConsumers +
      tally (Observation.bracketsOn x) p.observer.sink.sent ≤ tally (Observation.bracketsOn x) p.offered :=
  Subscription.live_foldl_sublist x {} hp.accepted

lemma exists_consumers (hnamed : ∀ i, ∀ req ∈ (scripts i).frames, req.subscription ≠ "" → req.subscription = names i)
    (hp : p.Sound scripts recentBuffer) :
    ∃ consumers : ι → Consumer, ∀ i, (consumers i).name = names i ∧ (consumers i).stream = p.streams i := by
  choose run hrun using hp.streams
  exact ⟨fun i => ⟨scripts i, run i, p.streams i, hrun i, names i, hnamed i⟩, fun i => ⟨rfl, rfl⟩⟩

variable [Fintype ι]

def consuming (names : ι → String) (p : Process ι) (x : String) : Finset ι :=
  Finset.univ.filter (fun i => names i = x ∧ (p.streams i).opened = true ∧ (p.streams i).finished = false)

lemma consuming_observed {script : Script} {run : List Proxy.Action} {stream : Stream} (h : Reaches script run stream) :
    Life.consuming stream.observed = true ↔ stream.opened = true ∧ stream.finished = false := by
  have hlife := Life.consuming_eq (Stream.exec_life h)
  cases ho : stream.opened <;> cases hf : stream.finished <;> simp [Stream.life, ho, hf, Life.consumers] at hlife <;>
    simp [hlife]

lemma Settled.openOn_eq {consumers : ι → Consumer} (hsettled : p.Settled)
    (hconsumers : ∀ i, (consumers i).name = names i ∧ (consumers i).stream = p.streams i) (x : String) :
    openOn consumers p.offers x = p.consuming names x := by
  apply Finset.filter_congr
  intro i _
  rw [hsettled.emitted, ← (hconsumers i).2, consuming_observed (consumers i).reaches, (hconsumers i).1]

lemma Settled.live_offered (hnamed : ∀ i, ∀ req ∈ (scripts i).frames, req.subscription ≠ "" → req.subscription = names i)
    (hsettled : p.Settled) (hp : p.Sound scripts recentBuffer) (x : String) :
    (p.offered.foldl (Subscription.after x) {}).liveConsumers = (p.consuming names x).card := by
  obtain ⟨consumers, hconsumers⟩ := exists_consumers hnamed hp
  have hlive : ((folded p.offers).subscriptionAt x).liveConsumers = (openOn consumers p.offers x).card :=
    live_folded hp.others (fun i => (hconsumers i).2 ▸ hp.emitted i) x
  rw [hsettled.openOn_eq hconsumers, folded, AppState.subscriptionAt_applyAll, List.map_map] at hlive
  exact hlive

end Consumers

end Process

open Process in
/-- The live counts a settled monitor shows are the streaming pulls with a consumer open, up to the openings and
closings that found the channel full. -/
theorem shown_consumers_are_open_streams {ι : Type} [DecidableEq ι] [Fintype ι] (proxy : RestProxy)
    (scripts : ι → Script) (names : ι → String)
    (hnamed : ∀ i, ∀ req ∈ (scripts i).frames, req.subscription ≠ "" → req.subscription = names i)
    (recentBuffer : ℕ) (actions : List (Process.Action ι)) (p : Process ι)
    (h : exec (Process.step proxy) (Process.start scripts recentBuffer) actions = some p) (hsettled : p.Settled) :
    (∀ x, Nat.dist (p.consuming names x).card (p.shown.subscriptionAt x).liveConsumers +
      tally (Observation.bracketsOn x) p.observer.sink.sent ≤ tally (Observation.bracketsOn x) p.offered) ∧
    ((∀ x, tally (Observation.bracketsOn x) p.observer.sink.sent = tally (Observation.bracketsOn x) p.offered) →
      (∀ x, (p.shown.subscriptionAt x).liveConsumers = (p.consuming names x).card) ∧
      p.shown.connectedConsumers =
        (Finset.univ.filter fun i => (p.streams i).opened = true ∧ (p.streams i).finished = false).card) := by
  have hp := sound_exec h
  have hclose (x : String) : Nat.dist (p.consuming names x).card (p.shown.subscriptionAt x).liveConsumers +
      tally (Observation.bracketsOn x) p.observer.sink.sent ≤ tally (Observation.bracketsOn x) p.offered := by
    rw [hsettled.live_shown hp, ← hsettled.live_offered hnamed hp]
    exact live_sent_le hp x
  refine ⟨hclose, fun hkept => ?_⟩
  have hlive (x : String) : (p.shown.subscriptionAt x).liveConsumers = (p.consuming names x).card := by
    have hdist := hclose x
    rw [hkept x] at hdist
    exact (Nat.eq_of_dist_eq_zero (by omega)).symm
  refine ⟨hlive, ?_⟩
  obtain ⟨consumers, hconsumers⟩ := exists_consumers hnamed hp
  have hopen (x : String) : (p.shown.subscriptionAt x).liveConsumers = (openOn consumers p.offers x).card := by
    rw [hlive, hsettled.openOn_eq hconsumers]
  rw [connectedConsumers_eq hopen, openAnywhere]
  congr 1
  apply Finset.filter_congr
  intro i _
  rw [hsettled.emitted, ← (hconsumers i).2, consuming_observed (consumers i).reaches]

def oneVisitOver : List (Process.Action Bool) :=
  [.stream false .readFrame, .offer false, .recv 5, .stream true .readFrame, .stream true .sendRequest, .offer true,
    .tryRecv, .publish, .stream true .readEnd, .offer true, .recv 6, .publish]

theorem shown_consumers_of_one_visit_over :
    ∃ p, exec (Process.step curlProxy) (Process.start (fun _ : Bool => visiting) 200) oneVisitOver = some p ∧
      p.shown.connectedConsumers = 1 := by
  obtain ⟨p, hp, hsettled, hsent, hopen⟩ :
      ∃ p, exec (Process.step curlProxy) (Process.start (fun _ : Bool => visiting) 200) oneVisitOver = some p ∧
        p.Settled ∧ p.observer.sink.sent = p.offered ∧
        (Finset.univ.filter fun i => (p.streams i).opened = true ∧ (p.streams i).finished = false).card = 1 :=
    ⟨_, rfl, ⟨fun i => by cases i <;> rfl, rfl, rfl⟩, rfl, rfl⟩
  have hshown := shown_consumers_are_open_streams curlProxy (fun _ : Bool => visiting)
    (fun _ => "projects/p/subscriptions/s") (by simp [visiting]) 200 oneVisitOver p hp hsettled
  exact ⟨p, hp, (hshown.2 fun x => by rw [hsent]).2.trans hopen⟩

end PubSubTui.Pipeline
