import PubSubTui.Proxy.ConsumerLives

/-! The subscription a streaming pull is attributed to. The latch follows the last frame that names one, so
observations agree on a subscription only as far as the frames do. -/

namespace PubSubTui.Proxy

open Library Observe ActionSystem

def named (frames : List StreamingPullRequest) : List String :=
  (frames.map (·.subscription)).filter (· ≠ "")

def lastNamed (frames : List StreamingPullRequest) : String := (named frames).getLast?.getD ""

/-- Some frame has named a subscription, and the last frame to do so named the same one as the first. -/
def Settled (frames : List StreamingPullRequest) : Prop := (named frames).head? = some (lastNamed frames)

instance (frames : List StreamingPullRequest) : Decidable (Settled frames) :=
  inferInstanceAs (Decidable (_ = _))

section Frames

variable {frames : List StreamingPullRequest} {req : StreamingPullRequest} {name : String}

lemma named_snoc : named (frames ++ [req]) =
    named frames ++ if req.subscription = "" then [] else [req.subscription] := by
  by_cases h : req.subscription = "" <;> simp [named, h]

lemma lastNamed_snoc :
    lastNamed (frames ++ [req]) = if req.subscription = "" then lastNamed frames else req.subscription := by
  by_cases h : req.subscription = "" <;> simp [lastNamed, named_snoc, h]

lemma head_named_snoc (h : (named frames).head? = some name) :
    (named (frames ++ [req])).head? = some name := by
  rw [named_snoc, List.head?_append, h, Option.some_or]

lemma ne_empty_of_named (h : (named frames).head? = some name) : name ≠ "" := by
  have hmem : name ∈ named frames := List.mem_of_head? h
  simpa using (List.mem_filter.mp hmem).2

end Frames

def Stream.OneSubscription (s : Stream) : Prop :=
  ∃ name, name ≠ "" ∧ ∀ o ∈ s.observed, subscriptionOf o = some name

def Stream.RestoresLive (s : Stream) : Prop :=
  ∀ (state : AppState) (history : List (Observation × Instant)) (x : String),
    history.map Prod.fst = s.observed →
      ((state.applyAll history).subscriptionAt x).liveConsumers = (state.subscriptionAt x).liveConsumers

namespace Stream

variable {script : Script} {as bs : List Action} {a : Action} {s t : Stream}

def Ends (s : Stream) : Action → Prop
  | .readEnd | .readError => True
  | .sendRequest => s.requests.closed = true
  | .receive => s.upstream.produced = []
  | .sendResponse => s.responses.closed = true ∨ ∃ status, s.outboundPump = .failing status
  | _ => False

def nextResponse (s : Stream) : Option StreamingPullResponse :=
  match s.upstream with
  | .accepted (resp :: _) _ => some resp
  | _ => none

@[mk_iff]
structure Settles (s : Stream) (a : Action) : Prop where
  acks : a = .readFrame → ∀ req, s.inbound.head? = some req → req.ackIds ≠ [] → Settled (s.read ++ [req])
  deliveries : a = .receive → ∀ resp, s.nextResponse = some resp → resp.receivedMessages ≠ [] → Settled s.read
  ending : s.Ends a → named s.read ≠ [] → Settled s.read

structure Latched (s : Stream) : Prop where
  subscription : s.subscription = lastNamed s.read
  opened : s.opened = true ↔ named s.read ≠ []
  openObserved : ∀ name, (named s.read).head? = some name → ∃ o ∈ s.observed, subscriptionOf o = some name
  unnamed : named s.read = [] → ∀ o ∈ s.observed, subscriptionOf o = some ""

lemma latched_snoc (hl : Latched s) (req : StreamingPullRequest) :
    s.latched req = lastNamed (s.read ++ [req]) := by
  rw [lastNamed_snoc, latched, hl.subscription]

lemma mem_opening {o : Observation} {req : StreamingPullRequest} (hl : Latched s) (ho : o ∈ s.opening req) :
    named s.read = [] ∧ req.subscription ≠ "" ∧ subscriptionOf o = some req.subscription := by
  rw [opening] at ho
  split_ifs at ho with hc
  · simp at ho
  · simp only [not_or, hl.opened, ne_eq, not_not] at hc
    rw [List.mem_singleton.mp ho]
    exact ⟨hc.2, hc.1, rfl⟩

lemma mem_acking {o : Observation} {req : StreamingPullRequest} (ho : o ∈ s.acking req) :
    req.ackIds ≠ [] ∧ subscriptionOf o = some (s.latched req) := by
  rw [acking] at ho
  split_ifs at ho with hc
  · simp at ho
  · rw [List.mem_singleton.mp ho]
    exact ⟨hc, rfl⟩

lemma mem_delivering {o : Observation} {resp : StreamingPullResponse} (ho : o ∈ s.delivering resp) :
    resp.receivedMessages ≠ [] ∧ subscriptionOf o = some s.subscription := by
  rw [delivering] at ho
  split_ifs at ho with hc
  · rw [List.mem_singleton.mp ho]
    exact ⟨List.length_pos_iff.mp hc, rfl⟩
  · simp at ho

lemma mem_closing {o : Observation} (ho : o ∈ s.closing) :
    s.opened = true ∧ subscriptionOf o = some s.subscription := by
  rw [closing] at ho
  split_ifs at ho with hc
  · rw [List.mem_singleton.mp ho]
    exact ⟨hc, rfl⟩
  · simp at ho

lemma openObserved_frame {name : String} {req : StreamingPullRequest} (hl : Latched s)
    (h : (named (s.read ++ [req])).head? = some name) :
    ∃ o ∈ s.observed ++ (s.opening req ++ s.acking req), subscriptionOf o = some name := by
  by_cases hnil : named s.read = []
  · have hopened : s.opened = false := by simpa [hnil] using hl.opened
    by_cases hs : req.subscription = ""
    · simp [named_snoc, hnil, hs] at h
    · obtain rfl : req.subscription = name := by simpa [named_snoc, hnil, hs] using h
      refine ⟨.consumerOpen req.subscription s.peer, ?_, rfl⟩
      simp [opening, hs, hopened]
  · obtain ⟨first, hfirst⟩ := Option.ne_none_iff_exists'.mp (mt List.head?_eq_none_iff.mp hnil)
    obtain rfl : first = name := by simpa [head_named_snoc hfirst] using h
    obtain ⟨o, ho, hname⟩ := hl.openObserved first hfirst
    exact ⟨o, List.mem_append_left _ ho, hname⟩

lemma unnamed_frame {o : Observation} {req : StreamingPullRequest} (hl : Latched s)
    (h : named (s.read ++ [req]) = []) (ho : o ∈ s.observed ++ (s.opening req ++ s.acking req)) :
    subscriptionOf o = some "" := by
  have hlast : s.latched req = "" := by rw [latched_snoc hl, lastNamed, h]; rfl
  rw [named_snoc, List.append_eq_nil_iff] at h
  rcases List.mem_append.mp ho with ho | ho
  · exact hl.unnamed h.1 o ho
  · rcases List.mem_append.mp ho with ho | ho
    · obtain ⟨-, hs, -⟩ := mem_opening hl ho
      simp [hs] at h
    · rw [(mem_acking ho).2, hlast]

lemma latched_step (hl : Latched s) (h : s.step a = some t) : Latched t := by
  have hlast (hnil : named s.read = []) : s.subscription = "" := by rw [hl.subscription, lastNamed, hnil]; rfl
  cases taps h with
  | silent read subscription opened finished observed =>
    exact ⟨by rw [subscription, read, hl.subscription], by rw [opened, read, hl.opened],
      by rw [read, observed]; exact hl.openObserved, by rw [read, observed]; exact hl.unnamed⟩
  | frame req running read subscription opened finished observed =>
    refine ⟨by rw [subscription, read, latched_snoc hl], ?_, ?_, ?_⟩
    · rw [opened, read, named_snoc, Bool.or_eq_true, hl.opened]
      by_cases hs : req.subscription = "" <;> simp [hs]
    · rw [read, observed]
      exact fun name => openObserved_frame hl
    · rw [read, observed]
      exact fun hnil o => unnamed_frame hl hnil
  | response resp running read subscription opened finished observed =>
    refine ⟨by rw [subscription, read, hl.subscription], by rw [opened, read, hl.opened], ?_, ?_⟩
    · rw [read, observed]
      intro name hname
      obtain ⟨o, ho, heq⟩ := hl.openObserved name hname
      exact ⟨o, List.mem_append_left _ ho, heq⟩
    · rw [read, observed]
      intro hnil o ho
      rcases List.mem_append.mp ho with ho | ho
      · exact hl.unnamed hnil o ho
      · rw [(mem_delivering ho).2, hlast hnil]
  | ending running read subscription opened finished observed =>
    refine ⟨by rw [subscription, read, hl.subscription], by rw [opened, read, hl.opened], ?_, ?_⟩
    · rw [read, observed]
      intro name hname
      obtain ⟨o, ho, heq⟩ := hl.openObserved name hname
      exact ⟨o, List.mem_append_left _ ho, heq⟩
    · rw [read, observed]
      intro hnil o ho
      rcases List.mem_append.mp ho with ho | ho
      · exact hl.unnamed hnil o ho
      · rw [(mem_closing ho).2, hlast hnil]

lemma latched_start (script : Script) : Latched script.start := by
  refine ⟨rfl, ?_, ?_, ?_⟩ <;> simp [Script.start, named]

/-! The observations agree with the first naming frame exactly as long as every emission finds the frames
settled. -/

def Agrees (s : Stream) : Prop := ∀ o ∈ s.observed, subscriptionOf o = (named s.read).head?

lemma oneSubscription_iff (hl : Latched s) : OneSubscription s ↔ Agrees s := by
  cases hh : (named s.read).head? with
  | none =>
    have hnil := hl.unnamed (List.head?_eq_none_iff.mp hh)
    constructor
    · rintro ⟨name, hname, hall⟩ o ho
      exact absurd (Option.some.inj ((hall o ho).symm.trans (hnil o ho))) hname
    · intro hall
      have hnone (o) (ho : o ∈ s.observed) : False := by
        have hsome := (hnil o ho).symm.trans (hall o ho)
        rw [hh] at hsome
        exact Option.some_ne_none _ hsome
      exact ⟨"s", by decide, fun o ho => (hnone o ho).elim⟩
  | some first =>
    constructor
    · rintro ⟨name, -, hall⟩ o ho
      obtain ⟨p, hp, hfirst⟩ := hl.openObserved first hh
      rw [hh, ← hfirst, hall p hp, hall o ho]
    · intro hall
      exact ⟨first, ne_empty_of_named hh, fun o ho => (hall o ho).trans hh⟩

lemma agrees_before {o : Observation} {req : StreamingPullRequest} (hl : Latched s) (ho : o ∈ s.observed) :
    subscriptionOf o = (named (s.read ++ [req])).head? ↔ subscriptionOf o = (named s.read).head? := by
  cases hh : (named s.read).head? with
  | some first => rw [head_named_snoc hh]
  | none =>
    have hnil : named s.read = [] := List.head?_eq_none_iff.mp hh
    rw [hl.unnamed hnil o ho, named_snoc, hnil]
    by_cases hs : req.subscription = ""
    · simp [hs]
    · simp [hs, eq_comm]

lemma opening_agrees {req : StreamingPullRequest} (hl : Latched s) :
    ∀ o ∈ s.opening req, subscriptionOf o = (named (s.read ++ [req])).head? := by
  intro o ho
  obtain ⟨hnil, hs, hname⟩ := mem_opening hl ho
  simp [hname, named_snoc, hnil, hs]

lemma acking_agrees {req : StreamingPullRequest} (hl : Latched s) :
    (∀ o ∈ s.acking req, subscriptionOf o = (named (s.read ++ [req])).head?) ↔
      (req.ackIds ≠ [] → Settled (s.read ++ [req])) := by
  rw [Settled, ← latched_snoc hl]
  constructor
  · intro h hne
    exact (h (.ack (s.latched req) s.peer req.ackIds.length) (by simp [acking, hne])).symm
  · intro h o ho
    obtain ⟨hne, hname⟩ := mem_acking ho
    rw [hname, h hne]

lemma delivering_agrees {resp : StreamingPullResponse} (hl : Latched s) :
    (∀ o ∈ s.delivering resp, subscriptionOf o = (named s.read).head?) ↔
      (resp.receivedMessages ≠ [] → Settled s.read) := by
  rw [Settled, ← hl.subscription]
  constructor
  · intro h hne
    have hmem : .deliver s.subscription s.peer resp.receivedMessages.length ∈ s.delivering resp := by
      simp [delivering, List.length_pos_iff.mpr hne]
    exact (h _ hmem).symm
  · intro h o ho
    obtain ⟨hne, hname⟩ := mem_delivering ho
    rw [hname, h hne]

lemma closing_agrees (hl : Latched s) :
    (∀ o ∈ s.closing, subscriptionOf o = (named s.read).head?) ↔ (named s.read ≠ [] → Settled s.read) := by
  rw [Settled, ← hl.subscription, ← hl.opened]
  constructor
  · intro h ho
    exact (h (.consumerClose s.subscription s.peer) (by simp [closing, ho])).symm
  · intro h o ho
    obtain ⟨hopened, hname⟩ := mem_closing ho
    rw [hname, h hopened]

lemma agrees_step (hl : Latched s) (h : s.step a = some t) : Agrees t ↔ Agrees s ∧ Settles s a := by
  cases moves h with
  | readFrame running pump next =>
    simp only [Agrees, List.forall_mem_append, acking_agrees hl, settles_iff]
    rw [and_iff_right (opening_agrees hl)]
    refine and_congr (forall₂_congr fun o ho => agrees_before hl ho) ?_
    simp [next, Ends]
  | receive running pump next =>
    simp only [Agrees, List.forall_mem_append, delivering_agrees hl, settles_iff]
    simp [next, Ends, nextResponse, Upstream.produced]
  | readEnd running pump next | readError running pump =>
    simp only [Agrees, List.forall_mem_append, closing_agrees hl, settles_iff]
    simp [Ends]
  | requestRefused running pump gone =>
    simp only [Agrees, List.forall_mem_append, closing_agrees hl, settles_iff]
    simp [Ends, gone]
  | receiveEnd running pump next =>
    simp only [Agrees, List.forall_mem_append, closing_agrees hl, settles_iff]
    simp [Ends, next, nextResponse, Upstream.produced]
  | sendStatus running pump room =>
    simp only [Agrees, List.forall_mem_append, closing_agrees hl, settles_iff]
    simp [Ends, pump]
  | responseRefused running pump gone =>
    simp only [Agrees, List.forall_mem_append, closing_agrees hl, settles_iff]
    simp [Ends, gone]
  | sendRequest running pump room =>
    have hopen := (Channel.trySend_ok room).1
    rw [settles_iff]
    simp [Agrees, Ends, hopen]
  | sendResponse running pump room =>
    have hopen := (Channel.trySend_ok room).1
    rw [settles_iff]
    simp [Agrees, Ends, hopen, pump]
  | receiveError running pump next =>
    rw [settles_iff]
    simp [Agrees, Ends, nextResponse, next, Upstream.produced]
  | call | rejected | accepted | upstreamTake | upstreamClose | clientTake | clientClose =>
    rw [settles_iff]
    simp [Agrees, Ends]

lemma latched_of_reaches (h : Reaches script as s) : Latched s :=
  exec_invariant (fun _ _ _ => latched_step) (latched_start script) h

lemma agrees_iff_along (h : Reaches script as s) : Agrees s ↔ ActionSystem.Along step Settles script.start as := by
  have hiff := exec_iff_along (fun _ _ _ => latched_step) (fun _ _ _ => agrees_step) (latched_start script) h
  rw [hiff]
  exact and_iff_right (by simp [Agrees, Script.start])

end Stream

namespace Stream

variable {script : Script} {as : List Action} {s : Stream}

lemma livesOn_ended (hf : s.finished = true) (name x : String) :
    livesOn (fun _ : Unit => name) (fun _ => s.life) x = 0 := by
  cases ho : s.opened <;> simp [livesOn, life, ho, hf, Life.consumers]

lemma restoresLive (h : Reaches script as s) (hf : s.finished = true) (hone : OneSubscription s) :
    RestoresLive s := by
  obtain ⟨name, -, hname⟩ := hone
  intro state history x hist
  let emissions : List (Emission Unit) := history.map fun e => ⟨some (), e.1, e.2⟩
  have hemitted : emittedBy () emissions = s.observed := by
    rw [← hist]
    simp [emissions, emittedBy, List.filter_map, Function.comp_def]
  have hhistory : emissions.map (fun e => (e.observation, e.time)) = history := by
    simp [emissions, Function.comp_def]
  have others : ∀ e ∈ emissions, e.source = none → opens e.observation = false ∧ closes e.observation = false := by
    intro e he hsource
    obtain ⟨p, -, rfl⟩ := List.mem_map.mp he
    cases hsource
  have hnames : ∀ i : Unit, ∀ o ∈ emittedBy i emissions, opens o = true ∨ closes o = true →
      subscriptionOf o = some name := fun _ o ho _ => hname o (hemitted ▸ ho)
  have hlives : ∀ i : Unit, exec Life.advance .idle (emittedBy i emissions) = some s.life := fun _ =>
    hemitted ▸ exec_life h
  have hidle (y : String) : (state.subscriptionAt y).liveConsumers =
      (state.subscriptionAt y).liveConsumers + livesOn (fun _ : Unit => name) (fun _ => .idle) y := by
    simp [livesOn, Life.consumers]
  have hlive := live_applyAll (x := x) others hnames hlives hidle
  rwa [hhistory, livesOn_ended hf, Nat.add_zero] at hlive

theorem one_subscription_iff (h : Reaches script as s) :
    (s.OneSubscription ∧ (s.finished = true → s.RestoresLive)) ↔
      ActionSystem.Along step Settles script.start as := by
  rw [← agrees_iff_along h, ← oneSubscription_iff (latched_of_reaches h)]
  exact ⟨fun hboth => hboth.1, fun hone => ⟨hone, fun hf => restoresLive h hf hone⟩⟩

def switching : Script where
  peer := none
  frames := [{ subscription := "projects/p/subscriptions/a" }, { subscription := "projects/p/subscriptions/b" }]
  upstream := .accepted [] none

theorem switching_leaks_consumer :
    ∃ s, Reaches switching [.readFrame, .sendRequest, .readFrame, .sendRequest, .readEnd] s ∧
      s.finished = true ∧ ¬ s.OneSubscription ∧ ¬ s.RestoresLive := by
  refine ⟨_, rfl, rfl, ?_, ?_⟩
  · rintro ⟨name, -, hall⟩
    have hopen := hall (.consumerOpen "projects/p/subscriptions/a" none) (by decide)
    have hclose := hall (.consumerClose "projects/p/subscriptions/b" none) (by decide)
    exact absurd (hopen.trans hclose.symm) (by decide)
  · intro hrestores
    have hlive := hrestores {} [(.consumerOpen "projects/p/subscriptions/a" none, 0),
      (.consumerClose "projects/p/subscriptions/b" none, 0)] "projects/p/subscriptions/a" rfl
    exact absurd hlive (by decide)

theorem one_subscription_of_late_name :
    ∃ s, Reaches refused [.readFrame, .sendRequest, .readFrame, .call, .answer, .sendResponse] s ∧
      ¬ (s.OneSubscription ∧ (s.finished = true → s.RestoresLive)) := by
  have h : Reaches refused [.readFrame, .sendRequest, .readFrame, .call, .answer, .sendResponse] _ := rfl
  refine ⟨_, h, fun hboth => ?_⟩
  have hacks := ((one_subscription_iff h).mp hboth).1.acks rfl { ackIds := ["a"] } rfl (by decide)
  exact absurd hacks (by decide)

end Stream

end PubSubTui.Proxy
