import PubSubTui.Pipeline.Traffic
import PubSubTui.Proxy.Chaining
import PubSubTui.Proxy.Spellings
import PubSubTui.Ui.Screen

/-! What a settled monitor shows is what was relayed through it, less what found the channel full, and what the
last poll to succeed has listed. -/

namespace PubSubTui.Pipeline

open Library ActionSystem Observe Monitor Proxy Ui

section Rest

variable (proxy : RestProxy) (parseUri : String → Option String) (send : UpstreamRequest → Exchange)
  (request : RestRequest) (peer : Option SocketAddr)

/-- The length of the array that a REST call of `verb` hands to the upstream, where the call succeeds. -/
def restLength (verb kind field : String) : ℕ :=
  match resourceAndVerb request.path with
  | none => 0
  | some (resource, called) =>
    if (request.method = .post ∧ (proxy.handle parseUri send request peer).1.status.isSuccess = true) ∧
        called = verb ∧ Contains resource kind then
      (proxy.decoders.elements (proxy.decoders.content request.headers (request.body.getD [])) field).length
    else 0

variable {proxy parseUri send request peer}

section Reports

variable {weight : Observation → ℕ} {f : List Json → Observation} {values : List Json}

end Reports

variable {requestHeaders responseHeaders : HeaderMap} {requestBody responseBody : Bytes} {resource called : String}

end Rest

def Call.acks (proxy : RestProxy) : Call → ℕ
  | publish .. | pull .. => 0
  | acknowledge upstream _ request => if (upstream request).isOk then request.ackIds.length else 0
  | rest parseUri send request peer =>
    restLength proxy parseUri send request peer "acknowledge" "/subscriptions/" "ackIds"

def Call.publishes (proxy : RestProxy) : Call → ℕ
  | publish upstream _ request => if (upstream request).isOk then request.messages.length else 0
  | pull .. | acknowledge .. => 0
  | rest parseUri send request peer => restLength proxy parseUri send request peer "publish" "/topics/" "messages"

def Call.Legible : Call → Prop
  | rest _ _ request _ => Proxy.Legible request.headers
  | publish .. | pull .. | acknowledge .. => True

namespace Process

variable {ι : Type}

def calls (actions : List (Action ι)) : List Call :=
  actions.filterMap fun
    | .call call => some call
    | _ => none

def polls (actions : List (Action ι)) : List Admin :=
  actions.filterMap fun
    | .polled admin => some admin
    | _ => none

def others (p : Process ι) : List Observation :=
  (p.offers.filter (·.source.isNone)).map Emission.observation

variable {proxy : RestProxy} {p q : Process ι} {a : Action ι} {actions : List (Action ι)}
  {scripts : ι → Script} {recentBuffer : ℕ}

def Action.others (proxy : RestProxy) : Action ι → List Observation
  | .call made => made.observed proxy
  | .polled admin => (pollOnce admin).toList
  | _ => []

lemma others_give (source : Option ι) (o : Observation) :
    (p.give source o).others = p.others ++ if source.isNone then [o] else [] := by
  cases source <;> simp [others, give]

lemma snapshots_others (actions : List (Action ι)) :
    (actions.flatMap (Action.others proxy)).filterMap Observation.snapshot = (polls actions).filterMap Admin.listing := by
  induction actions with
  | nil => rfl
  | cons a actions ih =>
    rw [List.flatMap_cons, List.filterMap_append, ih]
    cases a with
    | call call =>
      rcases observed_cases proxy call with hnone | ⟨o, ho, -, hunlisted⟩
      · simp [Action.others, polls, hnone]
      · simp [Action.others, polls, ho, hunlisted]
    | polled admin =>
      cases hpoll : pollOnce admin with
      | none => simp [Action.others, polls, Admin.listing, hpoll]
      | some o =>
        cases hsnapshot : o.snapshot <;> simp [Action.others, polls, Admin.listing, hpoll, hsnapshot]
    | stream | offer | connected | recv | tryRecv | publish => rfl

lemma snapshots_offers {offers : List (Emission ι)}
    (h : ∀ e ∈ offers, ∀ i, e.source = some i → e.observation.snapshot = none) :
    (offers.map Emission.observation).filterMap Observation.snapshot =
      ((offers.filter (·.source.isNone)).map Emission.observation).filterMap Observation.snapshot := by
  induction offers with
  | nil => rfl
  | cons e offers ih =>
    have htail := ih fun e' he' => h e' (List.mem_cons_of_mem e he')
    cases hsource : e.source with
    | none => cases hlisted : e.observation.snapshot <;> simpa [hsource, hlisted] using htail
    | some i =>
      have hnone := h e List.mem_cons_self i hsource
      simpa [hsource, hnone] using htail

variable [DecidableEq ι]

lemma others_step (h : p.step proxy a = some q) : q.others = p.others ++ a.others proxy := by
  cases a with
  | stream i action =>
    obtain ⟨stream, -, rfl⟩ := Option.map_eq_some_iff.mp h
    exact (List.append_nil _).symm
  | offer i =>
    obtain ⟨o, -, rfl⟩ := Option.map_eq_some_iff.mp h
    exact others_give _ _
  | call call =>
    cases h
    rcases observed_cases proxy call with hnone | ⟨o, ho, -⟩
    · simp [Action.others, hnone]
    · simp [Action.others, ho, others_give]
  | connected =>
    cases h
    exact (List.append_nil _).symm
  | polled admin =>
    rw [step] at h
    split_ifs at h
    cases h
    cases hpoll : pollOnce admin <;> simp [Action.others, hpoll, others_give]
  | recv now | tryRecv | publish =>
    obtain ⟨observer, -, rfl⟩ := Option.map_eq_some_iff.mp h
    exact (List.append_nil _).symm

lemma others_exec {s : Process ι} (h : exec (step proxy) s actions = some p) :
    p.others = s.others ++ actions.flatMap (Action.others proxy) := by
  induction actions generalizing s with
  | nil =>
    cases h
    simp
  | cons a actions ih =>
    cases ha : s.step proxy a with
    | none => simp [exec, ha] at h
    | some u =>
      rw [ih (by rwa [exec_cons ha] at h), others_step ha, List.flatMap_cons, List.append_assoc]

section Totals

variable [Fintype ι] {weight : Observation → ℕ}

lemma unpublished_of_life {l m : Life} {observations : List Observation}
    (h : exec Life.advance l observations = some m) :
    tally Observation.published observations = 0 ∧ observations.filterMap Observation.snapshot = [] := by
  induction observations generalizing l with
  | nil => exact ⟨rfl, rfl⟩
  | cons o observations ih =>
    cases ho : l.advance o with
    | none => simp [exec, ho] at h
    | some k =>
      obtain ⟨hpublished, hsnapshot⟩ := ih (by rwa [exec_cons ho] at h)
      rcases Life.advance_cases ho with ⟨hopens, -⟩ | ⟨hcloses, -⟩ | ⟨-, -, rfl⟩
      · cases o <;> simp_all [opens, tally, Observation.published, Observation.snapshot]
      · cases o <;> simp_all [closes, tally, Observation.published, Observation.snapshot]
      · cases k <;> cases o <;> simp_all [Life.advance, tally, Observation.published, Observation.snapshot]

end Totals

lemma snapshots_offered (h : exec (step proxy) (start scripts recentBuffer) actions = some p) :
    p.offered.filterMap Observation.snapshot = (polls actions).filterMap Admin.listing := by
  have hothers : p.others = actions.flatMap (Action.others proxy) := (others_exec h).trans (List.nil_append _)
  have hp := sound_exec h
  have hstreams : ∀ e ∈ p.offers, ∀ i, e.source = some i → e.observation.snapshot = none := by
    intro e he i hi
    obtain ⟨run, hrun⟩ := hp.streams i
    have hmem : e.observation ∈ (p.streams i).observed := by
      apply (hp.emitted i).subset
      exact List.mem_map_of_mem (List.mem_filter.mpr ⟨he, by simpa using hi⟩)
    have hnone := (unpublished_of_life (Stream.exec_life hrun)).2
    exact List.filterMap_eq_nil_iff.mp hnone _ hmem
  rw [offered, snapshots_offers hstreams, ← others, hothers, snapshots_others]

lemma Settled.latest_listing (hsettled : p.Settled) (h : exec (step proxy) (start scripts recentBuffer) actions = some p)
    (hkept : p.observer.sink.sent.filterMap Observation.snapshot = p.offered.filterMap Observation.snapshot)
    {earlier later : List Admin} {admin : Admin} (hpolls : polls actions = earlier ++ admin :: later)
    (hlater : ∀ failed ∈ later, pollOnce failed = none) {listing : List String × List SubscriptionInfo}
    (hlisting : admin.listing = some listing) :
    ∃ history : List (Observation × Instant),
      history.filterMap (fun e => e.1.snapshot) = earlier.filterMap Admin.listing ++ [listing] ∧
      p.shown.topics = ((Observer.emptyState recentBuffer).applyAll history).topics ∧
      p.shown.subscriptions = ((Observer.emptyState recentBuffer).applyAll history).subscriptions := by
  obtain ⟨history, hfst, htopics, hsubscriptions⟩ := hsettled.exists_history (sound_exec h)
  refine ⟨history, ?_, htopics, hsubscriptions⟩
  have hnone : later.filterMap Admin.listing = [] := by
    rw [List.filterMap_eq_nil_iff]
    intro failed hfailed
    rw [Admin.listing, hlater failed hfailed, Option.bind_none]
  calc history.filterMap (fun e => e.1.snapshot)
      = (history.map Prod.fst).filterMap Observation.snapshot := by rw [List.filterMap_map]; rfl
    _ = (polls actions).filterMap Admin.listing := by rw [hfst, hkept, snapshots_offered h]
    _ = earlier.filterMap Admin.listing ++ [listing] := by
      rw [hpolls, List.filterMap_append, List.filterMap_cons, hlisting, hnone]

end Process

open Process in
/-- Which topics and subscriptions a settled monitor takes to exist is what the last poll to succeed has listed,
whatever polls have failed since and whatever traffic there has been, if no poll's snapshot found the channel full. -/
theorem metadata_is_of_the_last_poll {ι : Type} [DecidableEq ι] (proxy : RestProxy) (scripts : ι → Script)
    (recentBuffer : ℕ) (actions : List (Process.Action ι)) (p : Process ι)
    (h : exec (Process.step proxy) (Process.start scripts recentBuffer) actions = some p) (hsettled : p.Settled)
    (hkept : p.observer.sink.sent.filterMap Observation.snapshot = p.offered.filterMap Observation.snapshot)
    (earlier later : List Admin) (admin : Admin) (hpolls : polls actions = earlier ++ admin :: later)
    (hlater : ∀ failed ∈ later, pollOnce failed = none) (topics : List String) (listed : List (String × Option String))
    (htopics : admin.topics = some topics) (hlisted : admin.subscriptions = some listed) :
    (∀ t, (p.shown.topicAt t).exists_ = true ↔ t ∈ topics) ∧ p.shown.topicCount = topics.dedup.length ∧
    (∀ x, (p.shown.subscriptionAt x).exists_ = true ↔ ∃ topic, (x, some topic) ∈ listed) ∧
    ∀ x topic, (x, some topic) ∈ listed → (∀ topic', (x, some topic') ∈ listed → topic' = topic) →
      (p.shown.subscriptionAt x).topic = some topic := by
  obtain ⟨history, hhistory, hshownTopics, hshownSubscriptions⟩ :=
    hsettled.latest_listing h hkept hpolls hlater (listing_of_answers htopics hlisted)
  have hlatest : latestSnapshot history = some (topics, fetched listed) := by
    rw [latestSnapshot, hhistory, List.getLast?_concat]
  have htopic (t : String) : (p.shown.topicAt t).exists_ = true ↔ t ∈ topics := by
    have hflag := AppState.topicExists_applyAll (Observer.emptyState recentBuffer) t history
    rw [hlatest, Option.map_some, Option.some_or, Option.some.injEq, AppState.topicAt, ← hshownTopics] at hflag
    rw [AppState.topicAt, hflag, decide_eq_true_eq]
  refine ⟨htopic, ?_, fun x => ?_, fun x topic hmem hunique => ?_⟩
  · rw [p.shown.topicCount_eq topics.toFinset (by simpa using htopic), List.card_toFinset]
  · have hflag := AppState.subscriptionExists_applyAll (Observer.emptyState recentBuffer) x history
    rw [hlatest, Option.map_some, Option.some_or, Option.some.injEq, AppState.subscriptionAt,
      ← hshownSubscriptions] at hflag
    rw [AppState.subscriptionAt, hflag, isSome_lastListing]
    exact exists_fetched_iff
  · have hlisting (e : Observation × Instant) : (e.1.listing x).map SubscriptionInfo.topic =
        e.1.snapshot.bind fun listing => (lastListing listing.2 x).map SubscriptionInfo.topic := by
      cases hsnapshot : e.1.snapshot <;> simp [Observation.listing, hsnapshot]
    have hlast : latestTopic history x = some topic := by
      simp only [latestTopic, hlisting]
      rw [← List.filterMap_filterMap, hhistory, List.filterMap_append, List.filterMap_cons,
        lastListing_fetched hmem hunique, List.filterMap_nil, List.getLast?_concat]
    have hparent := AppState.topic_applyAll (Observer.emptyState recentBuffer) x history
    rw [hlast, Option.some_or, AppState.subscriptionAt, ← hshownSubscriptions] at hparent
    exact hparent

def pollsOfOutage : List (Process.Action Unit) :=
  [.connected, .polled { topics := some ["t"], subscriptions := some [] }, .recv 5, .publish,
    .polled { topics := some ["u"], subscriptions := some [("s", some "u"), ("gone", none)] },
    .polled { topics := some ["u"], subscriptions := none }, .recv 6, .publish]

theorem metadata_of_outage :
    ∃ p, exec (Process.step curlProxy) (Process.start (fun _ : Unit => visiting) 200) pollsOfOutage = some p ∧
      (p.shown.topicAt "t").exists_ = false ∧ p.shown.topicCount = 1 ∧
      (p.shown.subscriptionAt "gone").exists_ = false ∧ (p.shown.subscriptionAt "s").topic = some "u" := by
  obtain ⟨p, hp, hsettled, hkept⟩ :
      ∃ p, exec (Process.step curlProxy) (Process.start (fun _ : Unit => visiting) 200) pollsOfOutage = some p ∧
        p.Settled ∧ p.observer.sink.sent = p.offered := ⟨_, rfl, ⟨fun i => rfl, rfl, rfl⟩, rfl⟩
  obtain ⟨htopic, hcount, hsubscription, hparent⟩ := metadata_is_of_the_last_poll curlProxy
    (fun _ : Unit => visiting) 200 pollsOfOutage p hp hsettled (by rw [hkept])
    [{ topics := some ["t"], subscriptions := some [] }] [{ topics := some ["u"], subscriptions := none }]
    { topics := some ["u"], subscriptions := some [("s", some "u"), ("gone", none)] } rfl (by simp [pollOnce]) ["u"]
    [("s", some "u"), ("gone", none)] rfl rfl
  refine ⟨p, hp, ?_, hcount, ?_, hparent "s" "u" (by simp) (by simp)⟩
  · exact Bool.eq_false_iff.mpr (mt (htopic "t").mp (by decide))
  · apply Bool.eq_false_iff.mpr
    exact mt (hsubscription "gone").mp (by simp)

end PubSubTui.Pipeline
