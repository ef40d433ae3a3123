import PubSubTui.Pipeline.Attachment
import PubSubTui.Pipeline.Provenance

/-! The messages on the screen, and the one in the detail view: each is what its monitor accepted under its number,
however often the ring has rotated and the connection has failed since. -/

namespace PubSubTui.Pipeline

open Library ActionSystem Observe Monitor Ui

def published (observations : List Observation) : List (String × PublishedMessage) :=
  observations.flatMap fun
    | .publish topic _ messages => messages.map (topic, ·)
    | _ => []

def Numbered (observations : List Observation) (m : RecentMessage) : Prop :=
  (published observations)[m.seq]? = some (m.contents.1, m.contents.2.1)

section Numbers

variable {recentBuffer : ℕ} {observations more : List Observation} {x state : AppState} {m m' : RecentMessage}
  {l : List (String × PublishedMessage × Instant)}

lemma published_append : published (observations ++ more) = published observations ++ published more := by
  simp [published]

lemma Numbered.mono (h : Numbered observations m) (hinit : observations <+: more) : Numbered more m := by
  obtain ⟨rest, rfl⟩ := hinit
  rw [Numbered, published_append, List.getElem?_append_left (List.getElem?_eq_some_iff.mp h).1]
  exact h

lemma contents_of_eraseTime (h : m.eraseTime = m'.eraseTime) :
    m.seq = m'.seq ∧ m.contents.1 = m'.contents.1 ∧ m.contents.2.1 = m'.contents.2.1 := by
  simp only [RecentMessage.eraseTime, RecentMessage.mk.injEq] at h
  simp [RecentMessage.contents, h]

lemma Numbered.of_eraseTime (h : Numbered observations m) (hsame : m'.eraseTime = m.eraseTime) :
    Numbered observations m' := by
  obtain ⟨hseq, htopic, hmessage⟩ := contents_of_eraseTime hsame
  rw [Numbered, hseq, htopic, hmessage]
  exact h

lemma Numbered.unique (h : Numbered observations m) (h' : Numbered observations m') (hseq : m.seq = m'.seq) :
    m.eraseTime = m'.eraseTime := by
  have hsame : (m.contents.1, m.contents.2.1) = (m'.contents.1, m'.contents.2.1) := by
    apply Option.some.inj
    rw [← h, hseq, h']
  simp_all [RecentMessage.eraseTime, RecentMessage.contents]

lemma getElem?_of_mem_numbered {seq : ℕ} (h : m ∈ numbered seq l) : seq ≤ m.seq ∧ l[m.seq - seq]? = some m.contents := by
  induction l generalizing seq with
  | nil => cases h
  | cons c l ih =>
    obtain ⟨topic, message, seen⟩ := c
    rcases List.mem_cons.mp h with rfl | h
    · simp [RecentMessage.ofPublished, RecentMessage.contents]
    · obtain ⟨hle, hget⟩ := ih h
      have hsub : m.seq - seq = m.seq - (seq + 1) + 1 := by omega
      exact ⟨by omega, by rw [hsub, List.getElem?_cons_succ, hget]⟩

lemma published_eq (history : List (Observation × Instant)) : published (history.map Prod.fst) =
    (publishedMessages history).map fun c => (c.1, c.2.1) := by
  induction history with
  | nil => rfl
  | cons e history ih =>
    rw [List.map_cons, publishedMessages, List.flatMap_cons, List.map_append, ← publishedMessages, ← ih]
    obtain ⟨o, now⟩ := e
    cases o <;> simp [published, Observation.captures]

lemma numbered_of_publishes (h : Observer.Publishes recentBuffer observations x) (hm : m ∈ x.recentMessages) :
    Numbered observations m := by
  obtain ⟨history, rfl, rfl⟩ := h
  rw [AppState.trimRecent_eq, AppState.recentMessages_applyAll] at hm
  have hget : (publishedMessages history)[m.seq]? = some m.contents :=
    (getElem?_of_mem_numbered (List.mem_of_mem_drop hm)).2
  rw [Numbered, published_eq, List.getElem?_map, hget]
  rfl

lemma eraseTime_of_shows (h : Shows x state) (hm : m ∈ state.recentMessages) :
    ∃ m' ∈ x.recentMessages, m.eraseTime = m'.eraseTime := by
  obtain ⟨t, t', rfl⟩ := h
  rw [recentMessages_carried] at hm
  obtain ⟨m', hm', rfl⟩ := List.mem_map.mp hm
  exact ⟨m', hm', eraseTime_carried m'⟩

end Numbers

section Details

variable {σ : Type} {E : Encoder} {serde : SerdeJson} {tree : TreeWidget σ} {app app' : App σ} {inputs : List Input}
  {message : RecentMessage} {scroll : UInt16}

lemma mem_of_opens {input : Input} (h : app.Opens message input) : message ∈ input.state.recentMessages := by
  cases input with
  | frame => cases h
  | event event state now =>
    cases event with
    | key => exact h.2.2.2
    | focusGained | focusLost | mouse | paste | resize => cases h

lemma detail_of_inputs (hc : app.Consistent) (h : exec (App.step serde tree) app inputs = some app')
    (hopen : app'.messageView = .detail message scroll) :
    (∃ scroll, app.messageView = .detail message scroll) ∨ ∃ input ∈ inputs, message ∈ input.state.recentMessages := by
  induction inputs generalizing app with
  | nil =>
    cases h
    exact .inl ⟨scroll, hopen⟩
  | cons input inputs ih =>
    cases hstep : app.step serde tree input with
    | none => simp [exec, hstep] at h
    | some next =>
      have hmoves := App.moves_of_step hc hstep
      rcases ih (hmoves.consistent hc) (by rwa [exec_cons hstep] at h) with ⟨scroll', hnext⟩ | ⟨later, hmem, hmessage⟩
      · cases hmoves with
        | idle | quit | select => exact .inl ⟨scroll', hnext⟩
        | enterPanel | leavePanel | back => cases hnext
        | scroll _ _ hv =>
          cases hnext
          exact .inl ⟨_, hv⟩
        | opened ho =>
          cases hnext
          exact .inr ⟨input, List.mem_cons_self, mem_of_opens ho⟩
      · exact .inr ⟨later, List.mem_cons_of_mem input hmem, hmessage⟩

end Details

namespace Interface

variable {σ : Type} {E : Encoder} {serde : SerdeJson} {tree : TreeWidget σ} {log : List AppState}
  {interface : Interface σ}
  {loop : RunLoop σ}

def Opened (log : List AppState) (interface : Interface σ) : Prop :=
  ∀ message scroll, interface.loop.app.messageView = .detail message scroll →
    ∃ x ∈ log, ∃ m ∈ x.recentMessages, message.eraseTime = m.eraseTime

lemma Opened.append_log (h : interface.Opened log) (later : List AppState) : interface.Opened (log ++ later) := by
  intro message scroll hopen
  obtain ⟨x, hx, hmessage⟩ := h message scroll hopen
  exact ⟨x, List.mem_append_left _ hx, hmessage⟩

lemma held_of_reads (h : Reads log interface.chain) : ∃ x ∈ log, Shows x interface.loop.snapshot :=
  h.exists_mem (List.mem_append_right _ List.mem_cons_self)

lemma opened_turned (hreads : Reads log interface.chain) (hdriven : interface.Driven serde tree)
    (hopened : interface.Opened log)
    (ht : interface.loop.Turned serde tree interface.client.snapshots interface.client.connected loop) :
    (interface.after loop).Opened log := by
  obtain ⟨inputs, hrun, hinputs⟩ := ht.app
  intro message scroll hopen
  rw [loop_after] at hopen
  rcases detail_of_inputs hdriven.consistent hrun hopen with ⟨before, hbefore⟩ | ⟨input, hmem, hmessage⟩
  · exact hopened message before hbefore
  · have hheld : ∃ x ∈ log, Shows x input.state := by
      rcases hinputs input hmem with hold | hnew
      · rw [hold]
        exact held_of_reads hreads
      · have hturned := held_of_reads (reads_turned hreads ht)
        rw [loop_after] at hturned
        rwa [hnew]
    obtain ⟨x, hx, hshows⟩ := hheld
    exact ⟨x, hx, eraseTime_of_shows hshows hmessage⟩

end Interface

namespace System

variable {ι σ : Type} [DecidableEq ι] {E : Encoder} {serde : SerdeJson} {tree : TreeWidget σ} {s : System ι σ}
  {actions : List (Action ι)} {recentBuffer : ℕ} {header : ι → String} {m : RecentMessage}

lemma opened_exec (h : exec (step E serde tree) (start tree recentBuffer header) actions = some s) (i : ι) :
    (s.interfaces i).Opened s.log := by
  have hinv : Reads s.log (s.interfaces i).chain ∧ (s.interfaces i).Driven serde tree ∧ (s.interfaces i).Opened s.log := by
    refine interfaces_invariant (P := fun log _ interface => Reads log interface.chain ∧
      interface.Driven serde tree ∧ interface.Opened log) ?_ ?_ ?_ ?_ h i
    · intro title
      exact ⟨.read shows_empty (.read shows_empty (.done _)), ⟨fun _ => ⟨rfl, rfl⟩, fun _ => rfl⟩, by rintro _ _ ⟨⟩⟩
    · rintro log snapshots interface action interface' hlog - ⟨hreads, hdriven, hopened⟩ hstep
      cases Interface.moves hstep with
      | client hm => exact ⟨Interface.reads_client hreads hm, ⟨hdriven.consistent, hdriven.kept⟩, hopened⟩
      | served hs => exact ⟨Interface.reads_served hreads hlog hs, ⟨hdriven.consistent, hdriven.kept⟩, hopened⟩
      | turned live ht =>
        exact ⟨Interface.reads_turned hreads ht, Interface.driven_turned hdriven live ht,
          Interface.opened_turned hreads hdriven hopened ht⟩
    · rintro log snapshots interface x ⟨hreads, hdriven, hopened⟩
      exact ⟨hreads.append_log [x], hdriven, hopened.append_log [x]⟩
    · rintro log snapshots interface ⟨hreads, hdriven, hopened⟩
      rw [Interface.chain_sever]
      exact ⟨hreads.append_log _, ⟨hdriven.consistent, hdriven.kept⟩, Interface.Opened.append_log hopened _⟩
  exact hinv.2.2

lemma numbered_of_log (h : exec (step E serde tree) (start tree recentBuffer header) actions = some s) {x : AppState}
    (hx : x ∈ s.log) : ∃ monitor ∈ s.monitors, ∀ m ∈ x.recentMessages, Numbered monitor.sink.sent m := by
  rcases publishes_of_log h hx with rfl | ⟨monitor, hmonitor, observations, hinit, hpublishes⟩
  · exact ⟨s.monitor, by simp [monitors], by simp⟩
  · refine ⟨monitor, hmonitor, fun m hm => ?_⟩
    exact (numbered_of_publishes hpublishes hm).mono (hinit.trans Channel.received_prefix_sent)

end System

/-- Each message in a frame, and each in a detail view, is the one its monitor accepted under that number. While
there has been one monitor, all screens agree on what a number stands for. -/
theorem messages_are_those_published {ι σ : Type} [DecidableEq ι] (E : Encoder) (serde : SerdeJson)
    (tree : TreeWidget σ) (recentBuffer : ℕ) (header : ι → String) (actions : List (System.Action ι)) (s : System ι σ)
    (h : exec (System.step E serde tree) (.start tree recentBuffer header) actions = some s) :
    (∀ i, ∀ frame ∈ (s.interfaces i).loop.frames, ∃ monitor ∈ s.monitors,
      ∀ m ∈ frame.state.recentMessages, Numbered monitor.sink.sent m) ∧
    (∀ i message scroll, (s.interfaces i).loop.app.messageView = .detail message scroll →
      ∃ monitor ∈ s.monitors, Numbered monitor.sink.sent message) ∧
    (s.past = [] → ∀ i j, ∀ frame ∈ (s.interfaces i).loop.frames, ∀ frame' ∈ (s.interfaces j).loop.frames,
      ∀ m ∈ frame.state.recentMessages, ∀ m' ∈ frame'.state.recentMessages, m.seq = m'.seq →
        m.eraseTime = m'.eraseTime) := by
  have hframes (i : ι) : ∀ frame ∈ (s.interfaces i).loop.frames, ∃ monitor ∈ s.monitors,
      ∀ m ∈ frame.state.recentMessages, Numbered monitor.sink.sent m := by
    intro frame hframe
    have hdrawn : Reads s.log (s.interfaces i).drawn := (System.reads_exec h i).sublist (List.sublist_append_left _ _)
    obtain ⟨x, hx, hshows⟩ := hdrawn.exists_mem (List.mem_map_of_mem hframe)
    obtain ⟨monitor, hmonitor, hnumbered⟩ := System.numbered_of_log h hx
    refine ⟨monitor, hmonitor, fun m hm => ?_⟩
    obtain ⟨m', hm', hsame⟩ := eraseTime_of_shows hshows hm
    exact (hnumbered m' hm').of_eraseTime hsame
  refine ⟨hframes, fun i message scroll hopen => ?_, fun honly i j frame hframe frame' hframe' m hm m' hm' hseq => ?_⟩
  · obtain ⟨x, hx, m, hm, hsame⟩ := System.opened_exec h i message scroll hopen
    obtain ⟨monitor, hmonitor, hnumbered⟩ := System.numbered_of_log h hx
    exact ⟨monitor, hmonitor, (hnumbered m hm).of_eraseTime hsame⟩
  · obtain ⟨monitor, hmonitor, hnumbered⟩ := hframes i frame hframe
    obtain ⟨monitor', hmonitor', hnumbered'⟩ := hframes j frame' hframe'
    simp only [System.monitors, honly, List.nil_append, List.mem_singleton] at hmonitor hmonitor'
    rw [hmonitor] at hnumbered
    rw [hmonitor'] at hnumbered'
    exact (hnumbered m hm).unique (hnumbered' m' hm') hseq

def reading : List (System.Action Unit) :=
  [.interface () (.start true 0), .interface () (.client .dialled), .interface () (.client .subscribed),
    .monitor (.observe (.publish "t" none [{ data := [104, 105], attributes := [], originalLen := 2, truncated := false }])),
    .monitor (.recv 5), .monitor .publish, .interface () (.serve 6), .interface () (.client (.received 7)),
    .interface () (.turn .snapshots true 8), .interface () (.turn (.input (some (.key { code := .tab })) 9) true 9),
    .interface () (.turn (.input (some (.key { code := .enter })) 10) true 10), .interface () (.client .failed)]

theorem messages_are_those_published_of_reading :
    ∃ s, exec (System.step protobuf noJson stillTree) (.start stillTree 200 fun _ => "") reading = some s ∧
      ∃ message, (s.interfaces ()).loop.app.messageView = .detail message 0 ∧
        ∃ monitor ∈ s.monitors, Numbered monitor.sink.sent message := by
  obtain ⟨s, hs, message, hopen⟩ :
      ∃ s, exec (System.step protobuf noJson stillTree) (.start stillTree 200 fun _ => "") reading = some s ∧
        ∃ message, (s.interfaces ()).loop.app.messageView = .detail message 0 := ⟨_, rfl, _, rfl⟩
  have hpublished := messages_are_those_published protobuf noJson stillTree 200 (fun _ => "") reading s hs
  exact ⟨s, hs, message, hopen, hpublished.2.1 () message 0 hopen⟩

end PubSubTui.Pipeline
