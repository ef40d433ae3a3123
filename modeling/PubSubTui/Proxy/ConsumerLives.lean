import PubSubTui.Observe.Entities
import PubSubTui.Proxy.ConsumerBracket

/-! Any number of consumers feeding one state. The live count of a subscription moves with the lives that
are lived on it, whatever the order in which the observations arrive. -/

namespace PubSubTui.Proxy

open Library Observe ActionSystem

def subscriptionOf : Observation → Option String
  | .deliver subscription .. | .ack subscription .. => some subscription
  | .consumerOpen subscription _ | .consumerClose subscription _ => some subscription
  | .publish .. | .adminSnapshot .. => none

structure Emission (ι : Type*) where
  source : Option ι
  observation : Observation
  time : Instant

namespace Life

variable {l m : Life} {o : Observation} {os : List Observation}

def consumers : Life → ℕ
  | live => 1
  | idle | closed => 0

lemma advance_cases (h : advance l o = some m) :
    (opens o = true ∧ l = .idle ∧ m = .live) ∨ (closes o = true ∧ l = .live ∧ m = .closed) ∨
      (opens o = false ∧ closes o = false ∧ m = l) := by
  cases l <;> cases o <;> simp_all [advance, opens, closes, eq_comm]

def consuming (os : List Observation) : Bool := os.any opens && !os.any closes

lemma consuming_iff : consuming os = true ↔ 0 < os.countP opens ∧ os.countP closes = 0 := by
  simp only [consuming, Bool.and_eq_true, Bool.not_eq_true', List.any_eq_true, List.any_eq_false,
    List.countP_pos_iff, List.countP_eq_zero]

lemma consuming_eq (h : exec advance .idle os = some m) :
    (if consuming os then 1 else 0) = m.consumers := by
  obtain ⟨hopens, hcloses⟩ := exec_counts h
  simp only [consuming_iff]
  cases m with
  | idle =>
    rw [if_neg (by simp only [opened] at hopens; omega)]
    rfl
  | live =>
    rw [if_pos (by simp only [opened, ended] at hopens hcloses; omega)]
    rfl
  | closed =>
    rw [if_neg (by simp only [ended] at hcloses; omega)]
    rfl

end Life

section LiveAfter

variable {x : String}

lemma live_after_quiet {o : Observation} (ho : opens o = false) (hc : closes o = false) (entry : Subscription) :
    (entry.after x o).liveConsumers = entry.liveConsumers := by
  cases o with
  | deliver subscription | ack subscription =>
    simp only [Subscription.after]
    split_ifs <;> rfl
  | consumerOpen => simp [opens] at ho
  | consumerClose => simp [closes] at hc
  | publish => rfl
  | adminSnapshot topics infos =>
    simp only [Subscription.after]
    cases lastListing infos x <;> rfl

lemma live_after_open (n : String) (peer : Option SocketAddr) (entry : Subscription) :
    (entry.after x (.consumerOpen n peer)).liveConsumers = entry.liveConsumers + if n = x then 1 else 0 := by
  simp only [Subscription.after]
  split_ifs <;> rfl

lemma live_after_close (n : String) (peer : Option SocketAddr) (entry : Subscription) :
    (entry.after x (.consumerClose n peer)).liveConsumers = entry.liveConsumers - if n = x then 1 else 0 := by
  simp only [Subscription.after]
  split_ifs <;> rfl

end LiveAfter

section Fleet

variable {ι : Type*} [DecidableEq ι]

def emittedBy (i : ι) (history : List (Emission ι)) : List Observation :=
  (history.filter (fun e => e.source = some i)).map Emission.observation

variable {name : ι → String} {lives lives' : ι → Life} {x : String} {i : ι} {history : List (Emission ι)}

lemma emittedBy_cons (e : Emission ι) :
    emittedBy i (e :: history) = (if e.source = some i then [e.observation] else []) ++ emittedBy i history := by
  by_cases h : e.source = some i <;> simp [emittedBy, h]

lemma emittedBy_append (earlier later : List (Emission ι)) :
    emittedBy i (earlier ++ later) = emittedBy i earlier ++ emittedBy i later := by
  simp [emittedBy]

variable [Fintype ι]

def livesOn (name : ι → String) (lives : ι → Life) (x : String) : ℕ :=
  ∑ i, if name i = x then (lives i).consumers else 0

lemma livesOn_update (l : Life) :
    livesOn name (Function.update lives i l) x + (if name i = x then (lives i).consumers else 0) =
      livesOn name lives x + (if name i = x then l.consumers else 0) := by
  have hrest : ∑ j ∈ Finset.univ.erase i, (if name j = x then (Function.update lives i l j).consumers else 0) =
      ∑ j ∈ Finset.univ.erase i, (if name j = x then (lives j).consumers else 0) := by
    apply Finset.sum_congr rfl
    intro j hj
    rw [Function.update_of_ne (Finset.ne_of_mem_erase hj)]
  rw [livesOn, livesOn, ← Finset.add_sum_erase _ _ (Finset.mem_univ i), hrest, Function.update_self,
    ← Finset.add_sum_erase _ (fun j => if name j = x then (lives j).consumers else 0) (Finset.mem_univ i)]
  omega

lemma live_after_advance {o : Observation} {l : Life} {entry : Subscription}
    (hadv : (lives i).advance o = some l)
    (hname : opens o = true ∨ closes o = true → subscriptionOf o = some (name i))
    {base : ℕ} (hlive : entry.liveConsumers = base + livesOn name lives x) :
    (entry.after x o).liveConsumers = base + livesOn name (Function.update lives i l) x := by
  have hsum : livesOn name (Function.update lives i l) x + (if name i = x then (lives i).consumers else 0) =
      livesOn name lives x + (if name i = x then l.consumers else 0) := livesOn_update l
  rcases Life.advance_cases hadv with ⟨ho, hidle, rfl⟩ | ⟨hc, hl, rfl⟩ | ⟨ho, hc, rfl⟩
  · cases o <;> simp only [opens, Bool.false_eq_true] at ho
    obtain rfl := Option.some.inj (hname (.inl rfl))
    rw [hidle] at hsum
    rw [live_after_open]
    simp only [Life.consumers] at hsum
    split_ifs at hsum ⊢ <;> omega
  · cases o <;> simp only [closes, Bool.false_eq_true] at hc
    obtain rfl := Option.some.inj (hname (.inr rfl))
    rw [hl] at hsum
    rw [live_after_close]
    simp only [Life.consumers] at hsum
    split_ifs at hsum ⊢ <;> omega
  · rw [live_after_quiet ho hc, Function.update_eq_self]
    exact hlive

lemma live_applyAll {state : AppState} {base : String → ℕ}
    (others : ∀ e ∈ history, e.source = none → opens e.observation = false ∧ closes e.observation = false)
    (hnames : ∀ i, ∀ o ∈ emittedBy i history, opens o = true ∨ closes o = true →
      subscriptionOf o = some (name i))
    (hlives : ∀ i, exec Life.advance (lives i) (emittedBy i history) = some (lives' i))
    (hstate : ∀ x, (state.subscriptionAt x).liveConsumers = base x + livesOn name lives x) :
    ((state.applyAll (history.map fun e => (e.observation, e.time))).subscriptionAt x).liveConsumers =
      base x + livesOn name lives' x := by
  induction history generalizing state lives with
  | nil =>
    obtain rfl : lives = lives' := funext fun i => Option.some.inj (hlives i)
    exact hstate x
  | cons e history ih =>
    have others' := fun p hp => others p (List.mem_cons_of_mem e hp)
    have hnames' : ∀ i, ∀ o ∈ emittedBy i history, opens o = true ∨ closes o = true →
        subscriptionOf o = some (name i) := fun i o ho =>
      hnames i o (by rw [emittedBy_cons]; exact List.mem_append_right _ ho)
    cases hsource : e.source with
    | none =>
      have hrest (i : ι) : exec Life.advance (lives i) (emittedBy i history) = some (lives' i) := by
        simpa [emittedBy_cons, hsource] using hlives i
      apply ih others' hnames' hrest
      intro y
      obtain ⟨ho, hc⟩ := others e List.mem_cons_self hsource
      rw [AppState.subscriptionAt_apply, live_after_quiet ho hc]
      exact hstate y
    | some i =>
      have hi := hlives i
      rw [emittedBy_cons, if_pos hsource, exec_append, exec_single] at hi
      obtain ⟨l, hadv, hrest⟩ := Option.bind_eq_some_iff.mp hi
      have hrests (j : ι) :
          exec Life.advance (Function.update lives i l j) (emittedBy j history) = some (lives' j) := by
        by_cases hj : j = i
        · subst hj
          rwa [Function.update_self]
        · rw [Function.update_of_ne hj]
          simpa [emittedBy_cons, hsource, Ne.symm hj] using hlives j
      apply ih others' hnames' hrests
      intro y
      rw [AppState.subscriptionAt_apply]
      exact live_after_advance hadv (hnames i _ (by simp [emittedBy_cons, hsource])) (hstate y)

end Fleet

end PubSubTui.Proxy
