import PubSubTui.Proxy.StreamingMoves

/-! The life of one consumer as its observations tell it: it opens at most once, and having opened it closes
once, after everything else. The task of a call never leaves that life. -/

namespace PubSubTui.Proxy

open Library Observe ActionSystem

def opens : Observation → Bool
  | .consumerOpen .. => true
  | _ => false

def closes : Observation → Bool
  | .consumerClose .. => true
  | _ => false

inductive Life
  | idle | live | closed
  deriving DecidableEq

namespace Life

def advance : Life → Observation → Option Life
  | .idle, .consumerOpen .. => some .live
  | .idle, .deliver .. | .idle, .ack .. => some .idle
  | .live, .deliver .. | .live, .ack .. => some .live
  | .live, .consumerClose .. => some .closed
  | _, _ => none

def opened : Life → ℕ
  | idle => 0
  | live | closed => 1

def ended : Life → ℕ
  | idle | live => 0
  | closed => 1

variable {l m : Life} {o : Observation} {os before after : List Observation}

lemma advance_counts (h : advance l o = some m) :
    l.opened + (if opens o then 1 else 0) = m.opened ∧ l.ended + (if closes o then 1 else 0) = m.ended := by
  cases l <;> cases o <;> simp only [advance, reduceCtorEq, Option.some.injEq] at h <;> subst h <;>
    exact ⟨rfl, rfl⟩

lemma exec_counts (h : exec advance l os = some m) :
    l.opened + os.countP opens = m.opened ∧ l.ended + os.countP closes = m.ended := by
  induction os generalizing l with
  | nil => cases h; exact ⟨rfl, rfl⟩
  | cons o os ih =>
    cases ho : advance l o with
    | none => simp [exec, ho] at h
    | some k =>
      obtain ⟨hopens, hcloses⟩ := ih (by rwa [exec_cons ho] at h)
      obtain ⟨hopen, hclose⟩ := advance_counts ho
      rw [List.countP_cons, List.countP_cons]
      omega

lemma exec_closed (h : exec advance .closed os = some m) : os = [] ∧ m = .closed := by
  cases os with
  | nil => cases h; exact ⟨rfl, rfl⟩
  | cons o os => cases o <;> simp [exec, advance] at h

lemma closes_advance (ho : closes o = true) (h : advance l o = some m) : m = .closed := by
  cases l <;> cases o <;> simp_all [advance, closes]

lemma close_last (h : exec advance l (before ++ o :: after) = some m) (ho : closes o = true) : after = [] := by
  rw [exec_append] at h
  obtain ⟨k, -, hk⟩ := Option.bind_eq_some_iff.mp h
  obtain ⟨n, hn, hafter⟩ := Option.bind_eq_some_iff.mp hk
  obtain rfl := closes_advance ho hn
  exact (exec_closed hafter).1

end Life

namespace Stream

variable {script : Script} {as bs : List Action} {a : Action} {s t : Stream}

def life (s : Stream) : Life :=
  if s.opened then if s.finished then .closed else .live else .idle

lemma exec_acks {l : Life} (hl : l ≠ .closed) (s : Stream) (req : StreamingPullRequest) :
    exec Life.advance l (s.acking req) = some l := by
  cases l <;> by_cases ha : req.ackIds = [] <;> simp_all [acking, exec, Life.advance]

lemma life_frame (hf : s.finished = false) (req : StreamingPullRequest) :
    exec Life.advance s.life (s.opening req ++ s.acking req) =
      some (if s.opened || req.subscription ≠ "" then .live else .idle) := by
  rw [exec_append]
  cases ho : s.opened with
  | true => simpa [life, opening, ho, hf] using exec_acks (by simp) s req
  | false =>
    by_cases hs : req.subscription = ""
    · simpa [life, opening, ho, hs] using exec_acks (by simp) s req
    · simpa [life, opening, ho, hs, exec, Life.advance] using exec_acks (by simp) s req

lemma life_delivering (hf : s.finished = false) (resp : StreamingPullResponse) :
    exec Life.advance s.life (s.delivering resp) = some s.life := by
  cases ho : s.opened <;> by_cases hm : resp.receivedMessages.length > 0 <;>
    simp [life, delivering, ho, hf, hm, exec, Life.advance]

lemma life_closing (hf : s.finished = false) :
    exec Life.advance s.life s.closing = some (if s.opened then .closed else .idle) := by
  cases ho : s.opened <;> simp [life, closing, ho, hf, exec, Life.advance]

lemma life_step (h : s.step a = some t) (hs : exec Life.advance .idle s.observed = some s.life) :
    exec Life.advance .idle t.observed = some t.life := by
  have hnext {os : List Observation} (ht : t.observed = s.observed ++ os) :
      exec Life.advance .idle t.observed = exec Life.advance s.life os := by
    rw [ht, exec_append, hs, Option.bind_some]
  cases taps h with
  | silent _ _ opened finished observed => rw [observed, hs, life, life, opened, finished]
  | frame req running _ _ opened finished observed =>
    rw [hnext observed, life_frame running, life, opened, finished]
    simp
  | response resp running _ _ opened finished observed =>
    rw [hnext observed, life_delivering running, life, life, opened, finished, running]
  | ending running _ _ opened finished observed =>
    rw [hnext observed, life_closing running, life, opened, finished]
    simp

lemma exec_life (h : Reaches script as s) : exec Life.advance .idle s.observed = some s.life :=
  exec_invariant (P := fun s => exec Life.advance .idle s.observed = some s.life)
    (fun _ _ _ hs h => life_step h hs) rfl h

lemma opened_iff (h : Reaches script as s) : s.opened = true ↔ ∃ req ∈ s.read, req.subscription ≠ "" := by
  refine exec_invariant (P := fun s => s.opened = true ↔ ∃ req ∈ s.read, req.subscription ≠ "")
    (fun u b v hu h => ?_) (by simp [Script.start]) h
  cases taps h with
  | frame req _ read _ opened =>
    rw [opened, read, Bool.or_eq_true, hu]
    simp only [List.mem_append, List.mem_singleton, or_and_right, exists_or, exists_eq_left,
      decide_eq_true_eq]
  | silent read _ opened => rw [read, opened, hu]
  | response _ _ read _ opened => rw [read, opened, hu]
  | ending _ read _ opened => rw [read, opened, hu]

lemma opened_life (s : Stream) : s.life.opened = if s.opened then 1 else 0 := by
  cases ho : s.opened <;> cases hf : s.finished <;> simp [life, ho, hf, Life.opened]

lemma ended_life (s : Stream) : s.life.ended = if s.finished then s.life.opened else 0 := by
  cases ho : s.opened <;> cases hf : s.finished <;> simp [life, ho, hf, Life.opened, Life.ended]

theorem consumer_bracket (h : Reaches script as s) :
    s.observed.countP opens = (if ∃ req ∈ s.read, req.subscription ≠ "" then 1 else 0) ∧
    s.observed.countP closes = (if s.finished then s.observed.countP opens else 0) ∧
    (∀ before o after, s.observed = before ++ o :: after → closes o = true → after = []) ∧
    (s.finished = true → ∀ bs t, exec step s bs = some t → t.observed = s.observed) := by
  have hlife := exec_life h
  obtain ⟨hopens, hcloses⟩ := Life.exec_counts hlife
  rw [Life.opened, Nat.zero_add] at hopens
  rw [Life.ended, Nat.zero_add] at hcloses
  refine ⟨?_, ?_, ?_, ?_⟩
  · rw [hopens, opened_life]
    simp only [opened_iff h]
  · rw [hcloses, hopens, ended_life]
  · intro before o after heq ho
    exact Life.close_last (by rwa [heq] at hlife) ho
  · intro hf bs t ht
    rw [ended_exec hf ht]

def refused : Script where
  peer := none
  frames := [{ ackIds := ["a"] }, { subscription := "projects/p/subscriptions/s" }]
  upstream := .rejected { code := .notFound }

theorem consumer_bracket_of_refused :
    ∃ s, Reaches refused [.readFrame, .sendRequest, .call, .answer, .readFrame, .sendResponse] s ∧
      s.observed.countP opens = 1 ∧ s.observed.countP closes = 1 := by
  have h : Reaches refused [.readFrame, .sendRequest, .call, .answer, .readFrame, .sendResponse] _ := rfl
  obtain ⟨hopens, hcloses, -⟩ := consumer_bracket h
  exact ⟨_, h, hopens, hcloses⟩

end Stream

end PubSubTui.Proxy
