import Mathlib.Tactic

/-! What can be said of entries of a log that are read in order, with entries passed over and entries read
again, but never one older than the last. A reading is a list of properties, each true of the entry read. -/

namespace PubSubTui.Library

variable {α : Type*}

inductive Reads : List α → List (α → Prop) → Prop
  | done (log : List α) : Reads log []
  | pass {a : α} {log : List α} {seen : List (α → Prop)} (h : Reads log seen) : Reads (a :: log) seen
  | read {a : α} {P : α → Prop} {log : List α} {seen : List (α → Prop)} (hP : P a) (h : Reads (a :: log) seen) :
    Reads (a :: log) (P :: seen)

namespace Reads

variable {log more : List α} {seen seen' before after : List (α → Prop)} {P Q : α → Prop} {a : α}

lemma append_log (h : Reads log seen) (more : List α) : Reads (log ++ more) seen := by
  induction h with
  | done log => exact .done _
  | pass _ ih => exact .pass ih
  | read hP _ ih => exact .read hP ih

lemma prepend_log (h : Reads log seen) (more : List α) : Reads (more ++ log) seen := by
  induction more with
  | nil => exact h
  | cons a more ih => exact .pass ih

lemma latest (h : log.getLast? = some a) (hP : P a) : Reads log [P] := by
  obtain ⟨before, rfl⟩ := List.getLast?_eq_some_iff.mp h
  apply prepend_log
  exact .read hP (.done _)

lemma snoc (h : Reads log seen) (ha : log.getLast? = some a) (hP : P a) : Reads log (seen ++ [P]) := by
  induction h with
  | done log => exact latest ha hP
  | @pass b log seen h ih =>
    cases log with
    | nil =>
      cases h
      exact latest ha hP
    | cons c log => exact .pass (ih (by rwa [List.getLast?_cons_cons] at ha))
  | read hQ _ ih => exact .read hQ (ih ha)

lemma sublist (h : Reads log seen) (hs : seen'.Sublist seen) : Reads log seen' := by
  induction h generalizing seen' with
  | done log =>
    rw [List.sublist_nil] at hs
    exact hs ▸ .done log
  | pass _ ih => exact .pass (ih hs)
  | read hP _ ih =>
    cases hs with
    | cons _ hs => exact ih hs
    | cons_cons _ hs => exact .read hP (ih hs)

lemma again (h : Reads log (before ++ P :: after)) : Reads log (before ++ P :: P :: after) := by
  generalize hseen : before ++ P :: after = seen at h
  induction h generalizing before with
  | done log => simp at hseen
  | pass _ ih => exact .pass (ih hseen)
  | read hP h ih =>
    cases before with
    | nil =>
      cases hseen
      exact .read hP (.read hP h)
    | cons R before =>
      cases hseen
      exact .read hP (ih rfl)

lemma weaken (h : Reads log (before ++ P :: after)) (hPQ : ∀ a, P a → Q a) : Reads log (before ++ Q :: after) := by
  generalize hseen : before ++ P :: after = seen at h
  induction h generalizing before with
  | done log => simp at hseen
  | pass _ ih => exact .pass (ih hseen)
  | read hP h ih =>
    cases before with
    | nil =>
      cases hseen
      exact .read (hPQ _ hP) h
    | cons R before =>
      cases hseen
      exact .read hP (ih rfl)

lemma exists_mem (h : Reads log seen) (hP : P ∈ seen) : ∃ a ∈ log, P a := by
  induction h with
  | done log => simp at hP
  | pass _ ih =>
    obtain ⟨b, hb, hPb⟩ := ih hP
    exact ⟨b, List.mem_cons_of_mem _ hb, hPb⟩
  | read hQ _ ih =>
    rcases List.mem_cons.mp hP with rfl | hP
    · exact ⟨_, List.mem_cons_self, hQ⟩
    · exact ih hP

/-- Of two readings, the later is of an entry that the log's order puts no earlier. -/
lemma pairwise {order : α → α → Prop} (h : Reads log seen) (hlog : log.Pairwise order) (hrefl : ∀ a, order a a) :
    seen.Pairwise (fun P Q => ∃ a b, P a ∧ Q b ∧ order a b) := by
  induction h with
  | done log => exact .nil
  | pass _ ih => exact ih (List.pairwise_cons.mp hlog).2
  | @read a P log seen hP h ih =>
    refine .cons (fun Q hQ => ?_) (ih hlog)
    obtain ⟨b, hb, hQb⟩ := h.exists_mem hQ
    refine ⟨a, b, hP, hQb, ?_⟩
    rcases List.mem_cons.mp hb with rfl | hb
    · exact hrefl b
    · exact (List.pairwise_cons.mp hlog).1 b hb

lemma positions (h : Reads log seen) : ∃ positions : List ℕ, positions.Pairwise (· ≤ ·) ∧
    List.Forall₂ (fun p P => ∃ a, log[p]? = some a ∧ P a) positions seen := by
  induction h with
  | done log => exact ⟨[], .nil, .nil⟩
  | pass _ ih =>
    obtain ⟨positions, hsorted, hread⟩ := ih
    refine ⟨positions.map (· + 1), ?_, List.forall₂_map_left_iff.mpr ?_⟩
    · apply List.pairwise_map.mpr
      exact hsorted.imp (by simp)
    · exact hread.imp (fun p P hp => by simpa using hp)
  | @read a P log seen hP _ ih =>
    obtain ⟨positions, hsorted, hread⟩ := ih
    exact ⟨0 :: positions, .cons (by simp) hsorted, .cons ⟨a, rfl, hP⟩ hread⟩

end Reads

end PubSubTui.Library
