import Mathlib.Tactic

/-! Systems that move by actions: executions, invariants along them, and measures that bound them. -/

namespace PubSubTui.Library.ActionSystem

variable {S A : Type*} (step : S → A → Option S)

def exec (s : S) : List A → Option S
  | [] => some s
  | a :: as => (step s a).bind (fun t => exec t as)

def Stuck (s : S) : Prop := ∀ a, step s a = none

def Along (cond : S → A → Prop) (s : S) : List A → Prop
  | [] => True
  | a :: as => cond s a ∧ ∀ t, step s a = some t → Along cond t as

variable {step} {cond : S → A → Prop} {s t u v : S} {a : A} {as bs : List A}

@[simp] lemma exec_nil : exec step s [] = some s := rfl

lemma exec_cons (h : step s a = some t) : exec step s (a :: as) = exec step t as := by
  simp [exec, h]

lemma exec_single : exec step s [a] = step s a := by
  cases h : step s a <;> simp [exec, h]

lemma exec_append : exec step s (as ++ bs) = (exec step s as).bind (fun t => exec step t bs) := by
  induction as generalizing s with
  | nil => rfl
  | cons a as ih => cases h : step s a <;> simp [exec, h, ih]

lemma exec_through (hs : exec step s as = some t) (ht : step t a = some u) (hu : exec step u bs = some v) :
    exec step s (as ++ a :: bs) = some v := by
  rw [exec_append, hs, Option.bind_some, exec_cons ht, hu]

lemma exec_invariant {P : S → Prop} (hP : ∀ s a t, P s → step s a = some t → P t)
    (hs : P s) (h : exec step s as = some t) : P t := by
  induction as generalizing s with
  | nil => cases h; exact hs
  | cons a as ih =>
    cases ha : step s a with
    | none => simp [exec, ha] at h
    | some u => exact ih (hP s a u hs ha) (by rwa [exec_cons ha] at h)

lemma exec_invariant_along {P : S → Prop}
    (hP : ∀ s a t, P s → cond s a → step s a = some t → P t)
    (hs : P s) (hc : Along step cond s as) (h : exec step s as = some t) : P t := by
  induction as generalizing s with
  | nil => cases h; exact hs
  | cons a as ih =>
    cases ha : step s a with
    | none => simp [exec, ha] at h
    | some u => exact ih (hP s a u hs hc.1 ha) (hc.2 u ha) (by rwa [exec_cons ha] at h)

lemma along_of_forall_mem {p : A → Prop} (h : ∀ a ∈ as, p a) : Along step (fun _ a => p a) s as := by
  induction as generalizing s with
  | nil => trivial
  | cons a as ih =>
    exact ⟨h a List.mem_cons_self, fun t _ => ih (fun b hb => h b (List.mem_cons_of_mem a hb))⟩

/-- A property that a step keeps exactly when it meets the condition holds after exactly the executions
that meet the condition throughout. -/
lemma exec_iff_along {I P : S → Prop} (hI : ∀ s a t, I s → step s a = some t → I t)
    (hP : ∀ s a t, I s → step s a = some t → (P t ↔ P s ∧ cond s a))
    (hs : I s) (h : exec step s as = some t) : P t ↔ P s ∧ Along step cond s as := by
  induction as generalizing s with
  | nil => cases h; simp [Along]
  | cons a as ih =>
    cases ha : step s a with
    | none => simp [exec, ha] at h
    | some u =>
      rw [ih (hI s a u hs ha) (by rwa [exec_cons ha] at h), hP s a u hs ha, and_assoc]
      simp [Along, ha]

lemma exec_total {I : S → Prop} (hI : ∀ s a, I s → ∃ t, step s a = some t ∧ I t) (hs : I s) (as : List A) :
    ∃ t, exec step s as = some t ∧ I t := by
  induction as generalizing s with
  | nil => exact ⟨s, rfl, hs⟩
  | cons a as ih =>
    obtain ⟨u, ha, hu⟩ := hI s a hs
    obtain ⟨t, ht, hend⟩ := ih hu
    exact ⟨t, by rwa [exec_cons ha], hend⟩

def Sometime (step : S → A → Option S) (cond : S → A → Prop) (s : S) (as : List A) : Prop :=
  ∃ before a after t, as = before ++ a :: after ∧ exec step s before = some t ∧ cond t a

def Since (step : S → A → Option S) (cond : S → A → Prop) (kept : A → Prop) (s : S) (as : List A) : Prop :=
  ∃ before a after t, as = before ++ a :: after ∧ exec step s before = some t ∧ cond t a ∧ ∀ b ∈ a :: after, kept b

lemma sometime_cons (ha : step s a = some t) :
    Sometime step cond s (a :: as) ↔ cond s a ∨ Sometime step cond t as := by
  constructor
  · rintro ⟨before, b, after, u, has, hu, hc⟩
    cases before with
    | nil =>
      cases has
      cases hu
      exact .inl hc
    | cons c before =>
      cases has
      exact .inr ⟨before, b, after, u, rfl, by rwa [exec_cons ha] at hu, hc⟩
  · rintro (hc | ⟨before, b, after, u, rfl, hu, hc⟩)
    · exact ⟨[], a, as, s, rfl, rfl, hc⟩
    · exact ⟨a :: before, b, after, u, rfl, by rwa [exec_cons ha], hc⟩

/-- A flag that exactly the actions under the condition raise, and none lowers. -/
lemma exec_flag_iff {I P : S → Prop} (hI : ∀ s a t, I s → step s a = some t → I t)
    (hP : ∀ s a t, I s → step s a = some t → (P t ↔ P s ∨ cond s a)) (hs : I s)
    (h : exec step s as = some t) : P t ↔ P s ∨ Sometime step cond s as := by
  induction as generalizing s with
  | nil =>
    cases h
    simp [Sometime]
  | cons a as ih =>
    cases ha : step s a with
    | none => simp [exec, ha] at h
    | some u =>
      rw [ih (hI s a u hs ha) (by rwa [exec_cons ha] at h), hP s a u hs ha, sometime_cons ha, or_assoc]

/-- What only an action under the condition brings about, and only kept actions preserve. -/
lemma exec_since {I P : S → Prop} {kept : A → Prop} (hI : ∀ s a t, I s → step s a = some t → I t)
    (hP : ∀ s a t, I s → step s a = some t → P t → kept a ∧ (cond s a ∨ P s)) (hs : I s)
    (h : exec step s as = some t) (ht : P t) : (P s ∧ ∀ a ∈ as, kept a) ∨ Since step cond kept s as := by
  induction as generalizing s with
  | nil =>
    cases h
    exact .inl ⟨ht, by simp⟩
  | cons a as ih =>
    cases ha : step s a with
    | none => simp [exec, ha] at h
    | some u =>
      rcases ih (hI s a u hs ha) (by rwa [exec_cons ha] at h) with ⟨hu, hkept⟩ | ⟨before, b, after, v, rfl, hv, hrest⟩
      · obtain ⟨hka, hc | hp⟩ := hP s a u hs ha hu
        · exact .inr ⟨[], a, as, s, rfl, rfl, hc, List.forall_mem_cons.mpr ⟨hka, hkept⟩⟩
        · exact .inl ⟨hp, List.forall_mem_cons.mpr ⟨hka, hkept⟩⟩
      · exact .inr ⟨a :: before, b, after, v, rfl, by rwa [exec_cons ha], hrest⟩

section Bounded

variable {I : S → Prop} (hI : ∀ s a t, I s → step s a = some t → I t) {μ : S → ℕ}
  (hμ : ∀ s a t, I s → step s a = some t → μ t < μ s)

include hI hμ

lemma exec_length_le_of_invariant (hs : I s) (h : exec step s as = some t) : as.length + μ t ≤ μ s := by
  induction as generalizing s with
  | nil => cases h; simp
  | cons a as ih =>
    cases ha : step s a with
    | none => simp [exec, ha] at h
    | some u =>
      have hu := ih (hI s a u hs ha) (by rwa [exec_cons ha] at h)
      have hlt := hμ s a u hs ha
      simp only [List.length_cons]
      omega

lemma exists_stuck_of_invariant (hs : I s) : ∃ as t, exec step s as = some t ∧ Stuck step t := by
  induction hn : μ s using Nat.strong_induction_on generalizing s with
  | _ n ih =>
    by_cases hstuck : Stuck step s
    · exact ⟨[], s, rfl, hstuck⟩
    · simp only [Stuck, not_forall] at hstuck
      obtain ⟨a, ha⟩ := hstuck
      obtain ⟨u, hu⟩ := Option.ne_none_iff_exists'.mp ha
      obtain ⟨as, t, ht, hend⟩ := ih (μ u) (hn ▸ hμ s a u hs hu) (hI s a u hs hu) rfl
      exact ⟨a :: as, t, by rwa [exec_cons hu], hend⟩

end Bounded

end PubSubTui.Library.ActionSystem
