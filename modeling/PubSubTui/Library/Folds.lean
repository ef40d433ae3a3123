import Mathlib.Tactic

/-! What a left fold accumulates: counters, flags that are only ever raised, the last value written, and
how far apart two folds end when one of them misses some of the events. -/

namespace PubSubTui.Library.Folds

variable {S α β : Type*} {f : S → α → S}

lemma foldl_counter (count : S → ℕ) {weight : α → ℕ}
    (h : ∀ s a, count (f s a) = count s + weight a) (s : S) (l : List α) :
    count (l.foldl f s) = count s + (l.map weight).sum := by
  induction l generalizing s with
  | nil => simp
  | cons a l ih => simp [ih, h, Nat.add_assoc]

lemma foldl_flag (flag : S → Prop) {raises : α → Prop}
    (h : ∀ s a, flag (f s a) ↔ flag s ∨ raises a) (s : S) (l : List α) :
    flag (l.foldl f s) ↔ flag s ∨ ∃ a ∈ l, raises a := by
  induction l generalizing s with
  | nil => simp
  | cons a l ih => simp [ih, h, or_assoc]

lemma foldl_last (value : S → Option β) {write : α → Option β}
    (h : ∀ s a, value (f s a) = (write a).or (value s)) (s : S) (l : List α) :
    value (l.foldl f s) = (l.filterMap write).getLast?.or (value s) := by
  induction l generalizing s with
  | nil => simp
  | cons a l ih =>
    rw [List.foldl_cons, ih, h]
    cases hw : write a <;> cases hl : (l.filterMap write).getLast? <;>
      simp [hw, List.getLast?_cons, hl]

lemma foldl_filter (view : S → β) {p : α → Bool} (hskip : ∀ s a, p a = false → view (f s a) = view s)
    (hstep : ∀ s t a, p a = true → view s = view t → view (f s a) = view (f t a)) {s t : S}
    (hst : view s = view t) (l : List α) : view (l.foldl f s) = view ((l.filter p).foldl f t) := by
  induction l generalizing s t with
  | nil => exact hst
  | cons a l ih =>
    cases ha : p a with
    | false =>
      rw [List.filter_cons_of_neg (by simp [ha])]
      exact ih ((hskip s a ha).trans hst)
    | true =>
      rw [List.filter_cons_of_pos ha]
      exact ih (hstep s t a ha hst)

section Distance

variable (dist : S → S → ℕ) {cost : α → ℕ}

/-- Two folds from nearby states, the second over a subsequence of the first's events, end no further apart
than they began plus what the missed events can move. -/
lemma foldl_sublist (htri : ∀ x y z, dist x z ≤ dist x y + dist y z)
    (hmove : ∀ s a, dist (f s a) s ≤ cost a) (hmono : ∀ x y a, dist (f x a) (f y a) ≤ dist x y)
    {kept l : List α} (h : kept.Sublist l) (x y : S) :
    dist (l.foldl f x) (kept.foldl f y) + (kept.map cost).sum ≤ dist x y + (l.map cost).sum := by
  induction h generalizing x y with
  | slnil => simp
  | @cons kept l a _ ih =>
    have hh := ih (f x a) y
    have hd := (htri (f x a) x y).trans (Nat.add_le_add_right (hmove x a) _)
    simp only [List.foldl_cons, List.map_cons, List.sum_cons]
    omega
  | @cons_cons kept l a _ ih =>
    have hh := ih (f x a) (f y a)
    have hd := hmono x y a
    simp only [List.foldl_cons, List.map_cons, List.sum_cons]
    omega

end Distance

end PubSubTui.Library.Folds
