import Mathlib.Tactic

/-! A text cut at its separators, and what is made of it line by line. -/

namespace PubSubTui.Library.Lines

variable {α β : Type*} {sep x : α} {text rest w : List α}

section Runs

variable {p : α → Bool}

lemma takeWhile_run (hw : ∀ y ∈ w, p y = true) (hrest : ∀ y ∈ rest.head?, p y = false) :
    (w ++ rest).takeWhile p = w := by
  rw [List.takeWhile_append_of_pos hw]
  cases rest with
  | nil => rw [List.takeWhile_nil, List.append_nil]
  | cons y rest => rw [List.takeWhile_cons_of_neg (by simp [hrest y rfl]), List.append_nil]

lemma dropWhile_run (hw : ∀ y ∈ w, p y = true) (hrest : ∀ y ∈ rest.head?, p y = false) :
    (w ++ rest).dropWhile p = rest := by
  rw [List.dropWhile_append_of_pos hw]
  cases rest with
  | nil => rfl
  | cons y rest => rw [List.dropWhile_cons_of_neg (by simp [hrest y rfl])]

end Runs

variable [DecidableEq α] {f : List α → List β} {out : List β}

lemma splitOn_append (hw : sep ∉ w) (rest : List α) :
    (w ++ rest).splitOn sep = (rest.splitOn sep).modifyHead (w ++ ·) := by
  obtain ⟨line, lines, hsplit⟩ := List.exists_cons_of_ne_nil (List.splitOn_ne_nil sep rest)
  induction w with
  | nil => rw [List.nil_append, hsplit, List.modifyHead_cons, List.nil_append]
  | cons y w ih =>
    obtain ⟨hy, hw⟩ := not_or.mp (mt List.mem_cons.mpr hw)
    have hbeq : (y == sep) = false := beq_eq_false_iff_ne.mpr (Ne.symm hy)
    rw [List.cons_append, List.splitOn_cons_eq_if_modifyHead, hbeq, ih hw, hsplit]
    rfl

lemma exists_splitOn_eq_cons (sep : α) (text : List α) :
    ∃ lines, text.splitOn sep = text.takeWhile (· ≠ sep) :: lines := by
  induction text with
  | nil => exact ⟨[], List.splitOn_nil sep⟩
  | cons y text ih =>
    rw [List.splitOn_cons_eq_if_modifyHead, List.takeWhile_cons]
    by_cases hy : y = sep
    · exact ⟨text.splitOn sep, by simp [hy]⟩
    · obtain ⟨lines, hlines⟩ := ih
      exact ⟨lines, by simp [hy, hlines]⟩

lemma flatten_splitOn (sep : α) (text : List α) : (text.splitOn sep).flatten = text.filter (· ≠ sep) := by
  induction text with
  | nil => rw [List.splitOn_nil, List.flatten_singleton, List.filter_nil]
  | cons y text ih =>
    rw [List.splitOn_cons_eq_if_modifyHead]
    by_cases hy : y = sep
    · simp [hy, ih]
    · obtain ⟨line, lines, hsplit⟩ := List.exists_cons_of_ne_nil (List.splitOn_ne_nil sep text)
      rw [hsplit, List.flatten_cons] at ih
      simp [hy, hsplit, ih]

lemma exists_mem_splitOn : (∃ line ∈ text.splitOn sep, x ∈ line) ↔ x ∈ text ∧ x ≠ sep := by
  rw [← List.mem_flatten, flatten_splitOn, List.mem_filter, decide_eq_true_iff]

def perLine (sep : α) (f : List α → List β) (text : List α) : List β := (text.splitOn sep).flatMap f

lemma perLine_nil (hf : f [] = []) : perLine sep f [] = [] := by
  rw [perLine, List.splitOn_nil, List.flatMap_singleton, hf]

lemma perLine_sep (hf : f [] = []) (rest : List α) : perLine sep f (sep :: rest) = perLine sep f rest := by
  have hsplit : (sep :: rest).splitOn sep = [] :: rest.splitOn sep :=
    List.splitOn_append_cons_self_of_not_mem List.not_mem_nil rest
  rw [perLine, hsplit, List.flatMap_cons, hf, List.nil_append, perLine]

/-- What is made of a word may depend on the rest of its line, and on nothing after that. -/
lemma perLine_append (hw : sep ∉ w)
    (hline : f (w ++ rest.takeWhile (· ≠ sep)) = out ++ f (rest.takeWhile (· ≠ sep))) :
    perLine sep f (w ++ rest) = out ++ perLine sep f rest := by
  obtain ⟨lines, hlines⟩ := exists_splitOn_eq_cons sep rest
  simp only [perLine, splitOn_append hw, hlines, List.modifyHead_cons, List.flatMap_cons, hline, List.append_assoc]

end PubSubTui.Library.Lines
