import Mathlib.Tactic

/-! Texts that spell a sequence of characters, any of which may be percent-encoded. -/

namespace PubSubTui.Library.PercentEncoding

def hexValue (c : Char) : Option ℕ :=
  if '0' ≤ c ∧ c ≤ '9' then some (c.toNat - '0'.toNat)
  else if 'A' ≤ c ∧ c ≤ 'F' then some (c.toNat - 'A'.toNat + 10)
  else if 'a' ≤ c ∧ c ≤ 'f' then some (c.toNat - 'a'.toNat + 10)
  else none

def IsTriplet (octet : UInt8) (text : List Char) : Prop :=
  ∃ high low, text = ['%', high, low] ∧ hexValue high = some (octet.toNat / 16) ∧
    hexValue low = some (octet.toNat % 16)

/-- Only the characters that `plain` allows may stand for themselves. -/
inductive Spells (plain : Char → Prop) : List Char → List Char → Prop
  | nil : Spells plain [] []
  | plain {c : Char} {cs text : List Char} (hc : plain c) (h : Spells plain cs text) : Spells plain (c :: cs) (c :: text)
  | encoded {c : Char} {cs text : List Char} {triplets : List (List Char)}
    (hc : List.Forall₂ IsTriplet (String.utf8EncodeChar c) triplets) (h : Spells plain cs text) :
    Spells plain (c :: cs) (triplets.flatten ++ text)

variable {plain : Char → Prop} {cs text : List Char} {c : Char} {triplets : List (List Char)}

lemma Spells.of_plain (h : cs.Forall plain) : Spells plain cs cs := by
  induction cs with
  | nil => exact .nil
  | cons c cs ih =>
    obtain ⟨hc, hcs⟩ := (List.forall_cons _ _ _).mp h
    exact .plain hc (ih hcs)

lemma Spells.append {cs' text' : List Char} (h : Spells plain cs text) (h' : Spells plain cs' text') :
    Spells plain (cs ++ cs') (text ++ text') := by
  induction h with
  | nil => exact h'
  | plain hc _ ih => exact .plain hc ih
  | encoded hc _ ih =>
    rw [List.cons_append, List.append_assoc]
    exact .encoded hc ih

lemma triplets_of_char (h : List.Forall₂ IsTriplet (String.utf8EncodeChar c) triplets) :
    ∃ high low rest, triplets.flatten = '%' :: high :: low :: rest := by
  cases hoctets : String.utf8EncodeChar c with
  | nil => exact absurd hoctets String.utf8EncodeChar_ne_nil
  | cons octet octets =>
    rw [hoctets] at h
    cases h with
    | cons htriplet _ =>
      obtain ⟨high, low, rfl, -, -⟩ := htriplet
      exact ⟨high, low, _, rfl⟩

lemma Spells.length_le (h : Spells plain cs text) : cs.length ≤ text.length := by
  induction h with
  | nil => exact le_rfl
  | plain _ _ ih => exact Nat.succ_le_succ ih
  | encoded hc _ ih =>
    obtain ⟨high, low, rest, htriplets⟩ := triplets_of_char hc
    simp only [htriplets, List.length_append, List.length_cons]
    omega

lemma Spells.eq_of_not_mem (h : Spells plain cs text) (hpercent : '%' ∉ text) : text = cs := by
  induction h with
  | nil => rfl
  | plain _ _ ih => rw [ih fun hmem => hpercent (List.mem_cons_of_mem _ hmem)]
  | encoded hc _ _ =>
    obtain ⟨high, low, rest, htriplets⟩ := triplets_of_char hc
    exact absurd (by simp [htriplets]) hpercent

lemma Spells.not_mem_of_length (hplain : ¬ plain '%') (h : Spells plain cs text) (hlength : text.length = cs.length) :
    '%' ∉ text := by
  induction h with
  | nil => simp
  | plain hc _ ih =>
    intro hmem
    rcases List.mem_cons.mp hmem with rfl | hmem
    · exact hplain hc
    · exact ih (Nat.succ.inj hlength) hmem
  | encoded hc h _ =>
    obtain ⟨high, low, rest, htriplets⟩ := triplets_of_char hc
    have hle := h.length_le
    simp only [htriplets, List.length_append, List.length_cons] at hlength
    omega

lemma Spells.eq_iff (hplain : ¬ plain '%') (h : Spells plain cs text) : text = cs ↔ '%' ∉ text :=
  ⟨fun heq => h.not_mem_of_length hplain (congrArg List.length heq), h.eq_of_not_mem⟩

end PubSubTui.Library.PercentEncoding
