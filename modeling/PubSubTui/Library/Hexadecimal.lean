import PubSubTui.Library.PercentEncoding

/-! Reading hexadecimal: a number from its digits, and octets from groups of two digits between blanks. -/

namespace PubSubTui.Library.Hexadecimal

open PercentEncoding

variable {d n k : ℕ} {digits text : List Char} {octet : UInt8} {octets : List UInt8}

lemma hexValue_digitChar (hd : d < 16) : hexValue (Nat.digitChar d) = some d := by
  have hall : ∀ d < 16, hexValue (Nat.digitChar d) = some d := by decide
  exact hall d hd

section Numbers

def readNat (digits : List Char) : Option ℕ := digits.foldlM (fun n c => (hexValue c).map (16 * n + ·)) 0

lemma digits_induction {motive : ℕ → List Char → Prop} (digit : ∀ d < 16, motive d [Nat.digitChar d])
    (more : ∀ n digits, ∀ d < 16, motive n digits → motive (16 * n + d) (digits ++ [Nat.digitChar d])) (n : ℕ) :
    motive n (Nat.toDigits 16 n) := by
  induction n using Nat.strong_induction_on with
  | _ n ih =>
    by_cases hn : n < 16
    · rw [Nat.toDigits_of_lt_base hn]
      exact digit n hn
    · have hlt : n / 16 < n := Nat.div_lt_self (by omega) (by decide)
      have hmore := more _ _ (n % 16) (Nat.mod_lt _ (by decide)) (ih _ hlt)
      rwa [Nat.div_add_mod, ← Nat.toDigits_of_base_le (by decide) (Nat.le_of_not_lt hn)] at hmore

lemma readNat_snoc (h : readNat digits = some n) (hd : d < 16) :
    readNat (digits ++ [Nat.digitChar d]) = some (16 * n + d) := by
  rw [readNat] at h
  rw [readNat, List.foldlM_append, h]
  simp [hexValue_digitChar hd]

lemma readNat_toDigits (n : ℕ) : readNat (Nat.toDigits 16 n) = some n := by
  induction n using digits_induction with
  | digit d hd =>
    have hempty : readNat [] = some 0 := rfl
    simpa using readNat_snoc hempty hd
  | more n digits d hd ih => exact readNat_snoc ih hd

lemma mem_toDigits (n : ℕ) : ∀ c ∈ Nat.toDigits 16 n, ∃ d < 16, c = Nat.digitChar d := by
  induction n using digits_induction with
  | digit d hd => exact fun c hc => ⟨d, hd, List.mem_singleton.mp hc⟩
  | more n digits d hd ih =>
    intro c hc
    rcases List.mem_append.mp hc with hc | hc
    · exact ih c hc
    · exact ⟨d, hd, List.mem_singleton.mp hc⟩

lemma readNat_leftpad (k : ℕ) (digits : List Char) : readNat (digits.leftpad k '0') = readNat digits := by
  have hzeros (n : ℕ) : readNat (List.replicate n '0' ++ digits) = readNat digits := by
    induction n with
    | zero => rfl
    | succ n ih => exact ih
  exact hzeros _

lemma length_leftpad_toDigits (hk : 0 < k) (hn : n < 16 ^ k) : ((Nat.toDigits 16 n).leftpad k '0').length = k := by
  rw [List.length_leftpad]
  exact Nat.max_eq_left ((Nat.length_toDigits_le_iff (by decide) hk).mpr hn)

end Numbers

section Octets

def readOctet : List Char → Option UInt8
  | [high, low] => (hexValue high).bind fun h => (hexValue low).map fun l => UInt8.ofNat (16 * h + l)
  | _ => none

def readOctets (text : List Char) : Option (List UInt8) := ((text.splitOn ' ').filter (· ≠ [])).mapM readOctet

def writeOctet (octet : UInt8) : List Char := [Nat.digitChar (octet.toNat / 16), Nat.digitChar (octet.toNat % 16)]

lemma readOctet_writeOctet (octet : UInt8) : readOctet (writeOctet octet) = some octet := by
  have hlt := octet.toNat_lt
  have hhigh : octet.toNat / 16 < 16 := by omega
  have hlow : octet.toNat % 16 < 16 := Nat.mod_lt _ (by decide)
  rw [writeOctet, readOctet, hexValue_digitChar hhigh, hexValue_digitChar hlow, Option.bind_some, Option.map_some,
    Nat.div_add_mod, UInt8.ofNat_toNat]

lemma blank_not_mem_writeOctet (octet : UInt8) : ' ' ∉ writeOctet octet := by
  have hdigit : ∀ d < 16, ' ' ≠ Nat.digitChar d := by decide
  have hlt := octet.toNat_lt
  simp only [writeOctet, List.mem_cons, List.not_mem_nil, or_false, not_or]
  exact ⟨hdigit _ (by omega), hdigit _ (Nat.mod_lt _ (by decide))⟩

lemma readOctets_blank (text : List Char) : readOctets (' ' :: text) = readOctets text := by
  have hsplit : (' ' :: text).splitOn ' ' = [] :: text.splitOn ' ' :=
    List.splitOn_append_cons_self_of_not_mem List.not_mem_nil text
  rw [readOctets, hsplit, List.filter_cons_of_neg (by simp), readOctets]

lemma readOctets_octet (h : readOctets text = some octets) (octet : UInt8) :
    readOctets (writeOctet octet ++ ' ' :: text) = some (octet :: octets) := by
  rw [readOctets] at h
  rw [readOctets, List.splitOn_append_cons_self_of_not_mem (blank_not_mem_writeOctet octet),
    List.filter_cons_of_pos (by simp [writeOctet]), List.mapM_cons, readOctet_writeOctet, h]
  rfl

lemma readOctets_replicate (n : ℕ) : readOctets (List.replicate n ' ') = some [] := by
  induction n with
  | zero => rfl
  | succ n ih => rw [List.replicate_succ, readOctets_blank, ih]

end Octets

end PubSubTui.Library.Hexadecimal
