import Mathlib.Tactic

/-! Base64 over any alphabet of sixty-four digits. A text encodes bytes when its digits are theirs, followed by
no more padding than would fill the last group. -/

namespace PubSubTui.Library.Base64

def sextets : List UInt8 → List (Fin 64)
  | [] => []
  | [a] => [.ofNat 64 (a.toNat / 4), .ofNat 64 (a.toNat % 4 * 16)]
  | [a, b] =>
    [.ofNat 64 (a.toNat / 4), .ofNat 64 (a.toNat % 4 * 16 + b.toNat / 16), .ofNat 64 (b.toNat % 16 * 4)]
  | a :: b :: c :: rest =>
    .ofNat 64 (a.toNat / 4) :: .ofNat 64 (a.toNat % 4 * 16 + b.toNat / 16) ::
      .ofNat 64 (b.toNat % 16 * 4 + c.toNat / 64) :: .ofNat 64 (c.toNat % 64) :: sextets rest

/-- The bits that a last, partial group leaves over must be zero. -/
def octets : List (Fin 64) → Option (List UInt8)
  | [] => some []
  | [_] => none
  | [w, x] => if x.val % 16 = 0 then some [.ofNat (w.val * 4 + x.val / 16)] else none
  | [w, x, y] =>
    if y.val % 4 = 0 then some [.ofNat (w.val * 4 + x.val / 16), .ofNat (x.val % 16 * 16 + y.val / 4)] else none
  | w :: x :: y :: z :: rest =>
    (octets rest).map fun bytes =>
      .ofNat (w.val * 4 + x.val / 16) :: .ofNat (x.val % 16 * 16 + y.val / 4) ::
        .ofNat (y.val % 4 * 64 + z.val) :: bytes

lemma octet_eq (a : UInt8) {n : ℕ} (h : n % 256 = a.toNat) : UInt8.ofNat n = a := by
  apply UInt8.toNat_inj.mp
  rw [UInt8.toNat_ofNat']
  exact h

lemma sextet_eq (d : Fin 64) {n : ℕ} (h : n % 64 = d.val) : Fin.ofNat 64 n = d := Fin.ext h

lemma octets_sextets (bytes : List UInt8) : octets (sextets bytes) = some bytes := by
  induction bytes using sextets.induct with
  | case1 => rfl
  | case2 a =>
    have ha := a.toNat_lt
    simp only [sextets, octets, Fin.val_ofNat]
    rw [if_pos (by omega), octet_eq a (by omega)]
  | case3 a b =>
    have ha := a.toNat_lt
    have hb := b.toNat_lt
    simp only [sextets, octets, Fin.val_ofNat]
    rw [if_pos (by omega), octet_eq a (by omega), octet_eq b (by omega)]
  | case4 a b c rest ih =>
    have ha := a.toNat_lt
    have hb := b.toNat_lt
    have hc := c.toNat_lt
    simp only [sextets, octets, Fin.val_ofNat, ih, Option.map_some]
    rw [octet_eq a (by omega), octet_eq b (by omega), octet_eq c (by omega)]

lemma sextets_octets {digits : List (Fin 64)} {bytes : List UInt8} (h : octets digits = some bytes) :
    sextets bytes = digits := by
  induction digits using octets.induct generalizing bytes with
  | case1 =>
    cases h
    rfl
  | case2 => simp [octets] at h
  | case3 w x hzero =>
    have hw := w.isLt
    have hx := x.isLt
    rw [octets, if_pos hzero] at h
    cases h
    simp only [sextets, UInt8.toNat_ofNat']
    rw [sextet_eq w (by omega), sextet_eq x (by omega)]
  | case4 w x hzero =>
    rw [octets, if_neg hzero] at h
    cases h
  | case5 w x y hzero =>
    have hw := w.isLt
    have hx := x.isLt
    have hy := y.isLt
    rw [octets, if_pos hzero] at h
    cases h
    simp only [sextets, UInt8.toNat_ofNat']
    rw [sextet_eq w (by omega), sextet_eq x (by omega), sextet_eq y (by omega)]
  | case6 w x y hzero =>
    rw [octets, if_neg hzero] at h
    cases h
  | case7 w x y z rest ih =>
    have hw := w.isLt
    have hx := x.isLt
    have hy := y.isLt
    have hz := z.isLt
    obtain ⟨tail, htail, rfl⟩ := Option.map_eq_some_iff.mp h
    simp only [sextets, UInt8.toNat_ofNat', ih htail]
    rw [sextet_eq w (by omega), sextet_eq x (by omega), sextet_eq y (by omega), sextet_eq z (by omega)]

lemma octets_eq_some_iff {digits : List (Fin 64)} {bytes : List UInt8} :
    octets digits = some bytes ↔ sextets bytes = digits :=
  ⟨sextets_octets, fun h => h ▸ octets_sextets bytes⟩

lemma sextets_injective : Function.Injective sextets := fun a b h =>
  Option.some.inj ((octets_sextets a).symm.trans ((congrArg octets h).trans (octets_sextets b)))

structure Alphabet where
  digits : List Char
  length_digits : digits.length = 64
  nodup : digits.Nodup
  no_padding : '=' ∉ digits

namespace Alphabet

variable (A : Alphabet)

def digit (d : Fin 64) : Char := A.digits.get (d.cast A.length_digits.symm)

def value (c : Char) : Option (Fin 64) :=
  if h : c ∈ A.digits then some ⟨A.digits.idxOf c, A.length_digits ▸ List.idxOf_lt_length_of_mem h⟩ else none

lemma value_eq_some_iff {c : Char} {d : Fin 64} : A.value c = some d ↔ A.digit d = c := by
  rw [value]
  split_ifs with h
  · rw [Option.some.injEq, Fin.ext_iff, digit, List.get_eq_getElem]
    constructor
    · rintro hd
      simp [← hd]
    · rintro rfl
      exact A.nodup.idxOf_getElem _ _
  · refine ⟨fun hnone => (by cases hnone), ?_⟩
    rintro rfl
    exact absurd (List.get_mem _ _) h

lemma value_digit (d : Fin 64) : A.value (A.digit d) = some d := A.value_eq_some_iff.mpr rfl

lemma digit_ne_padding (d : Fin 64) : A.digit d ≠ '=' := fun h =>
  A.no_padding (h ▸ List.get_mem _ _)

end Alphabet

def padding (bytes : List UInt8) : ℕ := (3 - bytes.length % 3) % 3

def Encodes (A : Alphabet) (bytes : List UInt8) (text : String) : Prop :=
  ∃ k ≤ padding bytes, text.toList = (sextets bytes).map A.digit ++ List.replicate k '='

def encode (A : Alphabet) (padded : Bool) (bytes : List UInt8) : String :=
  String.ofList ((sextets bytes).map A.digit ++ List.replicate (if padded then padding bytes else 0) '=')

lemma encodes_encode (A : Alphabet) (padded : Bool) (bytes : List UInt8) : Encodes A bytes (encode A padded bytes) := by
  refine ⟨if padded then padding bytes else 0, ?_, String.toList_ofList⟩
  split_ifs
  · exact le_rfl
  · exact Nat.zero_le _

def Compatible (A B : Alphabet) : Prop := ∀ c d e, A.value c = some d → B.value c = some e → d = e

def decode (A : Alphabet) (text : String) : Option (List UInt8) :=
  let body := text.toList.takeWhile (· ≠ '=')
  let pads := text.toList.dropWhile (· ≠ '=')
  ((body.mapM A.value).bind octets).filter
    (fun bytes => pads = List.replicate pads.length '=' ∧ pads.length ≤ padding bytes)

variable {A B : Alphabet} {bytes bytes' : List UInt8} {text : String}

lemma takeWhile_encoding (k : ℕ) (ds : List (Fin 64)) :
    (ds.map A.digit ++ List.replicate k '=').takeWhile (· ≠ '=') = ds.map A.digit ∧
      (ds.map A.digit ++ List.replicate k '=').dropWhile (· ≠ '=') = List.replicate k '=' := by
  have hdigits : ∀ c ∈ ds.map A.digit, decide (c ≠ '=') = true := by
    simp only [List.mem_map, decide_eq_true_eq]
    rintro c ⟨d, -, rfl⟩
    exact A.digit_ne_padding d
  rw [List.takeWhile_append_of_pos hdigits, List.dropWhile_append_of_pos hdigits]
  cases k <;> simp [List.replicate_succ]

lemma mapM_value_eq_some_iff {cs : List Char} {ds : List (Fin 64)} :
    cs.mapM A.value = some ds ↔ ds.map A.digit = cs := by
  induction cs generalizing ds with
  | nil => cases ds <;> simp
  | cons c cs ih =>
    rw [List.mapM_cons]
    cases ds with
    | nil => cases A.value c <;> cases cs.mapM A.value <;> simp
    | cons d ds => simp [Option.bind_eq_some_iff, A.value_eq_some_iff, ih]

lemma decode_eq_some_iff : decode A text = some bytes ↔ Encodes A bytes text := by
  simp only [decode, Option.filter_eq_some_iff, Option.bind_eq_some_iff, mapM_value_eq_some_iff,
    octets_eq_some_iff, decide_eq_true_eq, Encodes]
  constructor
  · rintro ⟨⟨ds, hbody, rfl⟩, hpads, hle⟩
    refine ⟨_, hle, ?_⟩
    rw [hbody, ← hpads, List.takeWhile_append_dropWhile]
  · rintro ⟨k, hk, htext⟩
    obtain ⟨htake, hdrop⟩ := takeWhile_encoding (A := A) k (sextets bytes)
    rw [htext, htake, hdrop]
    exact ⟨⟨_, rfl, rfl⟩, by simp, by simpa using hk⟩

lemma bytes_eq_of_compatible (hc : Compatible A B) (ha : Encodes A bytes text) (hb : Encodes B bytes' text) :
    bytes = bytes' := by
  obtain ⟨k, -, ha⟩ := ha
  obtain ⟨l, -, hb⟩ := hb
  have hdigits : (sextets bytes).map A.digit = (sextets bytes').map B.digit := by
    rw [← (takeWhile_encoding (A := A) k (sextets bytes)).1, ← ha, hb, (takeWhile_encoding l (sextets bytes')).1]
  refine sextets_injective (List.ext_getElem ?_ fun i hi hi' => ?_)
  · simpa using congrArg List.length hdigits
  · have hi₁ : i < ((sextets bytes).map A.digit).length := by simpa using hi
    have hi₂ : i < ((sextets bytes').map B.digit).length := by simpa using hi'
    have hdigit : ((sextets bytes).map A.digit)[i] = ((sextets bytes').map B.digit)[i] := by simp only [hdigits]
    rw [List.getElem_map, List.getElem_map] at hdigit
    exact hc _ _ _ (A.value_digit _) (hdigit ▸ B.value_digit _)

def common : List Char := "ABCDEFGHIJKLMNOPQRSTUVWXYZabcdefghijklmnopqrstuvwxyz0123456789".toList

lemma length_common : common.length = 62 := by decide

lemma nodup_extended {x y : Char} (hx : x ∉ common) (hy : y ∉ common) (hxy : x ≠ y) :
    (common ++ [x, y]).Nodup := by
  have hcommon : common.Nodup := by decide
  refine List.nodup_append.mpr ⟨hcommon, by simp [hxy], ?_⟩
  rintro a ha b hb rfl
  rcases List.mem_pair.mp hb with rfl | rfl
  · exact hx ha
  · exact hy ha

def standard : Alphabet where
  digits := common ++ ['+', '/']
  length_digits := by rw [List.length_append, length_common]; rfl
  nodup := nodup_extended (by decide) (by decide) (by decide)
  no_padding := by decide

def urlSafe : Alphabet where
  digits := common ++ ['-', '_']
  length_digits := by rw [List.length_append, length_common]; rfl
  nodup := nodup_extended (by decide) (by decide) (by decide)
  no_padding := by decide

lemma compatible_standard_urlSafe : Compatible standard urlSafe := by
  intro c d e hd he
  rw [Alphabet.value] at hd he
  split_ifs at hd he with hs hu
  cases hd
  cases he
  apply Fin.ext
  simp only [standard, urlSafe] at hs hu ⊢
  by_cases hc : c ∈ common
  · rw [List.idxOf_append_of_mem hc, List.idxOf_append_of_mem hc]
  · simp only [List.mem_append, hc, false_or, List.mem_cons, List.not_mem_nil, or_false] at hs hu
    rcases hs with rfl | rfl <;> simp at hu

end PubSubTui.Library.Base64
