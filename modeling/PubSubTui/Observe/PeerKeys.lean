import Mathlib.Data.List.TakeWhile
import PubSubTui.Library.Hexadecimal
import PubSubTui.Library.Lines
import PubSubTui.Observe.ConnectedPublishers

/-! A peer is known by the text of its address. The text determines the address, so no two peers share a key. -/

namespace PubSubTui.Observe

open Std Library

namespace SocketAddr

def decimal (n : ℕ) : List Char := Nat.toDigits 10 n

def readDecimal (digits : List Char) : ℕ := Nat.ofDigitChars 10 digits 0

def readHex (digits : List Char) : ℕ := (Hexadecimal.readNat digits).getD 0

section Digits

variable {n : ℕ} {c : Char}

lemma toList_toString (n : ℕ) : (toString n).toList = decimal n := Nat.toList_repr

lemma readDecimal_decimal (n : ℕ) : readDecimal (decimal n) = n := Nat.ofDigitChars_ten_toDigits

lemma readHex_toDigits (n : ℕ) : readHex (Nat.toDigits 16 n) = n := by
  rw [readHex, Hexadecimal.readNat_toDigits, Option.getD_some]

lemma isDigit_of_mem_decimal (h : c ∈ decimal n) : c.isDigit = true :=
  Nat.isDigit_of_mem_toDigits (by decide) (by decide) h

lemma hexDigit_ne (h : c ∈ Nat.toDigits 16 n) : c ≠ '.' ∧ c ≠ ':' ∧ c ≠ '%' ∧ c ≠ ']' := by
  obtain ⟨d, hd, rfl⟩ := Hexadecimal.mem_toDigits n c h
  have hall : ∀ d < 16, Nat.digitChar d ≠ '.' ∧ Nat.digitChar d ≠ ':' ∧ Nat.digitChar d ≠ '%' ∧
    Nat.digitChar d ≠ ']' := by decide
  exact hall d hd

lemma decimal_ne (h : c ∈ decimal n) : c ≠ '.' ∧ c ≠ ':' ∧ c ≠ '%' ∧ c ≠ ']' ∧ c ≠ '[' := by
  have hdigit := isDigit_of_mem_decimal h
  refine ⟨?_, ?_, ?_, ?_, ?_⟩
  all_goals
    rintro rfl
    cases hdigit

end Digits

section V4

variable {a b c d : UInt8} {x : Char}

lemma toList_showV4 (a b c d : UInt8) : (showV4 a b c d).toList =
    ['.'].intercalate ([a, b, c, d].map fun n => decimal n.toNat) := by
  simp only [showV4, String.toList_intercalate, List.map_cons, List.map_nil, toList_toString]
  rfl

lemma splitOn_showV4 (a b c d : UInt8) : (showV4 a b c d).toList.splitOn '.' =
    [a, b, c, d].map fun n => decimal n.toNat := by
  rw [toList_showV4, List.splitOn_intercalate]
  · intro digits hdigits hdot
    obtain ⟨n, -, rfl⟩ := List.mem_map.mp hdigits
    exact (decimal_ne hdot).1 rfl
  · simp

lemma mem_showV4 (h : x ∈ (showV4 a b c d).toList) : x = '.' ∨ ∃ n, x ∈ decimal n := by
  rw [toList_showV4] at h
  simp only [List.map_cons, List.map_nil, List.intercalate_cons_cons, List.intercalate_singleton, List.mem_append,
    List.mem_singleton, or_assoc] at h
  rcases h with h | h | h | h | h | h | h
  · exact .inr ⟨_, h⟩
  · exact .inl h
  · exact .inr ⟨_, h⟩
  · exact .inl h
  · exact .inr ⟨_, h⟩
  · exact .inl h
  · exact .inr ⟨_, h⟩

lemma showV4_ne (h : x ∈ (showV4 a b c d).toList) : x ≠ ':' ∧ x ≠ '%' ∧ x ≠ ']' ∧ x ≠ '[' := by
  rcases mem_showV4 h with rfl | ⟨n, hn⟩
  · decide
  · exact (decimal_ne hn).2

lemma showV4_injective {a' b' c' d' : UInt8} (h : showV4 a b c d = showV4 a' b' c' d') :
    a = a' ∧ b = b' ∧ c = c' ∧ d = d' := by
  have hpieces := congrArg (fun text => (text.toList.splitOn '.').map readDecimal) h
  simp only [splitOn_showV4, List.map_cons, List.map_nil, readDecimal_decimal, List.cons.injEq, and_true] at hpieces
  exact ⟨UInt8.toNat_inj.mp hpieces.1, UInt8.toNat_inj.mp hpieces.2.1, UInt8.toNat_inj.mp hpieces.2.2.1,
    UInt8.toNat_inj.mp hpieces.2.2.2⟩

end V4

section V6

variable {segments : List UInt16} {x : Char}

def hexText (n : UInt16) : List Char := Nat.toDigits 16 n.toNat

lemma toList_hexSegments (segments : List UInt16) :
    (hexSegments segments).toList = [':'].intercalate (segments.map hexText) := by
  simp only [hexSegments, String.toList_intercalate, List.map_map, Function.comp_def, String.toList_ofList]
  rfl

/-- The pieces of a group of segments between its colons. An empty group is one empty piece. -/
def pieces (segments : List UInt16) : List (List Char) := if segments = [] then [[]] else segments.map hexText

lemma splitOn_hexSegments (segments : List UInt16) : (hexSegments segments).toList.splitOn ':' = pieces segments := by
  rw [toList_hexSegments, pieces]
  split_ifs with hempty
  · rw [hempty]
    rfl
  · apply List.splitOn_intercalate
    · intro digits hdigits hcolon
      obtain ⟨n, -, rfl⟩ := List.mem_map.mp hdigits
      exact (hexDigit_ne hcolon).2.1 rfl
    · simpa using hempty

lemma zeroRun_zeros (segments : List UInt16) :
    (segments.drop (zeroRun segments).1).take (zeroRun segments).2 = List.replicate (zeroRun segments).2 0 := by
  rw [zeroRun]
  refine List.foldlRecOn (motive := fun longest : ℕ × ℕ =>
    (segments.drop longest.1).take longest.2 = List.replicate longest.2 0) _ _ rfl (fun longest hlongest i _ => ?_)
  dsimp only
  split_ifs
  · rw [← List.prefix_iff_eq_take.mp (List.takeWhile_prefix _)]
    apply List.eq_replicate_of_mem
    intro n hn
    simpa using List.mem_takeWhile_imp hn
  · exact hlongest

def readGroups (ps : List (List Char)) : List ℕ :=
  let left := ps.takeWhile (· ≠ [])
  let right := (ps.dropWhile (· ≠ [])).filter (· ≠ [])
  left.map readHex ++ List.replicate (8 - left.length - right.length) 0 ++ right.map readHex

def readV6 (ps : List (List Char)) : List ℕ :=
  match (ps.getLastD []).splitOn '.' with
  | [a, b, c, d] => [0, 0, 0, 0, 0, 0xffff, readDecimal a * 256 + readDecimal b, readDecimal c * 256 + readDecimal d]
  | _ => readGroups ps

lemma hexText_ne (n : UInt16) : hexText n ≠ [] := Nat.toDigits_ne_nil

lemma map_readHex (segments : List UInt16) : (segments.map hexText).map readHex = segments.map UInt16.toNat := by
  rw [List.map_map]
  exact List.map_congr_left fun n _ => readHex_toDigits n.toNat

lemma nonempty_hexText (segments : List UInt16) :
    ∀ digits ∈ segments.map hexText, decide (digits ≠ []) = true := by
  intro digits hdigits
  obtain ⟨n, -, rfl⟩ := List.mem_map.mp hdigits
  simpa using hexText_ne n

lemma filter_hexText (segments : List UInt16) : (segments.map hexText).filter (· ≠ []) = segments.map hexText :=
  List.filter_eq_self.mpr (nonempty_hexText segments)

lemma filter_pieces (segments : List UInt16) : (pieces segments).filter (· ≠ []) = segments.map hexText := by
  rw [pieces]
  split_ifs with hempty
  · rw [hempty]
    rfl
  · exact filter_hexText segments

lemma readGroups_whole (hempty : segments ≠ []) (hlength : segments.length = 8) :
    readGroups (pieces segments) = segments.map UInt16.toNat := by
  have hnonempty := nonempty_hexText segments
  rw [pieces, if_neg hempty, readGroups, List.takeWhile_eq_self_iff.mpr hnonempty,
    List.dropWhile_eq_nil_iff.mpr hnonempty, map_readHex]
  simp [hlength]

lemma readGroups_compressed (left right : List UInt16) : readGroups (pieces left ++ [] :: pieces right) =
    left.map UInt16.toNat ++ List.replicate (8 - left.length - right.length) 0 ++ right.map UInt16.toNat := by
  have hsplit : ∃ rest, pieces left ++ [] :: pieces right = left.map hexText ++ [] :: rest ∧
      rest.filter (· ≠ []) = right.map hexText := by
    rw [pieces]
    split_ifs with hempty
    · exact ⟨[] :: pieces right, by rw [hempty]; rfl, by rw [List.filter_cons_of_neg (by simp), filter_pieces]⟩
    · exact ⟨pieces right, rfl, filter_pieces right⟩
  obtain ⟨rest, hpieces, hright⟩ := hsplit
  have hnonempty := nonempty_hexText left
  rw [hpieces, readGroups, Lines.takeWhile_run hnonempty (by simp), Lines.dropWhile_run hnonempty (by simp),
    List.filter_cons_of_neg (by simp), hright, map_readHex, map_readHex]
  simp

lemma mem_pieces {piece : List Char} (h : piece ∈ pieces segments) : piece = [] ∨ ∃ n, piece = hexText n := by
  rw [pieces] at h
  split_ifs at h
  · exact .inl (List.mem_singleton.mp h)
  · obtain ⟨n, -, rfl⟩ := List.mem_map.mp h
    exact .inr ⟨n, rfl⟩

lemma readV6_of_hex {ps : List (List Char)} (h : ∀ piece ∈ ps, piece = [] ∨ ∃ n, piece = hexText n) :
    readV6 ps = readGroups ps := by
  have hdot : '.' ∉ ps.getLastD [] := by
    intro hmem
    cases hlast : ps.getLast? with
    | none => simp [List.getLastD_eq_getLast?, hlast] at hmem
    | some piece =>
      rw [List.getLastD_eq_getLast?, hlast, Option.getD_some] at hmem
      rcases h piece (List.mem_of_getLast? hlast) with rfl | ⟨n, rfl⟩
      · cases hmem
      · exact (hexDigit_ne hmem).1 rfl
  rw [readV6, List.splitOn_eq_singleton hdot]

lemma splitOn_compressed (left right : List UInt16) :
    (hexSegments left ++ "::" ++ hexSegments right).toList.splitOn ':' = pieces left ++ [] :: pieces right := by
  have htext : (hexSegments left ++ "::" ++ hexSegments right).toList =
      (hexSegments left).toList ++ ':' :: ([] ++ ':' :: (hexSegments right).toList) := by
    simp [String.toList_append]
  rw [htext, List.splitOn_append_cons_self, List.splitOn_append_cons_self, splitOn_hexSegments, splitOn_hexSegments]
  rfl

lemma splitOn_mapped (a b c d : UInt8) : ("::ffff:" ++ showV4 a b c d).toList.splitOn ':' =
    [[], [], "ffff".toList, (showV4 a b c d).toList] := by
  have htext : ("::ffff:" ++ showV4 a b c d).toList =
      [] ++ ':' :: ([] ++ ':' :: ("ffff".toList ++ ':' :: (showV4 a b c d).toList)) := by
    simp [String.toList_append]
  have hcolon : ':' ∉ (showV4 a b c d).toList := fun h => (showV4_ne h).1 rfl
  rw [htext, List.splitOn_append_cons_self, List.splitOn_append_cons_self, List.splitOn_append_cons_self,
    List.splitOn_eq_singleton hcolon]
  rfl

lemma readV6_mapped (hi lo : UInt16) : readV6 [[], [], "ffff".toList,
    (showV4 (hi >>> 8).toUInt8 hi.toUInt8 (lo >>> 8).toUInt8 lo.toUInt8).toList] =
      [0, 0, 0, 0, 0, 0xffff, hi.toNat, lo.toNat] := by
  have hbytes : ∀ n : UInt16, (n >>> 8).toUInt8.toNat * 256 + n.toUInt8.toNat = n.toNat := by
    intro n
    have hn := n.toNat_lt
    simp only [UInt16.toNat_toUInt8, UInt16.toNat_shiftRight, UInt16.toNat_ofNat, Nat.shiftRight_eq_div_pow,
      Nat.reducePow, Nat.reduceMod]
    omega
  rw [readV6]
  simp only [List.getLastD_cons, List.getLastD_nil, splitOn_showV4, List.map_cons, List.map_nil, readDecimal_decimal,
    hbytes]

lemma map_of_run {start run : ℕ} (hlength : segments.length = 8)
    (hzeros : (segments.drop start).take run = List.replicate run 0) :
    (segments.take start).map UInt16.toNat ++
        List.replicate (8 - (segments.take start).length - (segments.drop (start + run)).length) 0 ++
      (segments.drop (start + run)).map UInt16.toNat = segments.map UInt16.toNat := by
  have hrun : min run (8 - start) = run := by
    simpa [hlength] using congrArg List.length hzeros
  have hmissing : 8 - (segments.take start).length - (segments.drop (start + run)).length = run := by
    rw [List.length_take, List.length_drop, hlength]
    omega
  calc
    _ = ((segments.take start) ++ List.replicate run 0 ++ segments.drop (start + run)).map UInt16.toNat := by
      rw [hmissing, List.map_append, List.map_append, List.map_replicate]
      rfl
    _ = segments.map UInt16.toNat := by
      rw [← hzeros, List.append_assoc, ← List.drop_drop, List.take_append_drop, List.take_append_drop]

lemma readV6_showV6 (hlength : segments.length = 8) :
    readV6 ((showV6 segments).toList.splitOn ':') = segments.map UInt16.toNat := by
  rw [showV6.eq_def]
  split
  · rw [splitOn_mapped, readV6_mapped]
    rfl
  · dsimp only
    split_ifs with hrun
    · rw [splitOn_compressed, readV6_of_hex, readGroups_compressed]
      · exact map_of_run hlength (zeroRun_zeros segments)
      · intro piece hpiece
        rcases List.mem_append.mp hpiece with h | h
        · exact mem_pieces h
        · exact (List.mem_cons.mp h).elim .inl mem_pieces
    · rw [splitOn_hexSegments, readV6_of_hex fun _ => mem_pieces, readGroups_whole _ hlength]
      rintro rfl
      simp at hlength

lemma showV6_injective {segments' : List UInt16} (hlength : segments.length = 8) (hlength' : segments'.length = 8)
    (h : showV6 segments = showV6 segments') : segments = segments' := by
  have hnumbers := congrArg (fun text => readV6 (text.toList.splitOn ':')) h
  simp only [readV6_showV6 hlength, readV6_showV6 hlength'] at hnumbers
  exact List.map_injective_iff.mpr (fun _ _ => UInt16.toNat_inj.mp) hnumbers

lemma mem_hexSegments (h : x ∈ (hexSegments segments).toList) : x = ':' ∨ ∃ n : UInt16, x ∈ hexText n := by
  by_cases hcolon : x = ':'
  · exact .inl hcolon
  · have hmem : x ∈ ((hexSegments segments).toList.splitOn ':').flatten := by
      rw [Lines.flatten_splitOn, List.mem_filter]
      exact ⟨h, decide_eq_true hcolon⟩
    rw [splitOn_hexSegments] at hmem
    obtain ⟨piece, hpiece, hx⟩ := List.mem_flatten.mp hmem
    rcases mem_pieces hpiece with rfl | ⟨n, rfl⟩
    · cases hx
    · exact .inr ⟨n, hx⟩

lemma hexSegments_ne (h : x ∈ (hexSegments segments).toList) : x ≠ '%' ∧ x ≠ ']' := by
  rcases mem_hexSegments h with rfl | ⟨n, hn⟩
  · decide
  · exact (hexDigit_ne hn).2.2

lemma showV6_ne (h : x ∈ (showV6 segments).toList) : x ≠ '%' ∧ x ≠ ']' := by
  rw [showV6.eq_def] at h
  split at h
  · rcases List.mem_append.mp (String.toList_append ▸ h) with h | h
    · have hmapped : x = ':' ∨ x = 'f' ∨ x = ':' := by simpa using h
      rcases hmapped with rfl | rfl | rfl <;> decide
    · exact ⟨(showV4_ne h).2.1, (showV4_ne h).2.2.1⟩
  · dsimp only at h
    split_ifs at h
    · rw [String.toList_append, String.toList_append, List.mem_append, List.mem_append] at h
      rcases h with (h | h) | h
      · exact hexSegments_ne h
      · obtain rfl : x = ':' := by simpa using h
        decide
      · exact hexSegments_ne h
    · exact hexSegments_ne h

end V6

section Text

variable {port : UInt16} {scope : UInt32} {x : Char}

def zone (scope : UInt32) : List Char := if scope = 0 then [] else '%' :: decimal scope.toNat

lemma toList_toStr_v4 (a b c d : UInt8) (port : UInt16) :
    (toStr (.v4 a b c d port)).toList = (showV4 a b c d).toList ++ ':' :: decimal port.toNat := by
  simp [toStr, String.toList_append, decimal]

lemma toList_toStr_v6 (segments : Vector UInt16 8) (scope : UInt32) (port : UInt16) :
    (toStr (.v6 segments scope port)).toList =
      '[' :: ((showV6 segments.toList).toList ++ zone scope ++ ']' :: ':' :: decimal port.toNat) := by
  rw [toStr, zone]
  split_ifs <;> simp [String.toList_append, decimal]

lemma readDecimal_zone (scope : UInt32) : readDecimal (zone scope).tail = scope.toNat := by
  rw [zone]
  split_ifs with hscope
  · rw [hscope]
    rfl
  · exact readDecimal_decimal scope.toNat

lemma takeWhile_zone {text : List Char} (htext : ∀ y ∈ text, y ≠ '%') (scope : UInt32) :
    (text ++ zone scope).takeWhile (· ≠ '%') = text := by
  apply Lines.takeWhile_run
  · simpa using htext
  · intro y hy
    rw [zone] at hy
    split_ifs at hy
    · cases hy
    · cases hy
      rfl

lemma append_zone_injective {text text' : List Char} {scope' : UInt32} (htext : ∀ y ∈ text, y ≠ '%')
    (htext' : ∀ y ∈ text', y ≠ '%') (h : text ++ zone scope = text' ++ zone scope') :
    text = text' ∧ scope = scope' := by
  have htexts : text = text' := by
    rw [← takeWhile_zone htext scope, h, takeWhile_zone htext' scope']
  rw [htexts, List.append_cancel_left_eq] at h
  have hscopes := congrArg (fun text => readDecimal text.tail) h
  simp only [readDecimal_zone] at hscopes
  exact ⟨htexts, UInt32.toNat_inj.mp hscopes⟩

lemma not_mem_zone (scope : UInt32) : ']' ∉ zone scope := by
  rw [zone]
  split_ifs
  · exact List.not_mem_nil
  · intro h
    rcases List.mem_cons.mp h with h | h
    · cases h
    · exact (decimal_ne h).2.2.2.1 rfl

lemma decimal_injective {n m : ℕ} (h : decimal n = decimal m) : n = m := by
  rw [← readDecimal_decimal n, h, readDecimal_decimal]

lemma bracket_not_mem_v4 (a b c d : UInt8) (port : UInt16) : '[' ∉ (toStr (.v4 a b c d port)).toList := by
  rw [toList_toStr_v4, List.mem_append, List.mem_cons]
  rintro (h | h | h)
  · exact (showV4_ne h).2.2.2 rfl
  · cases h
  · exact (decimal_ne h).2.2.2.2 rfl

lemma bracket_mem_v6 (segments : Vector UInt16 8) (scope : UInt32) (port : UInt16) :
    '[' ∈ (toStr (.v6 segments scope port)).toList := by
  rw [toList_toStr_v6]
  exact List.mem_cons_self

lemma colon_mem_toStr (addr : SocketAddr) : ':' ∈ (toStr addr).toList := by
  cases addr with
  | v4 a b c d port => simp [toList_toStr_v4]
  | v6 segments scope port => simp [toList_toStr_v6]

lemma toStr_injective : Function.Injective toStr := by
  intro addr addr' h
  have htext := congrArg String.toList h
  cases addr with
  | v4 a b c d port =>
    cases addr' with
    | v4 a' b' c' d' port' =>
      rw [toList_toStr_v4, toList_toStr_v4] at htext
      have hcolon : ':' ∉ (showV4 a b c d).toList := fun hmem => (showV4_ne hmem).1 rfl
      have hport : ':' ∉ decimal port.toNat := fun hmem => (decimal_ne hmem).2.1 rfl
      obtain ⟨hshow, -, hports⟩ := (List.append_cons_inj_of_notMem hcolon hport).mp htext
      obtain ⟨rfl, rfl, rfl, rfl⟩ := showV4_injective (String.toList_inj.mp hshow)
      rw [UInt16.toNat_inj.mp (decimal_injective hports)]
    | v6 segments' scope' port' =>
      have hbracket := bracket_mem_v6 segments' scope' port'
      rw [← htext] at hbracket
      exact absurd hbracket (bracket_not_mem_v4 a b c d port)
  | v6 segments scope port =>
    cases addr' with
    | v4 a' b' c' d' port' =>
      have hbracket := bracket_mem_v6 segments scope port
      rw [htext] at hbracket
      exact absurd hbracket (bracket_not_mem_v4 a' b' c' d' port')
    | v6 segments' scope' port' =>
      rw [toList_toStr_v6, toList_toStr_v6, List.cons.injEq] at htext
      have hbracket : ']' ∉ (showV6 segments.toList).toList ++ zone scope := by
        rw [List.mem_append, not_or]
        exact ⟨fun hmem => (showV6_ne hmem).2 rfl, not_mem_zone scope⟩
      have hport : ']' ∉ ':' :: decimal port.toNat := by
        intro hmem
        rcases List.mem_cons.mp hmem with hmem | hmem
        · cases hmem
        · exact (decimal_ne hmem).2.2.2.1 rfl
      obtain ⟨hhost, -, hports⟩ := (List.append_cons_inj_of_notMem hbracket hport).mp htext.2
      obtain ⟨hshow, rfl⟩ := append_zone_injective (fun y hy => (showV6_ne hy).1) (fun y hy => (showV6_ne hy).1) hhost
      have hsegments := showV6_injective (Vector.length_toList) (Vector.length_toList) (String.toList_inj.mp hshow)
      rw [UInt16.toNat_inj.mp (decimal_injective (List.cons.inj hports).2), Vector.toList_inj.mp hsegments]

end Text

end SocketAddr

lemma peerKey_injective : Function.Injective peerKey := by
  have hunknown : ∀ addr : SocketAddr, "unknown" ≠ addr.toStr := by
    intro addr h
    have hcolon := SocketAddr.colon_mem_toStr addr
    rw [← h] at hcolon
    revert hcolon
    decide
  intro peer peer' h
  cases peer with
  | none =>
    cases peer' with
    | none => rfl
    | some addr => exact absurd h (hunknown addr)
  | some addr =>
    cases peer' with
    | none => exact absurd h.symm (hunknown addr)
    | some addr' => exact congrArg some (SocketAddr.toStr_injective h)

namespace Observation

def origin : Observation → Option (String × Option SocketAddr)
  | publish topic peer _ => some (topic, peer)
  | _ => none

def publishedFrom (t : String) (peer : Option SocketAddr) : Observation → ℕ
  | publish topic p messages => if topic = t ∧ p = peer then messages.length else 0
  | _ => 0

lemma publishedBy_peerKey (t : String) (peer : Option SocketAddr) :
    publishedBy t (peerKey peer) = publishedFrom t peer := by
  funext o
  cases o with
  | publish topic p messages => simp only [publishedBy, publishedFrom, peerKey_injective.eq_iff]
  | deliver | ack | consumerOpen | consumerClose | adminSnapshot => rfl

lemma publisher_eq_map_origin (o : Observation) : o.publisher = o.origin.map (Prod.map id peerKey) := by
  cases o <;> rfl

lemma isPublishBy_iff_origin {t key : String} {o : Observation} :
    o.IsPublishBy t key ↔ ∃ peer, o.origin = some (t, peer) ∧ peerKey peer = key := by
  cases o with
  | publish topic p messages => simp [IsPublishBy, origin, and_assoc]
  | deliver | ack | consumerOpen | consumerClose | adminSnapshot => simp [IsPublishBy, origin]

end Observation

def recentOrigins (history : List (Observation × Instant)) (now : Instant) : Finset (String × Option SocketAddr) :=
  ((history.filter (fun e => now - e.2 ≤ publisherActiveWindow)).filterMap (fun e => e.1.origin)).toFinset

lemma recentPublishers_eq_image (history : List (Observation × Instant)) (now : Instant) :
    recentPublishers history now = (recentOrigins history now).image (Prod.map id peerKey) := by
  ext p
  simp only [recentPublishers, recentOrigins, Observation.publisher_eq_map_origin, ← List.map_filterMap,
    Finset.mem_image, List.mem_toFinset, List.mem_map]

/-- In a history in the order of the clock, the counts of a topic's publishers are counts of addresses: no two peers
share one and none is split over two. -/
theorem publishers_are_told_apart (history : List (Observation × Instant)) (now : Instant)
    (clock : history.Pairwise (fun e e' => e.2 ≤ e'.2)) :
    let s := ({} : AppState).applyAll history
    s.connectedPublishers now = (recentOrigins history now).card ∧
    ∀ t, (∀ peer, (s.topicAt t).publishedBy (peerKey peer) =
        tally (Observation.publishedFrom t peer) (history.map Prod.fst)) ∧
      (∀ peer, peerKey peer ∈ (s.topicAt t).publishers ↔ ∃ e ∈ history, e.1.origin = some (t, peer)) ∧
      ∀ key ∈ (s.topicAt t).publishers, ∃! peer, peerKey peer = key := by
  intro s
  refine ⟨?_, fun t => ⟨fun peer => ?_, fun peer => ?_, fun key hkey => ?_⟩⟩
  · rw [AppState.connectedPublishers_applyAll clock, recentPublishers_eq_image]
    apply Finset.card_image_of_injective
    exact Function.Injective.prodMap Function.injective_id peerKey_injective
  · rw [← Observation.publishedBy_peerKey]
    simpa [Topic.publishedBy] using AppState.publishedBy_applyAll {} t (peerKey peer) history
  · have hmem := AppState.mem_publishers_applyAll {} t (peerKey peer) history
    simpa [Observation.isPublishBy_iff_origin, peerKey_injective.eq_iff] using hmem
  · have hmem := (AppState.mem_publishers_applyAll {} t key history).mp hkey
    rw [AppState.topicAt_default] at hmem
    obtain h | ⟨e, -, hby⟩ := hmem
    · simp at h
    · obtain ⟨peer, -, hpeer⟩ := Observation.isPublishBy_iff_origin.mp hby
      exact ⟨peer, hpeer, fun other hother => peerKey_injective (hother.trans hpeer.symm)⟩

def sameHost : List (Observation × Instant) :=
  [(.publish "projects/p/topics/a" (some (.v4 127 0 0 1 5000)) [⟨[104], [], 1, false⟩], 0),
    (.publish "projects/p/topics/a" (some (.v4 127 0 0 1 5001)) [⟨[105], [], 1, false⟩], 1)]

theorem publishers_are_told_apart_on_one_host : (({} : AppState).applyAll sameHost).connectedPublishers 2 = 2 ∧
    ((({} : AppState).applyAll sameHost).topicAt "projects/p/topics/a").publishedBy
      (peerKey (some (.v4 127 0 0 1 5001))) = 1 := by
  obtain ⟨hcount, hcredit⟩ := publishers_are_told_apart sameHost 2 (by decide)
  exact ⟨hcount, (hcredit "projects/p/topics/a").1 _⟩

end PubSubTui.Observe
