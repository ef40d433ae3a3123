import PubSubTui.Library.Hexadecimal
import PubSubTui.Ui.MessageView

/-! The dump of a payload that is neither JSON nor text: what can be read back from it, and how its rows line up. -/

namespace PubSubTui.Ui

open Library.Hexadecimal
open Proxy (Bytes)

section Chunks

variable {α : Type*} {size r : ℕ} {data : List α}

lemma chunks_nil (size : ℕ) : chunks size ([] : List α) = [] := by
  rw [chunks]

lemma chunks_of_ne_nil (hsize : 0 < size) (hdata : data ≠ []) :
    chunks size data = data.take size :: chunks size (data.drop size) := by
  obtain ⟨x, xs, rfl⟩ := List.exists_cons_of_ne_nil hdata
  obtain ⟨n, rfl⟩ := Nat.exists_eq_succ_of_ne_zero hsize.ne'
  rw [chunks]
  rfl

lemma chunks_induction {motive : List α → Prop} (hsize : 0 < size) (nil : motive [])
    (chunk : ∀ data, data ≠ [] → motive (data.drop size) → motive data) (data : List α) : motive data := by
  induction hn : data.length using Nat.strong_induction_on generalizing data with
  | _ n ih =>
    by_cases hdata : data = []
    · rw [hdata]
      exact nil
    · have hpos := List.length_pos_of_ne_nil hdata
      refine chunk data hdata (ih (data.drop size).length ?_ _ rfl)
      rw [List.length_drop]
      omega

lemma flatten_chunks (hsize : 0 < size) (data : List α) : (chunks size data).flatten = data := by
  induction data using chunks_induction hsize with
  | nil => rw [chunks_nil, List.flatten_nil]
  | chunk data hdata ih => rw [chunks_of_ne_nil hsize hdata, List.flatten_cons, ih, List.take_append_drop]

lemma length_chunks (hsize : 0 < size) (data : List α) :
    (chunks size data).length = (data.length + (size - 1)) / size := by
  induction data using chunks_induction hsize with
  | nil => rw [chunks_nil, List.length_nil, List.length_nil, Nat.div_eq_of_lt (by omega)]
  | chunk data hdata ih =>
    have hpos := List.length_pos_of_ne_nil hdata
    have hlast : (data.length - size + (size - 1)) / size = (data.length - 1) / size := by
      by_cases hle : size ≤ data.length
      · rw [show data.length - size + (size - 1) = data.length - 1 by omega]
      · rw [Nat.div_eq_of_lt (by omega), Nat.div_eq_of_lt (by omega)]
    rw [chunks_of_ne_nil hsize hdata, List.length_cons, ih, List.length_drop, hlast,
      show data.length + (size - 1) = data.length - 1 + size by omega, Nat.add_div_right _ hsize]

lemma getElem?_chunks (hsize : 0 < size) (hr : size * r < data.length) :
    (chunks size data)[r]? = some ((data.drop (size * r)).take size) := by
  induction r generalizing data with
  | zero =>
    have hdata : data ≠ [] := List.ne_nil_of_length_pos (by omega)
    rw [chunks_of_ne_nil hsize hdata]
    rfl
  | succ r ih =>
    have hdata : data ≠ [] := List.ne_nil_of_length_pos (by omega)
    rw [Nat.mul_succ] at hr
    rw [chunks_of_ne_nil hsize hdata, List.getElem?_cons_succ, ih (by rw [List.length_drop]; omega), List.drop_drop,
      Nat.mul_succ, Nat.add_comm]

lemma length_of_mem_chunks (hsize : 0 < size) {chunk : List α} (h : chunk ∈ chunks size data) :
    chunk.length ≤ size := by
  induction data using chunks_induction hsize with
  | nil =>
    rw [chunks_nil] at h
    cases h
  | chunk data hdata ih =>
    rw [chunks_of_ne_nil hsize hdata] at h
    rcases List.mem_cons.mp h with rfl | h
    · exact List.length_take_le _ _
    · exact ih h

lemma lt_length_of_chunk (hsize : 0 < size) {chunk : List α} (h : (chunks size data)[r]? = some chunk) :
    size * r < data.length := by
  obtain ⟨hr, -⟩ := List.getElem?_eq_some_iff.mp h
  rw [length_chunks hsize, Nat.lt_div_iff_mul_lt hsize, Nat.mul_comm] at hr
  omega

end Chunks

section Columns

variable {chunk : Bytes}

lemma printable_hexByte (byte : UInt8) : ∀ c ∈ hexByte byte, Printable c := by
  have hlt := byte.toNat_lt
  have hhigh : byte.toNat / 16 < 16 := by omega
  have hlow : byte.toNat % 16 < 16 := Nat.mod_lt _ (by decide)
  intro c hc
  simp only [hexByte, List.mem_cons, List.not_mem_nil, or_false] at hc
  rcases hc with rfl | rfl | rfl
  · exact printable_digitChar hhigh
  · exact printable_digitChar hlow
  · decide

lemma printable_hexDigits (chunk : Bytes) : ∀ c ∈ hexDigits chunk, Printable c := by
  intro c hc
  obtain ⟨group, hgroup, hc⟩ := List.mem_flatten.mp hc
  obtain ⟨i, hi, rfl⟩ := List.mem_mapIdx.mp hgroup
  split_ifs at hc
  · rcases List.mem_cons.mp hc with rfl | hc
    · decide
    · exact printable_hexByte _ c hc
  · exact printable_hexByte _ c hc

lemma utf8ByteSize_of_printable {text : List Char} (h : ∀ c ∈ text, Printable c) :
    (String.ofList text).utf8ByteSize = text.length := by
  induction text with
  | nil => rfl
  | cons c text ih =>
    obtain ⟨hc, htext⟩ := List.forall_mem_cons.mp h
    have hsize : c.utf8Size = 1 := Char.utf8Size_eq_one_iff.mpr (UInt32.le_iff_toNat_le.mpr (Nat.le_of_lt hc.2))
    rw [String.ofList_cons, String.utf8ByteSize_append, String.utf8ByteSize_singleton, hsize, ih htext, List.length_cons,
      Nat.add_comm]

lemma length_hexDigits (chunk : Bytes) :
    (hexDigits chunk).length = 3 * chunk.length + if 8 < chunk.length then 1 else 0 := by
  induction chunk using List.reverseRecOn with
  | nil => rfl
  | append_singleton chunk byte ih =>
    have hsnoc : hexDigits (chunk ++ [byte]) =
        hexDigits chunk ++ if chunk.length = 8 then ' ' :: hexByte byte else hexByte byte := by
      rw [hexDigits, List.mapIdx_concat, List.flatten_append, List.flatten_singleton, hexDigits]
    rw [hsnoc, List.length_append, ih, List.length_append, List.length_singleton]
    split_ifs <;> simp [hexByte] <;> omega

/-- The padding of a row does not underflow, as no row is longer than the width that it is padded to. -/
lemma length_hexDigits_le (h : chunk.length ≤ 16) : (hexDigits chunk).length ≤ fullWidth := by
  rw [length_hexDigits, fullWidth]
  split_ifs <;> omega

lemma length_hexColumn (h : chunk.length ≤ 16) : (hexColumn chunk).length = fullWidth := by
  rw [hexColumn, List.length_append, List.length_replicate, Nat.add_sub_cancel' (length_hexDigits_le h)]

lemma readOctets_groups (f : ℕ → UInt8 → List Char)
    (hf : ∀ i byte, f i byte = ' ' :: hexByte byte ∨ f i byte = hexByte byte) (n : ℕ) :
    readOctets ((chunk.mapIdx f).flatten ++ List.replicate n ' ') = some chunk := by
  induction chunk generalizing f with
  | nil => exact readOctets_replicate n
  | cons byte chunk ih =>
    have hrest := ih (fun i => f (i + 1)) fun i => hf (i + 1)
    rw [List.mapIdx_cons, List.flatten_cons, List.append_assoc]
    rcases hf 0 byte with hgroup | hgroup
    · rw [hgroup, List.cons_append, readOctets_blank]
      exact readOctets_octet hrest byte
    · rw [hgroup]
      exact readOctets_octet hrest byte

lemma readOctets_hexColumn (chunk : Bytes) : readOctets (hexColumn chunk) = some chunk := by
  apply readOctets_groups
  intro i byte
  by_cases hi : i = 8
  · exact .inl (if_pos hi)
  · exact .inr (if_neg hi)

lemma printable_asciiChar (byte : UInt8) : Printable (asciiChar byte) := by
  rw [asciiChar]
  split_ifs with h
  · obtain ⟨hlow, hhigh⟩ := h
    have hlow : 0x20 ≤ byte.toNat := UInt8.le_iff_toNat_le.mp hlow
    have hhigh : byte.toNat < 0x7f := UInt8.lt_iff_toNat_lt.mp hhigh
    have hvalid : byte.toNat.isValidChar := .inl (by omega)
    rw [Char.ofNat, dif_pos hvalid]
    exact ⟨hlow, hhigh⟩
  · decide

end Columns

section Rows

def ShowsChunk (offset : ℕ) (chunk : Bytes) (row : Line) : Prop :=
  ∃ number column gutter : List Char,
    row = [⟨String.ofList number ++ "  ", .fg .cyan⟩, ⟨String.ofList column, .fg .gray⟩,
      ⟨" |" ++ String.ofList gutter ++ "|", .fg .yellow⟩] ∧
    number.length = 8 ∧ readNat number = some offset ∧ column.length = fullWidth ∧ readOctets column = some chunk ∧
    gutter.length = chunk.length ∧ ∀ c ∈ gutter, Printable c

lemma showsChunk_hexRow {row : ℕ} {chunk : Bytes} (hrow : row * 16 < 2 ^ 32) (hchunk : chunk.length ≤ 16) :
    ShowsChunk (16 * row) chunk (hexRow row chunk) := by
  refine ⟨_, _, _, rfl, length_leftpad_toDigits (by decide) hrow, ?_, length_hexColumn hchunk,
    readOctets_hexColumn chunk, List.length_map _, ?_⟩
  · rw [readNat_leftpad, readNat_toDigits, Nat.mul_comm]
  · intro c hc
    obtain ⟨byte, -, rfl⟩ := List.mem_map.mp hc
    exact printable_asciiChar byte

def readDump (rows : List Line) : Option Bytes :=
  (rows.mapM fun row => row[1]?.bind fun column => readOctets column.content.toList).map List.flatten

lemma readDump_mapIdx {chunks : List Bytes} (f : ℕ → Bytes → Line)
    (hf : ∀ i chunk, ∃ column, (f i chunk)[1]? = some column ∧ readOctets column.content.toList = some chunk) :
    readDump (chunks.mapIdx f) = some chunks.flatten := by
  have hcolumns : (chunks.mapIdx f).mapM (fun row => row[1]?.bind fun column => readOctets column.content.toList) =
      some chunks := by
    induction chunks generalizing f with
    | nil => rfl
    | cons chunk chunks ih =>
      obtain ⟨column, hcolumn, hread⟩ := hf 0 chunk
      rw [List.mapIdx_cons, List.mapM_cons, hcolumn, Option.bind_some, hread, ih _ fun i => hf (i + 1)]
      rfl
  rw [readDump, hcolumns, Option.map_some]

lemma readDump_asHex (data : Bytes) : readDump (asHex data) = some data := by
  rw [asHex, readDump_mapIdx, flatten_chunks (by decide)]
  intro i chunk
  refine ⟨_, rfl, ?_⟩
  rw [String.toList_ofList, readOctets_hexColumn]

end Rows

theorem hex_dump_aligned_and_lossless (data : Bytes) (hlt : data.length < 2 ^ 32) :
    (asHex data).length = (data.length + 15) / 16 ∧
    (∀ chunk ∈ chunks 16 data, (String.ofList (hexDigits chunk)).utf8ByteSize ≤ fullWidth) ∧
    (∀ r row, (asHex data)[r]? = some row → ShowsChunk (16 * r) ((data.drop (16 * r)).take 16) row) ∧
    readDump (asHex data) = some data := by
  have hsize : 0 < 16 := by decide
  refine ⟨?_, fun chunk hchunk => ?_, fun r row hrow => ?_, readDump_asHex data⟩
  · rw [asHex, List.length_mapIdx, length_chunks hsize]
  · rw [utf8ByteSize_of_printable (printable_hexDigits chunk)]
    exact length_hexDigits_le (length_of_mem_chunks hsize hchunk)
  · rw [asHex, List.getElem?_mapIdx] at hrow
    obtain ⟨chunk, hchunk, rfl⟩ := Option.map_eq_some_iff.mp hrow
    have hr : 16 * r < data.length := lt_length_of_chunk hsize hchunk
    rw [getElem?_chunks hsize hr] at hchunk
    cases hchunk
    exact showsChunk_hexRow (by omega) (List.length_take_le _ _)

theorem hex_dump_of_binary : readDump (asHex [0x00, 0xff, 0x10, 0x41]) = some [0x00, 0xff, 0x10, 0x41] :=
  (hex_dump_aligned_and_lossless _ (by decide)).2.2.2

end PubSubTui.Ui
