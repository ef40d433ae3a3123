import PubSubTui.Proxy.Http
import PubSubTui.Ui.Tree

/-! The lines that show a captured message: a header, then the payload as JSON, as text or as a dump of its bytes. -/

namespace PubSubTui.Ui

open Observe
open Proxy (Bytes Json)

structure SerdeJson where
  fromSlice : Bytes → Option Json
  toStringPretty : Json → Option String

structure Rendered where
  label : String
  lines : List Line
  deriving DecidableEq

def isControl (c : Char) : Bool := c.toNat < 0x20 ∨ 0x7f ≤ c.toNat ∧ c.toNat < 0xa0

def Printable (c : Char) : Prop := 0x20 ≤ c.toNat ∧ c.toNat < 0x7f

instance : DecidablePred Printable := fun _ => inferInstanceAs (Decidable (_ ∧ _))

lemma Printable.not_control {c : Char} (h : Printable c) : isControl c = false := by
  obtain ⟨hlow, hhigh⟩ := h
  exact decide_eq_false (by omega)

lemma printable_digitChar {n : ℕ} (hn : n < 16) : Printable (Nat.digitChar n) := by
  have hall : ∀ n < 16, Printable (Nat.digitChar n) := by decide
  exact hall n hn

/-- The characters with Unicode's `White_Space` property. -/
def isWhitespace (c : Char) : Bool :=
  0x9 ≤ c.toNat ∧ c.toNat ≤ 0xd ∨ 0x2000 ≤ c.toNat ∧ c.toNat ≤ 0x200a ∨
    c.toNat ∈ [0x20, 0x85, 0xa0, 0x1680, 0x2028, 0x2029, 0x202f, 0x205f, 0x3000]

def splitLines (text : String) : List (List Char) := text.toList.splitOn '\n'

section Json

def jsonKey : Style := .boldFg .cyan

def jsonString : Style := .fg .green

def jsonNumber : Style := .fg .yellow

def jsonLiteral : Style := .fg .magenta

def jsonPunct : Style := .fg .white

def scanString (escaped : Bool) : List Char → List Char × List Char
  | [] => ([], [])
  | d :: ds =>
    if escaped then (scanString false ds).map (d :: ·) id
    else if d = '\\' then (scanString true ds).map (d :: ·) id
    else if d = '"' then ([d], ds)
    else (scanString false ds).map (d :: ·) id

lemma length_scanString_le (escaped : Bool) (cs : List Char) : (scanString escaped cs).2.length ≤ cs.length := by
  induction cs generalizing escaped with
  | nil => simp [scanString]
  | cons d ds ih =>
    rw [scanString]
    split_ifs
    · exact (ih false).trans (Nat.le_succ _)
    · exact (ih true).trans (Nat.le_succ _)
    · exact Nat.le_succ _
    · exact (ih false).trans (Nat.le_succ _)

def isNumberPart (c : Char) : Bool := c.isDigit ∨ c ∈ ['.', 'e', 'E', '+', '-']

lemma length_dropWhile_le {α : Type*} (p : α → Bool) (l : List α) : (l.dropWhile p).length ≤ l.length :=
  (List.dropWhile_suffix p).length_le

def highlightJsonLine : List Char → Line
  | [] => []
  | c :: cs =>
    if isWhitespace c then
      ⟨String.ofList (c :: cs.takeWhile isWhitespace), .base⟩ :: highlightJsonLine (cs.dropWhile isWhitespace)
    else if c = '"' then
      -- A string is a key when the next character that is no white space is a colon.
      let isKey := ((scanString false cs).2.dropWhile isWhitespace).head? = some ':'
      ⟨String.ofList (c :: (scanString false cs).1), if isKey then jsonKey else jsonString⟩ ::
        highlightJsonLine (scanString false cs).2
    else if c = '-' ∨ c.isDigit then
      ⟨String.ofList (c :: cs.takeWhile isNumberPart), jsonNumber⟩ :: highlightJsonLine (cs.dropWhile isNumberPart)
    else if c.isAlpha then
      ⟨String.ofList (c :: cs.takeWhile Char.isAlpha), jsonLiteral⟩ ::
        highlightJsonLine (cs.dropWhile Char.isAlpha)
    else ⟨c.toString, jsonPunct⟩ :: highlightJsonLine cs
termination_by cs => cs.length
decreasing_by
  · exact Nat.lt_succ_of_le (length_dropWhile_le _ _)
  · exact Nat.lt_succ_of_le (length_scanString_le _ _)
  · exact Nat.lt_succ_of_le (length_dropWhile_le _ _)
  · exact Nat.lt_succ_of_le (length_dropWhile_le _ _)
  · exact Nat.lt_succ_self _

def asJson (serde : SerdeJson) (data : Bytes) : Option (List Line) := do
  let value ← serde.fromSlice data
  let pretty ← serde.toStringPretty value
  some ((splitLines pretty).map highlightJsonLine)

end Json

def fromUtf8 (data : Bytes) : Option String := String.fromUTF8? ⟨data.toArray⟩

lemma fromUtf8_utf8 (text : String) : fromUtf8 (Proxy.utf8 text) = some text := by
  have hbytes : (⟨(Proxy.utf8 text).toArray⟩ : ByteArray) = text.toByteArray := by simp [Proxy.utf8]
  rw [fromUtf8, hbytes, String.fromUTF8?, dif_pos text.isValidUTF8]
  rfl

def asText (data : Bytes) : Option (List Line) := do
  let text ← fromUtf8 data
  if text.toList.all fun c => !isControl c || c = '\t' || c = '\n' || c = '\r' then
    some ((splitLines text).map fun line =>
      let line := (line.flatMap fun c => if c = '\t' then [' ', ' ', ' ', ' '] else [c]).filter (· ≠ '\r')
      [⟨String.ofList line, .fg .white⟩])
  else none

lemma asText_utf8 {text : String} (h : ∀ c ∈ text.toList, isControl c = false ∨ c = '\t' ∨ c = '\n' ∨ c = '\r') :
    ∃ lines, asText (Proxy.utf8 text) = some lines ∧ lines.length = (splitLines text).length := by
  have hall : text.toList.all (fun c => !isControl c || c = '\t' || c = '\n' || c = '\r') = true := by
    rw [List.all_eq_true]
    intro c hc
    simpa [or_assoc] using h c hc
  simp only [asText, fromUtf8_utf8, Option.bind_eq_bind, Option.bind_some, if_pos hall]
  exact ⟨_, rfl, List.length_map _⟩

section Hex

def chunks {α : Type*} (size : ℕ) : List α → List (List α)
  | [] => []
  | x :: xs => (x :: xs.take (size - 1)) :: chunks size (xs.drop (size - 1))
termination_by data => data.length
decreasing_by simp

def fullWidth : ℕ := 16 * 3 + 1

def hexByte (byte : UInt8) : List Char :=
  [Nat.digitChar (byte.toNat / 16), Nat.digitChar (byte.toNat % 16), ' ']

def hexDigits (chunk : Bytes) : List Char :=
  (chunk.mapIdx fun i byte => if i = 8 then ' ' :: hexByte byte else hexByte byte).flatten

def hexColumn (chunk : Bytes) : List Char :=
  hexDigits chunk ++ List.replicate (fullWidth - (hexDigits chunk).length) ' '

def asciiChar (b : UInt8) : Char := if 0x20 ≤ b ∧ b < 0x7f then Char.ofNat b.toNat else '.'

def hexRow (row : ℕ) (chunk : Bytes) : Line :=
  [⟨String.ofList ((Nat.toDigits 16 (row * 16)).leftpad 8 '0') ++ "  ", .fg .cyan⟩,
    ⟨String.ofList (hexColumn chunk), .fg .gray⟩,
    ⟨" |" ++ String.ofList (chunk.map asciiChar) ++ "|", .fg .yellow⟩]

def asHex (data : Bytes) : List Line := (chunks 16 data).mapIdx hexRow

end Hex

def renderBody (serde : SerdeJson) (data : Bytes) : Rendered :=
  if data = [] then { label := "empty", lines := [[⟨"(empty payload)", .label⟩]] }
  else match asJson serde data with
    | some lines => { label := "json", lines }
    | none => match asText data with
      | some lines => { label := "text", lines }
      | none => { label := "hex", lines := asHex data }

end PubSubTui.Ui
