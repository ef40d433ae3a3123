import PubSubTui.Library.Lines
import PubSubTui.Ui.PrettyJson

/-! What the highlighter makes of a line, and of the lines of pretty-printed JSON. -/

namespace PubSubTui.Ui

open Proxy (Json)
open Library.Lines

variable {c : Char} {w cs line rest : List Char}

section Scanner

lemma scanString_append (escaped : Bool) (cs : List Char) :
    (scanString escaped cs).1 ++ (scanString escaped cs).2 = cs := by
  induction cs generalizing escaped with
  | nil => rfl
  | cons d ds ih =>
    rw [scanString]
    split_ifs
    · exact congrArg (d :: ·) (ih false)
    · exact congrArg (d :: ·) (ih true)
    · rfl
    · exact congrArg (d :: ·) (ih false)

def lineText (line : Line) : List Char := line.flatMap (·.content.toList)

lemma lineText_cons (text : List Char) (style : Style) (line : Line) :
    lineText (⟨String.ofList text, style⟩ :: line) = text ++ lineText line := by
  rw [lineText, List.flatMap_cons, String.toList_ofList, lineText]

lemma highlightJsonLine_cons (c : Char) (cs : List Char) : ∃ w rest style, cs = w ++ rest ∧
    highlightJsonLine (c :: cs) = ⟨String.ofList (c :: w), style⟩ :: highlightJsonLine rest ∧
    (style = .base → ∀ d ∈ c :: w, isWhitespace d = true) := by
  rw [highlightJsonLine]
  split_ifs with hspace hquote hnumber
  · refine ⟨_, _, _, List.takeWhile_append_dropWhile.symm, rfl, fun _ d hd => ?_⟩
    rcases List.mem_cons.mp hd with rfl | hd
    · exact hspace
    · exact List.mem_takeWhile_imp hd
  · refine ⟨_, _, _, (scanString_append false cs).symm, rfl, fun hstyle => ?_⟩
    split_ifs at hstyle <;> cases hstyle
  · refine ⟨_, _, _, List.takeWhile_append_dropWhile.symm, rfl, fun hstyle => ?_⟩
    cases hstyle
  · refine ⟨_, _, _, List.takeWhile_append_dropWhile.symm, rfl, fun hstyle => ?_⟩
    cases hstyle
  · refine ⟨[], cs, jsonPunct, rfl, rfl, fun hstyle => ?_⟩
    cases hstyle

lemma highlightJsonLine_lossless (line : List Char) : lineText (highlightJsonLine line) = line ∧
    ∀ span ∈ highlightJsonLine line, span.content ≠ "" ∧
      (span.style = .base → ∀ d ∈ span.content.toList, isWhitespace d = true) := by
  induction hn : line.length using Nat.strong_induction_on generalizing line with
  | _ n ih =>
    cases line with
    | nil =>
      rw [highlightJsonLine]
      exact ⟨rfl, by simp⟩
    | cons c cs =>
      obtain ⟨w, rest, style, rfl, hcons, hbase⟩ := highlightJsonLine_cons c cs
      have hlt : rest.length < n := by
        rw [← hn, List.length_cons, List.length_append]
        omega
      obtain ⟨htext, hspans⟩ := ih rest.length hlt rest rfl
      rw [hcons]
      refine ⟨by rw [lineText_cons, htext, List.cons_append], fun span hspan => ?_⟩
      rcases List.mem_cons.mp hspan with rfl | hspan
      · exact ⟨by simp, by simpa using hbase⟩
      · exact hspans span hspan

end Scanner

section Tokens

def punct (c : Char) : Span := ⟨c.toString, jsonPunct⟩

def commaToken {α : Type*} (rest : List α) : Line := if rest = [] then [] else [punct ',']

mutual

def tokens : Json → Line
  | .null => [⟨"null", jsonLiteral⟩]
  | .bool value => [⟨if value then "true" else "false", jsonLiteral⟩]
  | .number literal => [⟨literal, jsonNumber⟩]
  | .string text => [⟨String.ofList (quoted text), jsonString⟩]
  | .array values => punct '[' :: (valueTokens values ++ [punct ']'])
  | .object members => punct '{' :: (memberTokens members ++ [punct '}'])

def valueTokens : List Json → Line
  | [] => []
  | value :: values => tokens value ++ commaToken values ++ valueTokens values

def memberTokens : List (String × Json) → Line
  | [] => []
  | (name, value) :: members =>
    ⟨String.ofList (quoted name), jsonKey⟩ :: punct ':' :: (tokens value ++ commaToken members ++ memberTokens members)

end

end Tokens

section Lines

def lineTokens (line : List Char) : Line := (highlightJsonLine line).filter (·.style ≠ .base)

lemma lineTokens_nil : lineTokens [] = [] := by
  rw [lineTokens, highlightJsonLine]
  rfl

lemma lineTokens_dropWhile (line : List Char) : lineTokens (line.dropWhile isWhitespace) = lineTokens line := by
  cases line with
  | nil => rfl
  | cons c cs =>
    by_cases hc : isWhitespace c = true
    · rw [List.dropWhile_cons_of_pos hc, lineTokens, lineTokens, highlightJsonLine.eq_def (c :: cs)]
      simp only [if_pos hc]
      rw [List.filter_cons_of_neg (by simp)]
    · rw [List.dropWhile_cons_of_neg hc]

lemma lineTokens_space (hc : isWhitespace c = true) (rest : List Char) : lineTokens (c :: rest) = lineTokens rest := by
  rw [← lineTokens_dropWhile (c :: rest), List.dropWhile_cons_of_pos hc, lineTokens_dropWhile]

lemma lineTokens_punct (hc : c ∈ ['[', ']', '{', '}', ',', ':']) (rest : List Char) :
    lineTokens (c :: rest) = punct c :: lineTokens rest := by
  have hother : isWhitespace c = false ∧ c ≠ '"' ∧ ¬ (c = '-' ∨ c.isDigit = true) ∧ c.isAlpha = false := by
    simp only [List.mem_cons, List.not_mem_nil, or_false] at hc
    rcases hc with rfl | rfl | rfl | rfl | rfl | rfl <;> decide
  obtain ⟨hspace, hquote, hnumber, halpha⟩ := hother
  rw [lineTokens, highlightJsonLine, if_neg (by simp [hspace]), if_neg hquote, if_neg hnumber, if_neg (by simp [halpha])]
  rfl

lemma lineTokens_word (hother : isWhitespace c = false ∧ c ≠ '"' ∧ ¬ (c = '-' ∨ c.isDigit = true))
    (hc : c.isAlpha = true) (hw : ∀ d ∈ w, d.isAlpha = true) (hrest : ∀ d ∈ rest.head?, d.isAlpha = false) :
    lineTokens (c :: w ++ rest) = ⟨String.ofList (c :: w), jsonLiteral⟩ :: lineTokens rest := by
  obtain ⟨hspace, hquote, hnumber⟩ := hother
  rw [List.cons_append, lineTokens, highlightJsonLine, if_neg (by simp [hspace]), if_neg hquote, if_neg hnumber,
    if_pos hc, takeWhile_run hw hrest, dropWhile_run hw hrest]
  rfl

lemma lineTokens_literal {word : String} (hword : word ∈ ["null", "true", "false"])
    (hrest : ∀ d ∈ rest.head?, d.isAlpha = false) :
    lineTokens (word.toList ++ rest) = ⟨word, jsonLiteral⟩ :: lineTokens rest := by
  simp only [List.mem_cons, List.not_mem_nil, or_false] at hword
  rcases hword with rfl | rfl | rfl
  · exact lineTokens_word (w := ['u', 'l', 'l']) (by decide) rfl (by simp) hrest
  · exact lineTokens_word (w := ['r', 'u', 'e']) (by decide) rfl (by simp) hrest
  · exact lineTokens_word (w := ['a', 'l', 's', 'e']) (by decide) rfl (by simp) hrest

lemma other_of_numberStart (hc : c = '-' ∨ c.isDigit = true) : isWhitespace c = false ∧ c ≠ '"' := by
  rcases hc with rfl | hc
  · decide
  · have hrange : 48 ≤ c.toNat ∧ c.toNat ≤ 57 := Char.isDigit_iff_toNat.mp hc
    refine ⟨decide_eq_false ?_, ?_⟩
    · simp only [List.mem_cons, List.not_mem_nil, or_false]
      omega
    · rintro rfl
      exact absurd hc (by decide)

lemma lineTokens_number {literal : String} (h : IsNumber literal.toList)
    (hrest : ∀ d ∈ rest.head?, isNumberPart d = false) :
    lineTokens (literal.toList ++ rest) = ⟨literal, jsonNumber⟩ :: lineTokens rest := by
  obtain ⟨c, w, hliteral, hc, hw⟩ := h.exists_cons
  obtain ⟨hspace, hquote⟩ := other_of_numberStart hc
  have hback : String.ofList (c :: w) = literal := by rw [← hliteral, String.ofList_toList]
  rw [hliteral, List.cons_append, lineTokens, highlightJsonLine, if_neg (by simp [hspace]), if_neg hquote, if_pos hc,
    takeWhile_run hw hrest, dropWhile_run hw hrest, hback]
  rfl

lemma scanString_plain (hw : ∀ d ∈ w, d ∉ ['"', '\\']) (cs : List Char) :
    scanString false (w ++ cs) = (scanString false cs).map (w ++ ·) id := by
  induction w with
  | nil => rfl
  | cons d w ih =>
    obtain ⟨hd, hw⟩ := List.forall_mem_cons.mp hw
    simp only [List.mem_cons, List.not_mem_nil, or_false, not_or] at hd
    rw [List.cons_append, scanString, if_neg Bool.false_ne_true, if_neg hd.2, if_neg hd.1, ih hw]
    rfl

lemma scanString_escapeChar (c : Char) (cs : List Char) :
    scanString false (escapeChar c ++ cs) = (scanString false cs).map (escapeChar c ++ ·) id := by
  rcases escapeChar_cases c with ⟨x, tail, hescape, -, htail⟩ | ⟨hescape, hc, -⟩
  · rw [hescape, List.cons_append, List.cons_append, scanString, if_neg Bool.false_ne_true, if_pos rfl, scanString,
      if_pos rfl, scanString_plain fun d hd => (htail d hd).2]
    rfl
  · rw [hescape]
    apply scanString_plain
    intro d hd
    obtain rfl := List.mem_singleton.mp hd
    exact hc

lemma scanString_quoted (text rest : List Char) :
    scanString false (text.flatMap escapeChar ++ '"' :: rest) = (text.flatMap escapeChar ++ ['"'], rest) := by
  induction text with
  | nil => rfl
  | cons c text ih =>
    rw [List.flatMap_cons, List.append_assoc, scanString_escapeChar, ih, List.append_assoc]
    rfl

lemma lineTokens_quoted (text : String) (rest : List Char) : lineTokens (quoted text ++ rest) =
    ⟨String.ofList (quoted text), if (rest.dropWhile isWhitespace).head? = some ':' then jsonKey else jsonString⟩ ::
      lineTokens rest := by
  have hscan : scanString false (text.toList.flatMap escapeChar ++ ['"'] ++ rest) =
      (text.toList.flatMap escapeChar ++ ['"'], rest) := by
    rw [List.append_assoc]
    exact scanString_quoted text.toList rest
  rw [quoted, List.cons_append, lineTokens, highlightJsonLine, if_neg (by decide), if_pos rfl, hscan]
  rw [List.filter_cons_of_pos]
  · rfl
  · split_ifs <;> rfl

end Lines

section Texts

def Ends (rest : List Char) : Prop := ∀ d ∈ rest.head?, d = ',' ∨ d = '\n'

lemma Ends.head_line (h : Ends rest) : ∀ d ∈ (rest.takeWhile (· ≠ '\n')).head?, d = ',' := by
  cases rest with
  | nil => nofun
  | cons d rest =>
    rcases h d rfl with rfl | rfl
    · rw [List.takeWhile_cons_of_pos (by decide)]
      rintro _ ⟨⟩
      rfl
    · rw [List.takeWhile_cons_of_neg (by decide)]
      nofun

def textTokens (text : List Char) : Line := perLine '\n' lineTokens text

lemma textTokens_token {token : Span} (hw : '\n' ∉ w)
    (hline : lineTokens (w ++ rest.takeWhile (· ≠ '\n')) = token :: lineTokens (rest.takeWhile (· ≠ '\n'))) :
    textTokens (w ++ rest) = token :: textTokens rest := by
  rw [textTokens, textTokens, ← List.singleton_append]
  exact perLine_append hw hline

lemma textTokens_space (rest : List Char) : textTokens (' ' :: rest) = textTokens rest := by
  have hword : perLine '\n' lineTokens ([' '] ++ rest) = [] ++ perLine '\n' lineTokens rest :=
    perLine_append (by decide) (lineTokens_space rfl _)
  exact hword

lemma textTokens_newline (indent : ℕ) (rest : List Char) : textTokens (newline indent ++ rest) = textTokens rest := by
  have hspaces (n : ℕ) : textTokens (List.replicate n ' ' ++ rest) = textTokens rest := by
    induction n with
    | zero => rfl
    | succ n ih => rw [List.replicate_succ, List.cons_append, textTokens_space, ih]
  rw [newline, List.cons_append, textTokens, perLine_sep lineTokens_nil]
  exact hspaces (2 * indent)

lemma textTokens_punct (hc : c ∈ ['[', ']', '{', '}', ',', ':']) (rest : List Char) :
    textTokens (c :: rest) = punct c :: textTokens rest := by
  have hfeed : '\n' ∉ [c] := by
    intro hfeed
    rw [← List.mem_singleton.mp hfeed] at hc
    exact absurd hc (by decide)
  exact textTokens_token hfeed (lineTokens_punct hc _)

lemma textTokens_literal (word : String) (hword : word ∈ ["null", "true", "false"]) (h : Ends rest) :
    textTokens (word.toList ++ rest) = ⟨word, jsonLiteral⟩ :: textTokens rest := by
  have hfeed : '\n' ∉ word.toList := by
    simp only [List.mem_cons, List.not_mem_nil, or_false] at hword
    rcases hword with rfl | rfl | rfl <;> decide
  refine textTokens_token hfeed (lineTokens_literal hword fun d hd => ?_)
  rw [h.head_line d hd]
  rfl

lemma textTokens_number {literal : String} (hnumber : IsNumber literal.toList) (h : Ends rest) :
    textTokens (literal.toList ++ rest) = ⟨literal, jsonNumber⟩ :: textTokens rest := by
  have hfeed : '\n' ∉ literal.toList := by
    obtain ⟨c, w, hliteral, hc, hw⟩ := hnumber.exists_cons
    rw [hliteral]
    intro hfeed
    rcases List.mem_cons.mp hfeed with rfl | hfeed
    · exact absurd hc (by decide)
    · exact absurd (hw _ hfeed) (by decide)
  refine textTokens_token hfeed (lineTokens_number hnumber fun d hd => ?_)
  rw [h.head_line d hd]
  rfl

lemma feed_not_mem_quoted (text : String) : '\n' ∉ quoted text := by
  intro hfeed
  rcases mem_quoted hfeed with hfeed | ⟨-, hfeed⟩
  · exact absurd hfeed (by decide)
  · exact absurd hfeed (by decide)

lemma textTokens_string (text : String) (h : Ends rest) :
    textTokens (quoted text ++ rest) = ⟨String.ofList (quoted text), jsonString⟩ :: textTokens rest := by
  apply textTokens_token (feed_not_mem_quoted text)
  rw [lineTokens_quoted, if_neg]
  have hhead := h.head_line
  cases hline : rest.takeWhile (· ≠ '\n') with
  | nil => decide
  | cons d line =>
    rw [hline] at hhead
    obtain rfl := hhead d rfl
    rw [List.dropWhile_cons_of_neg (by decide)]
    simp

lemma textTokens_key (text : String) (rest : List Char) : textTokens (quoted text ++ ':' :: ' ' :: rest) =
    ⟨String.ofList (quoted text), jsonKey⟩ :: punct ':' :: textTokens rest := by
  rw [← textTokens_space rest, ← textTokens_punct (by decide)]
  apply textTokens_token (feed_not_mem_quoted text)
  rw [lineTokens_quoted, if_pos]
  rw [List.takeWhile_cons_of_pos (by decide), List.dropWhile_cons_of_neg (by decide)]
  rfl

lemma textTokens_comma {α : Type*} (values : List α) (rest : List Char) :
    textTokens (comma values ++ rest) = commaToken values ++ textTokens rest := by
  rw [comma, commaToken]
  split_ifs
  · rfl
  · exact textTokens_punct (by decide) rest

lemma ends_newline (indent : ℕ) (rest : List Char) : Ends (newline indent ++ rest) := by
  rintro d hd
  cases hd
  exact .inr rfl

lemma ends_comma {α : Type*} {values : List α} {text : List Char} (htext : values = [] → text = []) (h : Ends rest) :
    Ends (comma values ++ (text ++ rest)) := by
  rw [comma]
  split_ifs with hvalues
  · rw [htext hvalues]
    exact h
  · rintro d hd
    cases hd
    exact .inl rfl

-- By recursion on the value, with any text after it: what follows decides where the last token of the value ends.
mutual

lemma textTokens_pretty (indent : ℕ) : ∀ (json : Json) (rest : List Char), WellFormed json → Ends rest →
    textTokens (pretty indent json ++ rest) = tokens json ++ textTokens rest
  | .null, rest, _, h => textTokens_literal "null" (by decide) h
  | .bool true, rest, _, h => textTokens_literal "true" (by decide) h
  | .bool false, rest, _, h => textTokens_literal "false" (by decide) h
  | .number literal, rest, hwell, h => textTokens_number (hwell literal .self) h
  | .string text, rest, _, h => textTokens_string text h
  | .array [], rest, _, _ => by
    simp only [pretty, tokens, valueTokens, List.cons_append, List.nil_append]
    rw [textTokens_punct (by decide), textTokens_punct (by decide)]
  | .array (value :: values), rest, hwell, _ => by
    simp only [pretty, tokens, List.append_assoc, List.cons_append, List.nil_append]
    rw [textTokens_punct (by decide), textTokens_prettyValues (indent + 1) (value :: values) _
      (fun _ hv => hwell.value hv) (ends_newline indent _), textTokens_newline, textTokens_punct (by decide)]
  | .object [], rest, _, _ => by
    simp only [pretty, tokens, memberTokens, List.cons_append, List.nil_append]
    rw [textTokens_punct (by decide), textTokens_punct (by decide)]
  | .object (member :: members), rest, hwell, _ => by
    simp only [pretty, tokens, List.append_assoc, List.cons_append, List.nil_append]
    rw [textTokens_punct (by decide), textTokens_prettyMembers (indent + 1) (member :: members) _
      (fun _ hm => hwell.member hm) (ends_newline indent _), textTokens_newline, textTokens_punct (by decide)]

lemma textTokens_prettyValues (indent : ℕ) : ∀ (values : List Json) (rest : List Char),
    (∀ value ∈ values, WellFormed value) → Ends rest →
      textTokens (prettyValues indent values ++ rest) = valueTokens values ++ textTokens rest
  | [], rest, _, _ => by rw [prettyValues, valueTokens]; rfl
  | value :: values, rest, hwell, h => by
    obtain ⟨hvalue, hvalues⟩ := List.forall_mem_cons.mp hwell
    have hnil : values = [] → prettyValues indent values = [] := by
      rintro rfl
      rw [prettyValues]
    simp only [prettyValues, valueTokens, List.append_assoc]
    rw [textTokens_newline, textTokens_pretty indent value _ hvalue (ends_comma hnil h), textTokens_comma,
      textTokens_prettyValues indent values rest hvalues h]

lemma textTokens_prettyMembers (indent : ℕ) : ∀ (members : List (String × Json)) (rest : List Char),
    (∀ member ∈ members, WellFormed member.2) → Ends rest →
      textTokens (prettyMembers indent members ++ rest) = memberTokens members ++ textTokens rest
  | [], rest, _, _ => by rw [prettyMembers, memberTokens]; rfl
  | (name, value) :: members, rest, hwell, h => by
    obtain ⟨hvalue, hmembers⟩ := List.forall_mem_cons.mp hwell
    have hnil : members = [] → prettyMembers indent members = [] := by
      rintro rfl
      rw [prettyMembers]
    simp only [prettyMembers, memberTokens, List.append_assoc, List.cons_append, List.nil_append]
    rw [textTokens_newline, textTokens_key, textTokens_pretty indent value _ hvalue (ends_comma hnil h),
      textTokens_comma, textTokens_prettyMembers indent members rest hmembers h]

end

lemma highlighted_pretty {json : Json} (h : WellFormed json) :
    (((pretty 0 json).splitOn '\n').flatMap highlightJsonLine).filter (·.style ≠ .base) = tokens json := by
  have htokens := textTokens_pretty 0 json [] h nofun
  have hnil : textTokens [] = [] := perLine_nil lineTokens_nil
  rw [List.append_nil, hnil, List.append_nil] at htokens
  rw [← htokens, List.filter_flatMap]
  rfl

end Texts

theorem json_highlighting_exact (serde : SerdeJson) (hwrites : serde.WritesPretty) :
    (∀ line : List Char, lineText (highlightJsonLine line) = line ∧
      ∀ span ∈ highlightJsonLine line, span.content ≠ "" ∧
        (span.style = .base → ∀ c ∈ span.content.toList, isWhitespace c = true)) ∧
    ∀ json, WellFormed json → ∃ text, serde.toStringPretty json = some text ∧
      ((splitLines text).flatMap highlightJsonLine).filter (·.style ≠ .base) = tokens json := by
  refine ⟨highlightJsonLine_lossless, fun json hwell => ⟨_, hwrites json hwell, ?_⟩⟩
  rw [splitLines, String.toList_ofList]
  exact highlighted_pretty hwell

def prettySerde : SerdeJson := ⟨fun _ => none, fun json => some (String.ofList (pretty 0 json))⟩

def quotingJson : Json := .object [("a", .array [.string "\"b\": 1", .number "-1.5e+3"])]

lemma quotingJson_wellFormed : WellFormed quotingJson := by
  have hnumber : IsNumber "-1.5e+3".toList :=
    ⟨['-'], ['1'], ['.', '5'], ['e', '+', '3'], rfl, by simp, digits_singleton rfl, nofun,
      .inr ⟨['5'], rfl, digits_singleton rfl⟩, .inr ⟨'e', ['+'], ['3'], rfl, by simp, by simp, digits_singleton rfl⟩⟩
  rintro literal (_ | _ | ⟨hm, h⟩)
  obtain ⟨-, rfl⟩ := Prod.mk.inj (List.mem_singleton.mp hm)
  obtain _ | ⟨hv, h⟩ | _ := h
  rcases List.mem_pair.mp hv with rfl | rfl
  · nomatch h
  · cases h
    exact hnumber

theorem json_highlighting_exact_of_quotes : ∃ text, prettySerde.toStringPretty quotingJson = some text ∧
    ((splitLines text).flatMap highlightJsonLine).filter (·.style ≠ .base) =
      [punct '{', ⟨"\"a\"", jsonKey⟩, punct ':', punct '[', ⟨"\"\\\"b\\\": 1\"", jsonString⟩, punct ',',
        ⟨"-1.5e+3", jsonNumber⟩, punct ']', punct '}'] := by
  exact (json_highlighting_exact prettySerde fun _ _ => rfl).2 quotingJson quotingJson_wellFormed

end PubSubTui.Ui
