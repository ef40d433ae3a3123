import PubSubTui.Ui.MessageView

/-! The format that payloads of JSON are shown in, as the library's writer documents it: two spaces to a level, one
value or member to a line. -/

namespace PubSubTui.Ui

open Proxy (Json)

section Numbers

def Digits (text : List Char) : Prop := text ≠ [] ∧ ∀ c ∈ text, c.isDigit = true

lemma digits_singleton {c : Char} (hc : c.isDigit = true) : Digits [c] := by
  refine ⟨List.cons_ne_nil _ _, fun d hd => ?_⟩
  rw [List.mem_singleton.mp hd]
  exact hc

def IsFraction (text : List Char) : Prop := ∃ digits, text = '.' :: digits ∧ Digits digits

def IsExponent (text : List Char) : Prop :=
  ∃ e sign digits, text = e :: (sign ++ digits) ∧ e ∈ ['e', 'E'] ∧ sign ∈ [[], ['+'], ['-']] ∧ Digits digits

def IsNumber (text : List Char) : Prop :=
  ∃ sign int fraction exponent, text = sign ++ (int ++ (fraction ++ exponent)) ∧ sign ∈ [[], ['-']] ∧
    Digits int ∧ (int.head? = some '0' → int = ['0']) ∧ (fraction = [] ∨ IsFraction fraction) ∧
    (exponent = [] ∨ IsExponent exponent)

variable {text : List Char}

lemma isNumberPart_of_isDigit {c : Char} (hc : c.isDigit = true) : isNumberPart c = true :=
  decide_eq_true (.inl hc)

lemma IsFraction.parts (h : IsFraction text) : ∀ c ∈ text, isNumberPart c = true := by
  obtain ⟨digits, rfl, -, hdigits⟩ := h
  intro c hc
  rcases List.mem_cons.mp hc with rfl | hc
  · rfl
  · exact isNumberPart_of_isDigit (hdigits c hc)

lemma IsExponent.parts (h : IsExponent text) : ∀ c ∈ text, isNumberPart c = true := by
  obtain ⟨e, sign, digits, rfl, he, hsign, -, hdigits⟩ := h
  intro c hc
  rcases List.mem_cons.mp hc with rfl | hc
  · rcases List.mem_pair.mp he with rfl | rfl <;> rfl
  · rcases List.mem_append.mp hc with hc | hc
    · simp only [List.mem_cons, List.not_mem_nil, or_false] at hsign
      rcases hsign with rfl | rfl | rfl
      · cases hc
      · rw [List.mem_singleton.mp hc]
        rfl
      · rw [List.mem_singleton.mp hc]
        rfl
    · exact isNumberPart_of_isDigit (hdigits c hc)

lemma IsNumber.exists_cons (h : IsNumber text) :
    ∃ c cs, text = c :: cs ∧ (c = '-' ∨ c.isDigit = true) ∧ ∀ d ∈ cs, isNumberPart d = true := by
  obtain ⟨sign, int, fraction, exponent, rfl, hsign, ⟨hne, hint⟩, -, hfraction, hexponent⟩ := h
  obtain ⟨c, digits, rfl⟩ := List.exists_cons_of_ne_nil hne
  have hparts : ∀ d ∈ digits ++ (fraction ++ exponent), isNumberPart d = true := by
    intro d hd
    simp only [List.mem_append] at hd
    rcases hd with hd | hd | hd
    · exact isNumberPart_of_isDigit (hint d (List.mem_cons_of_mem _ hd))
    · exact (hfraction.resolve_left (List.ne_nil_of_mem hd)).parts d hd
    · exact (hexponent.resolve_left (List.ne_nil_of_mem hd)).parts d hd
  have hc := hint c List.mem_cons_self
  rcases List.mem_pair.mp hsign with rfl | rfl
  · exact ⟨c, _, rfl, .inr hc, hparts⟩
  · refine ⟨'-', _, rfl, .inl rfl, fun d hd => ?_⟩
    rcases List.mem_cons.mp hd with rfl | hd
    · exact isNumberPart_of_isDigit hc
    · exact hparts d hd

end Numbers

section Writer

def escapes : List (Char × Char) :=
  [('"', '"'), ('\\', '\\'), ('\x08', 'b'), ('\t', 't'), ('\n', 'n'), ('\x0c', 'f'), ('\r', 'r')]

def escapeChar (c : Char) : List Char :=
  match escapes.find? (·.1 = c) with
  | some (_, x) => ['\\', x]
  | none =>
    if c.toNat < 0x20 then ['\\', 'u', '0', '0', Nat.digitChar (c.toNat / 16), Nat.digitChar (c.toNat % 16)]
    else [c]

def quoted (text : String) : List Char := '"' :: (text.toList.flatMap escapeChar ++ ['"'])

lemma digitChar_plain {n : ℕ} (hn : n < 16) : Nat.digitChar n ∉ ['"', '\\'] := by
  have hall : ∀ n < 16, Nat.digitChar n ∉ ['"', '\\'] := by decide
  exact hall n hn

lemma escapeChar_cases (c : Char) :
    (∃ x tail, escapeChar c = '\\' :: x :: tail ∧ Printable x ∧ ∀ d ∈ tail, Printable d ∧ d ∉ ['"', '\\']) ∨
      escapeChar c = [c] ∧ c ∉ ['"', '\\'] ∧ 0x20 ≤ c.toNat := by
  rw [escapeChar]
  cases hfind : escapes.find? (·.1 = c) with
  | some escape =>
    have hall : escapes.Forall fun escape => Printable escape.2 := by decide
    exact .inl ⟨escape.2, [], rfl, List.forall_iff_forall_mem.mp hall _ (List.mem_of_find?_eq_some hfind), by simp⟩
  | none =>
    have hplain : c ∉ ['"', '\\'] := by
      intro hc
      rcases List.mem_pair.mp hc with rfl | rfl
      · cases hfind
      · cases hfind
    dsimp only
    split_ifs with hcontrol
    · have hhigh : c.toNat / 16 < 16 := by omega
      have hlow : c.toNat % 16 < 16 := Nat.mod_lt _ (by decide)
      refine .inl ⟨'u', _, rfl, by decide, fun d hd => ?_⟩
      simp only [List.mem_cons, List.not_mem_nil, or_false] at hd
      rcases hd with rfl | rfl | rfl | rfl
      · decide
      · decide
      · exact ⟨printable_digitChar hhigh, digitChar_plain hhigh⟩
      · exact ⟨printable_digitChar hlow, digitChar_plain hlow⟩
    · exact .inr ⟨rfl, hplain, Nat.le_of_not_lt hcontrol⟩

lemma mem_quoted {text : String} {c : Char} (hc : c ∈ quoted text) : Printable c ∨ c ∈ text.toList ∧ 0x20 ≤ c.toNat := by
  rcases List.mem_cons.mp hc with rfl | hc
  · exact .inl (by decide)
  rcases List.mem_append.mp hc with hc | hc
  · obtain ⟨d, hd, hc⟩ := List.mem_flatMap.mp hc
    rcases escapeChar_cases d with ⟨x, tail, hescape, hx, htail⟩ | ⟨hescape, -, hd'⟩
    · rw [hescape] at hc
      rcases List.mem_cons.mp hc with rfl | hc
      · exact .inl (by decide)
      rcases List.mem_cons.mp hc with rfl | hc
      · exact .inl hx
      · exact .inl (htail c hc).1
    · rw [hescape] at hc
      obtain rfl := List.mem_singleton.mp hc
      exact .inr ⟨hd, hd'⟩
  · obtain rfl := List.mem_singleton.mp hc
    exact .inl (by decide)

def newline (indent : ℕ) : List Char := '\n' :: List.replicate (2 * indent) ' '

def comma {α : Type*} (rest : List α) : List Char := if rest = [] then [] else [',']

mutual

def pretty (indent : ℕ) : Json → List Char
  | .null => "null".toList
  | .bool value => (if value then "true" else "false").toList
  | .number literal => literal.toList
  | .string text => quoted text
  | .array [] => ['[', ']']
  | .array values => '[' :: (prettyValues (indent + 1) values ++ newline indent ++ [']'])
  | .object [] => ['{', '}']
  | .object members => '{' :: (prettyMembers (indent + 1) members ++ newline indent ++ ['}'])

def prettyValues (indent : ℕ) : List Json → List Char
  | [] => []
  | value :: values => newline indent ++ pretty indent value ++ comma values ++ prettyValues indent values

def prettyMembers (indent : ℕ) : List (String × Json) → List Char
  | [] => []
  | (name, value) :: members =>
    newline indent ++ quoted name ++ [':', ' '] ++ pretty indent value ++ comma members ++ prettyMembers indent members

end

example : String.ofList (pretty 0 (.object [("a", .array [.null, .bool true])])) =
    "\x7b\n  \"a\": [\n    null,\n    true\n  ]\n\x7d" := rfl

end Writer

inductive Holds (part : Json) : Json → Prop
  | self : Holds part part
  | value {value : Json} {values : List Json} (hv : value ∈ values) (h : Holds part value) : Holds part (.array values)
  | member {name : String} {value : Json} {members : List (String × Json)} (hm : (name, value) ∈ members)
    (h : Holds part value) : Holds part (.object members)

def WellFormed (json : Json) : Prop := ∀ literal, Holds (.number literal) json → IsNumber literal.toList

lemma WellFormed.value {value : Json} {values : List Json} (h : WellFormed (.array values)) (hv : value ∈ values) :
    WellFormed value := fun literal hl => h literal (.value hv hl)

lemma WellFormed.member {name : String} {value : Json} {members : List (String × Json)}
    (h : WellFormed (.object members)) (hm : (name, value) ∈ members) : WellFormed value :=
  fun literal hl => h literal (.member hm hl)

/-- What is relied on of the writer: the documented format, for every value whose numbers are numbers. -/
def SerdeJson.WritesPretty (serde : SerdeJson) : Prop :=
  ∀ value, WellFormed value → serde.toStringPretty value = some (String.ofList (pretty 0 value))

end PubSubTui.Ui
