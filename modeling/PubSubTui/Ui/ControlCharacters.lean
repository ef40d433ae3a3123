import PubSubTui.Ui.HexDump
import PubSubTui.Ui.JsonHighlight

/-! Which payloads bring a control character to the display. -/

namespace PubSubTui.Ui

open Library.Hexadecimal Library.Lines
open Proxy (Bytes Json)

def NoControl (lines : List Line) : Prop :=
  ∀ line ∈ lines, ∀ span ∈ line, ∀ c ∈ span.content.toList, isControl c = false

lemma noControl_iff {lines : List Line} :
    NoControl lines ↔ ∀ line ∈ lines, ∀ c ∈ lineText line, isControl c = false := by
  constructor
  · intro h line hline c hc
    obtain ⟨span, hspan, hc⟩ := List.mem_flatMap.mp hc
    exact h line hline span hspan c hc
  · intro h line hline span hspan c hc
    exact h line hline c (List.mem_flatMap.mpr ⟨span, hspan, hc⟩)

section Json

inductive Shows (text : String) : Json → Prop
  | string : Shows text (.string text)
  | value {value : Json} {values : List Json} (hv : value ∈ values) (h : Shows text value) : Shows text (.array values)
  | name {value : Json} {members : List (String × Json)} (hm : (text, value) ∈ members) : Shows text (.object members)
  | member {name : String} {value : Json} {members : List (String × Json)} (hm : (name, value) ∈ members)
    (h : Shows text value) : Shows text (.object members)

def Plain (c : Char) : Prop := c = '\n' ∨ Printable c

variable {values : List Json} {members : List (String × Json)} {text : String} {c : Char} {indent : ℕ}

lemma ne_of_not_plain {d : Char} (hc : ¬ Plain c) (hd : Printable d) : c ≠ d := by
  rintro rfl
  exact hc (.inr hd)

lemma plain_of_mem_newline (hc : c ∈ newline indent) : Plain c := by
  rcases List.mem_cons.mp hc with rfl | hc
  · exact .inl rfl
  · rw [List.eq_of_mem_replicate hc]
    exact .inr (by decide)

lemma plain_of_mem_comma {α : Type*} {rest : List α} (hc : c ∈ comma rest) : Plain c := by
  rw [comma] at hc
  split_ifs at hc
  · cases hc
  · rw [List.mem_singleton.mp hc]
    exact .inr (by decide)

lemma mem_prettyValues (hc : ¬ Plain c) :
    c ∈ prettyValues indent values ↔ ∃ value ∈ values, c ∈ pretty indent value := by
  have hnewline : c ∉ newline indent := mt plain_of_mem_newline hc
  induction values with
  | nil => simp [prettyValues]
  | cons value values ih =>
    have hcomma : c ∉ comma values := mt plain_of_mem_comma hc
    simp [prettyValues, hnewline, hcomma, ih]

lemma mem_prettyMembers (hc : ¬ Plain c) : c ∈ prettyMembers indent members ↔
    ∃ name value, (name, value) ∈ members ∧ (c ∈ quoted name ∨ c ∈ pretty indent value) := by
  have hnewline : c ∉ newline indent := mt plain_of_mem_newline hc
  have hcolon : c ∉ [':', ' '] :=
    mt List.mem_pair.mp (not_or.mpr ⟨ne_of_not_plain hc (by decide), ne_of_not_plain hc (by decide)⟩)
  induction members with
  | nil => simp [prettyMembers]
  | cons member members ih =>
    have hcomma : c ∉ comma members := mt plain_of_mem_comma hc
    obtain ⟨name, value⟩ := member
    simp only [prettyMembers, List.mem_append, hnewline, hcolon, hcomma, ih, List.mem_cons, Prod.mk.injEq, false_or,
      or_false]
    constructor
    · rintro ((h | h) | ⟨name', value', hm, h⟩)
      · exact ⟨name, value, .inl ⟨rfl, rfl⟩, .inl h⟩
      · exact ⟨name, value, .inl ⟨rfl, rfl⟩, .inr h⟩
      · exact ⟨name', value', .inr hm, h⟩
    · rintro ⟨name', value', ⟨rfl, rfl⟩ | hm, h⟩
      · exact .inl h
      · exact .inr ⟨name', value', hm, h⟩

lemma mem_pretty_array (hc : ¬ Plain c) :
    c ∈ pretty indent (.array values) ↔ ∃ value ∈ values, c ∈ pretty (indent + 1) value := by
  have hopen : c ≠ '[' := ne_of_not_plain hc (by decide)
  have hclose : c ≠ ']' := ne_of_not_plain hc (by decide)
  cases values with
  | nil => simp [pretty, hopen, hclose]
  | cons value values =>
    have hnewline : c ∉ newline indent := mt plain_of_mem_newline hc
    simp only [pretty, List.mem_append, List.mem_cons, hopen, hclose, hnewline, mem_prettyValues hc, List.not_mem_nil,
      false_or, or_false]

lemma mem_pretty_object (hc : ¬ Plain c) : c ∈ pretty indent (.object members) ↔
    ∃ name value, (name, value) ∈ members ∧ (c ∈ quoted name ∨ c ∈ pretty (indent + 1) value) := by
  have hopen : c ≠ '{' := ne_of_not_plain hc (by decide)
  have hclose : c ≠ '}' := ne_of_not_plain hc (by decide)
  cases members with
  | nil => simp [pretty, hopen, hclose]
  | cons member members =>
    have hnewline : c ∉ newline indent := mt plain_of_mem_newline hc
    simp only [pretty, List.mem_append, List.mem_cons, hopen, hclose, hnewline, mem_prettyMembers hc, List.not_mem_nil,
      false_or, or_false]

lemma printable_of_isNumberPart (hc : isNumberPart c = true) : Printable c := by
  rcases of_decide_eq_true hc with hc | hc
  · obtain ⟨hlow, hhigh⟩ : 48 ≤ c.toNat ∧ c.toNat ≤ 57 := Char.isDigit_iff_toNat.mp hc
    exact ⟨by omega, by omega⟩
  · have hall : ['.', 'e', 'E', '+', '-'].Forall Printable := by decide
    exact List.forall_iff_forall_mem.mp hall c hc

lemma printable_of_isNumber {literal : List Char} (h : IsNumber literal) : ∀ c ∈ literal, Printable c := by
  obtain ⟨c, cs, rfl, hc, hcs⟩ := h.exists_cons
  rw [List.forall_mem_cons]
  refine ⟨?_, fun d hd => printable_of_isNumberPart (hcs d hd)⟩
  rcases hc with rfl | hc
  · decide
  · exact printable_of_isNumberPart (isNumberPart_of_isDigit hc)

lemma mem_pretty (hc : ¬ Plain c) {json : Json} (hwell : WellFormed json) :
    c ∈ pretty indent json ↔ ∃ text, Shows text json ∧ c ∈ quoted text := by
  induction json using Json.induction generalizing indent with
  | null =>
    have hword := List.forall_iff_forall_mem.mp (show "null".toList.Forall Printable by decide)
    exact iff_of_false (fun h => hc (.inr (hword c h))) (by rintro ⟨_, ⟨⟩, _⟩)
  | bool value =>
    have hword : (if value then "true" else "false").toList.Forall Printable := by cases value <;> decide
    have hword := List.forall_iff_forall_mem.mp hword
    rw [pretty]
    exact iff_of_false (fun h => hc (.inr (hword c h))) (by rintro ⟨_, ⟨⟩, _⟩)
  | number literal =>
    have hnumber := printable_of_isNumber (hwell literal .self)
    exact iff_of_false (fun h => hc (.inr (hnumber c h))) (by rintro ⟨_, ⟨⟩, _⟩)
  | string text =>
    constructor
    · exact fun h => ⟨text, .string, h⟩
    · rintro ⟨_, ⟨⟩, h⟩
      exact h
  | array values ih =>
    rw [mem_pretty_array hc]
    constructor
    · rintro ⟨value, hv, h⟩
      obtain ⟨text, hshows, h⟩ := (ih value hv (hwell.value hv)).mp h
      exact ⟨text, .value hv hshows, h⟩
    · rintro ⟨text, _ | ⟨hv, hshows⟩, h⟩
      exact ⟨_, hv, (ih _ hv (hwell.value hv)).mpr ⟨text, hshows, h⟩⟩
  | object members ih =>
    rw [mem_pretty_object hc]
    constructor
    · rintro ⟨name, value, hm, h | h⟩
      · exact ⟨name, .name hm, h⟩
      · obtain ⟨text, hshows, h⟩ := (ih name value hm (hwell.member hm)).mp h
        exact ⟨text, .member hm hshows, h⟩
    · rintro ⟨text, _ | _ | hm | ⟨hm, hshows⟩, h⟩
      · exact ⟨text, _, hm, .inl h⟩
      · exact ⟨_, _, hm, .inr ((ih _ _ hm (hwell.member hm)).mpr ⟨text, hshows, h⟩)⟩

lemma escapeChar_of_high (h : 0x7f ≤ c.toNat) : escapeChar c = [c] := by
  have hfind : escapes.find? (·.1 = c) = none := by
    have hall : escapes.Forall fun escape => escape.1.toNat < 0x7f := by decide
    rw [List.find?_eq_none]
    intro escape hescape heq
    have hlow := List.forall_iff_forall_mem.mp hall escape hescape
    rw [of_decide_eq_true heq] at hlow
    omega
  rw [escapeChar, hfind]
  exact if_neg (by omega)

lemma mem_quoted_of_high (h : 0x7f ≤ c.toNat) : c ∈ quoted text ↔ c ∈ text.toList := by
  constructor
  · intro hc
    rcases mem_quoted hc with hc | hc
    · exact absurd hc.2 (Nat.not_lt.mpr h)
    · exact hc.1
  · intro hc
    have hescape : c ∈ escapeChar c := by
      rw [escapeChar_of_high h]
      exact List.mem_singleton_self c
    exact List.mem_cons_of_mem _ (List.mem_append_left _ (List.mem_flatMap.mpr ⟨c, hc, hescape⟩))

def Unescaped (c : Char) : Prop := 0x7f ≤ c.toNat ∧ c.toNat < 0xa0

instance : DecidablePred Unescaped := fun _ => inferInstanceAs (Decidable (_ ∧ _))

lemma not_plain_of_control (hc : isControl c = true) (hfeed : c ≠ '\n') : ¬ Plain c := by
  rintro (rfl | h)
  · exact hfeed rfl
  · rw [h.not_control] at hc
    cases hc

lemma Unescaped.control (h : Unescaped c) : isControl c = true ∧ c ≠ '\n' := by
  refine ⟨decide_eq_true (.inr h), ?_⟩
  rintro rfl
  exact absurd h.1 (by decide)

lemma noControl_pretty_iff {json : Json} (hwell : WellFormed json) :
    NoControl (((pretty 0 json).splitOn '\n').map highlightJsonLine) ↔
      ∀ text, Shows text json → ∀ c ∈ text.toList, ¬ Unescaped c := by
  simp only [noControl_iff, List.forall_mem_map, (highlightJsonLine_lossless _).1]
  constructor
  · intro h text hshows c hc hunescaped
    obtain ⟨hcontrol, hfeed⟩ := hunescaped.control
    have hpretty : c ∈ pretty 0 json :=
      (mem_pretty (not_plain_of_control hcontrol hfeed) hwell).mpr ⟨text, hshows, (mem_quoted_of_high hunescaped.1).mpr hc⟩
    obtain ⟨line, hline, hc⟩ := exists_mem_splitOn.mpr ⟨hpretty, hfeed⟩
    rw [h line hline c hc] at hcontrol
    cases hcontrol
  · intro h line hline c hc
    obtain ⟨hpretty, hfeed⟩ := exists_mem_splitOn.mp ⟨line, hline, hc⟩
    by_contra hcontrol
    have hcontrol : isControl c = true := Bool.not_eq_false _ ▸ hcontrol
    obtain ⟨text, hshows, hquoted⟩ := (mem_pretty (not_plain_of_control hcontrol hfeed) hwell).mp hpretty
    rcases mem_quoted hquoted with hprintable | ⟨hc, hlow⟩
    · rw [hprintable.not_control] at hcontrol
      cases hcontrol
    · have hrange := of_decide_eq_true hcontrol
      exact h text hshows c hc (hrange.resolve_left (by omega))

end Json

section Bodies

variable {serde : SerdeJson} {data : Bytes} {lines : List Line} {json : Json}

lemma noControl_asText (h : asText data = some lines) : NoControl lines := by
  rw [asText] at h
  obtain ⟨text, -, h⟩ := Option.bind_eq_some_iff.mp h
  split_ifs at h with hall
  cases h
  rw [noControl_iff, List.forall_mem_map]
  intro line hline c hc
  rw [lineText, List.flatMap_singleton, String.toList_ofList] at hc
  obtain ⟨hc, hreturn⟩ := List.mem_filter.mp hc
  obtain ⟨d, hd, hc⟩ := List.mem_flatMap.mp hc
  obtain ⟨htext, hfeed⟩ := exists_mem_splitOn.mp ⟨line, hline, hd⟩
  split_ifs at hc with htab
  · rw [List.eq_of_mem_replicate (show c ∈ List.replicate 4 ' ' from hc)]
    rfl
  · obtain rfl := List.mem_singleton.mp hc
    have hallowed := List.all_eq_true.mp hall c htext
    simpa [htab, hfeed, of_decide_eq_true hreturn] using hallowed

lemma printable_hexRow (row : ℕ) (chunk : Bytes) : ∀ c ∈ lineText (hexRow row chunk), Printable c := by
  have hoffset : ∀ c ∈ (Nat.toDigits 16 (row * 16)).leftpad 8 '0', Printable c := by
    intro c hc
    rcases List.mem_append.mp hc with hc | hc
    · rw [List.eq_of_mem_replicate hc]
      decide
    · obtain ⟨d, hd, rfl⟩ := mem_toDigits _ c hc
      exact printable_digitChar hd
  have hcolumn : ∀ c ∈ hexColumn chunk, Printable c := by
    intro c hc
    rcases List.mem_append.mp hc with hc | hc
    · exact printable_hexDigits chunk c hc
    · rw [List.eq_of_mem_replicate hc]
      decide
  have hgutter : ∀ c ∈ chunk.map asciiChar, Printable c :=
    List.forall_mem_map.mpr fun byte _ => printable_asciiChar byte
  have hgap := List.forall_iff_forall_mem.mp (show "  ".toList.Forall Printable by decide)
  have hopen := List.forall_iff_forall_mem.mp (show " |".toList.Forall Printable by decide)
  have hclose := List.forall_iff_forall_mem.mp (show "|".toList.Forall Printable by decide)
  intro c hc
  simp only [lineText, hexRow, List.flatMap_cons, List.flatMap_nil, String.toList_append, String.toList_ofList,
    List.mem_append, List.not_mem_nil, or_false] at hc
  rcases hc with (hc | hc) | hc | (hc | hc) | hc
  · exact hoffset c hc
  · exact hgap c hc
  · exact hcolumn c hc
  · exact hopen c hc
  · exact hgutter c hc
  · exact hclose c hc

lemma noControl_asHex (data : Bytes) : NoControl (asHex data) := by
  rw [noControl_iff]
  intro line hline c hc
  obtain ⟨row, hrow, rfl⟩ := List.mem_mapIdx.mp hline
  exact (printable_hexRow _ _ c hc).not_control

/-- What is relied on of the reader: the numbers it finds are numbers. -/
def SerdeJson.ReadsWellFormed (serde : SerdeJson) : Prop :=
  ∀ data json, serde.fromSlice data = some json → WellFormed json

lemma asJson_eq (hreads : serde.ReadsWellFormed) (hwrites : serde.WritesPretty) (h : serde.fromSlice data = some json) :
    asJson serde data = some (((pretty 0 json).splitOn '\n').map highlightJsonLine) := by
  have hpretty := hwrites json (hreads data json h)
  simp only [asJson, h, hpretty, Option.bind_eq_bind, Option.bind_some, splitLines, String.toList_ofList]

lemma asJson_eq_none (h : serde.fromSlice data = none) : asJson serde data = none := by
  rw [asJson, h]
  rfl

lemma renderBody_json (hne : data ≠ []) (h : asJson serde data = some lines) :
    renderBody serde data = { label := "json", lines } := by
  rw [renderBody, if_neg hne, h]

lemma noControl_nil (serde : SerdeJson) : NoControl (renderBody serde []).lines := by
  have hlabel := List.forall_iff_forall_mem.mp
    (show "(empty payload)".toList.Forall fun c => isControl c = false by decide)
  rw [renderBody, if_pos rfl]
  rintro line hline span hspan
  obtain rfl := List.mem_singleton.mp hline
  obtain rfl := List.mem_singleton.mp hspan
  exact hlabel

lemma noControl_of_not_json (hne : data ≠ []) (h : serde.fromSlice data = none) :
    NoControl (renderBody serde data).lines := by
  rw [renderBody, if_neg hne, asJson_eq_none h]
  cases htext : asText data with
  | none => exact noControl_asHex data
  | some lines => exact noControl_asText htext

end Bodies

theorem no_control_displayed_iff (serde : SerdeJson) (hreads : serde.ReadsWellFormed) (hwrites : serde.WritesPretty)
    (data : Bytes) : NoControl (renderBody serde data).lines ↔
      data = [] ∨ ∀ json, serde.fromSlice data = some json →
        ∀ text, Shows text json → ∀ c ∈ text.toList, ¬ Unescaped c := by
  by_cases hne : data = []
  · rw [hne]
    exact iff_of_true (noControl_nil serde) (.inl rfl)
  · cases h : serde.fromSlice data with
    | none => exact iff_of_true (noControl_of_not_json hne h) (.inr nofun)
    | some json =>
      rw [renderBody_json hne (asJson_eq hreads hwrites h), noControl_pretty_iff (hreads data json h)]
      simp [hne]

def letterSerde : SerdeJson where
  fromSlice
    | [0x22, byte, 0x22] =>
      if 0x20 ≤ byte ∧ byte < 0x80 ∧ byte ≠ 0x22 ∧ byte ≠ 0x5c then some (.string (Char.ofNat byte.toNat).toString)
      else none
    | _ => none
  toStringPretty json := some (String.ofList (pretty 0 json))

lemma letterSerde_reads : letterSerde.ReadsWellFormed := by
  intro data json h
  simp only [letterSerde] at h
  split at h
  · split_ifs at h
    cases h
    rintro literal ⟨⟩
  · cases h

theorem no_control_displayed_of_letter : NoControl (renderBody letterSerde [0x22, 0x41, 0x22]).lines := by
  refine (no_control_displayed_iff letterSerde letterSerde_reads (fun _ _ => rfl) _).mpr (.inr ?_)
  rintro _ ⟨⟩ text ⟨⟩
  exact List.forall_iff_forall_mem.mp (show "A".toList.Forall fun c => ¬ Unescaped c by decide)

theorem control_displayed_of_delete : letterSerde.ReadsWellFormed ∧ letterSerde.WritesPretty ∧
    ¬ NoControl (renderBody letterSerde [0x22, 0x7f, 0x22]).lines := by
  have hwrites : letterSerde.WritesPretty := fun _ _ => rfl
  have hread : letterSerde.fromSlice [0x22, 0x7f, 0x22] = some (.string "\x7f") := rfl
  refine ⟨letterSerde_reads, hwrites, ?_⟩
  rw [renderBody_json (by decide) (asJson_eq letterSerde_reads hwrites hread),
    noControl_pretty_iff (letterSerde_reads _ _ hread)]
  exact fun h => h "\x7f" .string '\x7f' (by decide) (by decide)

end PubSubTui.Ui
