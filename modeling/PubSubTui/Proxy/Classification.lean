import Mathlib.Data.List.TakeWhile
import PubSubTui.Proxy.Codings
import PubSubTui.Proxy.Transcoding

/-! Which REST calls the tap counts, read off the call itself. -/

namespace PubSubTui.Proxy

open Observe

/-- A path of the one shape that names a verb; colons may stand in the resource. -/
structure VerbPath (path resource verb : String) : Prop where
  path_eq : path = "/v1/" ++ resource ++ ":" ++ verb
  resource_ne : resource ≠ ""
  verb_ne : verb ≠ ""
  colon : ':' ∉ verb.toList

lemma rsplitOnce_eq_some_iff {separator : Char} {l before after : List Char} :
    rsplitOnce separator l = some (before, after) ↔ l = before ++ separator :: after ∧ separator ∉ after := by
  constructor
  · intro h
    by_cases hmem : separator ∈ l
    · obtain ⟨head, tail, hreverse, hhead⟩ := List.eq_append_cons_of_mem (List.mem_reverse.mpr hmem)
      have hl : l = tail.reverse ++ separator :: head.reverse := by
        rw [← List.reverse_reverse l, hreverse]
        simp
      rw [hl, rsplitOnce_append (by simpa using hhead)] at h
      cases h
      exact ⟨hl, by simpa using hhead⟩
    · have hnone : l.reverse.dropWhile (· ≠ separator) = [] := by
        rw [List.dropWhile_eq_nil_iff]
        intro c hc
        exact decide_eq_true fun heq => hmem (heq ▸ List.mem_reverse.mp hc)
      rw [rsplitOnce, List.span_eq_takeWhile_dropWhile, hnone] at h
      cases h
  · rintro ⟨rfl, h⟩
    exact rsplitOnce_append h

lemma resourceAndVerb_eq_some_iff {path resource verb : String} :
    resourceAndVerb path = some (resource, verb) ↔ VerbPath path resource verb := by
  constructor
  · intro h
    obtain ⟨rest, hrest, hafter⟩ := Option.bind_eq_some_iff.mp h
    obtain ⟨⟨before, after⟩, hsplit, hnames⟩ := Option.bind_eq_some_iff.mp hafter
    obtain ⟨rfl, hcolon⟩ := rsplitOnce_eq_some_iff.mp hsplit
    rw [stripPrefix] at hrest
    split_ifs at hrest with hprefix
    dsimp only at hnames
    split_ifs at hnames with hne
    cases hnames
    obtain ⟨tail, htail⟩ := List.isPrefixOf_iff_prefix.mp hprefix
    rw [← htail, List.drop_left] at hrest
    obtain rfl := Option.some.inj hrest
    refine ⟨?_, by simpa using hne.1, by simpa using hne.2, by simpa using hcolon⟩
    rw [← String.toList_inj, ← htail]
    simp
  · rintro ⟨rfl, hr, hv, hcolon⟩
    exact resourceAndVerb_of_path hr hv hcolon

lemma VerbPath.unique {path resource verb resource' verb' : String} (h : VerbPath path resource verb)
    (h' : VerbPath path resource' verb') : resource = resource' ∧ verb = verb' := by
  have heq := (resourceAndVerb_eq_some_iff.mpr h).symm.trans (resourceAndVerb_eq_some_iff.mpr h')
  simpa using heq

structure HoldsArray (decoders : Decoders) (content : Bytes) (field : String) (values : List Json) : Prop where
  object : ∃ members, decoders.fromSlice content = some (.object members) ∧
    (Json.object members).get field = some (.array values)
  nonempty : values ≠ []

/-- The side of a call that a verb's traffic is read from, the field it is in, and what is observed of it. -/
inductive Tapped (proxy : RestProxy) (requestHeaders : HeaderMap) (requestBody : Bytes) (responseHeaders : HeaderMap)
    (responseBody : Bytes) (peer : Option SocketAddr) (resource : String) :
    String → HeaderMap → Bytes → String → (List Json → Observation) → Prop
  | publish {verb : String} (hverb : verb = "publish") (hr : Contains resource "/topics/") :
    Tapped proxy requestHeaders requestBody responseHeaders responseBody peer resource verb requestHeaders requestBody
      "messages" fun values => .publish resource peer (values.map proxy.capture)
  | pull {verb : String} (hverb : verb = "pull") (hr : Contains resource "/subscriptions/") :
    Tapped proxy requestHeaders requestBody responseHeaders responseBody peer resource verb responseHeaders responseBody
      "receivedMessages" fun values => .deliver resource peer values.length
  | acknowledge {verb : String} (hverb : verb = "acknowledge") (hr : Contains resource "/subscriptions/") :
    Tapped proxy requestHeaders requestBody responseHeaders responseBody peer resource verb requestHeaders requestBody
      "ackIds" fun values => .ack resource peer values.length

inductive Carries (proxy : RestProxy) (reads : HeaderMap → Bytes → Option Bytes) (requestHeaders : HeaderMap)
    (requestBody : Bytes) (responseHeaders : HeaderMap) (responseBody : Bytes) (peer : Option SocketAddr)
    (resource verb : String) : Observation → Prop
  | tapped {headers : HeaderMap} {body content : Bytes} {field : String} {report : List Json → Observation}
    {values : List Json} (ht : Tapped proxy requestHeaders requestBody responseHeaders responseBody peer resource verb
      headers body field report) (hd : reads headers body = some content)
    (hv : HoldsArray proxy.decoders content field values) :
    Carries proxy reads requestHeaders requestBody responseHeaders responseBody peer resource verb (report values)

namespace RestProxy

variable {proxy : RestProxy} {method : Method} {path resource verb : String} {status : StatusCode}
  {headers requestHeaders responseHeaders : HeaderMap} {body content requestBody responseBody : Bytes}
  {peer : Option SocketAddr} {o : Observation}

lemma get_asArray_iff {json : Json} {field : String} {values : List Json} :
    (json.get field).bind Json.asArray = some values ↔
      ∃ members, json = .object members ∧ (Json.object members).get field = some (.array values) := by
  have harray (value : Json) : value.asArray = some values ↔ value = .array values := by
    cases value <;> simp [Json.asArray]
  simp only [Option.bind_eq_some_iff, harray]
  constructor
  · rintro ⟨_, hget, rfl⟩
    obtain ⟨members, hmembers, -⟩ := Option.bind_eq_some_iff.mp hget
    cases json with
    | object members' => exact ⟨members', rfl, hget⟩
    | _ => cases hmembers
  · rintro ⟨members, rfl, hget⟩
    exact ⟨_, hget, rfl⟩

lemma holdsArray_iff {field : String} {values : List Json} :
    HoldsArray proxy.decoders content field values ↔
      ((proxy.decoders.fromSlice content).bind (·.get field)).bind Json.asArray = some values ∧ values ≠ [] := by
  rw [Option.bind_assoc, Option.bind_eq_some_iff]
  simp only [get_asArray_iff]
  constructor
  · rintro ⟨⟨members, hslice, hget⟩, hne⟩
    exact ⟨⟨_, hslice, members, rfl, hget⟩, hne⟩
  · rintro ⟨⟨_, hslice, members, rfl, hget⟩, hne⟩
    exact ⟨⟨members, hslice, hget⟩, hne⟩

lemma jsonArrayLen_pos_iff {field : String} {n : ℕ} : n > 0 ∧ proxy.jsonArrayLen content field = n ↔
    ∃ values, HoldsArray proxy.decoders content field values ∧ values.length = n := by
  simp only [holdsArray_iff, jsonArrayLen]
  cases ((proxy.decoders.fromSlice content).bind (·.get field)).bind Json.asArray with
  | none => simp; omega
  | some values =>
    simp only [Option.elim_some, Option.some.injEq]
    constructor
    · rintro ⟨hpos, hlen⟩
      exact ⟨values, ⟨rfl, List.ne_nil_of_length_pos (hlen ▸ hpos)⟩, hlen⟩
    · rintro ⟨_, ⟨rfl, hne⟩, hlen⟩
      exact ⟨hlen ▸ List.length_pos_iff.mpr hne, hlen⟩

lemma capturedMessages_eq : proxy.capturedMessages content = (((proxy.decoders.fromSlice content).bind
    (·.get "messages")).bind Json.asArray).elim [] (List.map proxy.capture) := by
  rw [capturedMessages]
  cases proxy.decoders.fromSlice content <;> rfl

lemma capturedMessages_iff {messages : List PublishedMessage} :
    messages ≠ [] ∧ proxy.capturedMessages content = messages ↔
      ∃ values, HoldsArray proxy.decoders content "messages" values ∧ values.map proxy.capture = messages := by
  simp only [holdsArray_iff, capturedMessages_eq]
  cases ((proxy.decoders.fromSlice content).bind (·.get "messages")).bind Json.asArray with
  | none => simp [eq_comm]
  | some values =>
    simp only [Option.elim_some, Option.some.injEq]
    constructor
    · rintro ⟨hne, rfl⟩
      exact ⟨values, ⟨rfl, fun hnil => hne (by rw [hnil]; rfl)⟩, rfl⟩
    · rintro ⟨_, ⟨rfl, hne⟩, rfl⟩
      exact ⟨fun hnil => hne (List.map_eq_nil_iff.mp hnil), rfl⟩

def tap (proxy : RestProxy) (requestHeaders : HeaderMap) (requestBody : Bytes) (responseHeaders : HeaderMap)
    (responseBody : Bytes) (peer : Option SocketAddr) (resource verb : String) : List Observation :=
  if verb = "publish" ∧ Contains resource "/topics/" then
    (proxy.decoded requestHeaders requestBody).elim [] fun body =>
      if proxy.capturedMessages body ≠ [] then [.publish resource peer (proxy.capturedMessages body)] else []
  else if verb = "pull" ∧ Contains resource "/subscriptions/" then
    (proxy.decoded responseHeaders responseBody).elim [] fun body =>
      if proxy.jsonArrayLen body "receivedMessages" > 0
      then [.deliver resource peer (proxy.jsonArrayLen body "receivedMessages")] else []
  else if verb = "acknowledge" ∧ Contains resource "/subscriptions/" then
    (proxy.decoded requestHeaders requestBody).elim [] fun body =>
      if proxy.jsonArrayLen body "ackIds" > 0 then [.ack resource peer (proxy.jsonArrayLen body "ackIds")] else []
  else []

lemma observe_eq_tap (hm : method = .post) (hs : status.isSuccess = true)
    (hp : resourceAndVerb path = some (resource, verb)) :
    proxy.observe method path requestHeaders requestBody status responseHeaders responseBody peer =
      proxy.tap requestHeaders requestBody responseHeaders responseBody peer resource verb := by
  have hpass : ¬ (method ≠ .post ∨ status.isSuccess = false) := by simp [hm, hs]
  simp only [observe, if_neg hpass, hp, tap, ne_eq, ite_not]
  cases proxy.decoded requestHeaders requestBody <;> cases proxy.decoded responseHeaders responseBody <;> rfl

lemma elim_singleton_iff {α β : Type*} {a : Option α} {p : α → Prop} [DecidablePred p] {f : α → β} {b : β} :
    (a.elim [] fun x => if p x then [f x] else []) = [b] ↔ ∃ x, a = some x ∧ p x ∧ f x = b := by
  cases a with
  | none => simp
  | some x => by_cases h : p x <;> simp [h]

lemma tap_eq_singleton_iff :
    proxy.tap requestHeaders requestBody responseHeaders responseBody peer resource verb = [o] ↔
      Carries proxy proxy.decoded requestHeaders requestBody responseHeaders responseBody peer resource verb o := by
  constructor
  · intro h
    rw [tap] at h
    split_ifs at h with hpublish hpull hack
    · obtain ⟨content, hd, hne, rfl⟩ := elim_singleton_iff.mp h
      obtain ⟨values, hv, hmap⟩ := capturedMessages_iff.mp ⟨hne, rfl⟩
      rw [← hmap]
      exact .tapped (.publish hpublish.1 hpublish.2) hd hv
    · obtain ⟨content, hd, hpos, rfl⟩ := elim_singleton_iff.mp h
      obtain ⟨values, hv, hlen⟩ := jsonArrayLen_pos_iff.mp ⟨hpos, rfl⟩
      rw [← hlen]
      exact .tapped (.pull hpull.1 hpull.2) hd hv
    · obtain ⟨content, hd, hpos, rfl⟩ := elim_singleton_iff.mp h
      obtain ⟨values, hv, hlen⟩ := jsonArrayLen_pos_iff.mp ⟨hpos, rfl⟩
      rw [← hlen]
      exact .tapped (.acknowledge hack.1 hack.2) hd hv
  · rintro ⟨ht, hd, hv⟩
    cases ht with
    | publish hverb hr =>
      obtain ⟨hne, hmap⟩ := capturedMessages_iff.mpr ⟨_, hv, rfl⟩
      rw [tap, if_pos ⟨hverb, hr⟩, hd, Option.elim_some, hmap, if_pos hne]
    | pull hverb hr =>
      obtain ⟨hpos, hlen⟩ := jsonArrayLen_pos_iff.mpr ⟨_, hv, rfl⟩
      rw [tap, if_neg (by simp [hverb]), if_pos ⟨hverb, hr⟩, hd, Option.elim_some, hlen, if_pos hpos]
    | acknowledge hverb hr =>
      obtain ⟨hpos, hlen⟩ := jsonArrayLen_pos_iff.mpr ⟨_, hv, rfl⟩
      rw [tap, if_neg (by simp [hverb]), if_neg (by simp [hverb]), if_pos ⟨hverb, hr⟩, hd, Option.elim_some, hlen,
        if_pos hpos]

lemma length_tap_le :
    (proxy.tap requestHeaders requestBody responseHeaders responseBody peer resource verb).length ≤ 1 := by
  have hle {α β : Type} (a : Option α) (f : α → List β) (hf : ∀ x, (f x).length ≤ 1) : (a.elim [] f).length ≤ 1 := by
    cases a with
    | none => exact Nat.zero_le 1
    | some x => exact hf x
  rw [tap]
  split_ifs
  · exact hle _ _ fun x => by split_ifs <;> simp
  · exact hle _ _ fun x => by split_ifs <;> simp
  · exact hle _ _ fun x => by split_ifs <;> simp
  · simp

end RestProxy

section Classification

variable (proxy : RestProxy) (method : Method) (path : String) (requestHeaders : HeaderMap) (requestBody : Bytes)
  (status : StatusCode) (responseHeaders : HeaderMap) (responseBody : Bytes) (peer : Option SocketAddr)

structure Counted (reads : HeaderMap → Bytes → Option Bytes) (o : Observation) : Prop where
  method : method = .post
  status : 200 ≤ status.code ∧ status.code < 300
  carries : ∃ resource verb, VerbPath path resource verb ∧
    Carries proxy reads requestHeaders requestBody responseHeaders responseBody peer resource verb o

structure ClassifiesExactly (path : String) (observed : List Observation) (Counts : Observation → Prop) : Prop where
  atMostOne : observed.length ≤ 1
  exactly : ∀ o, observed = [o] ↔ Counts o
  splits : ∀ resource verb, resourceAndVerb path = some (resource, verb) ↔ VerbPath path resource verb
  unique : ∀ resource verb resource' verb', VerbPath path resource verb → VerbPath path resource' verb' →
    resource = resource' ∧ verb = verb'
  otherwise : (∀ o, ¬ Counts o) → ∀ (s : AppState) (now : Instant), s.applyAll (observed.map (·, now)) = s

/-- There is no array to count in a body, be all its codings undone or the one that the relay matches. -/
structure Unseen (decoders : Decoders) (headers : HeaderMap) (body : Bytes) (field : String) : Prop where
  content : ∀ content values, decoders.content headers body = some content → ¬ HoldsArray decoders content field values
  first : ∀ token ∈ written, headers.get "content-encoding" = some token → ∀ left values,
    decoders.undo token body = some left → ¬ HoldsArray decoders left field values

/-- The coding lines of the side that is tapped are legible, or nothing in it depends on them. -/
def CodingsRead : Prop :=
  method = .post → 200 ≤ status.code → status.code < 300 → ∀ resource verb headers body field report,
    VerbPath path resource verb →
    Tapped proxy requestHeaders requestBody responseHeaders responseBody peer resource verb headers body field report →
      Legible headers ∨ Unseen proxy.decoders headers body field

section Observed

variable {proxy method path requestHeaders requestBody status responseHeaders responseBody peer}
  {observed : List Observation} {Counts : Observation → Prop} {headers headers' : HeaderMap} {body body' : Bytes}
  {field field' resource verb : String} {report report' : List Json → Observation}

lemma observe_of_rejected (h : ¬ (method = .post ∧ status.isSuccess = true)) :
    proxy.observe method path requestHeaders requestBody status responseHeaders responseBody peer = [] := by
  have hfail : method ≠ .post ∨ status.isSuccess = false := by
    by_contra hboth
    push Not at hboth
    exact h ⟨hboth.1, by simpa using hboth.2⟩
  exact if_pos hfail

lemma observe_of_unnamed (h : resourceAndVerb path = none) :
    proxy.observe method path requestHeaders requestBody status responseHeaders responseBody peer = [] := by
  simp [RestProxy.observe, h]

lemma length_observe_le :
    (proxy.observe method path requestHeaders requestBody status responseHeaders responseBody peer).length ≤ 1 := by
  by_cases hpass : method = .post ∧ status.isSuccess = true
  · cases hsplit : resourceAndVerb path with
    | none => simp [observe_of_unnamed hsplit]
    | some names =>
      rw [RestProxy.observe_eq_tap hpass.1 hpass.2 hsplit]
      exact RestProxy.length_tap_le
  · simp [observe_of_rejected hpass]

lemma observe_eq_singleton_iff {o : Observation} :
    proxy.observe method path requestHeaders requestBody status responseHeaders responseBody peer = [o] ↔
      Counted proxy method path requestHeaders requestBody status responseHeaders responseBody peer
        proxy.decoded o := by
  constructor
  · intro h
    have hpass : method = .post ∧ status.isSuccess = true := by
      by_contra hrejected
      simp [observe_of_rejected hrejected] at h
    cases hsplit : resourceAndVerb path with
    | none => simp [observe_of_unnamed hsplit] at h
    | some names =>
      rw [RestProxy.observe_eq_tap hpass.1 hpass.2 hsplit, RestProxy.tap_eq_singleton_iff] at h
      exact ⟨hpass.1, by simpa [StatusCode.isSuccess] using hpass.2, _, _, resourceAndVerb_eq_some_iff.mp hsplit, h⟩
  · rintro ⟨hm, hs, resource, verb, hpath, h⟩
    have hsuccess : status.isSuccess = true := by simpa [StatusCode.isSuccess] using hs
    rw [RestProxy.observe_eq_tap hm hsuccess (resourceAndVerb_eq_some_iff.mpr hpath), RestProxy.tap_eq_singleton_iff]
    exact h

lemma eq_nil_of_uncounted (hlength : observed.length ≤ 1) (hexactly : ∀ o, observed = [o] ↔ Counts o)
    (hnone : ∀ o, ¬ Counts o) : observed = [] := by
  cases observed with
  | nil => rfl
  | cons o rest =>
    rw [List.length_cons] at hlength
    obtain rfl : rest = [] := List.eq_nil_of_length_eq_zero (by omega)
    exact absurd ((hexactly o).mp rfl) (hnone o)

lemma Tapped.unique (h : Tapped proxy requestHeaders requestBody responseHeaders responseBody peer resource verb headers
    body field report) (h' : Tapped proxy requestHeaders requestBody responseHeaders responseBody peer resource verb
      headers' body' field' report') : headers = headers' ∧ body = body' ∧ field = field' := by
  cases h <;> cases h' <;> simp_all

lemma not_holdsArray (engine : proxy.decoders.GzipEngine) (h : ¬ Legible headers) {left content : Bytes}
    {values : List Json} (hleft : proxy.decoded headers body = some left)
    (hcontent : proxy.decoders.content headers body = some content) :
    ¬ HoldsArray proxy.decoders left field values := by
  rintro ⟨⟨members, hslice, -⟩, -⟩
  rw [RestProxy.fromSlice_of_illegible engine h hleft hcontent] at hslice
  cases hslice

lemma unseen_iff (h : ¬ Legible headers) : Unseen proxy.decoders headers body field ↔
    (∀ content values, proxy.decoders.content headers body = some content →
      ¬ HoldsArray proxy.decoders content field values) ∧
    ∀ left values, proxy.decoded headers body = some left → ¬ HoldsArray proxy.decoders left field values := by
  obtain ⟨token, hget⟩ : ∃ token, headers.get "content-encoding" = some token := by
    apply Option.ne_none_iff_exists'.mp
    intro hnone
    exact h (by simp [Legible, hnone])
  constructor
  · rintro ⟨hcontent, hfirst⟩
    refine ⟨hcontent, fun left values hleft => ?_⟩
    rw [RestProxy.decoded_eq hget] at hleft
    split_ifs at hleft with hwritten
    exact hfirst token hwritten hget left values hleft
  · rintro ⟨hcontent, hfirst⟩
    refine ⟨hcontent, fun token' hwritten hget' left values hleft => hfirst left values ?_⟩
    rw [RestProxy.decoded_eq hget', if_pos hwritten, hleft]

lemma exists_read {reads : HeaderMap → Bytes → Option Bytes} {o : Observation} (hpath : VerbPath path resource verb)
    (ht : Tapped proxy requestHeaders requestBody responseHeaders responseBody peer resource verb headers body field
      report)
    (h : Counted proxy method path requestHeaders requestBody status responseHeaders responseBody peer reads o) :
    ∃ content values, reads headers body = some content ∧ HoldsArray proxy.decoders content field values := by
  obtain ⟨-, -, resource', verb', hpath', ⟨ht', hd, hv⟩⟩ := h
  obtain ⟨rfl, rfl⟩ := hpath.unique hpath'
  obtain ⟨rfl, rfl, rfl⟩ := ht.unique ht'
  exact ⟨_, _, hd, hv⟩

lemma counted_iff {o : Observation}
    (h : CodingsRead proxy method path requestHeaders requestBody status responseHeaders responseBody peer) :
    Counted proxy method path requestHeaders requestBody status responseHeaders responseBody peer proxy.decoded o ↔
      Counted proxy method path requestHeaders requestBody status responseHeaders responseBody peer
        proxy.decoders.content o := by
  constructor
  · rintro ⟨hm, hs, resource, verb, hpath, @⟨headers, body, left, field, report, values, ht, hleft, hv⟩⟩
    refine ⟨hm, hs, resource, verb, hpath, .tapped ht ?_ hv⟩
    by_cases hlegible : Legible headers
    · rw [RestProxy.content_of_legible hlegible, hleft]
    · have hunseen := (h hm hs.1 hs.2 _ _ _ _ _ _ hpath ht).resolve_left hlegible
      exact absurd hv (((unseen_iff hlegible).mp hunseen).2 _ _ hleft)
  · rintro ⟨hm, hs, resource, verb, hpath, @⟨headers, body, content, field, report, values, ht, hcontent, hv⟩⟩
    refine ⟨hm, hs, resource, verb, hpath, .tapped ht ?_ hv⟩
    by_cases hlegible : Legible headers
    · rw [← RestProxy.content_of_legible hlegible, hcontent]
    · have hunseen := (h hm hs.1 hs.2 _ _ _ _ _ _ hpath ht).resolve_left hlegible
      exact absurd hv (hunseen.content _ _ hcontent)

end Observed

/-- When the tap counts exactly what the content of a call holds: a coding line has to be as the relay spells it. -/
theorem rest_traffic_classified_iff (engine : proxy.decoders.GzipEngine) :
    ClassifiesExactly path
      (proxy.observe method path requestHeaders requestBody status responseHeaders responseBody peer)
      (Counted proxy method path requestHeaders requestBody status responseHeaders responseBody peer
        proxy.decoders.content) ↔
    CodingsRead proxy method path requestHeaders requestBody status responseHeaders responseBody peer := by
  constructor
  · intro h hm hlow hhigh resource verb headers body field report hpath ht
    rw [or_iff_not_imp_left]
    intro hillegible
    have hsame (o : Observation) := observe_eq_singleton_iff.symm.trans (h.exactly o)
    rw [unseen_iff hillegible]
    refine ⟨fun content values hcontent hv => ?_, fun left values hleft hv => ?_⟩
    · obtain ⟨left, values', hleft, hv'⟩ := exists_read hpath ht
        ((hsame (report values)).mpr ⟨hm, ⟨hlow, hhigh⟩, resource, verb, hpath, .tapped ht hcontent hv⟩)
      exact not_holdsArray engine hillegible hleft hcontent hv'
    · obtain ⟨content, -, hcontent, -⟩ := exists_read hpath ht
        ((hsame (report values)).mp ⟨hm, ⟨hlow, hhigh⟩, resource, verb, hpath, .tapped ht hleft hv⟩)
      exact not_holdsArray engine hillegible hleft hcontent hv
  · intro h
    have hexactly (o : Observation) := (observe_eq_singleton_iff.trans (counted_iff h) : _ = [o] ↔ _)
    refine ⟨length_observe_le, hexactly, fun _ _ => resourceAndVerb_eq_some_iff, fun _ _ _ _ h h' => h.unique h',
      fun hnone s now => ?_⟩
    rw [eq_nil_of_uncounted length_observe_le hexactly hnone]
    rfl

end Classification

def camelBody : Bytes := utf8 "\x7b\"ackIds\":[\"a\"]\x7d"

def snakeBody : Bytes := utf8 "\x7b\"ack_ids\":[\"a\"]\x7d"

def gzippedBody : Bytes :=
  [31, 139, 8, 0, 0, 0, 0, 0, 2, 3, 171, 86, 74, 76, 206, 246, 76, 41, 86, 178, 138, 86, 74, 84, 138, 173, 5, 0, 80, 7,
    179, 253, 16, 0, 0, 0]

def ackProxy : RestProxy where
  upstream := "localhost:8085"
  payloadCap := 1
  decoders :=
    { curlProxy.decoders with
      fromSlice := fun body =>
        if body = camelBody then some (.object [("ackIds", .array [.string "a"])])
        else if body = snakeBody then some (.object [("ack_ids", .array [.string "a"])])
        else none
      gunzip := fun body => if body = gzippedBody then some camelBody else none }

def ackPath : String := "/v1/" ++ subscriptionName "p" "s" ++ ":" ++ "acknowledge"

def coded (tokens : List String) : HeaderMap := ⟨tokens.map fun token => ("content-encoding", utf8 token)⟩

lemma camelBody_read :
    ackProxy.decoders.fromSlice camelBody = some (.object [("ackIds", .array [.string "a"])]) := by
  simp [ackProxy]

lemma ackPath_verb : VerbPath ackPath (subscriptionName "p" "s") "acknowledge" :=
  ⟨rfl, by decide, by decide, by decide⟩

lemma ackProxy_gzip : ackProxy.decoders.GzipEngine where
  gunzip body content h := by
    simp only [ackProxy, Option.ite_none_right_eq_some] at h
    exact ⟨gzippedBody.tail, h.1⟩
  fromSlice rest := by
    have hne {body : Bytes} (hhead : body.head? ≠ some 0x1f) : 0x1f :: rest ≠ body := by
      rintro rfl
      exact hhead rfl
    have hcamel : 0x1f :: rest ≠ camelBody := hne (by decide)
    have hsnake : 0x1f :: rest ≠ snakeBody := hne (by decide)
    simp [ackProxy, hcamel, hsnake]

theorem rest_traffic_classified_of_gzip :
    ClassifiesExactly ackPath
      (ackProxy.observe .post ackPath (coded ["gzip"]) gzippedBody ⟨200, by decide⟩ ⟨[]⟩ [] none)
      (Counted ackProxy .post ackPath (coded ["gzip"]) gzippedBody ⟨200, by decide⟩ ⟨[]⟩ [] none
        ackProxy.decoders.content) := by
  apply (rest_traffic_classified_iff ackProxy .post ackPath (coded ["gzip"]) gzippedBody ⟨200, by decide⟩ ⟨[]⟩ [] none
    ackProxy_gzip).mpr
  intro _ _ _ resource verb headers body field report _ ht
  left
  cases ht <;> decide

/-- An acknowledgement in a coding whose token is in upper case goes uncounted, and one in a coding that the relay
cannot undo is counted, where the relay stops reading at the line before it. -/
theorem acks_misread_of_codings :
    (¬ ClassifiesExactly ackPath
      (ackProxy.observe .post ackPath (coded ["GZIP"]) gzippedBody ⟨200, by decide⟩ ⟨[]⟩ [] none)
      (Counted ackProxy .post ackPath (coded ["GZIP"]) gzippedBody ⟨200, by decide⟩ ⟨[]⟩ [] none
        ackProxy.decoders.content)) ∧
    ¬ ClassifiesExactly ackPath
      (ackProxy.observe .post ackPath (coded ["identity", "br"]) camelBody ⟨200, by decide⟩ ⟨[]⟩ [] none)
      (Counted ackProxy .post ackPath (coded ["identity", "br"]) camelBody ⟨200, by decide⟩ ⟨[]⟩ [] none
        ackProxy.decoders.content) := by
  have ht (headers : HeaderMap) (body : Bytes) : Tapped ackProxy headers body ⟨[]⟩ [] none (subscriptionName "p" "s")
      "acknowledge" headers body "ackIds" fun values => .ack (subscriptionName "p" "s") none values.length :=
    .acknowledge rfl (by decide)
  constructor
  · intro h
    have hunseen : ackProxy.observe .post ackPath (coded ["GZIP"]) gzippedBody ⟨200, by decide⟩ ⟨[]⟩ [] none = [] := by
      decide
    have hcontent : ackProxy.decoders.content (coded ["GZIP"]) gzippedBody = some camelBody := by decide
    have hcounted := (h.exactly _).mpr ⟨rfl, by decide, _, _, ackPath_verb,
      .tapped (ht _ _) hcontent ⟨⟨_, camelBody_read, rfl⟩, by simp⟩⟩
    rw [hunseen] at hcounted
    cases hcounted
  · intro h
    have hseen : ackProxy.observe .post ackPath (coded ["identity", "br"]) camelBody ⟨200, by decide⟩ ⟨[]⟩ [] none =
        [.ack (subscriptionName "p" "s") none 1] := by decide
    have hnone : ackProxy.decoders.content (coded ["identity", "br"]) camelBody = none := by decide
    obtain ⟨content, values, hcontent, -⟩ := exists_read ackPath_verb (ht _ _) ((h.exactly _).mp hseen)
    rw [hnone] at hcontent
    cases hcontent

end PubSubTui.Proxy
