import PubSubTui.Proxy.Classification

/-! The many legal ways to write one message in a REST call, and which of them the tap reads. -/

namespace PubSubTui.Proxy

open Observe Library Library.Base64

section Alphabets

theorem decode_base64_undoes_encoding {proxy : RestProxy} (engines : proxy.decoders.Base64Engines) :
    (∀ padded bytes, proxy.decodeBase64 (encode Base64.standard padded bytes) = bytes ∧
      proxy.decodeBase64 (encode Base64.urlSafe padded bytes) = bytes) ∧
    (∀ text bytes, Encodes Base64.standard bytes text ∨ Encodes Base64.urlSafe bytes text →
      proxy.decodeBase64 text = bytes) ∧
    (∀ text bytes bytes', proxy.decoders.standard text = some bytes → proxy.decoders.urlSafe text = some bytes' →
      bytes = bytes') ∧
    ∀ text, proxy.decoders.standard text = none → proxy.decoders.urlSafe text = none →
      proxy.decodeBase64 text = [] := by
  refine ⟨fun padded bytes => ⟨?_, ?_⟩, fun text bytes h => ?_, fun text bytes bytes' hs hu => ?_, fun text hs hu => ?_⟩
  · exact RestProxy.decodeBase64_of_encodes engines (.inl (encodes_encode _ padded bytes))
  · exact RestProxy.decodeBase64_of_encodes engines (.inr (encodes_encode _ padded bytes))
  · exact RestProxy.decodeBase64_of_encodes engines h
  · apply bytes_eq_of_compatible compatible_standard_urlSafe
    · exact (engines.standard text bytes).mp hs
    · exact (engines.urlSafe text bytes').mp hu
  · rw [RestProxy.decodeBase64, hs, hu]
    rfl

theorem decode_base64_undoes_url_safe : curlProxy.decodeBase64 (encode Base64.urlSafe false [251, 255]) = [251, 255] :=
  ((decode_base64_undoes_encoding curlProxy_engines).1 false [251, 255]).2

end Alphabets

namespace Json

/-- An object of the given fields in any order, each under its name in lowerCamelCase or its original name. -/
def SpellsFields (json : Json) (fields : List (String × String × Option Json)) : Prop :=
  ∃ chosen, List.Forall₂ (fun (c : String × Option Json) (f : String × String × Option Json) =>
    (c.1 = f.1 ∨ c.1 = f.2.1) ∧ c.2 = f.2.2) chosen fields ∧ json.HasFields chosen

/-- A field that has its default value may be left out, or be null. -/
def Omitted (value : Option Json) : Prop := value = none ∨ value = some .null

def SpellsText (text : String) (value : Option Json) : Prop := value = some (.string text) ∨ text = "" ∧ Omitted value

def SpellsArray (values : List Json) (value : Option Json) : Prop :=
  value = some (.array values) ∨ values = [] ∧ Omitted value

def SpellsBytes (bytes : Bytes) (value : Option Json) : Prop :=
  (∃ text, value = some (.string text) ∧ (Encodes Base64.standard bytes text ∨ Encodes Base64.urlSafe bytes text)) ∨
    bytes = [] ∧ Omitted value

def SpellsAttributes (attributes : List (String × String)) (value : Option Json) : Prop :=
  (∃ members, value = some (.object members) ∧
    members.Perm (attributes.map fun (key, value) => (key, .string value))) ∨ attributes = [] ∧ Omitted value

end Json

/-- How times and numbers may be written in JSON; no tap reads either. -/
structure JsonForms where
  timestamp : Timestamp → Json → Prop
  number : ℤ → Json → Prop

section Spelling

open Json

variable (forms : JsonForms)

def SpellsMessage (message : PubsubMessage) (json : Json) : Prop :=
  ∃ data attributes messageId publishTime orderingKey, SpellsBytes message.data data ∧
    SpellsAttributes message.attributes attributes ∧ SpellsText message.messageId messageId ∧
    (∀ time ∈ message.publishTime, ∃ value, publishTime = some value ∧ forms.timestamp time value) ∧
    (message.publishTime = none → Omitted publishTime) ∧ SpellsText message.orderingKey orderingKey ∧
    json.SpellsFields [("data", "data", data), ("attributes", "attributes", attributes),
      ("messageId", "message_id", messageId), ("publishTime", "publish_time", publishTime),
      ("orderingKey", "ordering_key", orderingKey)]

def SpellsReceived (received : ReceivedMessage) (json : Json) : Prop :=
  ∃ ackId message deliveryAttempt, SpellsText received.ackId ackId ∧
    (∀ m ∈ received.message, ∃ value, message = some value ∧ SpellsMessage forms m value) ∧
    (received.message = none → Omitted message) ∧
    ((∃ value, deliveryAttempt = some value ∧ forms.number received.deliveryAttempt value) ∨
      received.deliveryAttempt = 0 ∧ Omitted deliveryAttempt) ∧
    json.SpellsFields [("ackId", "ack_id", ackId), ("message", "message", message),
      ("deliveryAttempt", "delivery_attempt", deliveryAttempt)]

structure SpellsBody (decoders : Decoders) (headers : HeaderMap) (body : Bytes) (field : String)
    (values : List Json) : Prop where
  content : ∃ content json value, Codes decoders headers body content ∧ decoders.fromSlice content = some json ∧
    json.HasFields [(field, value)] ∧ SpellsArray values value

end Spelling

namespace Json

variable {json : Json} {fields : List (String × String × Option Json)} {values : List Json} {value : Option Json}
  {name : String}

lemma get_of_spellsFields (h : json.SpellsFields fields)
    (hd : fields.Pairwise fun f g => f.1 ≠ g.1 ∧ f.1 ≠ g.2.1 ∧ f.2.1 ≠ g.1 ∧ f.2.1 ≠ g.2.1)
    (hm : (name, name, value) ∈ fields) : json.get name = value := by
  obtain ⟨chosen, hchosen, hfields⟩ := h
  have hnodup : (chosen.map Prod.fst).Nodup := by
    clear hm hfields
    induction hchosen with
    | nil => exact List.nodup_nil
    | @cons c f chosen fields hc hrest ih =>
      obtain ⟨hfirst, hlater⟩ := List.pairwise_cons.mp hd
      refine List.nodup_cons.mpr ⟨fun hmem => ?_, ih hlater⟩
      obtain ⟨c', hc', hname⟩ := List.mem_map.mp hmem
      obtain ⟨i, hi, rfl⟩ := List.getElem_of_mem hc'
      have hi' : i < fields.length := hrest.length_eq ▸ hi
      have hspelled := List.Forall₂.get hrest hi hi'
      obtain ⟨h₁, h₂, h₃, h₄⟩ := hfirst _ (List.getElem_mem hi')
      rcases hc.1 with hc | hc <;> rcases hspelled.1 with hs | hs <;> simp_all
  obtain ⟨i, hi, hfield⟩ := List.getElem_of_mem hm
  have hi' : i < chosen.length := hchosen.length_eq ▸ hi
  have hspelled := List.Forall₂.get hchosen hi' hi
  simp only [List.get_eq_getElem, hfield, or_self] at hspelled
  have hmem : (name, value) ∈ chosen := by
    rw [← hspelled.1, ← hspelled.2]
    exact List.getElem_mem hi'
  exact get_of_hasFields hfields hnodup hmem

lemma get_of_hasField (h : json.HasFields [(name, value)]) (wanted : String) :
    json.get wanted = if wanted = name then value else none := by
  split_ifs with heq
  · exact get_of_hasFields h (by simp) (by simp [heq])
  · have hwith : json.HasFields [(name, value), (wanted, none)] := by
      obtain ⟨members, rfl, hp⟩ := h
      exact ⟨members, rfl, hp.trans (List.Perm.of_eq (by cases value <;> rfl))⟩
    exact get_of_hasFields hwith (by simpa using Ne.symm heq) (by simp)

lemma asArray_of_spells (h : SpellsArray values value) : (value.bind asArray).elim [] id = values := by
  rcases h with rfl | ⟨rfl, rfl | rfl⟩ <;> rfl

end Json

lemma SameMessage.symm {m m' : PublishedMessage} (h : SameMessage m m') : SameMessage m' m :=
  ⟨h.data.symm, h.originalLen.symm, h.truncated.symm, h.attributes.symm⟩

lemma SameMessage.trans {m m' m'' : PublishedMessage} (h : SameMessage m m') (h' : SameMessage m' m'') :
    SameMessage m m'' :=
  ⟨h.data.trans h'.data, h.originalLen.trans h'.originalLen, h.truncated.trans h'.truncated,
    h.attributes.trans h'.attributes⟩

inductive SameObservation : Observation → Observation → Prop
  | publish {topic : String} {peer : Option SocketAddr} {messages messages' : List PublishedMessage}
    (h : List.Forall₂ SameMessage messages messages') :
    SameObservation (.publish topic peer messages) (.publish topic peer messages')
  | deliver {subscription : String} {peer : Option SocketAddr} {n : ℕ} :
    SameObservation (.deliver subscription peer n) (.deliver subscription peer n)
  | ack {subscription : String} {peer : Option SocketAddr} {n : ℕ} :
    SameObservation (.ack subscription peer n) (.ack subscription peer n)

def Decoders.elements (decoders : Decoders) (content : Option Bytes) (wanted : String) : List Json :=
  (((content.bind decoders.fromSlice).bind (·.get wanted)).bind Json.asArray).elim [] id

namespace RestProxy

variable {proxy : RestProxy} {forms : JsonForms} {headers : HeaderMap} {body : Bytes} {field : String}
  {values : List Json}

section Capture

variable (engines : proxy.decoders.Base64Engines)

include engines

lemma sameMessage_of_spells {message : PubsubMessage} {json : Json} (h : SpellsMessage forms message json) :
    SameMessage (Proxy.capture proxy.payloadCap message) (proxy.capture json) := by
  obtain ⟨data, attributes, _, _, _, hdata, hattributes, -, -, -, -, hfields⟩ := h
  apply sameMessage_of_read
  · rw [Json.get_of_spellsFields hfields (by simp) List.mem_cons_self]
    rcases hdata with ⟨text, rfl, htext⟩ | ⟨hempty, rfl | rfl⟩
    · exact decodeBase64_of_encodes engines htext
    · exact hempty.symm
    · exact hempty.symm
  · rw [Json.get_of_spellsFields hfields (by simp) (List.mem_cons_of_mem _ List.mem_cons_self)]
    rcases hattributes with ⟨members, rfl, hp⟩ | ⟨hempty, rfl | rfl⟩
    · refine (hp.filterMap _).trans (List.Perm.of_eq ?_)
      rw [List.filterMap_map]
      exact List.filterMap_some
    · exact List.Perm.of_eq hempty.symm
    · exact List.Perm.of_eq hempty.symm

lemma sameMessages_of_spells {messages : List PubsubMessage} {values values' : List Json}
    (h : List.Forall₂ (SpellsMessage forms) messages values)
    (h' : List.Forall₂ (SpellsMessage forms) messages values') :
    List.Forall₂ SameMessage (values.map proxy.capture) (values'.map proxy.capture) := by
  rw [List.forall₂_map_left_iff, List.forall₂_map_right_iff]
  induction h generalizing values' with
  | nil =>
    cases h'
    exact .nil
  | cons hmessage _ ih =>
    cases h' with
    | cons hmessage' hrest' =>
      exact .cons ((sameMessage_of_spells engines hmessage).symm.trans (sameMessage_of_spells engines hmessage'))
        (ih hrest')

end Capture

def elements (proxy : RestProxy) (headers : HeaderMap) (body : Bytes) (wanted : String) : List Json :=
  proxy.decoders.elements (proxy.decoded headers body) wanted

lemma elements_of_spells (h : SpellsBody proxy.decoders headers body field values) (wanted : String) :
    proxy.elements headers body wanted = if LowerCased headers ∧ wanted = field then values else [] := by
  obtain ⟨content, json, value, hcodes, hslice, hfields, hvalues⟩ := h
  by_cases hlower : LowerCased headers
  · rw [elements, Decoders.elements, decoded_of_codes hcodes hlower, Option.bind_some, hslice, Option.bind_some,
      Json.get_of_hasField hfields]
    by_cases hwanted : wanted = field
    · rw [if_pos hwanted, if_pos ⟨hlower, hwanted⟩, Json.asArray_of_spells hvalues]
    · rw [if_neg hwanted, if_neg fun hboth => hwanted hboth.2]
      rfl
  · rw [elements, decoded_of_not_lowerCased hcodes hlower, if_neg fun hboth => hlower hboth.1]
    rfl

def report (f : List Json → Observation) (values : List Json) : List Observation :=
  if values = [] then [] else [f values]

section Observed

variable {method : Method} {path resource : String} {status : StatusCode} {requestHeaders responseHeaders : HeaderMap}
  {requestBody responseBody : Bytes} {peer : Option SocketAddr} (hm : method = .post) (hs : status.isSuccess = true)

lemma length_elements (content : Bytes) (wanted : String) : proxy.jsonArrayLen content wanted =
    ((((proxy.decoders.fromSlice content).bind (·.get wanted)).bind Json.asArray).elim [] id).length := by
  rw [jsonArrayLen]
  cases ((proxy.decoders.fromSlice content).bind (·.get wanted)).bind Json.asArray <;> rfl

lemma reported_len (wanted : String) (f : ℕ → Observation) :
    ((proxy.decoded headers body).elim [] fun content =>
      if proxy.jsonArrayLen content wanted > 0 then [f (proxy.jsonArrayLen content wanted)] else []) =
    report (fun values => f values.length) (proxy.elements headers body wanted) := by
  rw [elements, Decoders.elements]
  cases proxy.decoded headers body with
  | none => rfl
  | some content =>
    simp only [Option.elim_some, Option.bind_some, length_elements, report, List.length_pos_iff, ite_not, gt_iff_lt,
      ne_eq]

lemma reported_messages : ((proxy.decoded headers body).elim [] fun content =>
      if proxy.capturedMessages content ≠ [] then [.publish resource peer (proxy.capturedMessages content)] else []) =
    report (fun values => .publish resource peer (values.map proxy.capture)) (proxy.elements headers body "messages") := by
  rw [elements, Decoders.elements]
  cases proxy.decoded headers body with
  | none => rfl
  | some content =>
    rw [Option.elim_some, Option.bind_some, capturedMessages_eq, report]
    cases ((proxy.decoders.fromSlice content).bind (·.get "messages")).bind Json.asArray with
    | none => simp
    | some values =>
      by_cases hvalues : values = []
      · simp [hvalues]
      · simp [hvalues]

lemma tap_eq (verb : String) : proxy.tap requestHeaders requestBody responseHeaders responseBody peer resource verb =
    if verb = "publish" ∧ Contains resource "/topics/" then
      report (fun values => .publish resource peer (values.map proxy.capture))
        (proxy.elements requestHeaders requestBody "messages")
    else if verb = "pull" ∧ Contains resource "/subscriptions/" then
      report (fun values => .deliver resource peer values.length)
        (proxy.elements responseHeaders responseBody "receivedMessages")
    else if verb = "acknowledge" ∧ Contains resource "/subscriptions/" then
      report (fun values => .ack resource peer values.length) (proxy.elements requestHeaders requestBody "ackIds")
    else [] := by
  rw [tap, reported_messages, reported_len, reported_len]

include hm hs

lemma observe_publish_eq (hp : VerbPath path resource "publish") (hr : Contains resource "/topics/") :
    proxy.observe method path requestHeaders requestBody status responseHeaders responseBody peer =
      report (fun values => .publish resource peer (values.map proxy.capture))
        (proxy.elements requestHeaders requestBody "messages") := by
  rw [observe_eq_tap hm hs (resourceAndVerb_eq_some_iff.mpr hp), tap_eq, if_pos ⟨rfl, hr⟩]

lemma observe_pull_eq (hp : VerbPath path resource "pull") (hr : Contains resource "/subscriptions/") :
    proxy.observe method path requestHeaders requestBody status responseHeaders responseBody peer =
      report (fun values => .deliver resource peer values.length)
        (proxy.elements responseHeaders responseBody "receivedMessages") := by
  rw [observe_eq_tap hm hs (resourceAndVerb_eq_some_iff.mpr hp), tap_eq, if_neg (by simp), if_pos ⟨rfl, hr⟩]

lemma observe_acknowledge_eq (hp : VerbPath path resource "acknowledge") (hr : Contains resource "/subscriptions/") :
    proxy.observe method path requestHeaders requestBody status responseHeaders responseBody peer =
      report (fun values => .ack resource peer values.length)
        (proxy.elements requestHeaders requestBody "ackIds") := by
  rw [observe_eq_tap hm hs (resourceAndVerb_eq_some_iff.mpr hp), tap_eq, if_neg (by simp), if_neg (by simp),
    if_pos ⟨rfl, hr⟩]

end Observed

lemma sameReports_iff {read read' : Prop} [Decidable read] [Decidable read'] {values values' : List Json}
    {f : List Json → Observation}
    (hlength : values.length = values'.length) (hsame : SameObservation (f values) (f values')) :
    List.Forall₂ SameObservation (report f (if read then values else [])) (report f (if read' then values' else [])) ↔
      values = [] ∨ (read ↔ read') := by
  by_cases hempty : values = []
  · have hempty' : values' = [] := List.eq_nil_of_length_eq_zero (by rw [← hlength, hempty]; rfl)
    simp [hempty, hempty', report]
  · have hempty' : values' ≠ [] := fun hnil => hempty (List.eq_nil_of_length_eq_zero (by rw [hlength, hnil]; rfl))
    by_cases hread : read <;> by_cases hread' : read' <;> simp [hread, hread', report, hempty, hempty', hsame]

end RestProxy

structure Call where
  requestHeaders : HeaderMap
  requestBody : Bytes
  status : StatusCode
  success : status.isSuccess = true
  responseHeaders : HeaderMap
  responseBody : Bytes

def RestProxy.observeCall (proxy : RestProxy) (path : String) (peer : Option SocketAddr) (call : Call) :
    List Observation :=
  proxy.observe .post path call.requestHeaders call.requestBody call.status call.responseHeaders call.responseBody peer

section Calls

variable {proxy : RestProxy} {forms : JsonForms} {path resource field field' : String} {peer : Option SocketAddr}
  {call call' : Call} {values values' : List Json}

lemma publish_spelled_iff (engines : proxy.decoders.Base64Engines) (hp : VerbPath path resource "publish")
    (hr : Contains resource "/topics/") {messages : List PubsubMessage}
    (hv : List.Forall₂ (SpellsMessage forms) messages values)
    (hv' : List.Forall₂ (SpellsMessage forms) messages values')
    (hb : SpellsBody proxy.decoders call.requestHeaders call.requestBody "messages" values)
    (hb' : SpellsBody proxy.decoders call'.requestHeaders call'.requestBody "messages" values') :
    List.Forall₂ SameObservation (proxy.observeCall path peer call) (proxy.observeCall path peer call') ↔
      messages = [] ∨ (LowerCased call.requestHeaders ↔ LowerCased call'.requestHeaders) := by
  have hlength : values.length = values'.length := hv.length_eq.symm.trans hv'.length_eq
  have hempty : messages = [] ↔ values = [] := by
    rw [← List.length_eq_zero_iff, hv.length_eq, List.length_eq_zero_iff]
  rw [RestProxy.observeCall, RestProxy.observeCall, RestProxy.observe_publish_eq rfl call.success hp hr,
    RestProxy.observe_publish_eq rfl call'.success hp hr, RestProxy.elements_of_spells hb,
    RestProxy.elements_of_spells hb', RestProxy.sameReports_iff hlength, hempty, and_iff_left rfl, and_iff_left rfl]
  exact .publish (RestProxy.sameMessages_of_spells engines hv hv')

lemma pull_spelled_iff (hp : VerbPath path resource "pull") (hr : Contains resource "/subscriptions/")
    {received : List ReceivedMessage} (hv : List.Forall₂ (SpellsReceived forms) received values)
    (hv' : List.Forall₂ (SpellsReceived forms) received values')
    (hb : SpellsBody proxy.decoders call.responseHeaders call.responseBody field values)
    (hb' : SpellsBody proxy.decoders call'.responseHeaders call'.responseBody field' values') :
    List.Forall₂ SameObservation (proxy.observeCall path peer call) (proxy.observeCall path peer call') ↔
      received = [] ∨ (LowerCased call.responseHeaders ∧ "receivedMessages" = field ↔
        LowerCased call'.responseHeaders ∧ "receivedMessages" = field') := by
  have hlength : values.length = values'.length := hv.length_eq.symm.trans hv'.length_eq
  have hempty : received = [] ↔ values = [] := by
    rw [← List.length_eq_zero_iff, hv.length_eq, List.length_eq_zero_iff]
  rw [RestProxy.observeCall, RestProxy.observeCall, RestProxy.observe_pull_eq rfl call.success hp hr,
    RestProxy.observe_pull_eq rfl call'.success hp hr, RestProxy.elements_of_spells hb,
    RestProxy.elements_of_spells hb', RestProxy.sameReports_iff hlength, hempty]
  rw [hlength]
  exact .deliver

lemma acknowledge_spelled_iff (hp : VerbPath path resource "acknowledge") (hr : Contains resource "/subscriptions/")
    {ackIds : List String}
    (hb : SpellsBody proxy.decoders call.requestHeaders call.requestBody field (ackIds.map .string))
    (hb' : SpellsBody proxy.decoders call'.requestHeaders call'.requestBody field' (ackIds.map .string)) :
    List.Forall₂ SameObservation (proxy.observeCall path peer call) (proxy.observeCall path peer call') ↔
      ackIds = [] ∨ (LowerCased call.requestHeaders ∧ "ackIds" = field ↔
        LowerCased call'.requestHeaders ∧ "ackIds" = field') := by
  rw [RestProxy.observeCall, RestProxy.observeCall, RestProxy.observe_acknowledge_eq rfl call.success hp hr,
    RestProxy.observe_acknowledge_eq rfl call'.success hp hr, RestProxy.elements_of_spells hb,
    RestProxy.elements_of_spells hb', RestProxy.sameReports_iff rfl .ack, List.map_eq_nil_iff]

end Calls

namespace Call

variable (decoders : Decoders) (forms : JsonForms)

def Publishes (request : PublishRequest) (call : Call) : Prop :=
  ∃ values, List.Forall₂ (SpellsMessage forms) request.messages values ∧
    SpellsBody decoders call.requestHeaders call.requestBody "messages" values

def Delivers (response : PullResponse) (field : String) (call : Call) : Prop :=
  (field = "receivedMessages" ∨ field = "received_messages") ∧
    ∃ values, List.Forall₂ (SpellsReceived forms) response.receivedMessages values ∧
      SpellsBody decoders call.responseHeaders call.responseBody field values

def Acknowledges (request : AcknowledgeRequest) (field : String) (call : Call) : Prop :=
  (field = "ackIds" ∨ field = "ack_ids") ∧
    SpellsBody decoders call.requestHeaders call.requestBody field (request.ackIds.map .string)

end Call

/-- When two spellings of one message are observed alike: the tap reads content-coding tokens in lower case only, and
array names in lowerCamelCase only. -/
theorem rest_spelling_irrelevant_iff {proxy : RestProxy} (engines : proxy.decoders.Base64Engines) (forms : JsonForms)
    (path resource : String) (peer : Option SocketAddr) (call call' : Call) :
    (VerbPath path resource "publish" → Contains resource "/topics/" → ∀ request,
      call.Publishes proxy.decoders forms request → call'.Publishes proxy.decoders forms request →
      (List.Forall₂ SameObservation (proxy.observeCall path peer call) (proxy.observeCall path peer call') ↔
        request.messages = [] ∨ (LowerCased call.requestHeaders ↔ LowerCased call'.requestHeaders))) ∧
    (VerbPath path resource "pull" → Contains resource "/subscriptions/" → ∀ response field field',
      call.Delivers proxy.decoders forms response field → call'.Delivers proxy.decoders forms response field' →
      (List.Forall₂ SameObservation (proxy.observeCall path peer call) (proxy.observeCall path peer call') ↔
        response.receivedMessages = [] ∨ (LowerCased call.responseHeaders ∧ "receivedMessages" = field ↔
          LowerCased call'.responseHeaders ∧ "receivedMessages" = field'))) ∧
    (VerbPath path resource "acknowledge" → Contains resource "/subscriptions/" → ∀ request field field',
      call.Acknowledges proxy.decoders request field → call'.Acknowledges proxy.decoders request field' →
      (List.Forall₂ SameObservation (proxy.observeCall path peer call) (proxy.observeCall path peer call') ↔
        request.ackIds = [] ∨ (LowerCased call.requestHeaders ∧ "ackIds" = field ↔
          LowerCased call'.requestHeaders ∧ "ackIds" = field'))) := by
  refine ⟨fun hp hr request hcall hcall' => ?_, fun hp hr response field field' hcall hcall' => ?_,
    fun hp hr request field field' hcall hcall' => ?_⟩
  · obtain ⟨values, hv, hb⟩ := hcall
    obtain ⟨values', hv', hb'⟩ := hcall'
    exact publish_spelled_iff engines hp hr hv hv' hb hb'
  · obtain ⟨-, values, hv, hb⟩ := hcall
    obtain ⟨-, values', hv', hb'⟩ := hcall'
    exact pull_spelled_iff hp hr hv hv' hb hb'
  · exact acknowledge_spelled_iff hp hr hcall.2 hcall'.2

def ackCall (headers : HeaderMap) (body : Bytes) : Call where
  requestHeaders := headers
  requestBody := body
  status := ⟨200, by decide⟩
  success := by decide
  responseHeaders := ⟨[]⟩
  responseBody := utf8 "\x7b\x7d"

def ackRequest : AcknowledgeRequest := { subscription := subscriptionName "p" "s", ackIds := ["a"] }

lemma ackProxy_engines : ackProxy.decoders.Base64Engines := ⟨curlProxy_engines.standard, curlProxy_engines.urlSafe⟩

lemma snakeBody_read :
    ackProxy.decoders.fromSlice snakeBody = some (.object [("ack_ids", .array [.string "a"])]) := by
  have hne : snakeBody ≠ camelBody := by decide
  simp [ackProxy, hne]

lemma camelBody_acknowledges {headers : HeaderMap} {body : Bytes} (h : Codes ackProxy.decoders headers body camelBody) :
    (ackCall headers body).Acknowledges ackProxy.decoders ackRequest "ackIds" :=
  ⟨.inl rfl, ⟨camelBody, _, _, h, camelBody_read, ⟨_, rfl, List.Perm.refl _⟩, .inl rfl⟩⟩

lemma snakeBody_acknowledges :
    (ackCall ⟨[]⟩ snakeBody).Acknowledges ackProxy.decoders ackRequest "ack_ids" :=
  ⟨.inr rfl, ⟨snakeBody, _, _, .plain rfl, snakeBody_read, ⟨_, rfl, List.Perm.refl _⟩, .inl rfl⟩⟩

theorem rest_spelling_irrelevant_of_gzip :
    List.Forall₂ SameObservation (ackProxy.observeCall ackPath none (ackCall ⟨[]⟩ camelBody))
      (ackProxy.observeCall ackPath none (ackCall (coded ["gzip"]) gzippedBody)) := by
  have hcodes : Codes ackProxy.decoders (coded ["gzip"]) gzippedBody camelBody :=
    .coded (show (coded ["gzip"]).get "content-encoding" = some (utf8 "gzip") by decide) (by decide)
  exact ((rest_spelling_irrelevant_iff ackProxy_engines ⟨fun _ _ => True, fun _ _ => True⟩ ackPath
    (subscriptionName "p" "s") none _ _).2.2 ackPath_verb (by decide) ackRequest _ _
    (camelBody_acknowledges (.plain rfl)) (camelBody_acknowledges hcodes)).mpr (.inr (by decide))

theorem ack_unseen_of_snake_case :
    (ackCall ⟨[]⟩ camelBody).Acknowledges ackProxy.decoders ackRequest "ackIds" ∧
      (ackCall ⟨[]⟩ snakeBody).Acknowledges ackProxy.decoders ackRequest "ack_ids" ∧
      ackProxy.observeCall ackPath none (ackCall ⟨[]⟩ camelBody) = [.ack (subscriptionName "p" "s") none 1] ∧
      ackProxy.observeCall ackPath none (ackCall ⟨[]⟩ snakeBody) = [] :=
  ⟨camelBody_acknowledges (.plain rfl), snakeBody_acknowledges, by decide, by decide⟩

end PubSubTui.Proxy
