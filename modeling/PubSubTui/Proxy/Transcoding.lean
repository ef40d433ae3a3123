import PubSubTui.Library.Base64
import PubSubTui.Proxy.Rest
import PubSubTui.Proxy.Unary

/-! The tap on gRPC and the tap on REST see the same in a call, however its JSON is written. -/

namespace PubSubTui.Proxy

open Observe Library Library.Base64

namespace Json

def HasFields (json : Json) (fields : List (String × Option Json)) : Prop :=
  ∃ members, json = .object members ∧ members.Perm (fields.filterMap fun (name, value) => value.map (name, ·))

def text (s : String) : Option Json := if s = "" then none else some (.string s)

def repeated (values : List Json) : Option Json := if values = [] then none else some (.array values)

lemma find_field {members : List (String × Json)} (hd : (members.map Prod.fst).Nodup) {name : String}
    {value : Json} (hm : (name, value) ∈ members) : members.find? (·.1 = name) = some (name, value) := by
  cases he : members.find? (·.1 = name) with
  | none => exact absurd (List.find?_eq_none.mp he _ hm) (by simp)
  | some e =>
    have hname : e.1 = name := by simpa using List.find?_some he
    rw [List.inj_on_of_nodup_map hd (List.mem_of_find?_eq_some he) hm hname]

lemma get_of_hasFields {json : Json} {fields : List (String × Option Json)} (h : json.HasFields fields)
    (hd : (fields.map Prod.fst).Nodup) {name : String} {value : Option Json} (hm : (name, value) ∈ fields) :
    json.get name = value := by
  obtain ⟨members, rfl, hp⟩ := h
  have hsub : ((fields.filterMap fun (name, value) => value.map (name, ·)).map Prod.fst).Sublist
      (fields.map Prod.fst) := by
    clear hd hm hp
    induction fields with
    | nil => exact List.Sublist.slnil
    | cons field fields ih =>
      obtain ⟨name, _ | value⟩ := field
      · exact ih.cons name
      · exact ih.cons_cons name
  have hnodup : (members.map Prod.fst).Nodup := (hp.map Prod.fst).nodup_iff.mpr (hd.sublist hsub)
  rw [get, asObject, Option.bind_some]
  cases value with
  | some value =>
    have hmem : (name, value) ∈ members := hp.mem_iff.mpr (List.mem_filterMap.mpr ⟨_, hm, rfl⟩)
    rw [find_field hnodup hmem, Option.map_some]
  | none =>
    rw [Option.map_eq_none_iff, List.find?_eq_none]
    rintro ⟨name', value⟩ he hname
    obtain ⟨⟨name'', value''⟩, hfield, hvalue⟩ := List.mem_filterMap.mp (hp.mem_iff.mp he)
    obtain ⟨value', rfl, heq⟩ := Option.map_eq_some_iff.mp hvalue
    cases heq
    have hsame := List.inj_on_of_nodup_map hd hfield hm (by simpa using hname)
    cases hsame

lemma get_repeated {json : Json} {name : String} {values : List Json} (h : json.HasFields [(name, repeated values)]) :
    ((json.get name).bind asArray).elim [] id = values := by
  rw [get_of_hasFields h (by simp) (List.mem_singleton_self _), repeated]
  split_ifs with hv
  · rw [hv]
    rfl
  · rfl

end Json

/-- What the two engines are relied on for: each reads the texts of its alphabet, padded or not, and no others. -/
structure Decoders.Base64Engines (decoders : Decoders) : Prop where
  standard : ∀ text bytes, decoders.standard text = some bytes ↔ Encodes Base64.standard bytes text
  urlSafe : ∀ text bytes, decoders.urlSafe text = some bytes ↔ Encodes Base64.urlSafe bytes text

lemma RestProxy.decodeBase64_of_encodes {proxy : RestProxy} (engines : proxy.decoders.Base64Engines)
    {bytes : Bytes} {text : String} (h : Encodes Base64.standard bytes text ∨ Encodes Base64.urlSafe bytes text) :
    proxy.decodeBase64 text = bytes := by
  rw [decodeBase64]
  cases hs : proxy.decoders.standard text with
  | some bytes' =>
    have hs' := (engines.standard text bytes').mp hs
    rcases h with h | h
    · rw [(engines.standard text bytes).mpr h] at hs
      exact (Option.some.inj hs).symm
    · exact bytes_eq_of_compatible compatible_standard_urlSafe hs' h
  | none =>
    rcases h with h | h
    · rw [(engines.standard text bytes).mpr h] at hs
      cases hs
    · rw [(engines.urlSafe text bytes).mpr h]
      rfl

lemma rsplitOnce_append {separator : Char} {before after : List Char} (h : separator ∉ after) :
    rsplitOnce separator (before ++ separator :: after) = some (before, after) := by
  have hafter : ∀ c ∈ after.reverse, decide (c ≠ separator) = true := by
    rintro c hc
    exact decide_eq_true fun heq => h (heq ▸ List.mem_reverse.mp hc)
  rw [rsplitOnce, List.span_eq_takeWhile_dropWhile, List.reverse_append, List.reverse_cons, List.append_assoc,
    List.takeWhile_append_of_pos hafter, List.dropWhile_append_of_pos hafter]
  simp

lemma resourceAndVerb_of_path {resource verb : String} (hr : resource ≠ "") (hv : verb ≠ "")
    (hcolon : ':' ∉ verb.toList) :
    resourceAndVerb ("/v1/" ++ resource ++ ":" ++ verb) = some (resource, verb) := by
  have hpath : ("/v1/" ++ resource ++ ":" ++ verb).toList =
      "/v1/".toList ++ (resource.toList ++ ':' :: verb.toList) := by simp
  rw [resourceAndVerb, hpath, stripPrefix, if_pos (by simp), List.drop_left]
  simp only [Option.bind_eq_bind, Option.bind_some, rsplitOnce_append hcolon]
  rw [if_pos (by simpa using ⟨hr, hv⟩), String.ofList_toList, String.ofList_toList]

def topicName (project topic : String) : String := "projects/" ++ project ++ "/topics/" ++ topic

def subscriptionName (project subscription : String) : String :=
  "projects/" ++ project ++ "/subscriptions/" ++ subscription

section Rendering

open Json

variable (timestamp : Timestamp → String)

def RendersBytes (bytes : Bytes) (value : Option Json) : Prop :=
  if bytes = [] then value = none
  else ∃ text, value = some (.string text) ∧ (Encodes Base64.standard bytes text ∨ Encodes Base64.urlSafe bytes text)

def RendersAttributes (attributes : List (String × String)) (value : Option Json) : Prop :=
  if attributes = [] then value = none
  else ∃ members, value = some (.object members) ∧
    members.Perm (attributes.map fun (key, value) => (key, .string value))

def RendersMessage (message : PubsubMessage) (json : Json) : Prop :=
  ∃ data attributes, RendersBytes message.data data ∧ RendersAttributes message.attributes attributes ∧
    json.HasFields [("data", data), ("attributes", attributes), ("messageId", text message.messageId),
      ("publishTime", message.publishTime.map fun time => .string (timestamp time)),
      ("orderingKey", text message.orderingKey)]

def RendersReceived (received : ReceivedMessage) (json : Json) : Prop :=
  ∃ message, Option.Rel (RendersMessage timestamp) received.message message ∧
    json.HasFields [("ackId", text received.ackId), ("message", message),
      ("deliveryAttempt", if received.deliveryAttempt = 0 then none
        else some (.number (toString received.deliveryAttempt)))]

def RendersPublish (request : PublishRequest) (json : Json) : Prop :=
  ∃ messages, List.Forall₂ (RendersMessage timestamp) request.messages messages ∧
    json.HasFields [("messages", repeated messages)]

def RendersPullResponse (response : PullResponse) (json : Json) : Prop :=
  ∃ messages, List.Forall₂ (RendersReceived timestamp) response.receivedMessages messages ∧
    json.HasFields [("receivedMessages", repeated messages)]

def RendersAcknowledge (request : AcknowledgeRequest) (json : Json) : Prop :=
  json.HasFields [("ackIds", repeated (request.ackIds.map .string))]

end Rendering

structure SameMessage (m m' : PublishedMessage) : Prop where
  data : m.data = m'.data
  originalLen : m.originalLen = m'.originalLen
  truncated : m.truncated = m'.truncated
  attributes : m.attributes.Perm m'.attributes

structure Captures (payloadCap : ℕ) (message : PubsubMessage) (captured : PublishedMessage) : Prop where
  originalLen : captured.originalLen = message.data.length
  data : captured.data = message.data.take (min captured.originalLen payloadCap)
  truncated : captured.truncated = true ↔ captured.originalLen > payloadCap

lemma captures_capture (payloadCap : ℕ) (message : PubsubMessage) :
    Captures payloadCap message (capture payloadCap message) := ⟨rfl, rfl, by simp [capture]⟩

structure Calls (request : RestRequest) (name verb : String) : Prop where
  method : request.method = .post
  path : request.path = "/v1/" ++ name ++ ":" ++ verb
  coding : request.headers.get "content-encoding" = none

lemma Calls.split_path {request : RestRequest} {name verb part : String} (h : Calls request name verb)
    (hname : Contains name part) (hpart : part ≠ "") (hverb : verb ≠ "") (hcolon : ':' ∉ verb.toList) :
    resourceAndVerb request.path = some (name, verb) := by
  have hne : name ≠ "" := by
    rintro rfl
    exact hpart (String.toList_eq_nil_iff.mp (List.infix_nil.mp hname))
  rw [h.path, resourceAndVerb_of_path hne hverb hcolon]

namespace RestProxy

variable {proxy : RestProxy} {parseUri : String → Option String} {send : UpstreamRequest → Exchange}
  {request : RestRequest} {body answer : Bytes} {status : StatusCode} {headers : HeaderMap} {name : String}
  {peer : Option SocketAddr}

lemma decoded_of_plain (h : headers.get "content-encoding" = none) : proxy.decoded headers body = some body := by
  rw [decoded, h]

section Capture

variable {timestamp : Timestamp → String}

lemma decodeBase64_of_renders (engines : proxy.decoders.Base64Engines) {bytes : Bytes} {value : Option Json}
    (h : RendersBytes bytes value) :
    (value.bind Json.asStr).elim [] proxy.decodeBase64 = bytes := by
  rw [RendersBytes] at h
  split_ifs at h with hempty
  · rw [h, hempty]
    rfl
  · obtain ⟨text, rfl, htext⟩ := h
    exact decodeBase64_of_encodes engines htext

lemma attributes_of_renders {attributes : List (String × String)} {value : Option Json}
    (h : RendersAttributes attributes value) :
    (((value.bind Json.asObject).elim [] (List.filterMap fun (key, value) => value.asStr.map (key, ·))).Perm
      attributes) := by
  rw [RendersAttributes] at h
  split_ifs at h with hempty
  · rw [h, hempty]
    exact List.Perm.refl []
  · obtain ⟨members, rfl, hp⟩ := h
    refine (hp.filterMap _).trans (List.Perm.of_eq ?_)
    rw [List.filterMap_map]
    exact List.filterMap_some

lemma sameMessage_of_read {message : PubsubMessage} {json : Json}
    (hbytes : ((json.get "data").bind Json.asStr).elim [] proxy.decodeBase64 = message.data)
    (hpairs : (((json.get "attributes").bind Json.asObject).elim []
      (List.filterMap fun (key, value) => value.asStr.map (key, ·))).Perm message.attributes) :
    SameMessage (Proxy.capture proxy.payloadCap message) (proxy.capture json) := by
  refine ⟨?_, ?_, ?_, hpairs.symm⟩
  · rw [Proxy.capture, capture, hbytes, List.take_eq_take_iff]
    omega
  · rw [Proxy.capture, capture, hbytes]
  · rw [Proxy.capture, capture, hbytes]

lemma sameMessage_of_renders (engines : proxy.decoders.Base64Engines) {message : PubsubMessage} {json : Json}
    (h : RendersMessage timestamp message json) :
    SameMessage (Proxy.capture proxy.payloadCap message) (proxy.capture json) := by
  obtain ⟨data, attributes, hdata, hattributes, hfields⟩ := h
  have hbytes := decodeBase64_of_renders engines hdata
  have hpairs := attributes_of_renders hattributes
  rw [← Json.get_of_hasFields hfields (by simp) (List.mem_cons_self : ("data", data) ∈ _)] at hbytes
  rw [← Json.get_of_hasFields hfields (by simp) (by simp : ("attributes", attributes) ∈ _)] at hpairs
  exact sameMessage_of_read hbytes hpairs

lemma capturedMessages_of_renders (engines : proxy.decoders.Base64Engines) {publication : PublishRequest} {json : Json}
    (hjson : proxy.decoders.fromSlice body = some json) (h : RendersPublish timestamp publication json) :
    List.Forall₂ SameMessage (publication.messages.map (Proxy.capture proxy.payloadCap))
      (proxy.capturedMessages body) := by
  obtain ⟨messages, hmessages, hfields⟩ := h
  have helements := Json.get_repeated hfields
  have hcaptured : proxy.capturedMessages body = messages.map proxy.capture := by
    simp only [capturedMessages, hjson]
    rw [← helements]
    cases (json.get "messages").bind Json.asArray <;> rfl
  rw [hcaptured, List.forall₂_map_left_iff, List.forall₂_map_right_iff]
  exact hmessages.imp fun _ _ => sameMessage_of_renders engines

lemma jsonArrayLen_of_repeated {json : Json} {field : String} {values : List Json}
    (hjson : proxy.decoders.fromSlice body = some json) (h : json.HasFields [(field, Json.repeated values)]) :
    proxy.jsonArrayLen body field = values.length := by
  rw [jsonArrayLen, hjson, Option.bind_some, ← Json.get_repeated h]
  cases (json.get field).bind Json.asArray <;> rfl

end Capture

section Observed

variable (hstatus : status.isSuccess = true)

include hstatus

lemma observe_publish (hcall : Calls request name "publish") (hname : Contains name "/topics/") :
    proxy.observe request.method request.path request.headers body status headers answer peer =
      if proxy.capturedMessages body = [] then [] else [.publish name peer (proxy.capturedMessages body)] := by
  have hsplit := hcall.split_path hname (by decide) (by decide) (by decide)
  simp only [observe, hcall.method, hstatus, hsplit, decoded_of_plain hcall.coding]
  simp [hname]

lemma observe_pull (hcall : Calls request name "pull") (hname : Contains name "/subscriptions/")
    (hcoding : headers.get "content-encoding" = none) :
    proxy.observe request.method request.path request.headers body status headers answer peer =
      if proxy.jsonArrayLen answer "receivedMessages" > 0
      then [.deliver name peer (proxy.jsonArrayLen answer "receivedMessages")] else [] := by
  have hsplit := hcall.split_path hname (by decide) (by decide) (by decide)
  simp only [observe, hcall.method, hstatus, hsplit, decoded_of_plain hcoding]
  simp [hname]

lemma observe_acknowledge (hcall : Calls request name "acknowledge") (hname : Contains name "/subscriptions/") :
    proxy.observe request.method request.path request.headers body status headers answer peer =
      if proxy.jsonArrayLen body "ackIds" > 0
      then [.ack name peer (proxy.jsonArrayLen body "ackIds")] else [] := by
  have hsplit := hcall.split_path hname (by decide) (by decide) (by decide)
  simp only [observe, hcall.method, hstatus, hsplit, decoded_of_plain hcall.coding]
  simp [hname]

end Observed

structure Accepted (proxy : RestProxy) (parseUri : String → Option String) (send : UpstreamRequest → Exchange)
    (request : RestRequest) (name verb : String) (body : Bytes) (headers : HeaderMap) (answer : Bytes) : Prop where
  calls : Calls request name verb
  relays : ∃ status : StatusCode,
    proxy.Relays parseUri send request body status headers answer ∧ status.isSuccess = true

end RestProxy

lemma contains_topicName (project topic : String) : Contains (topicName project topic) "/topics/" :=
  ⟨("projects/" ++ project).toList, topic.toList, by simp [topicName]⟩

lemma contains_subscriptionName (project subscription : String) :
    Contains (subscriptionName project subscription) "/subscriptions/" :=
  ⟨("projects/" ++ project).toList, subscription.toList, by simp [subscriptionName]⟩

def SameTraffic (s s' : AppState) : Prop :=
  ∀ x, (s.subscriptionAt x).delivered = (s'.subscriptionAt x).delivered ∧
    (s.subscriptionAt x).acked = (s'.subscriptionAt x).acked

lemma sameTraffic_of_tallies (s : AppState) (now now' : Instant) {observations observations' : List Observation}
    (hd : ∀ x, tally (Observation.deliveredOn x) observations = tally (Observation.deliveredOn x) observations')
    (ha : ∀ x, tally (Observation.ackedOn x) observations = tally (Observation.ackedOn x) observations') :
    SameTraffic (s.applyAll (observations.map (·, now))) (s.applyAll (observations'.map (·, now'))) := by
  intro x
  have hmap : ∀ (l : List Observation) (time : Instant), (l.map (·, time)).map Prod.fst = l := by
    intro l time
    simp [Function.comp_def]
  rw [AppState.delivered_applyAll, AppState.delivered_applyAll, AppState.acked_applyAll, AppState.acked_applyAll,
    hmap, hmap, hd, ha]
  exact ⟨rfl, rfl⟩

section Alike

variable (proxy : RestProxy) (timestamp : Timestamp → String) (parseUri : String → Option String)
  (send : UpstreamRequest → Exchange) (rest : RestRequest) (peer peer' : Option SocketAddr)

def PublishAlike : Prop :=
  ∀ upstream request response project topic body json headers answer,
    upstream request = .ok response → request.topic = topicName project topic → request.messages ≠ [] →
    proxy.Accepted parseUri send rest request.topic "publish" body headers answer →
    proxy.decoders.fromSlice body = some json → RendersPublish timestamp request json →
    ∃ captured captured', (publish proxy.payloadCap upstream peer request).2 = [.publish request.topic peer captured] ∧
      (proxy.handle parseUri send rest peer').2 = [.publish request.topic peer' captured'] ∧
      List.Forall₂ SameMessage captured captured' ∧
      List.Forall₂ (Captures proxy.payloadCap) request.messages captured

def PullAlike : Prop :=
  ∀ upstream request response project subscription body json headers answer,
    upstream request = .ok response → request.subscription = subscriptionName project subscription →
    proxy.Accepted parseUri send rest request.subscription "pull" body headers answer →
    headers.get "content-encoding" = none →
    proxy.decoders.fromSlice answer = some json → RendersPullResponse timestamp response json →
    ∀ (s : AppState) (now now' : Instant), SameTraffic (s.applyAll ((pull upstream peer request).2.map (·, now)))
      (s.applyAll ((proxy.handle parseUri send rest peer').2.map (·, now')))

def AcknowledgeAlike : Prop :=
  ∀ upstream request project subscription body json headers answer,
    upstream request = .ok () → request.subscription = subscriptionName project subscription →
    proxy.Accepted parseUri send rest request.subscription "acknowledge" body headers answer →
    proxy.decoders.fromSlice body = some json → RendersAcknowledge request json →
    ∀ (s : AppState) (now now' : Instant),
      SameTraffic (s.applyAll ((acknowledge upstream peer request).2.map (·, now)))
        (s.applyAll ((proxy.handle parseUri send rest peer').2.map (·, now')))

structure RefusalAlike : Prop where
  publish : ∀ upstream request status, upstream request = .error status →
    (publish proxy.payloadCap upstream peer request).2 = []
  pull : ∀ upstream request status, upstream request = .error status → (pull upstream peer request).2 = []
  acknowledge : ∀ upstream request status, upstream request = .error status →
    (acknowledge upstream peer request).2 = []
  rest : (∀ body status headers answer, proxy.Relays parseUri send rest body status headers answer →
    status.isSuccess = false) → (proxy.handle parseUri send rest peer').2 = []

variable {proxy timestamp parseUri send rest peer peer'}

lemma publish_alike (engines : proxy.decoders.Base64Engines) :
    PublishAlike proxy timestamp parseUri send rest peer peer' := by
  rintro upstream request response project topic body json headers answer hup htopic hne
    ⟨hcall, status, hrelays, hstatus⟩ hjson hrenders
  have hsame := RestProxy.capturedMessages_of_renders engines hjson hrenders
  have hcaptured : proxy.capturedMessages body ≠ [] := by
    intro hnil
    rw [hnil, List.forall₂_nil_right_iff, List.map_eq_nil_iff] at hsame
    exact hne hsame
  have hname : Contains request.topic "/topics/" := htopic ▸ contains_topicName project topic
  refine ⟨_, proxy.capturedMessages body, ?_, ?_, hsame, ?_⟩
  · rw [publish, tapped, hup]
  · rw [RestProxy.handle_of_relays hrelays, RestProxy.observe_publish hstatus hcall hname, if_neg hcaptured]
  · rw [List.forall₂_map_right_iff]
    exact List.forall₂_same.mpr fun message _ => captures_capture _ message

lemma pull_alike : PullAlike proxy timestamp parseUri send rest peer peer' := by
  rintro upstream request response project subscription body json headers answer hup hsubscription
    ⟨hcall, status, hrelays, hstatus⟩ hcoding hjson ⟨messages, hmessages, hfields⟩ s now now'
  have hname : Contains request.subscription "/subscriptions/" :=
    hsubscription ▸ contains_subscriptionName project subscription
  have hcount : proxy.jsonArrayLen answer "receivedMessages" = response.receivedMessages.length := by
    rw [RestProxy.jsonArrayLen_of_repeated hjson hfields, hmessages.length_eq]
  rw [pull, tapped, hup, RestProxy.handle_of_relays hrelays, RestProxy.observe_pull hstatus hcall hname hcoding,
    hcount]
  apply sameTraffic_of_tallies
  · intro x
    split_ifs with hpos
    · rfl
    · have hzero : response.receivedMessages.length = 0 := by omega
      simp [tally, Observation.deliveredOn, hzero]
  · intro x
    split_ifs <;> rfl

lemma acknowledge_alike : AcknowledgeAlike proxy parseUri send rest peer peer' := by
  rintro upstream request project subscription body json headers answer hup hsubscription
    ⟨hcall, status, hrelays, hstatus⟩ hjson hfields s now now'
  have hname : Contains request.subscription "/subscriptions/" :=
    hsubscription ▸ contains_subscriptionName project subscription
  have hcount : proxy.jsonArrayLen body "ackIds" = request.ackIds.length := by
    rw [RestProxy.jsonArrayLen_of_repeated hjson hfields, List.length_map]
  rw [acknowledge, tapped, hup, RestProxy.handle_of_relays hrelays, RestProxy.observe_acknowledge hstatus hcall hname,
    hcount]
  apply sameTraffic_of_tallies
  · intro x
    split_ifs <;> rfl
  · intro x
    split_ifs with hpos
    · rfl
    · have hzero : request.ackIds.length = 0 := by omega
      simp [tally, Observation.ackedOn, hzero]

lemma refusal_alike : RefusalAlike proxy parseUri send rest peer peer' where
  publish := by
    intro upstream request status hup
    rw [Proxy.publish, tapped, hup]
  pull := by
    intro upstream request status hup
    rw [Proxy.pull, tapped, hup]
  acknowledge := by
    intro upstream request status hup
    rw [Proxy.acknowledge, tapped, hup]
  rest := by
    intro hrefused
    by_contra hobserved
    obtain ⟨body, status, headers, answer, hrelays, hstatus⟩ := RestProxy.relays_of_observed hobserved
    rw [hrefused body status headers answer hrelays] at hstatus
    cases hstatus

end Alike

theorem protocols_observed_alike {proxy : RestProxy} (engines : proxy.decoders.Base64Engines)
    (timestamp : Timestamp → String) (parseUri : String → Option String) (send : UpstreamRequest → Exchange)
    (rest : RestRequest) (peer peer' : Option SocketAddr) :
    PublishAlike proxy timestamp parseUri send rest peer peer' ∧
      PullAlike proxy timestamp parseUri send rest peer peer' ∧
      AcknowledgeAlike proxy parseUri send rest peer peer' ∧ RefusalAlike proxy parseUri send rest peer peer' :=
  ⟨publish_alike engines, pull_alike, acknowledge_alike, refusal_alike⟩

def curlMessage : Json := .object [("data", .string "-_8")]

def curlBody : Bytes := utf8 "\x7b\"messages\":[\x7b\"data\":\"-_8\"\x7d]\x7d"

def curlProxy : RestProxy where
  upstream := "localhost:8085"
  payloadCap := 1
  decoders :=
    { fromSlice := fun body => if body = curlBody then some (.object [("messages", .array [curlMessage])]) else none
      gunzip := fun _ => none
      standard := Base64.decode Base64.standard
      urlSafe := Base64.decode Base64.urlSafe }

def curlRequest : RestRequest where
  method := .post
  path := "/v1/" ++ topicName "p" "t" ++ ":" ++ "publish"
  pathAndQuery := some ("/v1/" ++ topicName "p" "t" ++ ":" ++ "publish")
  version := .http11
  headers := ⟨[]⟩
  body := some curlBody

def curlPublication : PublishRequest := { topic := topicName "p" "t", messages := [{ data := [251, 255] }] }

lemma curlProxy_reads :
    curlProxy.decoders.fromSlice curlBody = some (.object [("messages", .array [curlMessage])]) := by
  simp [curlProxy]

lemma curlProxy_engines : curlProxy.decoders.Base64Engines :=
  ⟨fun _ _ => decode_eq_some_iff, fun _ _ => decode_eq_some_iff⟩

lemma curlRequest_accepted :
    curlProxy.Accepted some (fun _ => .answered ⟨200, by decide⟩ ⟨[]⟩ (some [])) curlRequest
      curlPublication.topic "publish" curlBody ⟨[]⟩ [] :=
  ⟨⟨rfl, rfl, rfl⟩, ⟨200, by decide⟩, ⟨by decide, _, rfl, some [], by decide, rfl⟩, by decide⟩

lemma curlMessage_renders (timestamp : Timestamp → String) :
    RendersMessage timestamp { data := [251, 255] } curlMessage := by
  refine ⟨some (.string "-_8"), none, ⟨"-_8", rfl, .inr ⟨0, by decide, by decide⟩⟩, rfl, _, rfl, ?_⟩
  exact List.Perm.refl _

theorem protocols_observed_alike_of_curl :
    ∃ captured captured', (publish 1 (fun _ => .ok {}) none curlPublication).2 =
        [.publish (topicName "p" "t") none captured] ∧
      (curlProxy.handle some (fun _ => .answered ⟨200, by decide⟩ ⟨[]⟩ (some [])) curlRequest none).2 =
        [.publish (topicName "p" "t") none captured'] ∧
      List.Forall₂ SameMessage captured captured' ∧ List.Forall₂ (Captures 1) curlPublication.messages captured :=
  (protocols_observed_alike curlProxy_engines (fun _ => "") some
    (fun _ => .answered ⟨200, by decide⟩ ⟨[]⟩ (some [])) curlRequest none none).1
    (fun _ => .ok {}) curlPublication {} "p" "t" curlBody (.object [("messages", .array [curlMessage])]) ⟨[]⟩ []
    rfl rfl (by decide) curlRequest_accepted curlProxy_reads
    ⟨[curlMessage], .cons (curlMessage_renders _) .nil, _, rfl, List.Perm.refl _⟩

end PubSubTui.Proxy
