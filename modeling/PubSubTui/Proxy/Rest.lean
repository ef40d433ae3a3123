import PubSubTui.Observe.Accounting
import PubSubTui.Proxy.Http

/-! The relay of the REST calls, with the tap on the calls that carry traffic. -/

namespace PubSubTui.Proxy

open Observe

def maxMessageSize : ℕ := 64 * 1024 * 1024

def hopByHop : List String :=
  ["connection", "proxy-authenticate", "proxy-authorization", "te", "trailer", "transfer-encoding",
    "upgrade", "keep-alive"]

def relayedHeaders (headers : HeaderMap) (dropHost : Bool) : HeaderMap :=
  let relayed := hopByHop.foldl HeaderMap.remove headers
  if dropHost then relayed.remove "host" else relayed

def stripPrefix (start l : List Char) : Option (List Char) :=
  if start.isPrefixOf l then some (l.drop start.length) else none

def rsplitOnce (separator : Char) (l : List Char) : Option (List Char × List Char) :=
  match l.reverse.span (· ≠ separator) with
  | (_, []) => none
  | (after, _ :: before) => some (before.reverse, after.reverse)

def resourceAndVerb (path : String) : Option (String × String) := do
  let rest ← stripPrefix "/v1/".toList path.toList
  let (resource, verb) ← rsplitOnce ':' rest
  if resource ≠ [] ∧ verb ≠ [] then some (String.ofList resource, String.ofList verb) else none

example : resourceAndVerb "/v1/projects/p/topics/t:publish" = some ("projects/p/topics/t", "publish") := by
  decide

def Contains (s part : String) : Prop := part.toList <:+: s.toList

instance (s part : String) : Decidable (Contains s part) := inferInstanceAs (Decidable (_ <:+: _))

structure Decoders where
  fromSlice : Bytes → Option Json
  gunzip : Bytes → Option Bytes
  standard : String → Option Bytes
  urlSafe : String → Option Bytes

/-- A body that arrives whole and within the limit; `none` stands for one that breaks off. -/
def limited (body : Option Bytes) : Option Bytes := body.filter (·.length ≤ maxMessageSize)

structure RestRequest where
  method : Method
  path : String
  pathAndQuery : Option String
  version : Version
  headers : HeaderMap
  body : Option Bytes

structure UpstreamRequest where
  method : Method
  uri : String
  headers : HeaderMap
  body : Bytes

inductive Exchange
  | failed
  | answered (status : StatusCode) (headers : HeaderMap) (body : Option Bytes)

structure RestResponse where
  status : StatusCode
  version : Version
  headers : HeaderMap
  body : Bytes

def errorResponse (status : StatusCode) (message : String) : RestResponse where
  status
  version := .http11
  headers := ⟨[("content-type", utf8 "application/json")]⟩
  body := utf8 ("\x7b\"error\":\x7b\"code\":" ++ toString status.code ++ ",\"message\":\"" ++ message ++
    "\",\"status\":" ++ status.canonicalReason.elim "null" (fun reason => "\"" ++ reason ++ "\"") ++ "\x7d\x7d")

structure RestProxy where
  upstream : String
  payloadCap : ℕ
  decoders : Decoders

namespace RestProxy

variable (proxy : RestProxy)

def decoded (headers : HeaderMap) (body : Bytes) : Option Bytes :=
  match headers.get "content-encoding" with
  | none => some body
  | some encoding =>
    if encoding = utf8 "identity" then some body
    else if encoding = utf8 "gzip" ∨ encoding = utf8 "x-gzip" then proxy.decoders.gunzip body
    else none

def jsonArrayLen (body : Bytes) (field : String) : ℕ :=
  (((proxy.decoders.fromSlice body).bind (·.get field)).bind Json.asArray).elim 0 List.length

def decodeBase64 (value : String) : Bytes :=
  ((proxy.decoders.standard value).or (proxy.decoders.urlSafe value)).getD []

def capture (message : Json) : PublishedMessage :=
  let data := ((message.get "data").bind Json.asStr).elim [] proxy.decodeBase64
  { data := data.take proxy.payloadCap
    attributes := ((message.get "attributes").bind Json.asObject).elim []
      (List.filterMap fun (key, value) => value.asStr.map (key, ·))
    originalLen := data.length
    truncated := data.length > proxy.payloadCap }

def capturedMessages (body : Bytes) : List PublishedMessage :=
  match proxy.decoders.fromSlice body with
  | none => []
  | some json => ((json.get "messages").bind Json.asArray).elim [] (List.map proxy.capture)

def observe (method : Method) (path : String) (requestHeaders : HeaderMap) (requestBody : Bytes)
    (status : StatusCode) (responseHeaders : HeaderMap) (responseBody : Bytes)
    (peer : Option SocketAddr) : List Observation :=
  if method ≠ .post ∨ status.isSuccess = false then []
  else match resourceAndVerb path with
    | none => []
    | some (resource, verb) =>
      if verb = "publish" ∧ Contains resource "/topics/" then
        match proxy.decoded requestHeaders requestBody with
        | none => []
        | some body =>
          let messages := proxy.capturedMessages body
          if messages = [] then [] else [.publish resource peer messages]
      else if verb = "pull" ∧ Contains resource "/subscriptions/" then
        match proxy.decoded responseHeaders responseBody with
        | none => []
        | some body =>
          let messages := proxy.jsonArrayLen body "receivedMessages"
          if messages > 0 then [.deliver resource peer messages] else []
      else if verb = "acknowledge" ∧ Contains resource "/subscriptions/" then
        match proxy.decoded requestHeaders requestBody with
        | none => []
        | some body =>
          let messages := proxy.jsonArrayLen body "ackIds"
          if messages > 0 then [.ack resource peer messages] else []
      else []

def relayResponse (version : Version) (status : StatusCode) (headers : HeaderMap) (body : Bytes) :
    RestResponse where
  status
  version
  headers := ((relayedHeaders headers false).remove "content-length").insert "content-length"
    (utf8 (toString body.length))
  body

def handle (parseUri : String → Option String) (send : UpstreamRequest → Exchange) (request : RestRequest)
    (peer : Option SocketAddr) : RestResponse × List Observation :=
  match limited request.body with
  | none => (errorResponse .payloadTooLarge "request body exceeded the proxy's size limit", [])
  | some body =>
    match parseUri ("http://" ++ proxy.upstream ++ request.pathAndQuery.getD request.path) with
    | none => (errorResponse .badGateway "malformed request URI", [])
    | some uri =>
      match send { method := request.method, uri, headers := relayedHeaders request.headers true, body } with
      | .failed => (errorResponse .badGateway "upstream request failed", [])
      | .answered status headers responseBody =>
        match limited responseBody with
        | none => (errorResponse .badGateway "upstream response failed", [])
        | some responseBody =>
          (relayResponse request.version status headers responseBody,
            proxy.observe request.method request.path request.headers body status headers responseBody peer)

structure Relays (parseUri : String → Option String) (send : UpstreamRequest → Exchange) (request : RestRequest)
    (body : Bytes) (status : StatusCode) (headers : HeaderMap) (answer : Bytes) : Prop where
  collected : limited request.body = some body
  answered : ∃ uri, parseUri ("http://" ++ proxy.upstream ++ request.pathAndQuery.getD request.path) = some uri ∧
    ∃ arriving, limited arriving = some answer ∧
      send { method := request.method, uri, headers := relayedHeaders request.headers true, body } =
        .answered status headers arriving

variable {proxy} {parseUri : String → Option String} {send : UpstreamRequest → Exchange}
  {request : RestRequest} {peer : Option SocketAddr}

lemma observe_rejected {method : Method} {path : String} {requestHeaders responseHeaders : HeaderMap}
    {requestBody responseBody : Bytes} {status : StatusCode} (h : status.isSuccess = false) :
    proxy.observe method path requestHeaders requestBody status responseHeaders responseBody peer = [] := by
  rw [observe, if_pos (.inr h)]

lemma handle_of_relays {body answer : Bytes} {status : StatusCode} {headers : HeaderMap}
    (h : proxy.Relays parseUri send request body status headers answer) :
    (proxy.handle parseUri send request peer).2 =
      proxy.observe request.method request.path request.headers body status headers answer peer := by
  obtain ⟨hbody, uri, huri, arriving, hanswer, hsend⟩ := h
  simp only [handle, hbody, huri, hsend, hanswer]

lemma relays_of_observed (h : (proxy.handle parseUri send request peer).2 ≠ []) :
    ∃ body status headers answer,
      proxy.Relays parseUri send request body status headers answer ∧ status.isSuccess = true := by
  rw [handle] at h
  cases hbody : limited request.body with
  | none => simp [hbody] at h
  | some body =>
    simp only [hbody] at h
    cases huri : parseUri ("http://" ++ proxy.upstream ++ request.pathAndQuery.getD request.path) with
    | none => simp [huri] at h
    | some uri =>
      simp only [huri] at h
      cases hsend : send ⟨request.method, uri, relayedHeaders request.headers true, body⟩ with
      | failed => simp [hsend] at h
      | answered status headers arriving =>
        simp only [hsend] at h
        cases hanswer : limited arriving with
        | none => simp [hanswer] at h
        | some answer =>
          simp only [hanswer] at h
          refine ⟨body, status, headers, answer, ⟨hbody, uri, huri, arriving, hanswer, hsend⟩, ?_⟩
          by_contra hstatus
          exact h (observe_rejected (by simpa using hstatus))

lemma accepted_of_observed (h : (proxy.handle parseUri send request peer).2 ≠ []) :
    ∃ sent status headers body, some sent.body = request.body ∧
      send sent = .answered status headers (some body) ∧ status.isSuccess = true := by
  obtain ⟨body, status, headers, answer, ⟨hbody, uri, -, arriving, hanswer, hsend⟩, hstatus⟩ := relays_of_observed h
  obtain ⟨rfl, -⟩ := Option.filter_eq_some_iff.mp hanswer
  obtain ⟨hwhole, -⟩ := Option.filter_eq_some_iff.mp hbody
  exact ⟨_, status, headers, answer, hwhole.symm, hsend, hstatus⟩

end RestProxy

end PubSubTui.Proxy
