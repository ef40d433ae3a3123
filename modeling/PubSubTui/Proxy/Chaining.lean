import PubSubTui.Proxy.HopByHop

/-! Two proxies in a row relay and count what one of them does. -/

namespace PubSubTui.Proxy

open Observe

/-- Header fields that say the same, except how long the body is. -/
def SameFields (headers headers' : HeaderMap) : Prop :=
  ∀ name, name ≠ "content-length" → headers.getAll name = headers'.getAll name

def RestRequest.target (request : RestRequest) : String := request.pathAndQuery.getD request.path

/-- What becomes of a request on the connection to the next proxy: the `Host` and the fields for one hop are set
anew, as is the length of the body. -/
structure CarriesOver (hop : String) (parseUri : String → Option String) (request : RestRequest)
    (carry : UpstreamRequest → RestRequest) : Prop where
  method (r : UpstreamRequest) : (carry r).method = r.method
  body (r : UpstreamRequest) : (carry r).body = some r.body
  headers (r : UpstreamRequest) : ∀ name ∉ hopByHop, name ≠ "host" → name ≠ "content-length" →
    (carry r).headers.getAll name = r.headers.getAll name
  target (r : UpstreamRequest) : parseUri ("http://" ++ hop ++ request.target) = some r.uri →
    (carry r).path = request.path ∧ (carry r).target = request.target

/-- A server that makes nothing of how the length of a body is given. -/
def Respects (send : UpstreamRequest → Exchange) : Prop :=
  ∀ method uri headers headers' body, SameFields headers headers' →
    send ⟨method, uri, headers, body⟩ = send ⟨method, uri, headers', body⟩

def RestResponse.exchange (response : RestResponse) : Exchange :=
  .answered response.status response.headers (some response.body)

lemma getAll_insert (headers : HeaderMap) (name name' : String) (value : Bytes) :
    (headers.insert name value).getAll name' = if name' = name then [value] else headers.getAll name' := by
  have hremoved : (headers.remove name).getAll name' = if name' = name then [] else headers.getAll name' :=
    HeaderMap.getAll_remove name
  rw [HeaderMap.getAll] at hremoved
  rw [HeaderMap.getAll, HeaderMap.insert, List.filter_append, List.map_append, hremoved]
  split_ifs with heq
  · simp [heq]
  · simp [Ne.symm heq]

lemma limited_some {body : Bytes} (h : body.length ≤ maxMessageSize) : limited (some body) = some body :=
  Option.filter_some_pos (decide_eq_true h)

lemma length_of_limited {body : Option Bytes} {whole : Bytes} (h : limited body = some whole) :
    whole.length ≤ maxMessageSize :=
  of_decide_eq_true (Option.filter_eq_some_iff.mp h).2

namespace RestProxy

variable {proxy : RestProxy} {parseUri : String → Option String} {send : UpstreamRequest → Exchange}
  {carry : UpstreamRequest → RestRequest} {hop : String} {request : RestRequest} {peer : Option SocketAddr}

inductive Handled (proxy : RestProxy) (request : RestRequest) (peer : Option SocketAddr) :
    RestResponse × List Observation → Prop
  | refused {status : StatusCode} {message : String} (hstatus : status.isSuccess = false)
      (hbody : (errorResponse status message).body.length ≤ maxMessageSize) :
      Handled proxy request peer (errorResponse status message, [])
  | relayed {body answer : Bytes} {status : StatusCode} {headers : HeaderMap}
      (hbody : limited request.body = some body) (hanswer : answer.length ≤ maxMessageSize) :
      Handled proxy request peer (relayResponse request.version status headers answer,
        proxy.observe request.method request.path request.headers body status headers answer peer)

lemma handled (proxy : RestProxy) (parseUri : String → Option String) (send : UpstreamRequest → Exchange)
    (request : RestRequest) (peer : Option SocketAddr) :
    Handled proxy request peer (proxy.handle parseUri send request peer) := by
  rw [handle]
  split
  · exact .refused (by decide) (by decide)
  · rename_i body hbody
    split
    · exact .refused (by decide) (by decide)
    · split
      · exact .refused (by decide) (by decide)
      · split
        · exact .refused (by decide) (by decide)
        · rename_i answer hanswer
          exact .relayed hbody (length_of_limited hanswer)

lemma observe_congr {method : Method} {path : String} {headers headers' answered answered' : HeaderMap}
    {body answer : Bytes} {status : StatusCode}
    (hheaders : headers.get "content-encoding" = headers'.get "content-encoding")
    (hanswered : answered.get "content-encoding" = answered'.get "content-encoding") :
    proxy.observe method path headers body status answered answer peer =
      proxy.observe method path headers' body status answered' answer peer := by
  simp only [observe, decoded, hheaders, hanswered]

lemma getAll_carried (hcarry : CarriesOver hop parseUri request carry) {r : UpstreamRequest}
    (hr : r.headers = relayedHeaders request.headers true) :
    SameFields (relayedHeaders (carry r).headers true) (relayedHeaders request.headers true) := by
  intro name hname
  rw [getAll_relayedHeaders, getAll_relayedHeaders]
  split_ifs with hdropped
  · rfl
  · obtain ⟨hfixed, hhost⟩ := not_or.mp hdropped
    rw [hcarry.headers r name hfixed (by simpa using hhost) hname, hr, getAll_relayedHeaders, if_neg hdropped]

lemma handle_carried (hcarry : CarriesOver hop parseUri request carry) (hsend : Respects send) {body : Bytes}
    {uri : String} (hbody : limited request.body = some body)
    (huri : parseUri ("http://" ++ hop ++ request.target) = some uri) (peer : Option SocketAddr) :
    let r : UpstreamRequest := ⟨request.method, uri, relayedHeaders request.headers true, body⟩
    ∃ version, proxy.handle parseUri send (carry r) peer =
      ({ (proxy.handle parseUri send request peer).1 with version }, (proxy.handle parseUri send request peer).2) := by
  intro r
  obtain ⟨hpath, htarget⟩ := hcarry.target r huri
  have hcollected : limited (carry r).body = some body := by
    rw [hcarry.body r]
    exact limited_some (length_of_limited hbody)
  have hget : (carry r).headers.get "content-encoding" = request.headers.get "content-encoding" := by
    rw [HeaderMap.get_eq_head_getAll, HeaderMap.get_eq_head_getAll,
      hcarry.headers r "content-encoding" (by decide) (by decide) (by decide), getAll_relayedHeaders,
      if_neg (by decide)]
  have hsent (u : String) : send ⟨request.method, u, relayedHeaders (carry r).headers true, body⟩ =
      send ⟨request.method, u, relayedHeaders request.headers true, body⟩ :=
    hsend _ _ _ _ _ (getAll_carried hcarry rfl)
  rw [RestRequest.target, RestRequest.target] at htarget
  simp only [handle, hcollected, hbody, htarget, hcarry.method r]
  cases hparsed : parseUri ("http://" ++ proxy.upstream ++ request.pathAndQuery.getD request.path) with
  | none => exact ⟨.http11, rfl⟩
  | some u =>
    dsimp only
    rw [hsent u]
    cases send ⟨request.method, u, relayedHeaders request.headers true, body⟩ with
    | failed => exact ⟨.http11, rfl⟩
    | answered status headers arriving =>
      dsimp only
      cases limited arriving with
      | none => exact ⟨.http11, rfl⟩
      | some answer =>
        refine ⟨(carry r).version, Prod.ext rfl ?_⟩
        dsimp only
        rw [hpath]
        exact observe_congr hget rfl

lemma handle_peer (peer peer' : Option SocketAddr) :
    (proxy.handle parseUri send request peer).1 = (proxy.handle parseUri send request peer').1 := by
  rw [handle, handle]
  cases limited request.body with
  | none => rfl
  | some body =>
    dsimp only
    cases parseUri ("http://" ++ proxy.upstream ++ request.pathAndQuery.getD request.path) with
    | none => rfl
    | some uri =>
      dsimp only
      cases send ⟨request.method, uri, relayedHeaders request.headers true, body⟩ with
      | failed => rfl
      | answered status headers arriving =>
        dsimp only
        cases limited arriving <;> rfl

lemma getAll_relayResponse {version : Version} {status : StatusCode} {headers : HeaderMap} {answer : Bytes}
    {name : String} (hname : name ≠ "content-length") : (relayResponse version status headers answer).headers.getAll name =
      if name ∈ hopByHop then [] else headers.getAll name := by
  rw [relayResponse, getAll_insert, if_neg hname, HeaderMap.getAll_remove, if_neg hname, getAll_relayedHeaders]
  simp

lemma relay_of_handled {out : RestResponse × List Observation} {body : Bytes} (h : Handled proxy request peer out)
    (hbody : limited request.body = some body) :
    out.1.body.length ≤ maxMessageSize ∧
    SameFields (relayResponse request.version out.1.status out.1.headers out.1.body).headers out.1.headers ∧
    proxy.observe request.method request.path request.headers body out.1.status out.1.headers out.1.body peer =
      out.2 := by
  cases h with
  | refused hstatus hshort =>
    refine ⟨hshort, fun name hname => ?_, observe_rejected hstatus⟩
    rw [getAll_relayResponse hname]
    split_ifs with hfixed
    · rw [errorResponse, HeaderMap.getAll, List.filter_eq_nil_iff.mpr, List.map_nil]
      rintro ⟨field, value⟩ hmem
      obtain ⟨rfl, rfl⟩ := Prod.mk.inj (List.mem_singleton.mp hmem)
      have hplain : "content-type" ∉ hopByHop := by decide
      simpa using ne_of_mem_of_not_mem hfixed hplain |>.symm
    · rfl
  | @relayed body' answer status headers hbody' hanswer =>
    rw [hbody, Option.some.injEq] at hbody'
    subst hbody'
    refine ⟨hanswer, fun name hname => ?_, ?_⟩
    · rw [getAll_relayResponse hname, getAll_relayResponse hname]
      split_ifs <;> rfl
    · apply observe_congr rfl
      rw [HeaderMap.get_eq_head_getAll, getAll_relayResponse (by decide), if_neg (by decide),
        HeaderMap.get_eq_head_getAll]

lemma handle_of_answered {send : UpstreamRequest → Exchange} {body : Bytes} {uri : String} {answer : RestResponse}
    (hbody : limited request.body = some body)
    (huri : parseUri ("http://" ++ proxy.upstream ++ request.target) = some uri)
    (hanswer : send ⟨request.method, uri, relayedHeaders request.headers true, body⟩ = answer.exchange)
    (hshort : answer.body.length ≤ maxMessageSize) :
    proxy.handle parseUri send request peer =
      (relayResponse request.version answer.status answer.headers answer.body,
        proxy.observe request.method request.path request.headers body answer.status answer.headers answer.body peer) := by
  rw [RestRequest.target] at huri
  simp only [handle, hbody, huri, hanswer, RestResponse.exchange, limited_some hshort]

/-- Two proxies in a row answer as one of them does, and both count what it counts, when the connection between them
and the server behind them make nothing of how the length of a body is given. -/
theorem relays_compose (proxy : RestProxy) (hop : String) (parseUri : String → Option String)
    (request : RestRequest) (carry : UpstreamRequest → RestRequest) (send : UpstreamRequest → Exchange)
    (hcarry : CarriesOver hop parseUri request carry) (hsend : Respects send) (peer peer' : Option SocketAddr) (uri : String)
    (huri : parseUri ("http://" ++ hop ++ request.target) = some uri) :
    let direct := proxy.handle parseUri send request peer
    let second (r : UpstreamRequest) := proxy.handle parseUri send (carry r) peer'
    let chained := { proxy with upstream := hop }.handle parseUri (fun r => (second r).1.exchange) request peer
    chained.1.status = direct.1.status ∧ chained.1.body = direct.1.body ∧
    SameFields chained.1.headers direct.1.headers ∧ chained.2 = direct.2 ∧
    ∀ body, limited request.body = some body →
      (second ⟨request.method, uri, relayedHeaders request.headers true, body⟩).2 =
        (proxy.handle parseUri send request peer').2 := by
  intro direct second chained
  cases hbody : limited request.body with
  | none =>
    have hrefused : chained = direct := by simp only [chained, direct, handle, hbody]
    rw [hrefused]
    exact ⟨rfl, rfl, fun _ _ => rfl, rfl, by simp⟩
  | some body =>
    obtain ⟨version, hcarried⟩ : ∃ version, second ⟨request.method, uri, relayedHeaders request.headers true, body⟩ =
        ({ (proxy.handle parseUri send request peer').1 with version }, (proxy.handle parseUri send request peer').2) :=
      handle_carried hcarry hsend hbody huri peer'
    obtain ⟨hshort, hfields, hcounted⟩ := relay_of_handled (handled proxy parseUri send request peer) hbody
    have hchained : chained = (relayResponse request.version direct.1.status direct.1.headers direct.1.body,
        proxy.observe request.method request.path request.headers body direct.1.status direct.1.headers direct.1.body
          peer) := by
      have hanswer : (second ⟨request.method, uri, relayedHeaders request.headers true, body⟩).1.exchange =
          direct.1.exchange := by
        rw [hcarried, handle_peer peer' peer]
        rfl
      exact handle_of_answered hbody huri hanswer hshort
    rw [hchained]
    refine ⟨rfl, rfl, hfields, hcounted, fun body' hbody' => ?_⟩
    cases hbody'
    rw [hcarried]

def countingProxy : RestProxy where
  upstream := "emulator:8085"
  payloadCap := 8
  decoders :=
    { fromSlice := fun _ => some (.object [("messages", .array [.object [("data", .string "aGk=")]])])
      gunzip := fun _ => none
      standard := fun _ => some (utf8 "hi")
      urlSafe := fun _ => none }

def publishing : RestRequest where
  method := .post
  path := "/v1/projects/p/topics/t:publish"
  pathAndQuery := none
  version := .http11
  headers := ⟨[("host", utf8 "a:1"), ("connection", utf8 "close"), ("content-length", utf8 "2")]⟩
  body := some (utf8 "\x7b\x7d")

def carried (r : UpstreamRequest) : RestRequest where
  method := r.method
  path := publishing.path
  pathAndQuery := none
  version := .http11
  headers := r.headers.insert "host" (utf8 "b:2")
  body := some r.body

def accepting (_ : UpstreamRequest) : Exchange := .answered ⟨202, by decide⟩ ⟨[("te", utf8 "gzip")]⟩ (some (utf8 "ok"))

theorem relays_compose_of_publish :
    let direct := countingProxy.handle some accepting publishing none
    let chained := { countingProxy with upstream := "b:2" }.handle some
      (fun r => (countingProxy.handle some accepting (carried r) none).1.exchange) publishing none
    direct.2.length = 1 ∧ chained.1.body = direct.1.body ∧ chained.2 = direct.2 := by
  have hcarry : CarriesOver "b:2" some publishing carried := by
    refine ⟨fun _ => rfl, fun _ => rfl, fun r name _ hhost _ => ?_, fun _ _ => ⟨rfl, rfl⟩⟩
    rw [carried, getAll_insert, if_neg hhost]
  obtain ⟨-, hbody, -, hcounted, -⟩ := relays_compose countingProxy "b:2" some publishing carried accepting hcarry
    (fun _ _ _ _ _ _ => rfl) none none _ rfl
  exact ⟨by decide, hbody, hcounted⟩

end RestProxy

end PubSubTui.Proxy
