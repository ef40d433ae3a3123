import PubSubTui.Library.PercentEncoding
import PubSubTui.Proxy.Classification

/-! The name that a REST path gives to a topic or subscription, against the name that gRPC carries. -/

namespace PubSubTui.Proxy

open Observe Library.PercentEncoding

def PathChar (c : Char) : Prop := c.isAlphanum = true ∨ c ∈ "-._~!$&'()*+,;=:@/".toList

instance : DecidablePred PathChar := fun _ => inferInstanceAs (Decidable (_ ∨ _))

lemma not_pathChar_percent : ¬ PathChar '%' := by decide

def resourceOf : Observation → Option String
  | .publish topic _ _ => some topic
  | .deliver subscription _ _ => some subscription
  | .ack subscription _ _ => some subscription
  | .consumerOpen subscription _ => some subscription
  | .consumerClose subscription _ => some subscription
  | .adminSnapshot _ _ => none

section Names

variable {proxy : RestProxy} {method : Method} {status : StatusCode} {requestHeaders responseHeaders : HeaderMap}
  {requestBody responseBody : Bytes} {peer : Option SocketAddr} {name verb text : String} {o : Observation}

lemma Carries.resource_eq
    (h : Carries proxy proxy.decoded requestHeaders requestBody responseHeaders responseBody peer name verb o) :
    resourceOf o = some name := by
  cases h with
  | tapped ht => cases ht <;> rfl

lemma Carries.verbPath
    (h : Carries proxy proxy.decoded requestHeaders requestBody responseHeaders responseBody peer name verb o)
    (ht : text ≠ "") : VerbPath ("/v1/" ++ text ++ ":" ++ verb) text verb := by
  cases h with
  | tapped htapped =>
    obtain ⟨hne, hcolon⟩ : verb ≠ "" ∧ ':' ∉ verb.toList := by cases htapped <;> subst verb <;> decide
    exact ⟨rfl, ht, hne, hcolon⟩

lemma Carries.name_ne
    (h : Carries proxy proxy.decoded requestHeaders requestBody responseHeaders responseBody peer name verb o) :
    name ≠ "" := by
  rintro rfl
  obtain ⟨ht⟩ := h
  cases ht with
  | publish _ hr | pull _ hr | acknowledge _ hr => exact absurd (List.infix_nil.mp hr) (by decide)

theorem rest_names_resource_iff (hm : method = .post) (hs : status.isSuccess = true)
    (hcarries : Carries proxy proxy.decoded requestHeaders requestBody responseHeaders responseBody peer name verb o)
    (hspells : Spells PathChar name.toList text.toList) :
    (proxy.observe method ("/v1/" ++ text ++ ":" ++ verb) requestHeaders requestBody status responseHeaders
      responseBody peer).filterMap resourceOf = [name] ↔ '%' ∉ text.toList := by
  have htext : text ≠ "" := by
    rintro rfl
    have hle := hspells.length_le
    exact hcarries.name_ne (by simpa using hle)
  have hpath := hcarries.verbPath htext
  have hsplit := resourceAndVerb_eq_some_iff.mpr hpath
  rw [← hspells.eq_iff not_pathChar_percent, RestProxy.observe_eq_tap hm hs hsplit, String.toList_inj]
  constructor
  · intro h
    have hlength : (proxy.tap requestHeaders requestBody responseHeaders responseBody peer text verb).length ≤ 1 :=
      RestProxy.length_tap_le
    cases htap : proxy.tap requestHeaders requestBody responseHeaders responseBody peer text verb with
    | nil => simp [htap] at h
    | cons o' rest =>
      rw [htap, List.length_cons] at hlength
      obtain rfl : rest = [] := List.eq_nil_of_length_eq_zero (by omega)
      have hresource := (RestProxy.tap_eq_singleton_iff.mp htap).resource_eq
      simpa [htap, hresource] using h
  · rintro rfl
    rw [RestProxy.tap_eq_singleton_iff.mpr hcarries]
    simp [hcarries.resource_eq]

end Names

lemma curlBody_carried (topic : String) (h : Contains topic "/topics/") :
    Carries curlProxy curlProxy.decoded ⟨[]⟩ curlBody ⟨[]⟩ [] none topic "publish"
      (.publish topic none [⟨[251], [], 2, true⟩]) := by
  have hmessages : [⟨[251], [], 2, true⟩] = [curlMessage].map curlProxy.capture := by decide
  rw [hmessages]
  exact .tapped (.publish rfl h) (RestProxy.decoded_of_plain rfl) ⟨⟨_, curlProxy_reads, rfl⟩, by simp⟩

theorem rest_names_resource_of_plain_name :
    (curlProxy.observe .post ("/v1/" ++ topicName "p" "a.b" ++ ":" ++ "publish") ⟨[]⟩ curlBody ⟨200, by decide⟩ ⟨[]⟩ []
      none).filterMap resourceOf = [topicName "p" "a.b"] :=
  (rest_names_resource_iff rfl (by decide) (curlBody_carried _ (by decide)) (Spells.of_plain (by decide))).mpr
    (by decide)

def plusSpelled : String := "projects/p/topics/a%2Bb"

lemma plusSpelled_spells : Spells PathChar (topicName "p" "a+b").toList plusSpelled.toList := by
  have htriplets : List.Forall₂ IsTriplet (String.utf8EncodeChar '+') [['%', '2', 'B']] :=
    .cons ⟨'2', 'B', rfl, by decide, by decide⟩ .nil
  have hplus : Spells PathChar ['+'] ['%', '2', 'B'] := .encoded htriplets .nil
  have hbefore : Spells PathChar "projects/p/topics/a".toList "projects/p/topics/a".toList :=
    Spells.of_plain (by decide)
  have hafter : Spells PathChar ['b'] ['b'] := Spells.of_plain (by decide)
  exact hbefore.append (hplus.append hafter)

theorem topic_entered_twice_of_plus :
    Spells PathChar (topicName "p" "a+b").toList plusSpelled.toList ∧
      ∃ captured captured',
        (publish 1 (fun _ => .ok {}) none { topic := topicName "p" "a+b", messages := [{ data := [251, 255] }] }).2 =
          [.publish (topicName "p" "a+b") none captured] ∧
        curlProxy.observe .post ("/v1/" ++ plusSpelled ++ ":" ++ "publish") ⟨[]⟩ curlBody ⟨200, by decide⟩ ⟨[]⟩ [] none =
          [.publish plusSpelled none captured'] ∧
        let s := ({} : AppState).applyAll [(.publish (topicName "p" "a+b") none captured, 0),
          (.publish plusSpelled none captured', 1)]
        topicName "p" "a+b" ≠ plusSpelled ∧ (s.topicAt (topicName "p" "a+b")).publishCount = 1 ∧
          (s.topicAt plusSpelled).publishCount = 1 := by
  have hpath : VerbPath ("/v1/" ++ plusSpelled ++ ":" ++ "publish") plusSpelled "publish" :=
    (curlBody_carried plusSpelled (by decide)).verbPath (by decide)
  refine ⟨plusSpelled_spells, [⟨[251], [], 2, true⟩], [⟨[251], [], 2, true⟩], rfl, ?_, by decide, ?_, ?_⟩
  · rw [RestProxy.observe_eq_tap rfl (by decide) (resourceAndVerb_eq_some_iff.mpr hpath)]
    exact RestProxy.tap_eq_singleton_iff.mpr (curlBody_carried plusSpelled (by decide))
  · rw [AppState.publishCount_applyAll]
    decide
  · rw [AppState.publishCount_applyAll]
    decide

end PubSubTui.Proxy
