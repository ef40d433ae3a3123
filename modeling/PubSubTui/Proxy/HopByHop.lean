import PubSubTui.Proxy.Rest

/-! Which header fields cross the proxy. Besides the fixed ones, a field is for one hop only when a `Connection` field
nominates it. -/

namespace PubSubTui.Proxy

def isBlank (b : UInt8) : Bool := b = 32 ∨ b = 9

def trimBlanks (option : Bytes) : Bytes := ((option.dropWhile isBlank).reverse.dropWhile isBlank).reverse

namespace HeaderMap

def comma : UInt8 := 44

def connectionOptions (headers : HeaderMap) : List Bytes :=
  (headers.getAll "connection").flatMap fun value => (value.splitOn comma).map (lower <| trimBlanks ·)

def Nominates (headers : HeaderMap) (name : String) : Prop := utf8 name ∈ headers.connectionOptions

instance (headers : HeaderMap) (name : String) : Decidable (headers.Nominates name) :=
  inferInstanceAs (Decidable (_ ∈ _))

example : (HeaderMap.mk [("connection", utf8 "close, \tX-Trace ,TE"), ("connection", utf8 "a")]).connectionOptions =
    ["close", "x-trace", "te", "a"].map utf8 := by
  decide

def IsHopByHop (headers : HeaderMap) (name : String) : Prop := name ∈ hopByHop ∨ headers.Nominates name

variable {headers : HeaderMap} {name : String}

lemma getAll_remove (removed : String) :
    (headers.remove removed).getAll name = if name = removed then [] else headers.getAll name := by
  rw [getAll, remove, getAll, List.filter_filter]
  split_ifs with heq
  · simp [heq]
  · congr 1
    apply List.filter_congr
    rintro ⟨field, value⟩ -
    by_cases hfield : field = name <;> simp [hfield, heq]

lemma getAll_foldl_remove (names : List String) :
    (names.foldl remove headers).getAll name = if name ∈ names then [] else headers.getAll name := by
  induction names generalizing headers with
  | nil => simp
  | cons removed names ih =>
    rw [List.foldl_cons, ih, getAll_remove]
    by_cases hremoved : name = removed
    · simp [hremoved]
    · simp [hremoved]

end HeaderMap

lemma getAll_relayedHeaders (headers : HeaderMap) (dropHost : Bool) (name : String) :
    (relayedHeaders headers dropHost).getAll name =
      if name ∈ hopByHop ∨ name = "host" ∧ dropHost = true then [] else headers.getAll name := by
  rw [relayedHeaders]
  cases dropHost with
  | false => simp [HeaderMap.getAll_foldl_remove]
  | true =>
    simp only [if_true, HeaderMap.getAll_remove, HeaderMap.getAll_foldl_remove, and_true]
    by_cases hhost : name = "host"
    · simp [hhost]
    · simp [hhost]

structure CrossesProxy (headers : HeaderMap) (dropHost : Bool) (relayed : HeaderMap) : Prop where
  hop : ∀ name, headers.IsHopByHop name → relayed.getAll name = []
  host : relayed.getAll "host" = if dropHost then [] else headers.getAll "host"
  rest : ∀ name, ¬ headers.IsHopByHop name → name ≠ "host" → relayed.getAll name = headers.getAll name

theorem relayed_headers_cross_iff (headers : HeaderMap) (dropHost : Bool) :
    CrossesProxy headers dropHost (relayedHeaders headers dropHost) ↔
      ∀ name, headers.Nominates name → headers.getAll name ≠ [] →
        name ∈ hopByHop ∨ name = "host" ∧ dropHost = true := by
  constructor
  · intro hcrosses name hnominated hpresent
    by_contra hkept
    have hgone := hcrosses.hop name (.inr hnominated)
    rw [getAll_relayedHeaders, if_neg hkept] at hgone
    exact hpresent hgone
  · intro hnominates
    refine ⟨fun name hname => ?_, ?_, fun name hname hhost => ?_⟩
    · rw [getAll_relayedHeaders]
      split_ifs with hkept
      · rfl
      · by_contra hpresent
        rcases hname with hfixed | hnominated
        · exact hkept (.inl hfixed)
        · exact hkept (hnominates name hnominated hpresent)
    · have hfixed : "host" ∉ hopByHop := by decide
      cases dropHost <;> simp [getAll_relayedHeaders, hfixed]
    · rw [getAll_relayedHeaders, if_neg]
      rintro (hfixed | ⟨heq, -⟩)
      · exact hname (.inl hfixed)
      · exact hhost heq

def tracedHeaders : HeaderMap :=
  ⟨[("connection", utf8 "close, X-Trace"), ("x-trace", utf8 "1"), ("authorization", utf8 "Bearer t")]⟩

theorem nominated_header_relayed :
    tracedHeaders.IsHopByHop "x-trace" ∧ (relayedHeaders tracedHeaders true).getAll "x-trace" = [utf8 "1"] ∧
      ∀ dropHost, ¬ CrossesProxy tracedHeaders dropHost (relayedHeaders tracedHeaders dropHost) := by
  have hnominated : tracedHeaders.Nominates "x-trace" := by decide
  refine ⟨.inr hnominated, by decide, fun dropHost hcrosses => ?_⟩
  have hgone := hcrosses.hop "x-trace" (.inr hnominated)
  rw [getAll_relayedHeaders, if_neg (by simp [hopByHop])] at hgone
  exact absurd hgone (by decide)

end PubSubTui.Proxy
