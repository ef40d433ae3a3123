import Mathlib.Tactic

/-! HTTP and JSON values as the REST relay handles them. -/

namespace PubSubTui.Proxy

abbrev Bytes := List UInt8

def utf8 (s : String) : Bytes := s.toUTF8.data.toList

def lowerByte (b : UInt8) : UInt8 := if 65 ≤ b ∧ b ≤ 90 then b + 32 else b

def lower (token : Bytes) : Bytes := token.map lowerByte

inductive Method
  | get | head | post | put | delete | connect | options | trace | patch
  | extension (name : String)
  deriving DecidableEq

inductive Version
  | http09 | http10 | http11 | http2 | http3
  deriving DecidableEq

structure StatusCode where
  code : ℕ
  valid : 100 ≤ code ∧ code < 1000
  deriving DecidableEq

namespace StatusCode

def payloadTooLarge : StatusCode := ⟨413, by decide⟩

def badGateway : StatusCode := ⟨502, by decide⟩

def isSuccess (status : StatusCode) : Bool := 200 ≤ status.code ∧ status.code < 300

def canonicalReason (status : StatusCode) : Option String :=
  if status.code = 413 then some "Payload Too Large"
  else if status.code = 502 then some "Bad Gateway"
  else none

end StatusCode

/-- Header fields by their names in lower case; a name may have several values. -/
structure HeaderMap where
  fields : List (String × Bytes)
  deriving DecidableEq

namespace HeaderMap

def get (headers : HeaderMap) (name : String) : Option Bytes :=
  (headers.fields.find? (·.1 = name)).map Prod.snd

def getAll (headers : HeaderMap) (name : String) : List Bytes :=
  (headers.fields.filter (·.1 = name)).map Prod.snd

def remove (headers : HeaderMap) (name : String) : HeaderMap :=
  ⟨headers.fields.filter (·.1 ≠ name)⟩

def insert (headers : HeaderMap) (name : String) (value : Bytes) : HeaderMap :=
  ⟨(headers.remove name).fields ++ [(name, value)]⟩

lemma get_eq_head_getAll (headers : HeaderMap) (name : String) :
    headers.get name = (headers.getAll name).head? := by
  rw [get, getAll, List.head?_map, List.head?_filter]

end HeaderMap

/-- A parsed JSON value; the members of an object have distinct names. -/
inductive Json
  | null
  | bool (value : Bool)
  | number (literal : String)
  | string (value : String)
  | array (values : List Json)
  | object (members : List (String × Json))

namespace Json

def asObject : Json → Option (List (String × Json))
  | object members => some members
  | _ => none

def asArray : Json → Option (List Json)
  | array values => some values
  | _ => none

def asStr : Json → Option String
  | string value => some value
  | _ => none

def get (json : Json) (field : String) : Option Json :=
  json.asObject.bind (fun members => (members.find? (·.1 = field)).map Prod.snd)

@[elab_as_elim]
lemma induction {motive : Json → Prop} (null : motive null) (bool : ∀ value, motive (bool value))
    (number : ∀ literal, motive (number literal)) (string : ∀ value, motive (string value))
    (array : ∀ values, (∀ value ∈ values, motive value) → motive (array values))
    (object : ∀ members, (∀ name value, (name, value) ∈ members → motive value) → motive (object members)) :
    ∀ json, motive json
  | .null => null
  | .bool value => bool value
  | .number literal => number literal
  | .string value => string value
  | .array values => array values fun value _ => induction null bool number string array object value
  | .object members => object members fun _ value _ => induction null bool number string array object value
decreasing_by
  · have hlt := List.sizeOf_lt_of_mem ‹value ∈ values›
    simp only [Json.array.sizeOf_spec]
    omega
  · have hlt := List.sizeOf_lt_of_mem ‹(_, value) ∈ members›
    simp only [Prod.mk.sizeOf_spec] at hlt
    simp only [Json.object.sizeOf_spec]
    omega

end Json

end PubSubTui.Proxy
