import Mathlib.Data.List.DropRight
import PubSubTui.Proxy.Rest

/-! What the `Content-Encoding` lines of a call say was done to its body, and the lines that the relay can read. -/

namespace PubSubTui.Proxy

def trimmed (item : Bytes) : Bytes :=
  let blank (b : UInt8) : Bool := b = 32 ∨ b = 9
  (item.dropWhile blank).rdropWhile blank

def listed (line : Bytes) : List Bytes := ((line.splitOn 44).map trimmed).filter (· ≠ [])

def written : List Bytes := [utf8 "identity", utf8 "gzip", utf8 "x-gzip"]

lemma mem_written {token : Bytes} :
    token ∈ written ↔ token = utf8 "identity" ∨ token = utf8 "gzip" ∨ token = utf8 "x-gzip" := by
  simp [written]

/-- The first line is a token that the relay matches, and those after it, which it does not read, add nothing. -/
def Legible (headers : HeaderMap) : Prop :=
  ∀ first ∈ headers.get "content-encoding", first ∈ written ∧
    ∀ coding ∈ (headers.getAll "content-encoding").tail.flatMap listed, lower coding = utf8 "identity"

instance (headers : HeaderMap) : Decidable (Legible headers) :=
  inferInstanceAs (Decidable (∀ first ∈ headers.get "content-encoding", _))

namespace Decoders

/-- A gzip stream starts with a byte that no JSON text starts with. -/
structure GzipEngine (decoders : Decoders) : Prop where
  gunzip : ∀ body content, decoders.gunzip body = some content → ∃ rest, body = 0x1f :: rest
  fromSlice : ∀ rest, decoders.fromSlice (0x1f :: rest) = none

def undo (decoders : Decoders) (coding body : Bytes) : Option Bytes :=
  if lower coding = utf8 "identity" then some body
  else if lower coding = utf8 "gzip" ∨ lower coding = utf8 "x-gzip" then decoders.gunzip body
  else none

/-- The codings are listed in the order they were applied in, so the last is the first to be undone. -/
def content (decoders : Decoders) (headers : HeaderMap) (body : Bytes) : Option Bytes :=
  ((headers.getAll "content-encoding").flatMap listed).foldrM decoders.undo body

variable {decoders : Decoders} {headers : HeaderMap} {coding coding' first body content : Bytes} {codings : List Bytes}

lemma undo_cases (decoders : Decoders) (coding : Bytes) :
    lower coding = utf8 "identity" ∧ decoders.undo coding = some ∨ lower coding ≠ utf8 "identity" ∧
      (decoders.undo coding = decoders.gunzip ∨ decoders.undo coding = fun _ => none) := by
  by_cases hidentity : lower coding = utf8 "identity"
  · exact .inl ⟨hidentity, funext fun body => if_pos hidentity⟩
  · refine .inr ⟨hidentity, ?_⟩
    by_cases hgzip : lower coding = utf8 "gzip" ∨ lower coding = utf8 "x-gzip"
    · exact .inl (funext fun body => by rw [undo, if_neg hidentity, if_pos hgzip])
    · exact .inr (funext fun body => by rw [undo, if_neg hidentity, if_neg hgzip])

lemma undo_comm : (decoders.undo coding body).bind (decoders.undo coding') =
    (decoders.undo coding' body).bind (decoders.undo coding) := by
  rcases undo_cases decoders coding with ⟨-, h⟩ | ⟨-, h | h⟩ <;>
    rcases undo_cases decoders coding' with ⟨-, h'⟩ | ⟨-, h' | h'⟩ <;> simp [h, h', Option.bind_fun_none]

lemma foldrM_undo_comm : (codings.foldrM decoders.undo body).bind (decoders.undo coding) =
    (decoders.undo coding body).bind fun left => codings.foldrM decoders.undo left := by
  induction codings generalizing body with
  | nil => cases hundo : decoders.undo coding body <;> simp [hundo]
  | cons next codings ih =>
    simp only [List.foldrM_cons, Option.bind_eq_bind]
    calc ((codings.foldrM decoders.undo body).bind (decoders.undo next)).bind (decoders.undo coding)
        = (codings.foldrM decoders.undo body).bind fun left =>
            (decoders.undo coding left).bind (decoders.undo next) := by
          rw [Option.bind_assoc]
          exact congrArg _ (funext fun left => undo_comm)
      _ = ((codings.foldrM decoders.undo body).bind (decoders.undo coding)).bind (decoders.undo next) :=
          (Option.bind_assoc ..).symm
      _ = (decoders.undo coding body).bind fun left =>
            (codings.foldrM decoders.undo left).bind (decoders.undo next) := by
          rw [ih, Option.bind_assoc]

lemma foldrM_undo_identity (h : ∀ coding ∈ codings, lower coding = utf8 "identity") :
    codings.foldrM decoders.undo body = some body := by
  induction codings with
  | nil => rfl
  | cons coding codings ih =>
    obtain ⟨hcoding, hcodings⟩ := List.forall_mem_cons.mp h
    rw [List.foldrM_cons, ih hcodings]
    exact if_pos hcoding

lemma gunzip_of_foldrM (h : codings.foldrM decoders.undo body = some content) (hmem : coding ∈ codings)
    (hcoding : lower coding ≠ utf8 "identity") : ∃ left, decoders.gunzip body = some left := by
  obtain ⟨before, after, rfl⟩ := List.append_of_mem hmem
  rw [List.foldrM_append] at h
  obtain ⟨left, hleft, -⟩ := Option.bind_eq_some_iff.mp h
  rw [List.foldrM_cons, Option.bind_eq_bind, foldrM_undo_comm] at hleft
  obtain ⟨undone, hundone, -⟩ := Option.bind_eq_some_iff.mp hleft
  rcases undo_cases decoders coding with ⟨hidentity, -⟩ | ⟨-, hundo | hundo⟩
  · exact absurd hidentity hcoding
  · exact ⟨undone, hundo ▸ hundone⟩
  · rw [hundo] at hundone
    cases hundone

lemma content_of_written (hget : headers.get "content-encoding" = some first) (h : first ∈ written) :
    decoders.content headers body = (decoders.undo first body).bind fun left =>
      ((headers.getAll "content-encoding").tail.flatMap listed).foldrM decoders.undo left := by
  have hlisted : listed first = [first] := by
    rcases mem_written.mp h with rfl | rfl | rfl <;> decide
  have hlines : headers.getAll "content-encoding" = first :: (headers.getAll "content-encoding").tail := by
    rw [HeaderMap.get_eq_head_getAll] at hget
    exact (List.cons_head?_tail hget).symm
  rw [content, hlines, List.flatMap_cons, hlisted, List.foldrM_append, List.tail_cons, ← foldrM_undo_comm]
  simp

end Decoders

inductive Codes (decoders : Decoders) (headers : HeaderMap) (body : Bytes) : Bytes → Prop
  | plain (h : headers.get "content-encoding" = none) : Codes decoders headers body body
  | coded {token content : Bytes} (h : headers.get "content-encoding" = some token)
    (hb : decoders.undo token body = some content) : Codes decoders headers body content

def LowerCased (headers : HeaderMap) : Prop :=
  ∀ token ∈ headers.get "content-encoding", lower token = token

instance (headers : HeaderMap) : Decidable (LowerCased headers) :=
  inferInstanceAs (Decidable (∀ token ∈ headers.get "content-encoding", _))

namespace RestProxy

variable {proxy : RestProxy} {headers : HeaderMap} {body content left token : Bytes}

lemma decoded_eq (hget : headers.get "content-encoding" = some token) :
    proxy.decoded headers body = if token ∈ written then proxy.decoders.undo token body else none := by
  rw [decoded, hget]
  by_cases hwritten : token ∈ written
  · rw [if_pos hwritten]
    rcases mem_written.mp hwritten with rfl | rfl | rfl <;> rfl
  · rw [if_neg hwritten]
    rw [mem_written, not_or] at hwritten
    dsimp only
    rw [if_neg hwritten.1, if_neg hwritten.2]

lemma content_of_legible (h : Legible headers) : proxy.decoders.content headers body = proxy.decoded headers body := by
  cases hget : headers.get "content-encoding" with
  | none =>
    have hnone : headers.getAll "content-encoding" = [] := by
      rwa [HeaderMap.get_eq_head_getAll, List.head?_eq_none_iff] at hget
    rw [decoded, hget, Decoders.content, hnone]
    rfl
  | some first =>
    obtain ⟨hwritten, hrest⟩ := h first hget
    rw [Decoders.content_of_written hget hwritten, decoded_eq hget, if_pos hwritten]
    simp only [Decoders.foldrM_undo_identity hrest, Option.bind_fun_some]

/-- Where the relay reads too little of the lines, what it reads is no JSON if the content is anything. -/
lemma fromSlice_of_illegible (engine : proxy.decoders.GzipEngine) (h : ¬ Legible headers)
    (hleft : proxy.decoded headers body = some left) (hcontent : proxy.decoders.content headers body = some content) :
    proxy.decoders.fromSlice left = none := by
  simp only [Legible, not_forall] at h
  obtain ⟨first, hget, hread⟩ := h
  rw [decoded_eq hget] at hleft
  split_ifs at hleft with hwritten
  rw [Decoders.content_of_written hget hwritten, hleft, Option.bind_some] at hcontent
  obtain ⟨coding, hmem, hcoding⟩ : ∃ coding ∈ (headers.getAll "content-encoding").tail.flatMap listed,
      lower coding ≠ utf8 "identity" := by
    by_contra hnone
    push Not at hnone
    exact hread ⟨hwritten, hnone⟩
  obtain ⟨content', hgunzip⟩ := Decoders.gunzip_of_foldrM hcontent hmem hcoding
  obtain ⟨rest, rfl⟩ := engine.gunzip left content' hgunzip
  exact engine.fromSlice rest

lemma written_iff (hundo : proxy.decoders.undo token body = some content) : token ∈ written ↔ lower token = token := by
  constructor
  · intro h
    rcases mem_written.mp h with rfl | rfl | rfl <;> decide
  · intro h
    rw [Decoders.undo, h] at hundo
    split_ifs at hundo with hidentity hgzip
    · exact mem_written.mpr (.inl hidentity)
    · exact mem_written.mpr (.inr hgzip)

lemma decoded_of_codes (h : Codes proxy.decoders headers body content) (hlower : LowerCased headers) :
    proxy.decoded headers body = some content := by
  cases h with
  | plain hnone => rw [decoded, hnone]
  | coded htoken hundo => rw [decoded_eq htoken, if_pos ((written_iff hundo).mpr (hlower _ htoken)), hundo]

lemma decoded_of_not_lowerCased (h : Codes proxy.decoders headers body content) (hlower : ¬ LowerCased headers) :
    proxy.decoded headers body = none := by
  cases h with
  | plain hnone => exact absurd (by simp [LowerCased, hnone]) hlower
  | coded htoken hundo =>
    rw [decoded_eq htoken, if_neg]
    intro hwritten
    apply hlower
    intro token' htoken'
    obtain rfl := Option.some.inj (htoken.symm.trans htoken')
    exact (written_iff hundo).mp hwritten

end RestProxy

end PubSubTui.Proxy
