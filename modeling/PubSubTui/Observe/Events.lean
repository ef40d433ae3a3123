import Mathlib.Tactic

/-! The observations that the proxy and the admin poller emit. -/

namespace PubSubTui.Observe

/-- Nanoseconds since the earliest instant that the host can represent: its start, where instants are unsigned. -/
abbrev Instant := ℕ

/-- The flow label of a version 6 address, which its text does not show, is left out. -/
inductive SocketAddr
  | v4 (a b c d : UInt8) (port : UInt16)
  | v6 (segments : Vector UInt16 8) (scope : UInt32) (port : UInt16)
  deriving DecidableEq

namespace SocketAddr

def showV4 (a b c d : UInt8) : String :=
  ".".intercalate ([a, b, c, d].map (fun n => toString n.toNat))

def hexSegments (segments : List UInt16) : String :=
  ":".intercalate (segments.map (fun n => String.ofList (Nat.toDigits 16 n.toNat)))

def zeroRun (segments : List UInt16) : ℕ × ℕ :=
  (List.range segments.length).foldl
    (fun longest i =>
      let run := ((segments.drop i).takeWhile (· == 0)).length
      if run > longest.2 then (i, run) else longest) (0, 0)

def showV6 (segments : List UInt16) : String :=
  match segments with
  | [0, 0, 0, 0, 0, 0xffff, hi, lo] =>
    "::ffff:" ++ showV4 (hi >>> 8).toUInt8 hi.toUInt8 (lo >>> 8).toUInt8 lo.toUInt8
  | _ =>
    let (start, run) := zeroRun segments
    if run > 1 then hexSegments (segments.take start) ++ "::" ++ hexSegments (segments.drop (start + run))
    else hexSegments segments

def toStr : SocketAddr → String
  | v4 a b c d port => showV4 a b c d ++ ":" ++ toString port.toNat
  | v6 segments scope port =>
    let zone := if scope = 0 then "" else "%" ++ toString scope.toNat
    "[" ++ showV6 segments.toList ++ zone ++ "]:" ++ toString port.toNat

end SocketAddr

structure PublishedMessage where
  data : List UInt8
  attributes : List (String × String)
  originalLen : ℕ
  truncated : Bool
  deriving DecidableEq

structure SubscriptionInfo where
  name : String
  topic : String
  deriving DecidableEq

inductive Observation
  | publish (topic : String) (peer : Option SocketAddr) (messages : List PublishedMessage)
  | deliver (subscription : String) (peer : Option SocketAddr) (messages : ℕ)
  | ack (subscription : String) (peer : Option SocketAddr) (messages : ℕ)
  | consumerOpen (subscription : String) (peer : Option SocketAddr)
  | consumerClose (subscription : String) (peer : Option SocketAddr)
  | adminSnapshot (topics : List String) (subscriptions : List SubscriptionInfo)
  deriving DecidableEq

def peerKey (peer : Option SocketAddr) : String :=
  peer.elim "unknown" SocketAddr.toStr

example : peerKey (some (.v4 127 0 0 1 5000)) = "127.0.0.1:5000" := by decide

end PubSubTui.Observe
