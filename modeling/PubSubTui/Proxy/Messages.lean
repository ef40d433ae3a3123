import Mathlib.Tactic

/-! The Pub/Sub messages the proxy handles. It relays them whole, so every field is kept. -/

namespace PubSubTui.Proxy

inductive Code
  | ok | cancelled | unknown | invalidArgument | deadlineExceeded | notFound | alreadyExists
  | permissionDenied | resourceExhausted | failedPrecondition | aborted | outOfRange | unimplemented
  | internal | unavailable | dataLoss | unauthenticated
  deriving DecidableEq

structure Status where
  code : Code
  message : String := ""
  details : List UInt8 := []
  deriving DecidableEq

structure Timestamp where
  seconds : ℤ
  nanos : ℤ
  deriving DecidableEq

structure PubsubMessage where
  data : List UInt8 := []
  attributes : List (String × String) := []
  messageId : String := ""
  publishTime : Option Timestamp := none
  orderingKey : String := ""
  deriving DecidableEq

structure ReceivedMessage where
  ackId : String := ""
  message : Option PubsubMessage := none
  deliveryAttempt : ℤ := 0
  deriving DecidableEq

structure PublishRequest where
  topic : String := ""
  messages : List PubsubMessage := []
  deriving DecidableEq

structure PublishResponse where
  messageIds : List String := []
  deriving DecidableEq

structure PullRequest where
  subscription : String
  returnImmediately : Bool := false
  maxMessages : ℤ := 0
  deriving DecidableEq

structure PullResponse where
  receivedMessages : List ReceivedMessage := []
  deriving DecidableEq

structure AcknowledgeRequest where
  subscription : String
  ackIds : List String := []
  deriving DecidableEq

structure StreamingPullRequest where
  subscription : String := ""
  ackIds : List String := []
  modifyDeadlineSeconds : List ℤ := []
  modifyDeadlineAckIds : List String := []
  streamAckDeadlineSeconds : ℤ := 0
  clientId : String := ""
  maxOutstandingMessages : ℤ := 0
  maxOutstandingBytes : ℤ := 0
  protocolVersion : ℤ := 0
  deriving DecidableEq

structure AcknowledgeConfirmation where
  ackIds : List String := []
  invalidAckIds : List String := []
  unorderedAckIds : List String := []
  temporaryFailedAckIds : List String := []
  deriving DecidableEq

structure ModifyAckDeadlineConfirmation where
  ackIds : List String := []
  invalidAckIds : List String := []
  temporaryFailedAckIds : List String := []
  deriving DecidableEq

structure SubscriptionProperties where
  exactlyOnceDeliveryEnabled : Bool := false
  messageOrderingEnabled : Bool := false
  deriving DecidableEq

structure StreamingPullResponse where
  receivedMessages : List ReceivedMessage := []
  acknowledgeConfirmation : Option AcknowledgeConfirmation := none
  modifyAckDeadlineConfirmation : Option ModifyAckDeadlineConfirmation := none
  subscriptionProperties : Option SubscriptionProperties := none
  deriving DecidableEq

end PubSubTui.Proxy
