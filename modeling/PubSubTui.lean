import PubSubTui.Library.ActionSystem
import PubSubTui.Library.Channel
import PubSubTui.Library.Folds
import PubSubTui.Library.TreeMaps
import PubSubTui.Observe.DroppedObservations
import PubSubTui.Observe.RecentBuffer
import PubSubTui.Proxy.StreamingPull
import PubSubTui.Proxy.StreamingMoves
import PubSubTui.Proxy.StreamingRelay
import PubSubTui.Proxy.ConsumerBracket
import PubSubTui.Proxy.SubscriptionLatch
import PubSubTui.Proxy.StreamingCounts
import PubSubTui.Proxy.LiveConsumers
import PubSubTui.Monitor.Convert
import PubSubTui.Monitor.SnapshotSize
import PubSubTui.Proxy.Http
import PubSubTui.Proxy.Rest
import PubSubTui.Proxy.StreamingTermination
import PubSubTui.Observe.Reconciliation
import PubSubTui.Observe.ConnectedPublishers
import PubSubTui.Observe.Reordering
import PubSubTui.Monitor.RoundTrip
import PubSubTui.Library.Base64
import PubSubTui.Monitor.Liveness
import PubSubTui.Proxy.Transcoding
import PubSubTui.Proxy.Classification
import PubSubTui.Library.PercentEncoding
import PubSubTui.Proxy.ResourceNames
import PubSubTui.Library.Tries
import PubSubTui.Ui.Tree
import PubSubTui.Ui.TreeIdentifiers
import PubSubTui.Ui.TopicNodes
import PubSubTui.Ui.GroupStability
import PubSubTui.Library.TrieWalks
import PubSubTui.Ui.TreeShape
import PubSubTui.Proxy.Spellings
import PubSubTui.Proxy.HopByHop
import PubSubTui.Ui.MessageView
import PubSubTui.Library.Windows
import PubSubTui.Ui.App
import PubSubTui.Ui.Selection
import PubSubTui.Ui.Cursor
import PubSubTui.Ui.ViewModel
import PubSubTui.Ui.DetailScroll
import PubSubTui.Library.Lines
import PubSubTui.Ui.JsonHighlight
import PubSubTui.Library.Hexadecimal
import PubSubTui.Ui.HexDump
import PubSubTui.Ui.ControlCharacters
import PubSubTui.Library.Readings
import PubSubTui.Library.Watch
import PubSubTui.Observe.Observer
import PubSubTui.Monitor.Client
import PubSubTui.Pipeline.System
import PubSubTui.Pipeline.Following
import PubSubTui.Pipeline.Provenance
import PubSubTui.Pipeline.Counters
import PubSubTui.Pipeline.Attachment
import PubSubTui.Pipeline.CatchingUp
import PubSubTui.Monitor.Poller
import PubSubTui.Pipeline.Traffic
import PubSubTui.Pipeline.Figures
import PubSubTui.Pipeline.Accounts
import PubSubTui.Pipeline.Contents
import PubSubTui.Observe.PeerKeys
import PubSubTui.Loadgen.Consumer
import PubSubTui.Loadgen.Acknowledging
import PubSubTui.Loadgen.Settling
import PubSubTui.Proxy.Chaining
