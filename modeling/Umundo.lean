import Umundo.Foundation.CString
import Umundo.Foundation.Table
import Umundo.Foundation.Machine
import Umundo.Foundation.Replica
import Umundo.Foundation.Alternation
import Umundo.Foundation.Locality
import Umundo.Connection.ControlMessage
import Umundo.Connection.Node
import Umundo.Connection.NodeTables
import Umundo.Connection.Envelope
import Umundo.Connection.NodeMessages
import Umundo.Connection.Announcement
import Umundo.Connection.Commutation
import Umundo.Connection.ChannelMatching
import Umundo.Connection.PublisherView
import Umundo.Connection.NodePair
import Umundo.Connection.PublisherAgreement
import Umundo.Connection.SubscriptionAgreement
import Umundo.Connection.Publisher
import Umundo.Connection.Handshake
import Umundo.Connection.Greeting
import Umundo.Connection.PublisherCalls
import Umundo.Connection.CallBalance
import Umundo.Connection.PublisherHost
import Umundo.Connection.Withdrawal
import Umundo.Connection.PairRecords
import Umundo.Connection.Standing
import Umundo.Connection.SubscriberChurn
import Umundo.Connection.ChurnAgreement
import Umundo.Connection.DataMessage
import Umundo.Foundation.Memory
import Umundo.Connection.ControlBuffer
import Umundo.Connection.SubscriptionFrames
import Umundo.Connection.Framing
import Umundo.Connection.DeliveryFilter
import Umundo.Thread.Monitor
import Umundo.Rpc.PendingCalls
import Umundo.Rpc.ServiceLookup
import Umundo.Foundation.Labels
import Umundo.Foundation.Fields
import Umundo.Rpc.ServiceFilter
import Umundo.Rpc.ServiceManager
import Umundo.Rpc.JavaFilter
import Umundo.Service.Filter
import Umundo.Foundation.Search
import Umundo.Service.FilterMessage
import Umundo.Service.Evaluation
import Umundo.Service.StringPredicates
import Umundo.Foundation.Numeral
import Umundo.Service.NumericEquality
import Umundo.Rpc.RemoteDescriptions
import Umundo.Foundation.OpenQuery
import Umundo.Rpc.QueryMessages
import Umundo.Rpc.QueryPair
import Umundo.Rpc.QueryConvergence
import Umundo.Foundation.Checked
import Umundo.Foundation.Handles
import Umundo.Discovery.Bonjour
import Umundo.Discovery.BonjourDirectory
import Umundo.Discovery.BonjourInvariant
import Umundo.Discovery.BonjourCalls
import Umundo.Discovery.BonjourReplies
import Umundo.Discovery.BonjourBrowsing
import Umundo.Discovery.BonjourBookkeeping
import Umundo.Discovery.NodeQuery
import Umundo.Discovery.QueryListener
import Umundo.Discovery.BonjourAddress
import Umundo.Discovery.Avahi
import Umundo.Discovery.AvahiRegistry
import Umundo.Discovery.AvahiPresence
import Umundo.Foundation.Suspension
import Umundo.Discovery.NodeSuspension
import Umundo.Connection.NodeLifecycle
import Umundo.Connection.PublisherSuspension
import Umundo.Connection.SubscriptionSuspension
import Umundo.Foundation.Neighbours
import Umundo.Foundation.Links
import Umundo.Util.NBandCache
import Umundo.Util.NBandModel
import Umundo.Util.NBandPointers
import Umundo.Foundation.Chain
import Umundo.Util.NBandInsertion
import Umundo.Util.NBandRefinement
import Umundo.Util.DirectoryListing
import Umundo.Util.DirectoryScan
import Umundo.Util.DirectoryMirror
import Umundo.Util.DirectoryChanges
import Umundo.Service.DescriptionMessage
import Umundo.Service.Consultation
import Umundo.Util.Regex
import Umundo.Service.Selection
import Umundo.Thread.MonitorSignals
import Umundo.Util.DirectoryDifference
import Umundo.Util.EntrySegments
import Umundo.Foundation.Blocks
import Umundo.Util.MD5
import Umundo.Util.FileRetrieval
import Umundo.Foundation.Relaxation
import Umundo.Util.StructuredCache
import Umundo.Util.CacheLinks
import Umundo.Util.CacheInvariant
import Umundo.Util.CacheDistances
import Umundo.Connection.Waiters
import Umundo.Rpc.RemoteCalls
