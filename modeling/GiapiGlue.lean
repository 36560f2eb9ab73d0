import GiapiGlue.Lib.Run
import GiapiGlue.Lib.UnorderedMap
import GiapiGlue.Lib.ObjectHeap
import GiapiGlue.Lib.Words
import GiapiGlue.Lib.ByteStream
import GiapiGlue.Lib.Ieee754
import GiapiGlue.Lib.Memory
import GiapiGlue.Lib.FreshRegister
import GiapiGlue.Lib.Precedence
import GiapiGlue.Lib.Numerals
import GiapiGlue.Lib.SharedMap
import GiapiGlue.Lib.FixedNotation
import GiapiGlue.Lib.Ledger
import GiapiGlue.Lib.LatestValue
import GiapiGlue.Lib.Interleaving
import GiapiGlue.Lib.Estate
import GiapiGlue.Giapi
import GiapiGlue.Cms.BytesMessage
import GiapiGlue.Cms.ReplyQueue
import GiapiGlue.Cms.Selector
import GiapiGlue.Gmp.GMPKeys
import GiapiGlue.Gmp.JmsUtil
import GiapiGlue.Gmp.ConnectionManager
import GiapiGlue.Gmp.UsableConnection
import GiapiGlue.Gmp.ErrorHandlers
import GiapiGlue.Status.StatusItem
import GiapiGlue.Status.StatusDatabase
import GiapiGlue.Status.StatusSerializerVisitor
import GiapiGlue.Status.AbstractStatusSender
import GiapiGlue.Status.StatusUtil
import GiapiGlue.Status.StatusCalls
import GiapiGlue.Status.Rejections
import GiapiGlue.Status.TypeSafety
import GiapiGlue.Status.HealthItems
import GiapiGlue.Status.Alarms
import GiapiGlue.Status.RepeatedSets
import GiapiGlue.Status.PostAll
import GiapiGlue.Status.PendingUpdates
import GiapiGlue.Status.Registration
import GiapiGlue.Status.StatusMessages
import GiapiGlue.Status.WireMessages
import GiapiGlue.Status.Mirror
import GiapiGlue.Status.PostedMirror
import GiapiGlue.Status.Timestamps
import GiapiGlue.Commands.SequenceCommandConsumer
import GiapiGlue.Commands.ConfigurationReads
import GiapiGlue.Commands.JmsCommandUtil
import GiapiGlue.Commands.ConsumerLifetimes
import GiapiGlue.Commands.Subscriptions
import GiapiGlue.Commands.TopicIsolation
import GiapiGlue.Commands.Delivery
import GiapiGlue.Commands.Dispatch
import GiapiGlue.Commands.CompletionInfo
import GiapiGlue.Commands.ReplyOrder
import GiapiGlue.Epics.EpicsStatusItem
import GiapiGlue.Epics.JmsEpicsFactory
import GiapiGlue.Epics.UpdateGrammar
import GiapiGlue.Epics.NumericUpdates
import GiapiGlue.Epics.StringArrays
import GiapiGlue.Epics.JmsEpicsFetcher
import GiapiGlue.Epics.JmsEpicsManager
import GiapiGlue.Epics.ChannelIsolation
import GiapiGlue.Epics.Bookkeeping
import GiapiGlue.Epics.MalformedUpdates
import GiapiGlue.Process.Process
import GiapiGlue.Process.Reconnection
import GiapiGlue.Tcs.JmsApplyOffset
import GiapiGlue.Tcs.OffsetReplies
import GiapiGlue.Util.TimeUtil
import GiapiGlue.Util.TimerProtocol
import GiapiGlue.Data.FileEvents
import GiapiGlue.Tcs.JmsTcsFetcher
import GiapiGlue.Pcs.JmsPcsUpdater
import GiapiGlue.Exchanges.Exchange
import GiapiGlue.Exchanges.Calls
import GiapiGlue.Exchanges.ReleasedOnce
import GiapiGlue.Exchanges.ReplyQueues
import GiapiGlue.Exchanges.QueueOwners
import GiapiGlue.Exchanges.Routing
import GiapiGlue.Exchanges.SideBySide
import GiapiGlue.Exchanges.Correlation
import GiapiGlue.Endpoints.Endpoint
import GiapiGlue.Endpoints.Services
import GiapiGlue.Endpoints.Standing
import GiapiGlue.Endpoints.Subscribed
import GiapiGlue.Endpoints.Lifetimes
import GiapiGlue.Data.ObsEvents
import GiapiGlue.Services.SystemLog
import GiapiGlue.Services.Notices
import GiapiGlue.Services.NoticeRuns
import GiapiGlue.Posting.Posting
import GiapiGlue.Posting.DeletedOnce
