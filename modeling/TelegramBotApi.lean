import TelegramBotApi.StepRun
import TelegramBotApi.HttpHeader
import TelegramBotApi.HttpHeaderSize
import TelegramBotApi.FileStreamCursor
import TelegramBotApi.FileStreamRange
import TelegramBotApi.FileStreamConnection
import TelegramBotApi.History
import TelegramBotApi.ActionLog
import TelegramBotApi.TableLookup
import TelegramBotApi.Multimap
import TelegramBotApi.FileStreamTransitions
import TelegramBotApi.FileStreamHistory
import TelegramBotApi.FileStreamExact
import TelegramBotApi.FileStreamExactRun
import TelegramBotApi.FileStreamByteExact
import TelegramBotApi.FileStreamHead
import TelegramBotApi.FileStreamPrefix
import TelegramBotApi.FileStreamExchange
import TelegramBotApi.HttpConnectionBase
import TelegramBotApi.FileStreamAnswer
import TelegramBotApi.TdApi
import TelegramBotApi.Client
import TelegramBotApi.ClientFrame
import TelegramBotApi.ClientStep
import TelegramBotApi.ClientTables
import TelegramBotApi.ClientEffects
import TelegramBotApi.ClientCancel
import TelegramBotApi.ClientRegistry
import TelegramBotApi.ClientDeparture
import TelegramBotApi.ClientDownloads
import TelegramBotApi.ClientClosing
import TelegramBotApi.FileStreamIdentity
import TelegramBotApi.RequestLog
import TelegramBotApi.StreamSystem
import TelegramBotApi.StreamSystemInvariant
import TelegramBotApi.StreamListeners
import TelegramBotApi.StreamTransport
import TelegramBotApi.StreamStoppedReports
import TelegramBotApi.GuardedQueue
import TelegramBotApi.StreamDeletedFiles
import TelegramBotApi.RefCount
import TelegramBotApi.BotQuery
import TelegramBotApi.ClientManager
import TelegramBotApi.ClientManagerStep
import TelegramBotApi.ClientManagerQuota
import TelegramBotApi.ClientManagerRestore
import TelegramBotApi.JsonDecode
import TelegramBotApi.IPAddress
import TelegramBotApi.HttpUrl
import TelegramBotApi.WebhookSettings
import TelegramBotApi.TQueue
import TelegramBotApi.WebhookHeader
import TelegramBotApi.WebhookSchedule
import TelegramBotApi.WebhookIntegrity
import TelegramBotApi.WebhookScheduleStep
import TelegramBotApi.WebhookActor
import TelegramBotApi.WebhookMoves
import TelegramBotApi.WebhookQueues
import TelegramBotApi.KeyedFifo
import TelegramBotApi.WebhookOrder
import TelegramBotApi.WebhookDelivery
import TelegramBotApi.ClientWebhook
import TelegramBotApi.ClientWebhookSafety
import TelegramBotApi.HttpReader
import TelegramBotApi.FileStreamRoute
import TelegramBotApi.FileStreamAllow
import TelegramBotApi.IpPrefixMatch
import TelegramBotApi.Leases
import TelegramBotApi.FileStreamLease
import TelegramBotApi.WorkdirCandidates
import TelegramBotApi.WorkdirCleaning
import TelegramBotApi.WorkdirCleanup
import TelegramBotApi.GetUpdates
import TelegramBotApi.GetUpdatesDelivery
import TelegramBotApi.GetUpdatesPolling
import TelegramBotApi.UpdateConsumers
import TelegramBotApi.UpdateConsumersSafety
import TelegramBotApi.ClientParking
import TelegramBotApi.ClientParkingAnswers
import TelegramBotApi.WebhookAddress
import TelegramBotApi.WebhookTargets
import TelegramBotApi.WebhookSystem
import TelegramBotApi.WebhookSystemSafety
import TelegramBotApi.ClientLife
import TelegramBotApi.ManagedClients
import TelegramBotApi.ManagedClientsSafety
import TelegramBotApi.TableSum
import TelegramBotApi.SendMessages
import TelegramBotApi.SendMessagesAccounts
import TelegramBotApi.SendMessagesMoves
import TelegramBotApi.SendMessagesAnswers
import TelegramBotApi.FileStreamCursorProgress
import TelegramBotApi.WorkdirCleanupPlan
import TelegramBotApi.FileStreamRangeExact
import TelegramBotApi.HttpWritePromises
import TelegramBotApi.MessageTables
import TelegramBotApi.ClientBacklog
import TelegramBotApi.LoginUrls
import TelegramBotApi.LoginUrlNames
import TelegramBotApi.LoginUrlWaiting
import TelegramBotApi.LoginUrlQueries
import TelegramBotApi.LoginUrlsSafety
import TelegramBotApi.RequestStats
import TelegramBotApi.RequestLoads
import TelegramBotApi.RequestSteps
import TelegramBotApi.RequestPromises
import TelegramBotApi.RequestCounters
import TelegramBotApi.SendReports
import TelegramBotApi.SendHistory
import TelegramBotApi.SendOrder
import TelegramBotApi.SendOrderAnswers
import TelegramBotApi.ResumableQueue
import TelegramBotApi.IncomingMessages
import TelegramBotApi.IncomingUpdates
import TelegramBotApi.IncomingLookups
import TelegramBotApi.IncomingAdvance
import TelegramBotApi.IncomingUpdatesSafety
import TelegramBotApi.JsonFields
import TelegramBotApi.RichText
import TelegramBotApi.RichTextRoundTrip
import TelegramBotApi.RichBlocks
import TelegramBotApi.RichBlocksRoundTrip
import TelegramBotApi.RewriteLog
import TelegramBotApi.LogRun
import TelegramBotApi.LittleEndian
import TelegramBotApi.TlStorage
import TelegramBotApi.BinlogEvent
import TelegramBotApi.BinlogEventsProcessor
import TelegramBotApi.Binlog
import TelegramBotApi.BinlogLoad
import TelegramBotApi.BinlogTable
import TelegramBotApi.BinlogRun
import TelegramBotApi.BinlogSending
import TelegramBotApi.KeyValueDatabase
import TelegramBotApi.UpdateStore
import TelegramBotApi.UpdateSchedule
import TelegramBotApi.UpdateLog
import TelegramBotApi.UpdateReplay
import TelegramBotApi.UpdateSweep
import TelegramBotApi.UpdateRecords
import TelegramBotApi.UpdateOperations
import TelegramBotApi.UpdateCollect
import TelegramBotApi.UpdateDatabase
import TelegramBotApi.UpdateCrash
import TelegramBotApi.UpdateRefinement
