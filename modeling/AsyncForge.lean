import AsyncForge.Lib.Runs
import AsyncForge.Lib.Channels
import AsyncForge.Lib.Removal
import AsyncForge.Lib.WaitingRoom
import AsyncForge.Lib.Timeouts
import AsyncForge.Lib.Ownership
import AsyncForge.Lib.Accounts
import AsyncForge.Lib.Refinement
import AsyncForge.Lib.Progress
import AsyncForge.Lib.Streams
import AsyncForge.TaskForge.State
import AsyncForge.TaskForge.System
import AsyncForge.TaskForge.Moves
import AsyncForge.TaskForge.Bookkeeping
import AsyncForge.TaskForge.Incarnations
import AsyncForge.TaskForge.CleaningRequests
import AsyncForge.TaskForge.Delivery
import AsyncForge.TaskForge.Broadcast
import AsyncForge.TaskForge.SendDeadlock
import AsyncForge.TaskForge.Consumers
import AsyncForge.TaskForge.WaitingCalls
import AsyncForge.TaskForge.CreationWaiters
import AsyncForge.TaskForge.WaitAndSend
import AsyncForge.TaskForge.CleaningReports
import AsyncForge.TaskForge.CleaningTriggers
import AsyncForge.TaskForge.Interruption
import AsyncForge.TaskForge.CreationResults
import AsyncForge.TaskForge.Shutdown
import AsyncForge.TaskForge.Ledger
import AsyncForge.TaskForge.Linearization
import AsyncForge.TaskForge.Inboxes
import AsyncForge.TaskForge.InboxStreams
import AsyncForge.TaskForge.Outputs
import AsyncForge.TaskForge.SingleOutputs
import AsyncForge.TaskForge.ErrorHandlers
import AsyncForge.TaskForge.Progress
import AsyncForge.SmartChannel
import AsyncForge.NotifierHub.State
import AsyncForge.NotifierHub.Methods
import AsyncForge.NotifierHub.System
import AsyncForge.NotifierHub.Unsubscriptions
import AsyncForge.NotifierHub.Calls
import AsyncForge.NotifierHub.Subscriptions
import AsyncForge.NotifierHub.Conservation
import AsyncForge.NotifierHub.BroadcastAgreement
import AsyncForge.NotifierHub.Uniqueness
import AsyncForge.NotifierHub.Notifications
import AsyncForge.NotifierHub.Progress
import AsyncForge.NotifierHub.Erasure
import AsyncForge.NotifierHub.Schedules
import AsyncForge.NotifierHub.Streams
import AsyncForge.NotifierHub.SendOrder
import AsyncForge.NotifierHub.Reports
import AsyncForge.NotifierHub.Deadlines
import AsyncForge.NotifierHub.Hubs
import AsyncForge.NotifierHub.GlobalIds
