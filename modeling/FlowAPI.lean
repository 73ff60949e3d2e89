import FlowAPI.User.Publication
import FlowAPI.Wallet.Conservation
import FlowAPI.Wallet.Reservation
import FlowAPI.Wallet.Coherence
import FlowAPI.Wallet.Limit
import FlowAPI.Billing.Terminal
import FlowAPI.Polling.Billing
import FlowAPI.Relay.TaskRetry
import FlowAPI.Submission.Exclusive
import FlowAPI.Payment.Redemption
import FlowAPI.Payment.Settlement
import FlowAPI.TokenQuota.Accounting
import FlowAPI.SystemTask.Expiry
import FlowAPI.Session.Rotation
import FlowAPI.AuthFlow.Consumption
import FlowAPI.Batch.Conservation
import FlowAPI.Midjourney.Refunds
import FlowAPI.Realtime.Charges
import FlowAPI.Convert.ChatToGemini
import FlowAPI.Convert.GeminiRequest
import FlowAPI.Convert.GeminiSchema
import FlowAPI.Convert.GeminiStream
import FlowAPI.Convert.ClaudePreservation
import FlowAPI.Convert.ClaudeMessage
import FlowAPI.Channels.DatabaseDraw
import FlowAPI.Billing.Rollback
import FlowAPI.TaskBilling.Agreement
import FlowAPI.Polling.Ownership
import FlowAPI.User.Completeness
import FlowAPI.Session.Login
import FlowAPI.Session.BulkOutcome
import FlowAPI.WebClient.Supersession
import FlowAPI.Stream.Delivery
import FlowAPI.Convert.Termination
import FlowAPI.Channels.Listing
import FlowAPI.Channels.EligibleDraw
import FlowAPI.MultiKey.CachedStatus
import FlowAPI.MultiKey.AutoBan
import FlowAPI.MultiKey.Deletion
import FlowAPI.Channels.KeyRotation
import FlowAPI.TextQuota.PricedTokens
import FlowAPI.Relay.GroupTraversal
import FlowAPI.Relay.RouteLimits
import FlowAPI.RateLimit.ModelRateLimit
import FlowAPI.PerfMetrics
import FlowAPI.Relay.NegativeIndex
