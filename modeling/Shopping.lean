import Shopping.Carts.Bulk
import Shopping.Carts.Merge
import Shopping.Carts.Moves
import Shopping.Carts.Prices
import Shopping.Carts.Service
import Shopping.Carts.Stock
import Shopping.Carts.Wishlist
import Shopping.Lib.CacheAside
import Shopping.Lib.Deepcopy
import Shopping.Lib.Dict
import Shopping.Lib.GetOrCreate
import Shopping.Lib.Grouped
import Shopping.Lib.Idempotent
import Shopping.Lib.Json
import Shopping.Lib.Locks
import Shopping.Lib.Objects
import Shopping.Lib.Pruned
import Shopping.Lib.Rose
import Shopping.Lib.Search
import Shopping.Lib.Walks
import Shopping.Lib.Watch
import Shopping.Orders.Direct
import Shopping.Orders.Processing
import Shopping.Orders.Totals
import Shopping.Payments.RawResponse
import Shopping.Payments.Recovery
import Shopping.Payments.Shapes
import Shopping.Payments.WebhookEntry
import Shopping.Points.Allocation
import Shopping.Points.Cleanup
import Shopping.Points.Expiring
import Shopping.Points.ExpiryBatch
import Shopping.Points.Notifications
import Shopping.Points.RefundParts
import Shopping.Points.RefundedOrder
import Shopping.Points.Runs
import Shopping.Points.Standing
import Shopping.Points.Statistics
import Shopping.Points.UsedRows
import Shopping.Products.Categories
import Shopping.Products.CategoryTree
import Shopping.Products.Serializer
import Shopping.Returns.AccountNumbers
import Shopping.Returns.Exchanges
import Shopping.Returns.Numbers
import Shopping.Returns.Requests
import Shopping.SelfHealing.AsyncLogger
import Shopping.SelfHealing.BlastRadius
import Shopping.SelfHealing.Cascade
import Shopping.SelfHealing.Cycles
import Shopping.SelfHealing.Graph
import Shopping.SelfHealing.Rollback
import Shopping.SelfHealing.RollbackRuns
import Shopping.SelfHealing.Snapshots
import Shopping.System.Accepted
import Shopping.System.AccountCleanup
import Shopping.System.AccountWrites
import Shopping.System.ActiveCarts
import Shopping.System.Agreement
import Shopping.System.ApprovedAmounts
import Shopping.System.CancelPaths
import Shopping.System.Commits
import Shopping.System.ConfirmRetries
import Shopping.System.DepositBounce
import Shopping.System.Earned
import Shopping.System.EditedShop
import Shopping.System.Fence
import Shopping.System.LockOrder
import Shopping.System.LoginMerge
import Shopping.System.Lookups
import Shopping.System.Noticed
import Shopping.System.OrderDesk
import Shopping.System.OrderOnce
import Shopping.System.PasswordResets
import Shopping.System.PaymentRequests
import Shopping.System.PointStatistics
import Shopping.System.PointsHeld
import Shopping.System.PointsOnly
import Shopping.System.PriceGate
import Shopping.System.Prices
import Shopping.System.ProductEdits
import Shopping.System.RecoveryRetry
import Shopping.System.Redeliveries
import Shopping.System.Redelivery
import Shopping.System.RefreshTokens
import Shopping.System.RefundRetries
import Shopping.System.RefundedTwice
import Shopping.System.Refunds
import Shopping.System.Released
import Shopping.System.ResendSweeps
import Shopping.System.ResetCleanups
import Shopping.System.ReturnDesk
import Shopping.System.ReturnNumbers
import Shopping.System.ReturnWorkflow
import Shopping.System.RowLocks
import Shopping.System.Sales
import Shopping.System.SettlementPaths
import Shopping.System.ShopLedger
import Shopping.System.SlaAborts
import Shopping.System.StaffedShop
import Shopping.System.Stock
import Shopping.System.Sweeps
import Shopping.System.TidiedCarts
import Shopping.System.UsedPoints
import Shopping.System.VerificationMails
import Shopping.System.VerifiedEmail
import Shopping.System.WebhookDesk
import Shopping.Users.PasswordReset
import Shopping.Users.Resends
import Shopping.Users.SocialIdentities
import Shopping.Users.Verification
