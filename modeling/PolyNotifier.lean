import PolyNotifier.Lib.Run
import PolyNotifier.Lib.Fair
import PolyNotifier.Lib.Prog
import PolyNotifier.Lib.Serve
import PolyNotifier.Lib.Channel
import PolyNotifier.Lib.Broadcast
import PolyNotifier.Lib.Text
import PolyNotifier.Lib.Json
import PolyNotifier.Lib.Table
import PolyNotifier.Lib.Window
import PolyNotifier.Lib.Crossing
import PolyNotifier.Lib.Html
import PolyNotifier.Lib.Rounding
import PolyNotifier.Common.Number
import PolyNotifier.Common.Models
import PolyNotifier.Common.Db
import PolyNotifier.Common.Statements
import PolyNotifier.Common.Reference
import PolyNotifier.Alert.Rules
import PolyNotifier.Alert.Engine
import PolyNotifier.Alert.Watch
import PolyNotifier.Alert.Ticking
import PolyNotifier.Alert.Cooldown
import PolyNotifier.Alert.DefaultCooldown
import PolyNotifier.Alert.Prices
import PolyNotifier.Alert.LastPrices
import PolyNotifier.Alert.Crossings
import PolyNotifier.Alert.Refresh
import PolyNotifier.Alert.Consumed
import PolyNotifier.Monitor.Aggregator
import PolyNotifier.Polymarket.Gamma
import PolyNotifier.Polymarket.Ws
import PolyNotifier.Polymarket.Client
import PolyNotifier.Monitor.Manager
import PolyNotifier.Monitor.Backoff
import PolyNotifier.Monitor.Link
import PolyNotifier.Monitor.Service
import PolyNotifier.Monitor.Enrichment
import PolyNotifier.Bot.Api
import PolyNotifier.Bot.Keyboards
import PolyNotifier.Bot.Callbacks
import PolyNotifier.Bot.Dialogues
import PolyNotifier.Bot.Slug
import PolyNotifier.Bot.Handlers
import PolyNotifier.Bot.Rules
import PolyNotifier.Bot.Effects
import PolyNotifier.Bot.Footprint
import PolyNotifier.Bot.Runs
import PolyNotifier.Bot.FirstContact
import PolyNotifier.Bot.Ownership
import PolyNotifier.Bot.Isolation
import PolyNotifier.Bot.Unsubscribe
import PolyNotifier.Bot.SubscribeFlow
import PolyNotifier.Bot.Quota
import PolyNotifier.Bot.Dispatcher
import PolyNotifier.Bot.States
import PolyNotifier.Bot.Outcomes
import PolyNotifier.Bot.FreeTier
import PolyNotifier.Bot.AlertFlow
import PolyNotifier.Bot.Subscribes
import PolyNotifier.Bot.SharedMarkets
import PolyNotifier.Bot.Feedback
import PolyNotifier.Bot.FeedbackRuns
import PolyNotifier.Bot.FeedbackLimit
import PolyNotifier.Bot.Confinement
import PolyNotifier.Notify.Registry
import PolyNotifier.Notify.Service
import PolyNotifier.Notify.RateLimit
import PolyNotifier.Notify.Delivery
import PolyNotifier.Notify.Shutdown
import PolyNotifier.Scheduler.DailySummary
import PolyNotifier.Scheduler.Summaries
import PolyNotifier.Scheduler.Job
import PolyNotifier.Scheduler.PriceColumn
import PolyNotifier.Notify.Markup
import PolyNotifier.Notify.Recipient
import PolyNotifier.Admin.Statements
import PolyNotifier.Admin.Api
import PolyNotifier.Admin.Auth
import PolyNotifier.Admin.Updates
import PolyNotifier.Admin.Reports
import PolyNotifier.Main.Registry
import PolyNotifier.Main.Writes
import PolyNotifier.Main.Process
import PolyNotifier.Main.Schedule
import PolyNotifier.Main.Feed
import PolyNotifier.Main.Justified
import PolyNotifier.Main.Delivered
import PolyNotifier.Main.Caused
import PolyNotifier.Main.Silenced
import PolyNotifier.Main.Panic
import PolyNotifier.Main.Exact
import PolyNotifier.Main.Stopping
import PolyNotifier.Main.Progress
import PolyNotifier.Main.Answered
