import HaruTrade.Coroutine.Basic
import HaruTrade.Coroutine.Protocol
import HaruTrade.Coroutine.Recording
import HaruTrade.Coroutine.Pool
import HaruTrade.Data.Table
import HaruTrade.Data.Machine
import HaruTrade.Data.Calendar
import HaruTrade.Domain.Models
import HaruTrade.Orders.StateMachine
import HaruTrade.Services.RuntimeState
import HaruTrade.Runtime.World
import HaruTrade.Repositories.Ordering
import HaruTrade.Repositories.Universe
import HaruTrade.Repositories.Candle
import HaruTrade.Runtime.Calls
import HaruTrade.Orders.Service
import HaruTrade.Risk.Engine
import HaruTrade.Services.Trading
import HaruTrade.Loops.LoopA
import HaruTrade.Loops.Moves
import HaruTrade.Loops.Runs
import HaruTrade.Loops.Polls
import HaruTrade.Loops.PollRuns
import HaruTrade.Loops.TrailingStop
import HaruTrade.Book.Lifecycle
import HaruTrade.Book.LostBookings
import HaruTrade.Book.PositionLimit
import HaruTrade.Integrations.Kiwoom
import HaruTrade.Integrations.Schema
import HaruTrade.Integrations.MarketData
import HaruTrade.Core.TimeSync
import HaruTrade.Book.WireQuantity
import HaruTrade.Book.Conservation
import HaruTrade.Loops.PriceOutage
import HaruTrade.Services.EntryLevels
import HaruTrade.Services.EntryFills
import HaruTrade.Domain.Python
import HaruTrade.Strategies.Registry
import HaruTrade.Strategies.Impl
import HaruTrade.Strategies.Windows
import HaruTrade.Backtest.Simulation
import HaruTrade.Backtest.LookAhead
import HaruTrade.Backtest.LongTrade
import HaruTrade.Backtest.Mirror
import HaruTrade.Data.Dict
import HaruTrade.Backtest.Jobs
import HaruTrade.Backtest.JobRuns
import HaruTrade.Backtest.LiveAgreement
import HaruTrade.Loops.LoopB
import HaruTrade.Loops.CandleSync
import HaruTrade.Loops.BarSignals
import HaruTrade.Services.LoopRuntime
import HaruTrade.Services.CycleProtocol
import HaruTrade.Services.Interleaving
import HaruTrade.Book.ConcurrentCloses
import HaruTrade.Services.Permission
import HaruTrade.Services.TradableEntries
import HaruTrade.Services.PausedOrders
import HaruTrade.Services.Auth
import HaruTrade.Services.AuthSessions
import HaruTrade.Services.AuthLimits
import HaruTrade.Data.PyText
import HaruTrade.Data.PyNumber
import HaruTrade.Core.Config
import HaruTrade.Core.ConfigBounds
import HaruTrade.Repositories.Config
import HaruTrade.Services.ConfigService
import HaruTrade.Services.ConfigRace
import HaruTrade.Services.TelegramCommands
import HaruTrade.Services.SafetyFlags
import HaruTrade.Repositories.Performance
import HaruTrade.Services.CashFlows
import HaruTrade.Services.EquityCurve
import HaruTrade.Services.ReturnChain
import HaruTrade.Data.Session
import HaruTrade.Repositories.Symbols
import HaruTrade.Services.UniverseBootstrap
import HaruTrade.Services.Rebalance
import HaruTrade.Services.UniverseMembership
import HaruTrade.Services.ActiveUniverse
import HaruTrade.Data.PriorityQueue
import HaruTrade.Core.RateLimited
import HaruTrade.Core.RateLimitedPriority
import HaruTrade.Core.RateLimitedRuns
import HaruTrade.Core.RateLimitedSpacing
import HaruTrade.Orders.Reports
import HaruTrade.Data.StableSort
import HaruTrade.Risk.ForcedClose
import HaruTrade.Backtest.Direction
import HaruTrade.Backtest.StopFirst
import HaruTrade.Backtest.Fills
import HaruTrade.Backtest.Slippage
import HaruTrade.Backtest.SignalIndices
import HaruTrade.Backtest.JobCompletion
import HaruTrade.Repositories.CandleBatch
import HaruTrade.Integrations.DateTexts
import HaruTrade.Integrations.ChartRows
import HaruTrade.Data.Ordinal
import HaruTrade.Integrations.ChartRequest
import HaruTrade.Integrations.ChartCandles
import HaruTrade.Data.LastKey
import HaruTrade.Loops.SlotRuns
import HaruTrade.Loops.SlotLog
import HaruTrade.Data.Drawdown
import HaruTrade.Backtest.Drawdown
import HaruTrade.Services.ClockSync
import HaruTrade.Services.CurveFlows
import HaruTrade.Services.DetectTwice
import HaruTrade.Services.LiquidityRecompute
import HaruTrade.Services.TrackingTickers
import HaruTrade.Services.DailyReport
import HaruTrade.Backtest.Scheduler
import HaruTrade.Strategies.Exceptions
import HaruTrade.Coroutine.Held
import HaruTrade.Data.History
import HaruTrade.Integrations.Token
import HaruTrade.Integrations.TokenRuns
import HaruTrade.Services.LoopBackground
import HaruTrade.Data.Keyed
import HaruTrade.Services.CandleBackfill
import HaruTrade.Services.CandleBootstrap
import HaruTrade.Services.Maintenance
import HaruTrade.Services.AuthAudit
import HaruTrade.Services.AuthTrail
import HaruTrade.Data.LastByKey
import HaruTrade.Services.KrxSeed
import HaruTrade.Services.UniverseRuns
import HaruTrade.Data.Grouping
import HaruTrade.Services.ConfigRuns
import HaruTrade.Services.StrategyPerformance
