import MarketConditions.Configuration
import MarketConditions.Data.Codec
import MarketConditions.Data.Json
import MarketConditions.Data.Names
import MarketConditions.Expr.Evaluation
import MarketConditions.Page.Schedule
import MarketConditions.Page.Source
import MarketConditions.Proofs.Page.Chronicle
import MarketConditions.Proofs.Page.Events
import MarketConditions.Proofs.Page.Lifecycle
import MarketConditions.Proofs.Page.Refreshes
import MarketConditions.Proofs.Column.Causal
import MarketConditions.Proofs.Indicator.Causal
import MarketConditions.Proofs.Structure.Swings
import MarketConditions.Proofs.Structure.Rays
import MarketConditions.Proofs.Indicator.Prefix
import MarketConditions.Proofs.Expr.Related
import MarketConditions.Proofs.Library.LookAhead
import MarketConditions.Proofs.Market.Cut
import MarketConditions.Proofs.Page.Preview
import MarketConditions.Proofs.Scalar.Float
import MarketConditions.Proofs.Indicator.Outputs
import MarketConditions.Proofs.Expr.Typing
import MarketConditions.Proofs.Library.Memo
import MarketConditions.Proofs.Page.Steps
import MarketConditions.Proofs.Cache.Views
import MarketConditions.Proofs.Cache.Events
import MarketConditions.Proofs.Cache.Counting
import MarketConditions.Proofs.Page.Hearing
import MarketConditions.Proofs.Cache.Turns
import MarketConditions.Proofs.Cache.Annals
import MarketConditions.Proofs.Cache.Sharing
import MarketConditions.Proofs.Cache.Joining
import MarketConditions.Proofs.Page.Telling
import MarketConditions.Proofs.Cache.Heard
import MarketConditions.Proofs.Cache.Mail
import MarketConditions.Proofs.Cache.Refreshing
import MarketConditions.Proofs.Cache.Returning
import MarketConditions.Proofs.Scalar.Order
import MarketConditions.Proofs.Indicator.Windows
import MarketConditions.Proofs.Expr.RangeFunctions
import MarketConditions.Proofs.Expr.Failing
import MarketConditions.Proofs.Market.Stored
import MarketConditions.Proofs.Market.Buckets
import MarketConditions.Proofs.Market.OrderFlow
import MarketConditions.Proofs.Market.Alignment
import MarketConditions.Proofs.Scalar.Totals
import MarketConditions.Proofs.Auction.ValueArea
import MarketConditions.Proofs.Auction.Profile
import MarketConditions.Proofs.Auction.Footprint
import MarketConditions.Proofs.Library.LaterTrades
import MarketConditions.Proofs.Scalar.Exact
import MarketConditions.Proofs.Column.Warmup
import MarketConditions.Proofs.Indicator.Warmup
import MarketConditions.Proofs.Library.FirstBars
import MarketConditions.Proofs.Indicator.Counts
import MarketConditions.Proofs.Page.Parameters
import MarketConditions.Proofs.Expr.Calls
import MarketConditions.Proofs.Library.Accounts
import MarketConditions.Proofs.Data.Written
import MarketConditions.Proofs.Structure.Peaks
import MarketConditions.Proofs.Structure.Hull
import MarketConditions.Proofs.Data.RoundTrip
import MarketConditions.Proofs.Structure.Breaks
import MarketConditions.Proofs.Structure.Detection
import MarketConditions.Proofs.Structure.Chains
import MarketConditions.Proofs.Structure.SkipZone
import MarketConditions.Proofs.Structure.Latest
import MarketConditions.Proofs.Scalar.Negation
import MarketConditions.Proofs.Structure.Mirror
import MarketConditions.Proofs.Indicator.Gaps
import MarketConditions.Proofs.Indicator.Trend
import MarketConditions.Proofs.Indicator.Averages
import MarketConditions.Proofs.Indicator.MiddleBand
import MarketConditions.Proofs.Indicator.Oscillators
import MarketConditions.Proofs.Expr.Definable
import MarketConditions.Proofs.Auction.Sessions
import MarketConditions.Proofs.Indicator.Absorption
import MarketConditions.Proofs.Text.Quoted
import MarketConditions.Proofs.Text.Decimal
import MarketConditions.Proofs.Text.Shortest
import MarketConditions.Proofs.Page.KeyText
