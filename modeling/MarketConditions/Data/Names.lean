import MarketConditions.Data.Basic
import MarketConditions.Page.Life
import MarketConditions.Structure.Ray

/-!
# Names of the market's choices

How timeframes, sides of trades, kinds of swings and rays, and ways to refresh are
named in data.
-/

namespace MarketConditions

instance : Named Timeframe where
  all := [.m1, .m5, .m15, .m30, .h1, .h4, .d1, .w1]
  name
    | .m1 => "M1"
    | .m5 => "M5"
    | .m15 => "M15"
    | .m30 => "M30"
    | .h1 => "H1"
    | .h4 => "H4"
    | .d1 => "D1"
    | .w1 => "W1"

instance : Named Side where
  all := [.buy, .sell]
  name
    | .buy => "B"
    | .sell => "S"

instance : Named Extremity where
  all := [.high, .low]
  name
    | .high => "High"
    | .low => "Low"

instance : Named RayKind where
  all := [.resistance, .support]
  name
    | .resistance => "Resistance"
    | .support => "Support"

instance : Named RefreshMode where
  all := [.rebuild, .inPlace]
  name
    | .rebuild => "Rebuild"
    | .inPlace => "InPlace"

end MarketConditions
