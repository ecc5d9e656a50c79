import TileEngine.Duration

/-!
The configuration of an engine: where resources are found, what is logged, how
long a load is waited for, how many actions may be pending, and how often the
engine ticks.
-/

namespace TileEngine

/-- What an engine is started with. -/
structure Config where
  assetRoot : String
  logFilter : String
  waitMillis : Option UInt64
  queueCapacity : UInt64
  tickRate : UInt32
  deriving DecidableEq, Repr

namespace Config

/-- What holds where nothing else is said. -/
def standard : Config := ⟨"assets", "info", none, 254, 60⟩

instance : Inhabited Config := ⟨standard⟩

/-- The time between two ticks; at a rate of zero there is none. -/
def tickInterval (c : Config) : Duration := Duration.secondOver c.tickRate.toNat

/-- How long a load is waited for. -/
def waitLimit (c : Config) : Option Duration := c.waitMillis.map Duration.ofMillis

end Config

/-- Why a configuration could not be had. -/
inductive ConfigError where
  | unreadable (path : String)
  | malformed
  deriving DecidableEq, Repr

/-- The wording of a configuration error. -/
def ConfigError.message : ConfigError → String
  | .unreadable path => s!"Failed to read engine configuration '{path}'"
  | .malformed => "Failed to parse engine configuration"

end TileEngine
