import TileEngine.Config.Basic

/-!
A configuration as a list of settings, one for each of its fields. Settings are
what its text consists of.
-/

namespace TileEngine

/-- The fields of a configuration. -/
inductive ConfigField where
  | assetRoot
  | logFilter
  | waitMillis
  | queueCapacity
  | tickRate
  deriving DecidableEq, Repr

namespace ConfigField

/-- The name of a field in texts. -/
def label : ConfigField → String
  | assetRoot => "asset_root"
  | logFilter => "log_filter"
  | waitMillis => "load_wait_timeout_ms"
  | queueCapacity => "action_queue_capacity"
  | tickRate => "tick_rate_hz"

/-- All fields, in the order of the text. -/
def all : List ConfigField := [assetRoot, logFilter, waitMillis, queueCapacity, tickRate]

/-- The field of a name. -/
def ofName? (name : List Char) : Option ConfigField := all.find? (·.label.toList == name)

end ConfigField

/-- A value for a field. -/
inductive Setting where
  | assetRoot (path : String)
  | logFilter (filter : String)
  | waitMillis (limit : Option UInt64)
  | queueCapacity (count : UInt64)
  | tickRate (hertz : UInt32)
  deriving DecidableEq, Repr

/-- The field of a setting. -/
def Setting.field : Setting → ConfigField
  | assetRoot _ => .assetRoot
  | logFilter _ => .logFilter
  | waitMillis _ => .waitMillis
  | queueCapacity _ => .queueCapacity
  | tickRate _ => .tickRate

namespace Config

/-- Sets one field. -/
def set (c : Config) : Setting → Config
  | .assetRoot path => { c with assetRoot := path }
  | .logFilter filter => { c with logFilter := filter }
  | .waitMillis limit => { c with waitMillis := limit }
  | .queueCapacity count => { c with queueCapacity := count }
  | .tickRate hertz => { c with tickRate := hertz }

/-- The settings of all fields, in the order of the text. -/
def settings (c : Config) : List Setting :=
  [.assetRoot c.assetRoot, .logFilter c.logFilter, .waitMillis c.waitMillis,
    .queueCapacity c.queueCapacity, .tickRate c.tickRate]

/-- What settings make of the standard configuration; no field is set twice. -/
def ofSettings? (settings : List Setting) : Option Config :=
  if (settings.map Setting.field).Nodup then some (settings.foldl set standard) else none

end Config

end TileEngine
