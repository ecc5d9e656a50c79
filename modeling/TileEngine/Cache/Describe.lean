import TileEngine.Cache.Basic
import TileEngine.Text.Quoted

/-!
Diagnostic texts of handles and of the cache.
-/

namespace TileEngine

/-- The word for a truth value. -/
def boolWord (b : Bool) : String := if b then "true" else "false"

namespace Cache

/-- The text of a handle, given the full name of its kind. -/
def describeHandle (c : Cache) (h : Handle) (kindName : String) : String :=
  match c.entry? h with
  | none => "ResourcePtr(null)"
  | some b =>
    "ResourcePtr \x7b name: " ++ Text.quote false b.key.name ++ ", type: " ++ kindName ++
      ", refs: " ++ toString b.refs ++ ", loaded: " ++ boolWord (c.isLoaded h) ++ " \x7d"

/-- The text of a limit that may be missing. -/
def describeLimit : Option Duration → String
  | none => "None"
  | some d => "Some(" ++ d.describe ++ ")"

/-- The text of the cache. -/
def describe (c : Cache) : String :=
  "ResourceManager \x7b resources: " ++ toString c.len ++ ", loaders: " ++
    toString c.loaders.length ++
    ", settings: ResourceManagerSettings \x7b load_wait_timeout: " ++
    describeLimit c.waitLimit ++ " \x7d \x7d"

end Cache

end TileEngine
