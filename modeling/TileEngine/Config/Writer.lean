import TileEngine.Config.Setting
import TileEngine.Text.Quoted

/-!
Writing a configuration as a RON text: a line for each field between parentheses.
-/

namespace TileEngine

/-- The text of the value of a setting. -/
def Setting.valueText : Setting → String
  | assetRoot text | logFilter text => Text.quote true text
  | waitMillis none => "None"
  | waitMillis (some limit) => "Some(" ++ toString limit.toNat ++ ")"
  | queueCapacity count => toString count.toNat
  | tickRate hertz => toString hertz.toNat

/-- The line of a setting. -/
def Setting.line (s : Setting) : String := "  " ++ s.field.label ++ ": " ++ s.valueText ++ ",\n"

/-- The text of a configuration. -/
def Config.toRon (c : Config) : String :=
  "(\n" ++ String.join (c.settings.map Setting.line) ++ ")"

end TileEngine
