import TileEngine.Config.Setting
import TileEngine.Ron.Value

/-!
Reading a configuration from a RON text. The text is a structure of settings in
any order; a field that is left out keeps its standard value, one that is not
known is passed over, and none may be set twice.
-/

namespace TileEngine

namespace Config

open Ron

/-- The name that may stand in front of the structure. -/
def structureName : String := "EngineConfig"

/-- Reads a limit that may be missing. -/
def readLimit (dialect : Dialect) (cs : List Char) : Option (Option UInt64 × List Char) :=
  let bare (cs : List Char) : Option (Option UInt64 × List Char) :=
    if dialect.contains .implicitSome then
      (readWord 64 cs).map fun (n, rest) => (some n.toUInt64, rest)
    else none
  match readPlain? cs with
  | none => bare cs
  | some (name, rest) =>
    if name.is "None" then some (none, rest)
    else if name.is "Some" then do
      match ← skip rest with
      | '(' :: rest =>
        let (n, rest) ← readWord 64 (← skip rest)
        return (some n.toUInt64, ← expect ')' (← skipComma rest).2)
      | rest => bare rest
    else bare cs

/-- Reads the value of a field. -/
def readValue (dialect : Dialect) (field : ConfigField) (cs : List Char) :
    Option (Setting × List Char) :=
  match field with
  | .assetRoot => (readString cs).map fun (text, rest) => (.assetRoot (String.ofList text), rest)
  | .logFilter => (readString cs).map fun (text, rest) => (.logFilter (String.ofList text), rest)
  | .waitMillis => (readLimit dialect cs).map fun (limit, rest) => (.waitMillis limit, rest)
  | .queueCapacity =>
    (readWord 64 cs).map fun (n, rest) => (.queueCapacity n.toUInt64, rest)
  | .tickRate => (readWord 32 cs).map fun (n, rest) => (.tickRate n.toUInt32, rest)

/-- The levels that are left for the value of a field: the structure takes one,
and the field another. -/
def fieldRoom : Nat := nestingLimit - 2

/-- Reads a field with its name; of an unknown one only the end is found. -/
def readField (dialect : Dialect) (cs : List Char) : Option (Option Setting × List Char) := do
  let (name, rest) ← readName? cs
  let cs ← skip (← expect ':' rest)
  match ConfigField.ofName? name.text with
  | some field => (readValue dialect field cs).map fun (setting, rest) => (some setting, rest)
  | none => (dropAny dialect fieldRoom cs).map fun rest => (none, rest)

/-- Reads the settings up to the closing parenthesis; the first argument bounds
the number of fields. -/
def readSettings (dialect : Dialect) : Nat → List Char → Option (List Setting × List Char)
  | 0, _ => none
  | steps + 1, cs => do
    let cs ← skip cs
    if cs.head? = some ')' then some ([], cs.tail)
    else
      let (setting, rest) ← readField dialect cs
      match ← skipComma rest with
      | (true, rest) =>
        let (more, rest) ← readSettings dialect steps rest
        return (setting.toList ++ more, rest)
      | (false, rest) => return (setting.toList, ← expect ')' rest)

/-- Drops the name of the structure, which may be left out unless the dialect asks
for it. -/
def dropHeading (dialect : Dialect) (cs : List Char) : Option (List Char) :=
  match readName? cs with
  | some (name, rest) => if name.text = structureName.toList then some rest else none
  | none => if dialect.contains .explicitStructNames then none else some cs

/-- The configuration that a text describes. -/
def ofRon? (text : String) : Option Config := do
  let (dialect, cs) ← readDialect text.toList
  let cs ← expect '(' (← dropHeading dialect cs)
  let (settings, rest) ← readSettings dialect (cs.length + 1) cs
  if (← skip rest).isEmpty then ofSettings? settings else none

/-- The configuration of a text, or why there is none. -/
def parse (text : String) : Except ConfigError Config :=
  match ofRon? text with
  | some c => .ok c
  | none => .error .malformed

/-- The configuration in a file of text, given what the file holds if it is there. -/
def load (path : String) (content : Option (List UInt8)) : Except ConfigError Config :=
  match content.bind Text.decode? with
  | some text => parse text
  | none => .error (.unreadable path)

end Config

end TileEngine
