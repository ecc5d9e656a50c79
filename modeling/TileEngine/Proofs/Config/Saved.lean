import TileEngine.Config.Reader
import TileEngine.Config.Writer
import TileEngine.Proofs.Ron.Written
import TileEngine.Proofs.Text.Utf8

/-!
A configuration that is saved is read back. Each setting has a line of its own, which is read as
that setting whatever its value; the lines of any settings are therefore read as these settings, and
those of a configuration say all there is about it.
-/

namespace TileEngine

open Ron

variable {dialect : Dialect} {rest : List Char} {settings : List Setting}

namespace ConfigField

theorem label_cons (field : ConfigField) :
    ∃ c word, field.label.toList = c :: word ∧ PlainWord c word := by
  cases field <;>
    exact ⟨_, _, rfl, by decide, by decide, by decide, by decide, by decide⟩

theorem ofName?_label (field : ConfigField) : ofName? field.label.toList = some field := by
  cases field <;> rfl

end ConfigField

theorem readLimit_none (stops : Stops Text.continuesIdentifier rest) :
    Config.readLimit dialect ("None".toList ++ rest) = some (none, rest) := by
  have name : readPlain? ("None".toList ++ rest) = some (⟨"None".toList, false⟩, rest) :=
    readPlain?_word (by decide) (by decide) stops
  rw [Config.readLimit, name]
  rfl

theorem readLimit_some (limit : UInt64) :
    Config.readLimit dialect ("Some(".toList ++ ((toString limit.toNat).toList ++ ')' :: rest)) =
      some (some limit, rest) := by
  obtain ⟨c, more, digits, solid⟩ := toString_cons limit.toNat
  have open_solid : Solid '(' := by decide
  have close_solid : Solid ')' := by decide
  have number : readWord 64 ((toString limit.toNat).toList ++ ')' :: rest) =
      some (limit.toNat, ')' :: rest) :=
    readWord_toString limit.toNat_lt (stops_cons (by decide))
  rw [digits, List.cons_append] at number ⊢
  have name : readPlain? ('S' :: ("ome".toList ++ '(' :: c :: (more ++ ')' :: rest))) =
      some (⟨"Some".toList, false⟩, '(' :: c :: (more ++ ')' :: rest)) :=
    readPlain?_word (by decide) (by decide) (stops_cons (by decide))
  have word : "Some(".toList ++ c :: (more ++ ')' :: rest) =
      'S' :: ("ome".toList ++ '(' :: c :: (more ++ ')' :: rest)) := rfl
  rw [word, Config.readLimit, name]
  simp [Name.is, skip_solid open_solid, skip_solid solid, number, skipComma_solid close_solid,
    expect_solid close_solid]

namespace Setting

variable (s : Setting)

/-- No value starts with a blank or a comment. -/
theorem valueText_cons : ∃ c more, s.valueText.toList = c :: more ∧ Solid c := by
  have quoted (text : String) :
      ∃ c more, (Text.quote true text).toList = c :: more ∧ Solid c :=
    ⟨'"', _, String.toList_ofList, by decide⟩
  cases s with
  | assetRoot path => exact quoted path
  | logFilter filter => exact quoted filter
  | waitMillis limit =>
    cases limit with
    | none => exact ⟨'N', _, rfl, by decide⟩
    | some limit =>
      rw [valueText, String.append_assoc, String.toList_append]
      exact ⟨'S', _, rfl, by decide⟩
  | queueCapacity count => exact toString_cons count.toNat
  | tickRate hertz => exact toString_cons hertz.toNat

theorem readValue_valueText (stops : Stops Text.continuesIdentifier rest) :
    Config.readValue dialect s.field (s.valueText.toList ++ rest) = some (s, rest) := by
  cases s with
  | assetRoot path =>
    simp only [field, valueText, Config.readValue, readString_quote, Option.map_some,
      String.ofList_toList]
  | logFilter filter =>
    simp only [field, valueText, Config.readValue, readString_quote, Option.map_some,
      String.ofList_toList]
  | waitMillis limit =>
    cases limit with
    | none => simp only [field, valueText, Config.readValue, readLimit_none stops, Option.map_some]
    | some limit =>
      have written : (valueText (.waitMillis (some limit))).toList ++ rest =
          "Some(".toList ++ ((toString limit.toNat).toList ++ ')' :: rest) := by
        simp [valueText]
      simp only [field, written, Config.readValue, readLimit_some, Option.map_some]
  | queueCapacity count =>
    have fits : count.toNat < 1 <<< 64 := count.toNat_lt
    simp only [field, valueText, Config.readValue, readWord_toString fits stops, Option.map_some,
      Nat.toUInt64_eq, UInt64.ofNat_toNat]
  | tickRate hertz =>
    have fits : hertz.toNat < 1 <<< 32 := hertz.toNat_lt
    simp only [field, valueText, Config.readValue, readWord_toString fits stops, Option.map_some,
      Nat.toUInt32_eq, UInt32.ofNat_toNat]

theorem readField_line (stops : Stops Text.continuesIdentifier rest) :
    Config.readField dialect (s.field.label.toList ++ ':' :: ' ' :: (s.valueText.toList ++ rest)) =
      some (some s, rest) := by
  obtain ⟨c, word, label, plain⟩ := s.field.label_cons
  obtain ⟨first, more, value, solid⟩ := s.valueText_cons
  have colon : Solid ':' := by decide
  have found := s.field.ofName?_label
  have read : Config.readValue dialect s.field (s.valueText.toList ++ rest) = some (s, rest) :=
    s.readValue_valueText stops
  rw [value, List.cons_append] at read ⊢
  have name : readName? (c :: (word ++ ':' :: ' ' :: first :: (more ++ rest))) =
      some (⟨c :: word, false⟩, ':' :: ' ' :: first :: (more ++ rest)) :=
    readName?_word plain (stops_cons (by decide))
  rw [label] at found ⊢
  have blank : isBlank ' ' = true := by decide
  rw [List.cons_append, Config.readField, name]
  simp [expect_solid colon, skip_blank blank, skip_solid solid, found, read]

theorem line_append : s.line.toList ++ rest = ' ' :: ' ' ::
    (s.field.label.toList ++ ':' :: ' ' :: (s.valueText.toList ++ ',' :: '\n' :: rest)) := by
  simp [line]

/-- Behind its indent, a line starts with its label. -/
theorem skip_line : skip (s.line.toList ++ rest) =
    some (s.field.label.toList ++ ':' :: ' ' :: (s.valueText.toList ++ ',' :: '\n' :: rest)) := by
  obtain ⟨c, word, label, plain⟩ := s.field.label_cons
  have blank : isBlank ' ' = true := by decide
  rw [line_append, skip_blank blank, skip_blank blank, label, List.cons_append,
    skip_solid plain.solid]

end Setting

namespace Config

/-- Lines of settings, and the closing parenthesis behind them. -/
def closedLines (settings : List Setting) (rest : List Char) : List Char :=
  settings.flatMap (·.line.toList) ++ ')' :: rest

theorem closedLines_cons (s : Setting) :
    closedLines (s :: settings) rest = s.line.toList ++ closedLines settings rest := by
  simp [closedLines]

theorem skip_closedLines (settings : List Setting) (rest : List Char) :
    ∃ start, skip (closedLines settings rest) = some start ∧ skip start = some start := by
  cases settings with
  | nil =>
    have solid : Solid ')' := by decide
    exact ⟨_, skip_solid solid, skip_solid solid⟩
  | cons s settings =>
    obtain ⟨c, word, label, plain⟩ := s.field.label_cons
    rw [closedLines_cons, s.skip_line, label]
    exact ⟨_, rfl, skip_solid plain.solid⟩

/-- The lines of settings are read as these settings. What is read depends on the text only from its
first character that is no blank. -/
theorem readSettings_lines {steps : Nat} {cs : List Char} (enough : settings.length < steps)
    (same : skip cs = skip (closedLines settings rest)) :
    readSettings dialect steps cs = some (settings, rest) := by
  induction settings generalizing steps cs with
  | nil =>
    obtain ⟨steps, rfl⟩ := Nat.exists_eq_succ_of_ne_zero (Nat.ne_of_gt enough)
    have solid : Solid ')' := by decide
    rw [readSettings, same, closedLines, List.flatMap_nil, List.nil_append, skip_solid solid]
    rfl
  | cons s settings ih =>
    obtain ⟨steps, rfl⟩ := Nat.exists_eq_succ_of_ne_zero (Nat.ne_of_gt (Nat.zero_lt_of_lt enough))
    obtain ⟨c, word, label, plain⟩ := s.field.label_cons
    have close : c ≠ ')' := by
      rintro rfl
      exact absurd plain.starts (by decide)
    obtain ⟨start, found, settled⟩ := skip_closedLines settings rest
    have more := ih (Nat.lt_of_succ_lt_succ enough) (settled.trans found.symm)
    have field : readField dialect (s.field.label.toList ++ ':' :: ' ' :: (s.valueText.toList ++
        ',' :: '\n' :: closedLines settings rest)) =
          some (some s, ',' :: '\n' :: closedLines settings rest) :=
      s.readField_line (stops_cons (by decide))
    have comma : skipComma (',' :: '\n' :: closedLines settings rest) = some (true, start) := by
      rw [skipComma_comma, skip_blank (by decide), found]
      rfl
    rw [closedLines_cons, s.skip_line] at same
    rw [readSettings, same, Option.bind_eq_bind, Option.bind_some, if_neg (by simp [label, close]),
      field, Option.bind_eq_bind, Option.bind_some]
    simp [comma, more]

theorem length_le_closedLines (settings : List Setting) (rest : List Char) :
    settings.length ≤ (closedLines settings rest).length := by
  have nonempty (s : Setting) : s.line.toList ≠ [] := by simp [Setting.line]
  have longer := length_le_flatMap nonempty settings
  rw [closedLines, List.length_append]
  omega

/-- A text that starts with the parenthesis of a structure has no attributes and no heading. -/
theorem open_bare :
    readDialect ('(' :: rest) = some ([], '(' :: rest) ∧
      dropHeading [] ('(' :: rest) = some ('(' :: rest) := by
  have solid : Solid '(' := by decide
  constructor
  · simp [readDialect, readAttributes, skip_solid solid]
  · have unnamed : readName? ('(' :: rest) = none := by
      rw [readName?_plain (by decide) (by decide)]
      rfl
    rw [dropHeading, unnamed]
    rfl

/-- What is made of the lines of settings is what is made of the settings. -/
theorem ofRon?_lines (settings : List Setting) :
    ofRon? ("(\n" ++ String.join (settings.map Setting.line) ++ ")") = ofSettings? settings := by
  have text : ("(\n" ++ String.join (settings.map Setting.line) ++ ")").toList =
      '(' :: '\n' :: closedLines settings [] := by
    simp [closedLines, List.flatMap_map]
  have solid : Solid '(' := by decide
  have enough : settings.length < ('\n' :: closedLines settings []).length + 1 := by
    have longer := length_le_closedLines settings []
    rw [List.length_cons]
    omega
  have read : readSettings [] (('\n' :: closedLines settings []).length + 1)
      ('\n' :: closedLines settings []) = some (settings, []) :=
    readSettings_lines enough (skip_blank (by decide))
  rw [ofRon?, text, open_bare.1, Option.bind_eq_bind, Option.bind_some]
  simp only [open_bare.2, expect_solid solid, read, Option.bind_eq_bind, Option.bind_some]
  rfl

/-- The settings of a configuration say all there is about it. -/
theorem ofSettings?_settings (c : Config) : ofSettings? c.settings = some c := by
  have distinct : (c.settings.map Setting.field).Nodup := by
    simp [settings, Setting.field]
  rw [ofSettings?, if_pos distinct]
  rfl

theorem ofRon?_toRon (c : Config) : ofRon? c.toRon = some c := by
  rw [toRon, ofRon?_lines, ofSettings?_settings]

/-- A configuration that is written as a text is read back from it, whatever characters its texts
hold. -/
theorem parse_toRon (c : Config) : parse c.toRon = .ok c := by
  rw [parse, ofRon?_toRon]

/-- A configuration is loaded from the file that it was saved to. -/
theorem load_saved (path : String) (c : Config) :
    load path (some (Text.encode c.toRon)) = .ok c := by
  rw [load, Option.bind_some, Text.decode?_encode]
  dsimp only
  rw [parse, ofRon?_toRon]

end Config

end TileEngine
