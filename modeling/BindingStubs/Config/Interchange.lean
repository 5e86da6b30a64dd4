import BindingStubs.Config.Basic
import BindingStubs.Json.Record

namespace BindingStubs

/-!
# Configurations as JSON

A configuration is written as an object of all its settings.  When it is read, settings that
are absent are empty.
-/

/-- A setting as JSON. -/
def Setting.encode : Setting → Json
  | .texts items => .ofStrings items
  | .text value => .ofOption value
  | .count (some value) => .ofNat value
  | .count none => .null
  | .flag (some value) => .bool value
  | .flag none => .null

namespace Config

/-- A configuration as JSON. -/
def encode
    (config : Config) :
    Json :=
  .object (config.settings.map fun setting => (setting.1, setting.2.encode))

/-- The settings of a JSON record. -/
def jsonSource
    (record : Json.Record) :
    SettingSource :=
  { texts := fun name => record.defaulted name [] (Json.list? Json.string?)
    text := fun name => record.defaulted name none (Json.Record.nullable Json.string?)
    count := fun name => record.defaulted name none (Json.Record.nullable (Json.below? (Width.limit 64)))
    flag := fun name => record.defaulted name none (Json.Record.nullable Json.bool?) }

/-- Read a configuration from a JSON value. -/
def ofJson?
    (value : Json) :
    Option Config := do
  let record ← Json.record? names value
  ofSource? (jsonSource record)

end Config

end BindingStubs
