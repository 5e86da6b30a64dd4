import BindingStubs.Config.Basic
import BindingStubs.FileTree
import BindingStubs.Yaml.Reader

namespace BindingStubs

/-!
# Reading configurations

A configuration file is YAML.  Settings that are not known are passed over, a known one may
stand only once, and one that is absent is empty.  Relative paths in a file are taken
relative to the directory of the file.
-/

namespace Config

/-- The known settings of a YAML mapping; every key must be a scalar. -/
def knownEntries? : List (Yaml × Yaml) → Option (List (String × Yaml))
  | [] => some []
  | (key, value) :: rest =>
      match key.text?, knownEntries? rest with
      | some name, some others =>
          if !names.contains name then some others
          else if (others.lookup name).isSome then none
          else some ((name, value) :: others)
      | _, _ => none

/-- An optional YAML value. -/
def optionalYaml?
    {Value : Type}
    (decode : Yaml → Option Value)
    (value : Yaml) :
    Option (Option Value) :=
  if value.isAbsent then some none else (decode value).map some

/-- The settings of a YAML mapping. -/
def yamlSource
    (entries : List (String × Yaml)) :
    SettingSource :=
  { texts := fun name =>
      match entries.lookup name with
      | some value => value.items?.bind fun items => items.mapM Yaml.text?
      | none => some []
    text := fun name =>
      match entries.lookup name with
      | some value => optionalYaml? Yaml.text? value
      | none => some none
    count := fun name =>
      match entries.lookup name with
      | some value => optionalYaml? Yaml.nat? value
      | none => some none
    flag := fun name =>
      match entries.lookup name with
      | some value => optionalYaml? Yaml.bool? value
      | none => some none }

/-- Read a configuration from YAML text. -/
def ofYaml?
    (text : String) :
    Option Config := do
  let document ← Yaml.read? text
  let entries ← document.entries?
  let known ← knownEntries? entries
  ofSource? (yamlSource known)

/-- The configuration with relative paths taken from a directory. -/
def rebased
    (config : Config)
    (base : String) :
    Config :=
  { config with
    inputs := config.inputs.map (FilePath.join base)
    includeDirectories := config.includeDirectories.map (FilePath.join base)
    imports := config.imports.map (FilePath.join base)
    outputDirectory := config.outputDirectory.map (FilePath.join base)
    artifact := config.artifact.map (FilePath.join base)
    precompiled := config.precompiled.map (FilePath.join base)
    cacheDirectory := config.cacheDirectory.map (FilePath.join base) }

/-- Read a configuration file. -/
def ofFile
    (files : FileTree)
    (path : String) :
    Except Failure Config :=
  match files.read path with
  | .error error => .error ((Failure.ofOs error).withNote ("reading configuration " ++ path))
  | .ok text =>
      match ofYaml? text with
      | none =>
          .error (Failure.withNote { cause := .malformedYaml } ("parsing configuration " ++ path))
      | some config =>
          match FilePath.parent? path with
          | some base => .ok (if base.isEmpty then config else config.rebased base)
          | none => .ok config

/-- The names of configuration files that are looked for. -/
def fileNames : List String := ["stubsmith.yaml", ".stubsmith.yaml"]

/-- The first configuration file in a directory. -/
def discover?
    (files : FileTree)
    (directory : String) :
    Option String :=
  (fileNames.map (FilePath.join directory)).find? files.isFile

end Config

end BindingStubs
