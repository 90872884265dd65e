import PureService.Yaml.Reading

/-!
# Configurations from text

The text of a project configuration is YAML.
-/

namespace PureService.ProjectConfig

open Decoding

def ofText (text : String) : Except Yaml.Failure ProjectConfig :=
  Yaml.decode text Source.project

end PureService.ProjectConfig
