import EntityGate.Gate.ConfigError
import EntityGate.Yaml.Writer

/-!
# Formats of documents

The formats in which a document may be written out.
-/

namespace EntityGate.Document

/-- A format of documents. -/
inductive Format where
  | json
  | yaml
  deriving DecidableEq, Repr, Inhabited

namespace Format

/-- The format of a name, white space around it and the case of its letters aside. -/
def parse (name : String) : Except ConfigError Format :=
  match Text.lowerAscii (Text.trim name) with
  | "json" => .ok .json
  | "yaml" | "yml" => .ok .yaml
  | other => .error (.unsupportedFormat other)

/-- The text of a document. -/
def render (format : Format) (document : Json) : String :=
  match format with
  | .json => document.pretty
  | .yaml => Yaml.write document

end Format

end EntityGate.Document
