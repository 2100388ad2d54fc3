import ColumnOrigin.Dialect.Basic
import ColumnOrigin.Diagnostic
import ColumnOrigin.Files.Basic
import ColumnOrigin.Names
import ColumnOrigin.Text.Blank

/-! Configuration: the database, the resources with their queries, and severities that replace the
built-in ones. -/

namespace ColumnOrigin

/-- A query whose columns are to be attributed, and the table for those that cannot be. -/
structure Resource where
  name : String
  query : String
  /-- The default table. -/
  table : String
  /-- The schema of its tables. -/
  database : Option String := none
deriving Repr, DecidableEq

/-- Severities by the text of a code. -/
structure SeverityOverrides where
  overrides : NameMap Severity

namespace SeverityOverrides

instance : Inhabited SeverityOverrides := ⟨⟨∅⟩⟩

def severity (s : SeverityOverrides) (code : DiagnosticCode) (builtIn : Severity) : Severity :=
  s.overrides.getD code.text builtIn

/-- The diagnostic with the severity that is configured for its code. -/
def apply (s : SeverityOverrides) (d : Diagnostic) : Diagnostic :=
  { d with severity := s.severity d.code d.severity }

end SeverityOverrides

structure Config where
  database : Database
  severities : SeverityOverrides
  resources : List Resource

/-- Why there is no configuration. -/
inductive ConfigError where
  | unreadable (fault : FileFault)
  /-- The text is not a configuration. -/
  | malformed
  | duplicateName (name : String)
  | blankTable (name : String)
deriving Repr, DecidableEq

namespace ConfigError

/-- The words about a malformed text are not fixed; an ellipsis stands for them. -/
def message : ConfigError → String
  | .unreadable fault => "IO error: " ++ fault.text
  | .malformed => "Parse error: ..."
  | .duplicateName name => "Invalid resource '" ++ name ++ "': duplicate resource name"
  | .blankTable name => "Invalid resource '" ++ name ++ "': table must not be empty"

end ConfigError

namespace Config

instance : Inhabited Config := ⟨⟨default, default, []⟩⟩

def resource? (c : Config) (name : String) : Option Resource :=
  c.resources.find? (·.name == name)

/-- The first fault of the resources, given the names before them. -/
def checkResources (seen : NameSet) : List Resource → Except ConfigError Unit
  | [] => .ok ()
  | r :: rest =>
    if seen.contains r.name then .error (.duplicateName r.name)
    else if Text.isAllBlank r.table then .error (.blankTable r.name)
    else checkResources (seen.insert r.name) rest

/-- Names are unique and no default table is blank. -/
def validate (c : Config) : Except ConfigError Unit := checkResources ∅ c.resources

end Config

end ColumnOrigin
