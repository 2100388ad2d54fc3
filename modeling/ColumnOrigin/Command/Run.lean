import ColumnOrigin.Command.Arguments
import ColumnOrigin.Command.ColumnText
import ColumnOrigin.Command.DialectText
import ColumnOrigin.Command.ReportText
import ColumnOrigin.Encoding.Config
import ColumnOrigin.Encoding.Report
import ColumnOrigin.Environment

/-! A run of the program, from its arguments to what it prints. Files are reached through `Files`
alone, so that a run is the same whether they are on disk or in memory. -/

namespace ColumnOrigin.Command

/-- Why a task fails. -/
inductive Failure where
  | config (e : ConfigError)
  | unknownResource (name : String) (known : List String)
  | output (fault : FileFault)
deriving Repr, DecidableEq

namespace Failure

def message : Failure → String
  | .config e => e.message
  | .unknownResource name known =>
    "Resource '" ++ name ++ "' not found in config. Known resources: " ++
      if known.isEmpty then "(none)" else ", ".intercalate known
  | .output fault => fault.text

end Failure

/-- What a run prints, and whether it is a success. -/
structure Outcome where
  isSuccess : Bool
  out : List Line
  err : List Line

/-- A task that fails after some lines about it. -/
def Outcome.failed (err : List Line) (f : Failure) : Outcome where
  isSuccess := false
  out := []
  err := err ++ [[.plain ("Error: " ++ f.message)]]

/-- What a run leaves: the code it exits with, and the texts it prints. -/
structure Output where
  exitCode : Nat
  out : String
  /-- The words about a misuse are not fixed; nothing stands for them. -/
  err : Option String
deriving Repr, DecidableEq

def Outcome.output (o : Outcome) (isColoured : Bool) : Output where
  exitCode := if o.isSuccess then 0 else 1
  out := renderLines isColoured o.out
  err := some (renderLines isColoured o.err)

def versionText : String := "restmeta 0.1.0\n"

def usageText : String :=
  "Usage: restmeta [-c FILE] [-v] resolve [RESOURCE] [-f text|json] [-o FILE]\n" ++
  "       restmeta [-c FILE] [-v] columns RESOURCE COLUMN...\n" ++
  "       restmeta [-c FILE] [-v] dialect\n"

def Output.halted : Halt → Output
  | .misuse => ⟨2, "", none⟩
  | .help => ⟨0, usageText, some ""⟩
  | .version => ⟨0, versionText, some ""⟩

/-- Variables force colours or forbid them; otherwise a terminal decides. -/
def isColoured (env : Environment) (isTerminal : Bool) : Bool :=
  if (env["CLICOLOR_FORCE"]?.getD "0") ≠ "0" then true
  else if env.contains "NO_COLOR" then false
  else isTerminal && env["CLICOLOR"]? ≠ some "0"

/-! ## Tasks -/

/-- The resource of that name. -/
def findResource (c : Config) (name : String) : Except Failure Resource :=
  match c.resource? name with
  | some r => .ok r
  | none => .error (.unknownResource name (c.resources.map (·.name)))

/-- The report on one resource, with the severities that are configured. -/
def reportOn (c : Config) (r : Resource) : ResourceReport :=
  let report := (Resolver.ofResource (.ofDatabase c.database) r).report
  { report with diagnostics := report.diagnostics.map c.severities.apply }

/-- The report on some resources, in their order. -/
def reportOnAll (c : Config) (rs : List Resource) : Report :=
  rs.foldl (fun report r => report.add (reportOn c r)) (.empty c.database)

/-- The report that a task asks for. -/
def requestedReport (c : Config) (resource : Option String) : Except Failure Report :=
  match resource with
  | some name => (findResource c name).map fun r => reportOnAll c [r]
  | none => .ok (reportOnAll c c.resources)

/-- The tables of some columns of a resource, and the diagnostics of its query. -/
def attributeColumns (c : Config) (resource : String) (columns : List String) :
    Except Failure (List ColumnEntry × List Diagnostic) :=
  (findResource c resource).map fun r =>
    let dialect := Dialect.ofDatabase c.database
    let resolver := Resolver.ofResource dialect r
    (columns.map (ColumnEntry.ofColumn dialect r resolver), resolver.diagnostics)

/-- The lines of a report in a format. -/
def formattedReport (r : Report) : OutputFormat → List Line
  | .text => reportLines r
  | .json => [[.plain r.toJson]]

def savedLine (path : String) : Line :=
  [.coloured .green "Report saved to:", .plain (" " ++ path)]

section

variable {m : Type → Type} [Monad m]

/-- Writes the report into a file if a path is given, and says so. -/
def saveReport (files : Files m) (r : Report) : Option String → m (Except FileFault (List Line))
  | none => return .ok []
  | some path => do return (← files.write path r.toJson).map fun _ => [savedLine path]

/-- Does a task; `err` are the lines about it so far. -/
def perform (files : Files m) (c : Config) (err : List Line) : Task → m Outcome
  | .resolve resource format output =>
    match requestedReport c resource with
    | .error f => return .failed err f
    | .ok report => do
      match ← saveReport files report output with
      | .error fault => return .failed err (.output fault)
      | .ok saved => return {
          isSuccess := !report.hasErrors
          out := formattedReport report format
          err := err ++ saved }
  | .columns resource columns =>
    match attributeColumns c resource columns with
    | .error f => return .failed err f
    | .ok (entries, diagnostics) => return {
        isSuccess := true
        out := entries.map ColumnEntry.line
        err := err ++ diagnostics.map noticeLine }
  | .dialect => return {
      isSuccess := true
      out := dialectLines (.ofDatabase c.database)
      err }

/-! ## Runs -/

def environmentFile : String := ".env"

def defaultConfigPath : String := "restmeta.toml"

def configPathVariable : String := "RESTMETA_CONFIG"

/-- The configuration at a path, or else at the default path if there is a file, or else the
default configuration; and whether it is the last. -/
def loadConfig (files : Files m) : Option String → m (Except ConfigError Config × Bool)
  | some path => do return (Config.ofFile (← files.read path), false)
  | none => do
    if ← files.exists? defaultConfigPath then
      return (Config.ofFile (← files.read defaultConfigPath), false)
    else return (.ok default, true)

/-- What is said about the configuration to those who want to know. -/
def configLines (c : Config) (isDefault : Bool) : List Line :=
  (if isDefault then [[.coloured .yellow "No config file found, using defaults"]] else []) ++
    [[.coloured .cyan "Using", .plain (" dialect: " ++ c.database.title)]]

def invoke (files : Files m) (i : Invocation) : m Outcome := do
  match ← loadConfig files i.configPath with
  | (.error e, _) => return .failed [] (.config e)
  | (.ok c, isDefault) =>
    perform files c (if i.isVerbose then configLines c isDefault else []) i.task

/-- The environment with what the environment file adds to it. A file that cannot be read adds
nothing. -/
def fullEnvironment (files : Files m) (env : Environment) : m Environment := do
  match ← files.read environmentFile with
  | .ok bytes => return match String.fromUTF8? bytes with
    | some text => env.load text
    | none => env
  | .error _ => return env

/-- A run of the program. A program that prints to a terminal colours its output. -/
def run (files : Files m) (env : Environment) (isTerminal : Bool) (arguments : List String) :
    m Output := do
  let env ← fullEnvironment files env
  match Invocation.ofArguments env[configPathVariable]? arguments with
  | .error h => return .halted h
  | .ok i => return (← invoke files i).output (isColoured env isTerminal)

end

end ColumnOrigin.Command
