import ColumnOrigin.Command.Run
import ColumnOrigin.Proofs.Config

/-!
# Runs of the program

A run reads the environment file, its arguments and its configuration, in this order, and turns to
its task only then. A configuration that gets it that far is valid.
-/

namespace ColumnOrigin.Command
variable {σ : Type}

/-- A run goes on from the state that its first part leaves. -/
theorem run_bind_state {α β : Type} (first : StateM σ α) (next : α → StateM σ β) (s : σ) :
    (first >>= next).run s = (next (first.run s).1).run (first.run s).2 :=
  rfl

/-- What a run starts from. -/
structure Start (σ : Type) where
  files : Files (StateM σ)
  environment : Environment
  isTerminal : Bool
  arguments : List String
  /-- The state of the files. -/
  state : σ

namespace Start
variable (x : Start σ)

def output : Output :=
  ((run x.files x.environment x.isTerminal x.arguments).run x.state).1

/-- The environment with that of the environment file, and the state of the files then. -/
def prepared : Environment × σ := (fullEnvironment x.files x.environment).run x.state

def isColoured : Bool := Command.isColoured x.prepared.1 x.isTerminal

def invocation : Except Halt Invocation :=
  Invocation.ofArguments x.prepared.1[configPathVariable]? x.arguments

/-- The run turns to the task with the configuration `c` and the files in the state `s`. -/
def Reaches (c : Config) (task : Task) (s : σ) : Prop :=
  ∃ i isDefault, x.invocation = .ok i ∧ i.task = task ∧
    (loadConfig x.files i.configPath).run x.prepared.2 = ((.ok c, isDefault), s)

/-- What the run says about the configuration `c` before it turns to its task. -/
def preface (c : Config) : List Line :=
  match x.invocation with
  | .ok i =>
    if i.isVerbose then configLines c ((loadConfig x.files i.configPath).run x.prepared.2).1.2
    else []
  | .error _ => []

end Start

/-- There is a run that the configuration is loaded in. -/
def Loads (c : Config) : Prop :=
  ∃ (σ : Type) (x : Start σ) (task : Task) (s : σ), x.Reaches c task s

/-- The configuration that a file holds, or the default one where there is no file. -/
def configIn : Option ByteArray → Except ConfigError Config
  | some bytes => Config.ofFile (.ok bytes)
  | none => .ok default

section
variable {x : Start σ} {c : Config} {task : Task} {s : σ}

theorem source_of_loadConfig {files : Files (StateM σ)} {path : Option String} {isDefault : Bool}
    {before : σ} (loaded : (loadConfig files path).run before = ((.ok c, isDefault), s)) :
    ∃ bytes, configIn bytes = .ok c := by
  have ofRead {content : Except FileFault ByteArray}
      (read : (Config.ofFile content, false) = (.ok c, isDefault)) :
      ∃ bytes, configIn bytes = .ok c := by
    cases content with
    | error fault => cases read
    | ok bytes => exact ⟨some bytes, (Prod.mk.inj read).1⟩
  cases path with
  | some path => exact ofRead (Prod.mk.inj loaded).1
  | none =>
    -- Without a path, the files decide between the default file and the default configuration.
    rw [loadConfig, StateT.run_bind] at loaded
    change (StateT.run (if ((files.exists? defaultConfigPath).run before).1 then _ else _) _) =
      _ at loaded
    split at loaded
    · exact ofRead (Prod.mk.inj loaded).1
    · cases loaded
      exact ⟨none, rfl⟩

theorem Loads.source (loads : Loads c) : ∃ bytes, configIn bytes = .ok c := by
  obtain ⟨σ, x, task, s, i, isDefault, -, -, loaded⟩ := loads
  exact source_of_loadConfig loaded

theorem Loads.validate (loads : Loads c) : c.validate = .ok () := by
  obtain ⟨bytes, read⟩ := loads.source
  cases bytes with
  | some bytes =>
    have fromFile : Config.ofFile (.ok bytes) = .ok c := read
    exact Config.validate_of_ofFile fromFile
  | none =>
    cases read
    exact Config.validate_default

/-- What a run prints is what its task prints, after its preface. -/
theorem Start.Reaches.output_eq (reaches : x.Reaches c task s) :
    x.output = ((perform x.files c (x.preface c) task).run s).1.output x.isColoured := by
  obtain ⟨i, isDefault, asked, rfl, loaded⟩ := reaches
  have lines : x.preface c = if i.isVerbose then configLines c isDefault else [] := by
    simp only [preface, asked, loaded]
  have invoked : ((invoke x.files i).run x.prepared.2).1 =
      ((perform x.files c (x.preface c) i.task).run s).1 := by
    rw [invoke, StateT.run_bind, loaded, lines]
    rfl
  rw [invocation, prepared] at asked
  rw [output, run, run_bind_state, asked, ← invoked]
  rfl

end

/-! ## Runs next to a configuration -/

/-- A place with no file but the default configuration file, if that. What is written there is
lost. -/
def onlyConfig (bytes : Option ByteArray) : Files (StateM Unit) where
  read path := return match bytes with
    | some bytes => if path = defaultConfigPath then .ok bytes else .error .missing
    | none => .error .missing
  exists? path := return bytes.isSome && path = defaultConfigPath
  write _ _ := return .ok ()

/-- The program is called next to a configuration. -/
def beside (bytes : Option ByteArray) (arguments : List String) : Start Unit where
  files := onlyConfig bytes
  environment := ∅
  isTerminal := false
  arguments
  state := ()

theorem reaches_beside {bytes : Option ByteArray} {c : Config} {arguments : List String}
    {isVerbose : Bool} {task : Task} (read : configIn bytes = .ok c)
    (asked : Invocation.ofArguments none arguments = .ok ⟨none, isVerbose, task⟩) :
    (beside bytes arguments).Reaches c task () := by
  have loaded : (loadConfig (onlyConfig bytes) none).run () = ((.ok c, bytes.isNone), ()) := by
    rw [← read]
    cases bytes <;> rfl
  cases bytes <;> exact ⟨⟨none, isVerbose, task⟩, _, asked, rfl, loaded⟩

/-- There is no terminal. -/
theorem isColoured_beside (bytes : Option ByteArray) (arguments : List String) :
    (beside bytes arguments).isColoured = false := by
  cases bytes <;> rfl

/-- Words that ask for a report. -/
def reportArguments (requested : Option String) : OutputFormat → List String
  | .text => "resolve" :: "--" :: requested.toList
  | .json => "resolve" :: "--format" :: "json" :: "--" :: requested.toList

theorem ofArguments_reportArguments (requested : Option String) (format : OutputFormat) :
    Invocation.ofArguments none (reportArguments requested format) =
      .ok ⟨none, false, .resolve requested format none⟩ := by
  cases format <;> cases requested <;> rfl

/-- Words that ask for columns of a resource. -/
def columnsArguments (resource : String) (columns : List String) : List String :=
  "columns" :: "--" :: resource :: columns

theorem ofArguments_columnsArguments (resource column : String) (columns : List String) :
    Invocation.ofArguments none (columnsArguments resource (column :: columns)) =
      .ok ⟨none, false, .columns resource (column :: columns)⟩ :=
  rfl

/-- Whatever the configuration is, some words that ask for a task start a run that turns to it. -/
theorem Loads.exists_reaches {c : Config} (loads : Loads c) {arguments : List String} {task : Task}
    (asked : Invocation.ofArguments none arguments = .ok ⟨none, false, task⟩) :
    ∃ x : Start Unit, x.Reaches c task () := by
  obtain ⟨bytes, read⟩ := loads.source
  exact ⟨beside bytes arguments, reaches_beside read asked⟩

theorem Loads.exists_start {c : Config} (loads : Loads c) (requested : Option String)
    (format : OutputFormat) :
    ∃ x : Start Unit, x.Reaches c (.resolve requested format none) () :=
  loads.exists_reaches (ofArguments_reportArguments requested format)

theorem Loads.exists_columns {c : Config} (loads : Loads c) (resource column : String)
    (columns : List String) :
    ∃ x : Start Unit, x.Reaches c (.columns resource (column :: columns)) () :=
  loads.exists_reaches (ofArguments_columnsArguments resource column columns)

end ColumnOrigin.Command
