import ColumnOrigin.Dialect.Folding
import ColumnOrigin.Diagnostic
import ColumnOrigin.Names
import ColumnOrigin.Query.FromNode

/-! What the names in scope of a FROM clause stand for. -/

namespace ColumnOrigin

/-- All names are folded. -/
structure Correlations where
  /-- The base table that each correlation name stands for. -/
  aliases : NameMap String
  /-- The names declared inside unsupported constructs. -/
  unresolved : NameSet
  diagnostics : List Diagnostic

namespace Correlations

def none : Correlations := ⟨∅, ∅, []⟩

def unsupportedFrom (kind : String) : Diagnostic where
  code := .sqlUnsupportedFrom
  severity := .warn
  message :=
    "Unsupported " ++ kind ++ " in FROM clause; its columns resolve to the default table"
  subject := some kind

/-- The correlations with those of a node added. The right side of a join comes before the left,
and of two declarations of one name the later added counts. -/
def add (folding : CaseFolding) : FromNode → Correlations → Correlations
  | .base table correlation, c =>
    let name := folding.fold (correlation.getD table)
    { c with aliases := c.aliases.insert name (folding.fold table) }
  | .outerJoin left right, c => add folding left (add folding right c)
  | .unsupported kind declared, c =>
    { c with
      unresolved := declared.foldl (fun s name => s.insert (folding.fold name)) c.unresolved
      diagnostics := c.diagnostics ++ [unsupportedFrom kind] }

/-- The correlations of a FROM clause, item by item. -/
def ofNodes (folding : CaseFolding) (nodes : List FromNode) : Correlations :=
  nodes.foldl (fun c node => add folding node c) none

end Correlations

end ColumnOrigin
