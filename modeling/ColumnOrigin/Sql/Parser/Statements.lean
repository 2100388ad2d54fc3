import ColumnOrigin.Sql.Parser.Rules

/-! Lists of statements: whole texts, and the bodies of procedures. -/

namespace ColumnOrigin.Sql.Parser

def semicolons : Parser Bool :=
  iterate (fun (_ : Bool) => do
    if ← symbol? ";" then return some true
    else return none) false

/-- Statements with semicolons between them; empty ones do not count. The word END after a
statement ends the list. -/
def statements (r : Rules) : Parser (List Statement) := do
  let (found, _) ← iterate (fun (found, needsSemicolon) => do
    let separated ← semicolons
    let needsSemicolon := needsSemicolon && !separated
    match ← peek with
    | none => return none
    | some t =>
      if needsSemicolon then
        if keywordOf (some t) == "END" then return none
        else refuse
      else return some ((← r.statement) :: found, true)) ([], false)
  return found.reverse

end ColumnOrigin.Sql.Parser
