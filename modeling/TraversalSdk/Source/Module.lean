import TraversalSdk.Source.Writer

namespace TraversalSdk.Source
open Text

inductive Stmt
  | gap (count : Nat)
  | importModule (name : String)
  | importNames (source : String) (names : List String)
  | importSpread (source : String) (names : List String)
  | importAs (source name bound : String)
  | assign (name annotation : String) (value : Value)
  | table (name annotation : String) (rows : List (String × Value))
  | define (name : String) (steps : List Step)
  | exportTuple (names : List String)
  | exportLine (names : List String)
  | exportSpread (names : List String)

/-- A declared name, with its type if one is written. -/
def declared (name annotation : String) : String :=
  if annotation.isEmpty then name else name ++ ": " ++ annotation

def tableRow (row : String × Value) : Step := .line (literal row.1 ++ ": " ++ row.2.source ++ ",")

def spread (opening : String) (lines : List String) : List Step :=
  [.line (opening ++ "("), .indented (Step.ofLines (lines.map (· ++ ","))), .line ")"]

namespace Stmt

def steps : Stmt → List Step
  | gap n => [.blank n]
  | importModule name => [.line ("import " ++ name)]
  | importNames source names =>
    [.line ("from " ++ source ++ " import " ++ ", ".intercalate names)]
  | importSpread source names => spread ("from " ++ source ++ " import ") names
  | importAs source name bound =>
    [.line ("from " ++ source ++ " import " ++ name ++ " as " ++ bound)]
  | assign name annotation value =>
    [.line (declared name annotation ++ " = " ++ value.source)]
  | table name annotation [] =>
    [.line (declared name annotation ++ " = MappingProxyType(\x7b\x7d)")]
  | table name annotation rows =>
    [.line (declared name annotation ++ " = MappingProxyType("),
      .indented [.line "\x7b", .indented (rows.map tableRow), .line "\x7d"], .line ")"]
  | define _ steps => steps
  | exportTuple names => [.line ("__all__ = " ++ tupleText (names.map literal))]
  | exportLine names => [.line ("__all__ = (" ++ ", ".intercalate (names.map literal) ++ ",)")]
  | exportSpread names => spread "__all__ = " (names.map literal)

/-- The names that a statement makes known in its module. -/
def binds : Stmt → List String
  | importModule name => [name]
  | importNames _ names | importSpread _ names => names
  | importAs _ _ bound => [bound]
  | assign name _ _ | table name _ _ | define name _ => [name]
  | _ => []

/-- Names and the module that they come from. -/
def imported? : Stmt → Option (String × List String)
  | importNames source names | importSpread source names => some (source, names)
  | importAs source name _ => some (source, [name])
  | _ => none

def exported : Stmt → List String
  | exportTuple names | exportLine names | exportSpread names => names
  | _ => []

end Stmt

/-- Export lists stand at the end, two lines below the rest. -/
def exporting (names : List String) : List Stmt := [.gap 2, .exportTuple names]

/-- A source module as data: which names it imports, which it binds, and which it exports. The text is made
from the data, so that what is known of the data holds of the text. -/
structure Module where
  grammar : String
  summary : String
  stmts : List Stmt

namespace Module

def text (m : Module) : String :=
  render (header m.grammar m.summary ++ m.stmts.flatMap Stmt.steps)

def binds (m : Module) : List String := m.stmts.flatMap Stmt.binds

def imports (m : Module) : List (String × List String) := m.stmts.filterMap Stmt.imported?

def exports (m : Module) : List String := m.stmts.flatMap Stmt.exported

end Module

end TraversalSdk.Source
