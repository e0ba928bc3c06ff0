import TraversalSdk.Source.Value
import TraversalSdk.Text.Lines

namespace TraversalSdk.Source
open Text

inductive Step
  | line (text : String)
  | blank (count : Nat)
  | docstring (text : String)
  | indented (steps : List Step)
  | block (header : String) (steps : List Step)

def indentation (depth : Nat) : String := String.ofList (List.replicate (4 * depth) ' ')

/-- Empty lines carry no indentation. -/
def lineAt (depth : Nat) (s : String) : String := if s.isEmpty then "" else indentation depth ++ s

def tripleQuote : String := "\"\"\""

/-- A description of several lines has an empty line behind the first and its end on its own line. -/
def docLines (s : String) : List String :=
  match (splitLines (proseChars s.toList)).map String.ofList with
  | [] => [tripleQuote ++ tripleQuote]
  | [first] => [tripleQuote ++ first ++ tripleQuote]
  | first :: rest => (tripleQuote ++ first) :: "" :: rest ++ [tripleQuote]

namespace Step

mutual

/-- The lines that a step adds at a depth. -/
def lines (depth : Nat) : Step → List String
  | line s => [lineAt depth s]
  | blank n => List.replicate n ""
  | docstring s => (docLines s).map (lineAt depth)
  | indented steps => allLines (depth + 1) steps
  | block header steps => lineAt depth (header ++ ":") :: allLines (depth + 1) steps

def allLines (depth : Nat) : List Step → List String
  | [] => []
  | s :: steps => lines depth s ++ allLines depth steps

end

def ofLines (l : List String) : List Step := l.map line

end Step

/-- How every module begins. -/
def header (grammar summary : String) : List Step :=
  [.line ("# Generated by treant from the " ++ grammar ++ " grammar. Do not edit."),
    .docstring summary, .blank 1, .line "from __future__ import annotations", .blank 1]

end TraversalSdk.Source
