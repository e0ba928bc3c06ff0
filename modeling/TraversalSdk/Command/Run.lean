import TraversalSdk.Command.Options
import TraversalSdk.Command.Settings
import TraversalSdk.Command.Logging
import TraversalSdk.Command.Markup
import TraversalSdk.Storage.Load
import TraversalSdk.Storage.Write
import TraversalSdk.Analysis.Shape
import TraversalSdk.Analysis.Nullable
import TraversalSdk.Analysis.Containment
import TraversalSdk.Analysis.Cycles

namespace TraversalSdk

/-- A table by its columns, each with its heading first. -/
structure Table where
  title : String
  columns : List (List String)

/-- The table as it is shown. -/
def Table.shown (t : Table) : Table :=
  ⟨Markup.shown t.title, t.columns.map fun column => column.map Markup.shown⟩

inductive Printed
  | line (s : String)
  | table (t : Table)

structure Response where
  exit : Nat
  printed : List Printed

namespace Response

/-- Shows lines of marked-up text. -/
def ofLines (exit : Nat) (lines : List String) : Response :=
  ⟨exit, lines.map fun s => .line (Markup.shown s)⟩

def ofTables (tables : List Table) : Response := ⟨0, tables.map fun t => .table t.shown⟩

/-- A line that starts with the name of the program. -/
def signed (words : String) : String := "[bold green]treant[/bold green] " ++ words

def suggestionLines : List String → List String
  | [] => []
  | suggestions =>
    "[yellow]Suggestions:[/yellow]" :: suggestions.map fun s => "  • " ++ Markup.escape s

def fatal (message : String) : Response :=
  ofLines 1 [signed ("[bold red]Fatal error: " ++ Markup.escape message ++ "[/bold red]")]

def ofFailure (e : Failure) : Response :=
  let r := e.report
  if r.category.isExpected then
    ofLines 1 (signed ("[red]Error: " ++ Markup.escape r.headline ++ "[/red]")
      :: suggestionLines r.suggestions)
  else fatal r.message

/-- Settings that cannot be read end every command. -/
def ofRefusal : Settings.Refusal → Response
  | .notText fault => fatal fault.message
  | .malformed issues =>
    let n := issues.length
    fatal (toString n ++ " validation error" ++ (if n = 1 then "" else "s") ++ " for TreantSettings")

end Response

/-- An SDK that a command has made and wants written. -/
structure Delivery where
  output : Output
  target : Path
  clean : Bool

namespace Delivery

def announcement (d : Delivery) (written : Nat) : Response :=
  .ofLines 0 [Response.signed ("[green]Generated " ++ Markup.escape d.output.spaceName ++ " ("
    ++ toString written ++ " files) in " ++ Markup.escape d.target.text ++ "[/green]")]

def deliver (f : Files) (d : Delivery) : Files × Response :=
  match f.writeOutput d.target d.output.artifacts d.clean with
  | (f, .error e) => (f, .ofFailure e)
  | (f, .ok written) => (f, d.announcement written.length)

end Delivery

namespace Command

def delivery (f : Files) (settings : Settings) (o : GenerateOptions) : Except Failure Delivery := do
  let config := NamespaceConfig.options o.lead o.noLead o.name o.concatMode
  let output ← Sdk.generate (← Built.load f (Path.ofText o.grammarDir)) (some config)
  return {
    output := output
    target := (o.output.map Path.ofText).getD settings.outputDir
    clean := o.clean.getD settings.cleanOutput }

def targetWord : Option NodeRef → String
  | some r => Markup.escape r.shown
  | none => "∅"

def landingCell (l : Landing) : String := ", ".intercalate (l.targets.map targetWord)

def navigationTable (rows : List Row) : Table where
  title := "Navigation"
  columns := ("Node type" :: rows.map (Markup.escape ·.node.type))
    :: Direction.all.map fun d => d.method :: rows.map fun row => landingCell (row.landing d)

/-- Counts of a grammar, each under its label. -/
def summaryRows (b : Built) (root : String) : List (String × String) :=
  let c := b.catalogue
  let rules := b.grammar.rules
  let count := fun k => toString (textsOf c.tokenTexts k).length
  [("Root rule", Markup.escape root),
    ("Named node types", toString c.concrete.length),
    ("Supertypes", toString c.supertypes.length),
    ("Anonymous tokens", toString c.anonymous.length ++ " (" ++ count .punctuation
      ++ " punctuation, " ++ count .operator ++ " operators, " ++ count .keyword ++ " keywords)"),
    ("Semantic groupings", toString (groupings rules).length),
    ("Sequences", toString (sequences rules).length),
    ("Nullable rules", toString (nullableRules rules).length),
    ("Recursive cycles", toString (Cycles.find ⟨c.childrenTable⟩).length)]

def summaryTable (b : Built) (root : String) : Table where
  title := "Grammar " ++ Markup.escape b.name
  columns := ["" :: (summaryRows b root).map (·.1), "" :: (summaryRows b root).map (·.2)]

/-- The built grammar, its graph, and its root rule. -/
def survey (f : Files) (directory : String) : Except Failure (Built × Graph × String) := do
  let b ← Built.load f (Path.ofText directory)
  let graph ← Graph.build b.catalogue (some (← b.grammar.startRule))
  return (b, graph, ← b.grammar.rootRule)

def inspectFrom (f : Files) (o : InspectOptions) : Response :=
  match survey f o.grammarDir with
  | .error e => .ofFailure e
  | .ok (b, graph, root) =>
    match o.node with
    | none => .ofTables [summaryTable b root, navigationTable graph.rows]
    | some node => match graph.row? ⟨node, true⟩ with
      | some row => .ofTables [navigationTable [row]]
      | none => .ofLines 1 [Response.signed ("[red]Error: " ++ Markup.escape node
          ++ " is not a named, concrete node type of the " ++ Markup.escape b.name
          ++ " grammar[/red]")]

def versionText : String := "0.1.0"

/-- The variables file in the working directory. -/
def variablesFile (f : Files) : ByteArray := (f.bytes (Path.ofText ".env")).toOption.getD ⟨#[]⟩

/-- What a command line leads to, before anything is written. -/
inductive Outcome
  | answer (r : Response)
  | write (d : Delivery)

def generated (f : Files) (settings : Settings) (o : GenerateOptions) : Outcome :=
  match delivery f settings o with
  | .ok d => .write d
  | .error e => .answer (.ofFailure e)

end Command

end TraversalSdk
