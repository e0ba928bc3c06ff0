import TraversalSdk.Casing
import TraversalSdk.Order

namespace TraversalSdk.Titles

/-- A record, its fields, and for each field the name under which it is written elsewhere. -/
structure RecordName where
  name : String
  fields : List (String × Option String)

def plainRecord (name : String) (fields : List String) : RecordName :=
  ⟨name, fields.map fun f => (f, none)⟩

def records : List RecordName := [
  plainRecord "SymbolRule" ["type", "name"],
  plainRecord "StringRule" ["type", "value"],
  plainRecord "PatternRule" ["type", "value", "flags"],
  plainRecord "BlankRule" ["type"],
  plainRecord "SeqRule" ["type", "members"],
  plainRecord "ChoiceRule" ["type", "members"],
  plainRecord "RepeatRule" ["type", "content"],
  plainRecord "Repeat1Rule" ["type", "content"],
  plainRecord "FieldRule" ["type", "name", "content"],
  plainRecord "AliasRule" ["type", "content", "named", "value"],
  plainRecord "TokenRule" ["type", "content"],
  plainRecord "ImmediateTokenRule" ["type", "content"],
  plainRecord "PrecRule" ["type", "value", "content"],
  plainRecord "PrecLeftRule" ["type", "value", "content"],
  plainRecord "PrecRightRule" ["type", "value", "content"],
  plainRecord "PrecDynamicRule" ["type", "value", "content"],
  plainRecord "GrammarDocument" ["name", "rules", "extras", "conflicts", "precedences", "externals",
    "inline", "supertypes", "word"],
  plainRecord "TypeRef" ["type", "named"],
  plainRecord "ChildSpec" ["multiple", "required", "types"],
  plainRecord "NodeTypeDescriptor" ["type", "named", "root", "extra", "fields", "children",
    "subtypes"],
  plainRecord "GrammarAnalysis" ["grammar_name", "named_nodes", "anonymous_nodes", "rule_names",
    "child_relationships", "parent_relationships", "semantic_groupings", "sequences",
    "nullable_rules", "root_rule"],
  plainRecord "BuiltGrammar" ["grammar", "node_types", "grammar_source", "node_types_source",
    "parser_binary", "path"],
  ⟨"NamespaceConfig", [("prefix", none), ("name", none), ("concat_mode", some "concatMode")]⟩,
  plainRecord "GeneratedArtifact" ["path", "content"],
  plainRecord "GeneratorOutput" ["namespace", "grammar_name", "artifacts"],
  plainRecord "TreantSettings" ["log_level", "rich_logging", "output_dir", "clean_output"],
  plainRecord "BasedModel" []]

/-- Removes a word from a name wherever it stands. -/
def removeFrom (n : Nat) (word cs : List Char) : List Char :=
  match n, cs with
  | 0, cs => cs
  | _, [] => []
  | n + 1, c :: rest =>
    if word.isPrefixOf (c :: rest) then removeFrom n word ((c :: rest).drop word.length)
    else c :: removeFrom n word rest

def withoutModel (name : String) : String :=
  String.ofList (removeFrom name.toList.length "Model".toList name.toList)

def recordTitle (name : String) : String := Casing.title (withoutModel name)

def fieldTitle (field : String × Option String) : String := Casing.sentence (field.2.getD field.1)

def record? (name : String) : Option RecordName := records.find? fun r => r.name == name

end TraversalSdk.Titles
