import TraversalSdk.Grammar.Basic

namespace TraversalSdk.Grammar
open Checked

def knownMembers : List String := ["name", "rules", "extras", "conflicts", "precedences",
  "externals", "inline", "supertypes", "word"]

def decode : Json → Checked Grammar :=
  object fun ms =>
    Grammar.mk <$> required "name" text ms
      <*> required "rules" (mapping Rule.decode) ms
      <*> defaulted "extras" [] (tuple Rule.decode) ms
      <*> defaulted "conflicts" [] (tuple (tuple text)) ms
      <*> defaulted "precedences" [] (tuple (tuple Rule.decode)) ms
      <*> defaulted "externals" [] (tuple Rule.decode) ms
      <*> defaulted "inline" [] (tuple text) ms
      <*> defaulted "supertypes" [] (tuple text) ms
      <*> defaulted "word" none (nullable text) ms
      <*> .sound (ms.filter fun m => !knownMembers.contains m.1)

def ofJson? (v : Json) : Except Failure Grammar :=
  (decode v).toExcept.mapError (Failure.ofIssues "grammar" .malformedGrammar)

end TraversalSdk.Grammar
