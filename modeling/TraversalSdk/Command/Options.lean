import TraversalSdk.Command.Numeral
import TraversalSdk.Order

namespace TraversalSdk

structure GenerateOptions where
  grammarDir : String
  output : Option String
  lead : Option String
  noLead : Bool
  name : Option String
  concatMode : String
  clean : Option Bool
  deriving DecidableEq

structure InspectOptions where
  grammarDir : String
  node : Option String
  deriving DecidableEq

inductive Command
  | help
  | version
  | generate (options : GenerateOptions)
  | inspect (options : InspectOptions)
  deriving DecidableEq

namespace Command

/-- Options that take a value and options that take none, with the names of what they set, and those
of the latter that may be left open. -/
structure OptionSet where
  valued : List (String × String)
  flags : List (String × String)
  openFlags : List String

def generateSet : OptionSet where
  valued := [("--output", "output"), ("-o", "output"), ("--prefix", "lead"), ("--name", "name"),
    ("--concat-mode", "mode"), ("--grammar-dir", "directory")]
  flags := [("--no-prefix", "no lead"), ("--clean", "clean")]
  openFlags := ["clean"]

def inspectSet : OptionSet where
  valued := [("--node", "node"), ("--grammar-dir", "directory")]
  flags := []
  openFlags := []

/-- Negative numbers are no options. The letter of imaginary numbers is one. -/
def isOption (word : String) : Bool :=
  word.toList.head? == some '-' && (word == "-j" || word == "-J" || !Numeral.isNumber word)

/-- The option in a word, and the value behind an equals sign. An underscore counts as a hyphen. -/
def splitEquals (word : String) : String × Option String :=
  let cs := word.toList
  let option := (cs.takeWhile (· != '=')).map fun c => if c == '_' then '-' else c
  (String.ofList option, (cs.dropWhile (· != '=')).tail?.map String.ofList)

/-- A short option and the value that is attached to it. -/
def splitAttached (word : String) : String × String :=
  (String.ofList (word.toList.take 2), String.ofList (word.toList.drop 2))

def flagWord? (word : String) : Option String :=
  let low := word.toLower
  if ["true", "yes", "y", "t", "1"].contains low then some "true"
  else if ["false", "no", "n", "f", "0"].contains low then some "false"
  else none

/-- The value of a flag. One that may be left open can be set to nothing, which counts as false. -/
def flagValue? (set : OptionSet) (key value : String) : Option String :=
  if set.openFlags.contains key && ["none", "null"].contains value.toLower then some "false"
  else flagWord? value

/-- What a word sets by itself: the key, and the value unless that is the next word. -/
def setting? (set : OptionSet) (word : String) : Option (String × Option String) :=
  if word.toList.head? != some '-' then some ("directory", some word)
  else
    let (option, given) := splitEquals word
    match lookup option set.valued, lookup option set.flags, given with
    | some key, _, given => some (key, given)
    | none, some key, none => some (key, some "true")
    | none, some key, some value => (flagValue? set key value).map fun flag => (key, some flag)
    | none, none, _ =>
      let (short, attached) := splitAttached word
      if !isOption word then some ("directory", some word)
      else (lookup short set.valued).map fun key => (key, some attached)

/-- What the words set, in order; `none` if one is unknown or lacks its value. -/
def settings? (set : OptionSet) : List String → Option (List (String × String))
  | [] => some []
  | word :: words => match setting? set word with
    | none => none
    | some (key, some value) => ((key, value) :: ·) <$> settings? set words
    | some (key, none) => match words with
      | value :: words =>
        if isOption value then none else ((key, value) :: ·) <$> settings? set words
      | [] => none

/-- The words before a double dash, and those behind it. -/
def splitWords (words : List String) : List String × List String :=
  (words.takeWhile (· != "--"), (words.dropWhile (· != "--")).drop 1)

/-- Nothing may be set twice. -/
def uniqueSettings? (set : OptionSet) (words : List String) : Option (List (String × String)) :=
  let (before, behind) := splitWords words
  let found := (settings? set before).map (· ++ behind.map fun word => ("directory", word))
  found.filter fun found => (firstRepeated? (found.map (·.1))).isNone

def concatModes : List String := ["pascal", "camel", "kebab", "snake"]

def generate? (words : List String) : Option Command := do
  let found ← uniqueSettings? generateSet words
  let directory ← lookup "directory" found
  let mode := (lookup "mode" found).getD "pascal"
  if concatModes.contains mode then
    some (.generate {
      grammarDir := directory
      output := lookup "output" found
      lead := lookup "lead" found
      noLead := lookup "no lead" found = some "true"
      name := lookup "name" found
      concatMode := mode
      clean := (lookup "clean" found).map (· == "true") })
  else none

def inspect? (words : List String) : Option Command := do
  let found ← uniqueSettings? inspectSet words
  return .inspect ⟨← lookup "directory" found, lookup "node" found⟩

def isHelp (word : String) : Bool := word == "--help" || word == "-h"

def isVersion (word : String) : Bool := word == "--version"

/-- Help and the version can be asked for anywhere among the words of a command. -/
def unlessAsked (words : List String) (command : Option Command) : Option Command :=
  let before := (splitWords words).1
  if before.any isHelp then some .help
  else if before.any isVersion then some .version
  else command

/-- Words that name no command. Beside one that asks for help only such a word may open them. -/
def general? (words : List String) : Option Command :=
  let before := (splitWords words).1
  let rest := match words with
    | word :: rest => if isHelp word || isVersion word then rest else words
    | [] => []
  if before.any isHelp then if (rest.eraseP isHelp).isEmpty then some .help else none
  else if before.any isVersion then some .version
  else if words.isEmpty then some .help
  else none

/-- The command that the words ask for; `none` if they are wrong. -/
def ofWords? : List String → Option Command
  | "generate" :: rest | "gen" :: rest => unlessAsked rest (generate? rest)
  | "inspect" :: rest => unlessAsked rest (inspect? rest)
  | words => general? words

end Command

end TraversalSdk
