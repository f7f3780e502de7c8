import Scriptlet.Text.Quoted
import Scriptlet.Text.Digit

/-!
# Arguments of the command line

Arguments are options and words. The first word is the file to run. A long option may be cut short
as long as it stays unique, and its value may follow an equals sign. After two dashes everything is
a word.
-/

namespace Scriptlet
namespace CommandLine

/-- The options. -/
inductive Flag where
  | help
  | config
  | check
  | dumpTree
  | logLevel
  deriving DecidableEq, Repr

namespace Flag

/-- The spellings of all options. -/
def spellings : List (String × Flag) :=
  [("-h", .help), ("--help", .help), ("--config", .config), ("--check", .check),
    ("--dump-ast", .dumpTree), ("--log-level", .logLevel)]

/-- Whether an option takes a value. -/
def takesValue : Flag → Bool
  | .config | .logLevel => true
  | .help | .check | .dumpTree => false

/-- What an option is called in messages. -/
def title : Flag → String
  | .help => "-h/--help"
  | .config => "--config"
  | .check => "--check"
  | .dumpTree => "--dump-ast"
  | .logLevel => "--log-level"

/-- The option with a given spelling. -/
def ofSpelling? (spelling : String) : Option Flag :=
  (spellings.find? fun entry => entry.1 == spelling).map Prod.snd

end Flag

/-- What is wrong with arguments. -/
inductive Problem where
  | ambiguous (argument : String) (candidates : List String)
  | missingValue (flag : Flag)
  | ignoredValue (flag : Flag) (value : String)
  | unrecognized (arguments : List String)
  deriving DecidableEq, Repr

/-- The wording of a problem. -/
def Problem.message : Problem → String
  | .ambiguous argument candidates =>
      s!"ambiguous option: {argument} could match " ++ ", ".intercalate candidates
  | .missingValue flag => s!"argument {flag.title}: expected one argument"
  | .ignoredValue flag value =>
      s!"argument {flag.title}: ignored explicit argument {Text.quoted value}"
  | .unrecognized arguments => "unrecognized arguments: " ++ " ".intercalate arguments

/-- What an argument is. -/
inductive Item where
  | word (argument : String)
  /-- Two dashes, after which everything is a word. -/
  | dashes
  /-- An option, perhaps with a value. -/
  | option (flag : Flag) (value : Option String)
  /-- The short option with further letters right behind it. -/
  | cluster (letters : List Char)
  | unknown (argument : String)
  deriving DecidableEq, Repr

/-- The text before the first equals sign and, if there is one, the text after it. -/
def splitValue (argument : List Char) : List Char × Option String :=
  let name := argument.takeWhile (· != '=')
  match argument.drop name.length with
  | [] => (name, none)
  | _ :: value => (name, some (String.ofList value))

/-- Whether an argument is a negative number. -/
def isNegativeNumber : List Char → Bool
  | '-' :: rest =>
      let isDigit (c : Char) : Bool := (Text.digitValue? c).isSome
      let whole := rest.takeWhile isDigit
      match rest.drop whole.length with
      | [] => !whole.isEmpty
      | '.' :: fraction => !fraction.isEmpty && fraction.all isDigit
      | _ => false
  | _ => false

/-- The options that an argument may be short for, with their spellings and values. -/
def candidates (argument : List Char) : List (String × Item) :=
  match argument with
  | '-' :: '-' :: _ =>
      let (name, value) := splitValue argument
      (Flag.spellings.filter fun (spelling, _) => name.isPrefixOf spelling.toList).map
        fun (spelling, flag) => (spelling, .option flag value)
  | '-' :: c :: rest =>
      (Flag.spellings.filter fun (spelling, _) => spelling.toList == ['-', c]).map
        fun (spelling, _) => (spelling, .cluster rest)
  | _ => []

/-- What an argument that starts with a dash is. -/
def dashedItem (argument : String) : Except Problem Item :=
  let letters := argument.toList
  let (name, value) := splitValue letters
  match Flag.ofSpelling? argument with
  | some flag => .ok (.option flag none)
  | none =>
      match value, Flag.ofSpelling? (String.ofList name) with
      | some value, some flag => .ok (.option flag (some value))
      | _, _ =>
          match candidates letters with
          | [(_, item)] => .ok item
          | [] =>
              if isNegativeNumber letters || letters.contains ' ' then .ok (.word argument)
              else .ok (.unknown argument)
          | several => .error (.ambiguous argument (several.map Prod.fst))

/-- What an argument is. -/
def itemOf (argument : String) : Except Problem Item :=
  match argument.toList with
  | '-' :: _ :: _ => dashedItem argument
  | _ => .ok (.word argument)

/-- What the arguments are. -/
def itemsOf : List String → Except Problem (List Item)
  | [] => .ok []
  | "--" :: rest => .ok (.dashes :: rest.map .word)
  | argument :: rest => do
      let item ← itemOf argument
      return item :: (← itemsOf rest)

/-- What the command line asks for. -/
structure Request where
  file : Option String := none
  config : Option String := none
  check : Bool := false
  dumpTree : Bool := false
  logLevel : Option String := none
  deriving DecidableEq, Repr

/-- What to do. -/
inductive Command where
  | help
  | run (request : Request)
  deriving DecidableEq, Repr

/-- Where the file stands among the words. -/
inductive Stage where
  /-- No word has been taken. -/
  | unfilled
  /-- The word before is the file. -/
  | justFilled
  | filled
  deriving DecidableEq, Repr

/-- Checks the letters behind the short option, which ask for help all the same unless they start
with a dash or repeat the option with a value. -/
def checkCluster : List Char → Except Problem Unit
  | [] => .ok ()
  | '-' :: rest => .error (.ignoredValue .help (String.ofList ('-' :: rest)))
  | 'h' :: '=' :: rest => .error (.ignoredValue .help (String.ofList rest))
  | 'h' :: rest => checkCluster rest
  | _ :: _ => .ok ()

/-- Sets an option that takes no value. -/
def Request.mark (request : Request) : Flag → Request
  | .check => { request with check := true }
  | .dumpTree => { request with dumpTree := true }
  | _ => request

/-- Sets an option that takes a value. -/
def Request.record (request : Request) (value : String) : Flag → Request
  | .config => { request with config := some value }
  | .logLevel => { request with logLevel := some value }
  | _ => request

/-- Follows the arguments from left to right; `extras` are those that mean nothing, in reverse. -/
def follow : List Item → Stage → (extras : List String) → Request → Except Problem Command
  | [], _, extras, request =>
      if extras.isEmpty then .ok (.run request) else .error (.unrecognized extras.reverse)
  | .word argument :: rest, .unfilled, extras, request =>
      follow rest .justFilled extras { request with file := some argument }
  | .word argument :: rest, _, extras, request => follow rest .filled (argument :: extras) request
  | .dashes :: rest, .unfilled, extras, request => follow rest .unfilled extras request
  | .dashes :: rest, .justFilled, extras, request => follow rest .filled extras request
  | .dashes :: rest, .filled, extras, request => follow rest .filled ("--" :: extras) request
  | .unknown argument :: rest, stage, extras, request =>
      follow rest (settle stage) (argument :: extras) request
  | .cluster letters :: _, _, _, _ => do
      checkCluster letters
      return .help
  | .option flag value :: rest, stage, extras, request =>
      if flag.takesValue then
        match value, rest with
        | some value, rest => follow rest (settle stage) extras (request.record value flag)
        | none, .word value :: rest => follow rest (settle stage) extras (request.record value flag)
        | none, _ => .error (.missingValue flag)
      else
        match flag, value with
        | .help, none => .ok .help
        | flag, none => follow rest (settle stage) extras (request.mark flag)
        | flag, some value => .error (.ignoredValue flag value)
where
  settle : Stage → Stage
    | .justFilled => .filled
    | stage => stage

/-- What the arguments ask for. -/
def commandOf (arguments : List String) : Except Problem Command := do
  follow (← itemsOf arguments) .unfilled [] {}

end CommandLine
end Scriptlet
