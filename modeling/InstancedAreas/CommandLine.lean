import InstancedAreas.Identity
import InstancedAreas.Text.Digits

/-! The arguments of the command line. Options may stand before, between and
behind the other arguments, each once; a value follows its option as the next
argument, behind an equals sign, or right behind a short option. -/
namespace InstancedAreas.CommandLine

/-- What `simulate` is to do. -/
structure Simulation where
  template : TemplateId
  requests : UInt32
  party : Option PartyId
  expire : Bool
  json : Bool
deriving DecidableEq, Repr

/-- What is to be done with a configuration. -/
inductive Task where
  | check
  | templates
  | simulate (simulation : Simulation)
  | gate (name : String) (state : Option String)
deriving DecidableEq, Repr

/-- The subcommands. -/
inductive Verb where
  | check
  | templates
  | simulate
  | gate
  | version
  | help
deriving DecidableEq, Repr

/-- What the arguments ask for. -/
inductive Command where
  /-- To do something with the configuration of a file, or with the layered
  one. -/
  | run (path : Option String) (task : Task)
  | version
  /-- To print the version of the command alone. -/
  | bareVersion
  /-- To explain a subcommand, or all of them. -/
  | help (verb : Option Verb)
  /-- Nothing: they are not understood. -/
  | misused
deriving DecidableEq, Repr

/-- The options of the subcommands. -/
inductive Choice where
  | template
  | requests
  | party
  | expire
  | json
  | gate
  | state
  | help
deriving DecidableEq, Repr

namespace Choice

/-- Whether an option is followed by a value. -/
def takesValue : Choice → Bool
  | expire | json | help => false
  | template | requests | party | gate | state => true

/-- The option with a long name. -/
def ofName? (verb : Verb) (name : String) : Option Choice :=
  match verb, name with
  | .simulate, "template" => some template
  | .simulate, "requests" => some requests
  | .simulate, "party" => some party
  | .simulate, "expire" => some expire
  | .simulate, "json" => some json
  | .gate, "gate" => some gate
  | .gate, "state" => some state
  | _, "help" => some help
  | _, _ => none

/-- The option with a letter. -/
def ofLetter? (verb : Verb) (letter : Char) : Option Choice :=
  match verb, letter with
  | .simulate, 't' => some template
  | .simulate, 'n' => some requests
  | .gate, 'g' => some gate
  | .gate, 's' => some state
  | _, 'h' => some help
  | _, _ => none

end Choice

/-- How many words a subcommand takes at most. -/
def Verb.mostWords : Verb → Nat
  | .check | .templates | .simulate | .gate => 1
  | .version | .help => 0

/-- A number below a limit, with or without a plus sign. -/
def number? (limit : Nat) (text : String) : Option Nat :=
  let digits := match text.toList with
    | '+' :: rest => rest
    | chars => chars
  (Text.numeral? digits).filter (· < limit)

/-- A number of requests. A zero may have a minus sign. -/
def requests? (text : String) : Option UInt32 :=
  match text.toList with
  | '-' :: digits => ((Text.numeral? digits).filter (· = 0)).map UInt32.ofNat
  | _ => (number? UInt32.size text).map UInt32.ofNat

/-- The number of a party. -/
def party? (text : String) : Option PartyId := (number? UInt64.size text).map UInt64.ofNat

/-- Whether an option can be followed by a value. -/
def Choice.accepts (value : String) : Choice → Bool
  | requests => (requests? value).isSome
  | party => (party? value).isSome
  | template | expire | json | gate | state | help => true

/-- The arguments of a subcommand taken apart, as far as they have been read:
the words, the options with their values, the option that waits for its value,
and whether only words follow. -/
structure Given where
  words : List String
  choices : List (Choice × String)
  awaiting : Option Choice
  wordsOnly : Bool

namespace Given

/-- No arguments. -/
def empty : Given := ⟨[], [], none, false⟩

/-- Whether an option has been read. -/
def has (given : Given) (choice : Choice) : Bool := given.choices.any (·.1 = choice)

/-- The arguments with an option and its value, if the option accepts it. -/
def note? (given : Given) (choice : Choice) (value : String) : Option Given :=
  if choice.accepts value then
    some { given with choices := given.choices ++ [(choice, value)], awaiting := none }
  else none

/-- The arguments with a word, unless it is empty or one too many. -/
def noteWord? (verb : Verb) (given : Given) (word : String) : Option Given :=
  if word.isEmpty || verb.mostWords ≤ given.words.length then none
  else some { given with words := given.words ++ [word] }

end Given

/-- Whether an argument is an option by its look. A lone dash is not. -/
def looksLikeOption (argument : String) : Bool :=
  argument.startsWith "-" && argument != "-"

/-- The parts of a text in front of the first equals sign and behind it. -/
def splitValue (chars : List Char) : List Char × Option (List Char) :=
  let name := chars.takeWhile (· != '=')
  (name, if name.length < chars.length then some (chars.drop (name.length + 1)) else none)

/-- An option as it is written, and the value that is attached to it. Letters
behind one that takes no value are not looked at. -/
def option? (verb : Verb) (argument : String) : Option (Choice × Option String) :=
  match argument.toList with
  | '-' :: '-' :: rest => do
    let (name, value) := splitValue rest
    let choice ← Choice.ofName? verb (String.ofList name)
    some (choice, value.map String.ofList)
  | '-' :: letter :: rest => do
    let choice ← Choice.ofLetter? verb letter
    let attached := match rest with
      | [] => none
      | '=' :: value => some (String.ofList value)
      | value => some (String.ofList value)
    some (choice, if choice.takesValue then attached else none)
  | _ => none

/-- Reads one argument further. Nothing comes of an option that is unknown,
stands twice, lacks its value or has one too many. The wish for help is heard
at once. -/
def Given.step? (verb : Verb) (given : Given) (argument : String) : Option Given :=
  if given.has .help then some given
  else
    match given.awaiting with
    | some choice =>
      if looksLikeOption argument then none else given.note? choice argument
    | none =>
      if given.wordsOnly || !looksLikeOption argument then
        given.noteWord? verb argument
      else if argument = "--" then some { given with wordsOnly := true }
      else
        match option? verb argument with
        | none => none
        | some (choice, attached) =>
          if given.has choice then none
          else
            match choice.takesValue, attached with
            | false, none => given.note? choice ""
            | false, some _ => none
            | true, some value => given.note? choice value
            | true, none => some { given with awaiting := some choice }

/-- Takes the arguments of a subcommand apart. -/
def takeApart (verb : Verb) (arguments : List String) : Option Given :=
  (arguments.foldlM (Given.step? verb) .empty).filter (·.awaiting.isNone)

/-- The command that the arguments of a subcommand make up. -/
def Given.command? (given : Given) (verb : Verb) : Option Command := do
  let value (choice : Choice) : Option String := given.choices.lookup choice
  if (value .help).isSome then return .help (some verb)
  let path := given.words.head?
  match verb with
  | .check => some (.run path .check)
  | .templates => some (.run path .templates)
  | .version => some .version
  | .help => none
  | .simulate => do
    let template ← value .template
    some <| .run path <| .simulate
      { template
        requests := ((value .requests).bind requests?).getD 1
        party := (value .party).bind party?
        expire := (value .expire).isSome
        json := (value .json).isSome }
  | .gate => do
    let name ← value .gate
    some (.run path (.gate name (value .state)))

/-- The subcommand with a name. -/
def Verb.ofName? : String → Option Verb
  | "check" => some .check
  | "templates" => some .templates
  | "simulate" => some .simulate
  | "gate" => some .gate
  | "version" => some .version
  | "help" => some .help
  | _ => none

/-- What `help` explains: all subcommands, or the one that is named. -/
def helpOn : List String → Command
  | [] => .help none
  | [name] => (Verb.ofName? name).elim .misused fun verb => .help (some verb)
  | _ => .misused

/-- The command that all arguments make up. -/
def parse : List String → Command
  | [] => .misused
  | name :: arguments =>
    if name = "--help" ∨ name.startsWith "-h" then .help none
    else if name = "--version" ∨ name.startsWith "-V" then .bareVersion
    else
      match Verb.ofName? name with
      | none => .misused
      | some .help => helpOn arguments
      | some verb => ((takeApart verb arguments).bind (·.command? verb)).getD .misused

end InstancedAreas.CommandLine
