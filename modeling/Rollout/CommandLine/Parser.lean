import Rollout.CommandLine.Option
import Rollout.Text.Blank
import Rollout.Text.Quoted
import Rollout.Text.Similarity

/-!
# Reading the command line

The words of a command line are gone through from left to right. A word with a dash names an option:
by its long name, with the value behind an equals sign or in the next word; or by its letter, with
the value in the rest of the word or in the next word. Two dashes end the options. All other words
are extra.
-/

namespace Rollout.CommandLine

/-- What is wrong with a command line. -/
inductive Misuse where
  /-- An option lacks its value. -/
  | needsArgument (name : String)
  /-- A flag is given a value. -/
  | takesNoValue (name : String)
  /-- There is no such option, but perhaps similar ones. -/
  | unknownOption (name : String) (similar : List String)
  /-- The value of an option is not one that it takes. -/
  | invalidValue (hint text : String)
  /-- There are words beside the options. -/
  | extraArguments (words : List String)
deriving DecidableEq, Repr

namespace Misuse

/-- A text between quotes. -/
def quote (text : String) : String := String.ofList (Text.quoted text.toList)

/-- The offer of similar options. -/
def offer : List String → String
  | [] => ""
  | [name] => " Did you mean " ++ quote name ++ "?"
  | names => " (Did you mean one of: " ++ ", ".intercalate (names.map quote) ++ "?)"

/-- The wording of a misuse. -/
def message : Misuse → String
  | needsArgument name => "Option " ++ quote name ++ " requires an argument."
  | takesNoValue name => "Option " ++ quote name ++ " does not take a value."
  | unknownOption name similar => "No such option " ++ quote name ++ "." ++ offer similar
  | invalidValue hint text => "Invalid value for " ++ hint ++ ": " ++ text
  | extraArguments words =>
    "Got unexpected extra argument" ++ (if words.length = 1 then "" else "s") ++ " ("
      ++ " ".intercalate words ++ ")"

/-- Tells whether a misuse is shown together with the usage of the command. -/
def showsUsage : Misuse → Bool
  | needsArgument _ => false
  | takesNoValue _ => false
  | _ => true

/-- The usage of the command. -/
def usage : String := "Usage: cli [OPTIONS]\nTry 'cli --help' for help.\n\n"

/-- A misuse as it is shown. -/
def shown (misuse : Misuse) : String :=
  (if misuse.showsUsage then usage else "") ++ "Error: " ++ misuse.message ++ "\n"

end Misuse

/-- What a word of the command line is. -/
inductive Word where
  /-- The end of the options. -/
  | endOfOptions
  /-- A word beside the options. -/
  | extra
  /-- An option by one of its names, with the value that stands in the word. -/
  | named (name : String) (parameter : Parameter) (value : Option String)
  /-- The name of no option. -/
  | unknown (name : String)

/-- What a word that starts with a dash is, by its letter. -/
def readLetter (letter : Char) (rest : List Char) : Word :=
  let name := "-" ++ String.singleton letter
  match Parameter.ofLetter? letter with
  | some parameter =>
    .named name parameter (if rest.isEmpty then none else some (String.ofList rest))
  | none => .unknown name

/-- What a word is. -/
def readWord (word : String) : Word :=
  match word.toList with
  | ['-', '-'] => .endOfOptions
  | '-' :: c :: rest =>
    let (name, value) : String × Option String :=
      match Text.splitFirst? '=' word.toList with
      | some (name, value) => (String.ofList name, some (String.ofList value))
      | none => (word, none)
    match Parameter.ofLongName? name with
    | some parameter => .named name parameter value
    | none => if c = '-' then .unknown name else readLetter c rest
  | _ => .extra

/-- The options on a command line, in order, and the words beside them. -/
structure Arguments where
  /-- The options that are given, with the values of those that are no flags. -/
  given : List (Parameter × String) := []
  /-- The words beside the options. -/
  extra : List String := []

/-- The options that are similar to a name. -/
def similarOptions (name : String) : List String :=
  ((Text.similarWords 3 name.toList
    (Parameter.declared.map fun parameter => parameter.longName.toList)).mergeSort
      Text.atMost).map String.ofList

/-- The misuse of a name of no option. -/
def unknownOption (name : String) : Misuse :=
  .unknownOption name (if "--".toList.isPrefixOf name.toList then similarOptions name else [])

/-- Goes through words, behind those that gave the known arguments. -/
def readWords (known : Arguments) : List String → Except Misuse Arguments
  | [] => .ok known
  | word :: rest =>
    let give (parameter : Parameter) (value : String) : Arguments :=
      { known with given := known.given ++ [(parameter, value)] }
    match readWord word with
    | .endOfOptions => .ok { known with extra := known.extra ++ rest }
    | .extra => readWords { known with extra := known.extra ++ [word] } rest
    | .unknown name => .error (unknownOption name)
    | .named name parameter value =>
      if parameter.isFlag then
        match value with
        | some _ => .error (.takesNoValue name)
        | none => readWords (give parameter "") rest
      else
        match value, rest with
        | some value, rest => readWords (give parameter value) rest
        | none, next :: rest => readWords (give parameter next) rest
        | none, [] => .error (.needsArgument name)

/-- Reads a command line. -/
def Arguments.read (words : List String) : Except Misuse Arguments := readWords {} words

namespace Arguments

/-- Tells whether an option is given. -/
def has (arguments : Arguments) (parameter : Parameter) : Bool :=
  arguments.given.any fun entry => entry.1 = parameter

/-- The value that is given to an option last. -/
def value? (arguments : Arguments) (parameter : Parameter) : Option String :=
  arguments.given.reverse.lookup parameter

/-- The options in the order in which they are settled: those that are given, in the order in which
they are given first, and then the others as they are declared. -/
def settleOrder (arguments : Arguments) : List Parameter :=
  (arguments.given.map (·.1)).eraseDups
    ++ Parameter.declared.filter fun parameter => !arguments.has parameter

end Arguments

end Rollout.CommandLine
