import RecordFilter.Command.Usage

/-!
# Options and arguments of a command line

An option is written with its long name, its value behind a sign of equality or as the next
argument, or with its letter; letters can be joined.  What is no option is a positional argument.
Two dashes end the options, and so does the first positional argument where a command follows.
-/

namespace RecordFilter

structure Arguments where
  given : List (CommandOption × String)
  positional : List String
  deriving DecidableEq, Repr

namespace Arguments

def empty : Arguments := ⟨[], []⟩

def addOption (a : Arguments) (option : CommandOption) (value : String) : Arguments :=
  { a with given := (option, value) :: a.given }

def addFlags (a : Arguments) (options : List CommandOption) : Arguments :=
  { a with given := options.map (·, "") ++ a.given }

def addPositional (a : Arguments) (argument : String) : Arguments :=
  { a with positional := argument :: a.positional }

def has (a : Arguments) (option : CommandOption) : Bool := (a.given.lookup option).isSome

def count (a : Arguments) (option : CommandOption) : Nat :=
  (a.given.filter (·.1 = option)).length

def values (a : Arguments) (option : CommandOption) : List String :=
  (a.given.filter (·.1 = option)).map (·.2)

def value? (a : Arguments) (option : CommandOption) : Option String := (a.values option).getLast?

def options (a : Arguments) : List CommandOption := (a.given.map (·.1)).eraseDups

end Arguments

/-- An argument that is read as an option: letters of flags, or an option by its long name, with a
value if it has one attached. -/
inductive OptionText
  | flags (options : List CommandOption)
  | named (option : CommandOption) (value : Option String)

def looksLikeOption (argument : String) : Bool :=
  argument.toList.head? == some '-' && argument.length > 1

def findLetter (allowed : List CommandOption) (c : Char) : Except UsageProblem CommandOption :=
  match allowed.find? (·.letter? == some c) with
  | some option => .ok option
  | none => .error (.unknownOption (String.ofList ['-', c]) [])

def splitAtEquals (text : List Char) : List Char × Option (List Char) :=
  let name := text.takeWhile (· != '=')
  match text.drop name.length with
  | [] => (name, none)
  | _ :: value => (name, some value)

def longNames (allowed : List CommandOption) : List String := allowed.filterMap (·.longName?)

def readOption (allowed : List CommandOption) (argument : String) :
    Except UsageProblem OptionText :=
  let (name, value) := splitAtEquals argument.toList
  let name := String.ofList name
  match allowed.find? (·.longName? == some name) with
  | some option =>
      if !option.takesValue && value.isSome then .error (.unexpectedValue name)
      else .ok (.named option (value.map String.ofList))
  | none =>
      if argument.startsWith "--" then
        .error (.unknownOption name (Text.suggestions name (longNames allowed)))
      else (argument.toList.tail.mapM (findLetter allowed)).map .flags

/-- Reads a command line; where a command follows, all from the first positional argument on is
left to it. -/
def readArguments (allowed : List CommandOption) (commandFollows : Bool) :
    List String → Except UsageProblem Arguments
  | [] => .ok .empty
  | argument :: rest =>
      if argument == "--" then .ok ⟨[], rest⟩
      else if looksLikeOption argument then do
        match ← readOption allowed argument, rest with
        | .flags options, rest =>
            let arguments ← readArguments allowed commandFollows rest
            return arguments.addFlags options
        | .named option (some value), rest =>
            let arguments ← readArguments allowed commandFollows rest
            return arguments.addOption option value
        | .named option none, rest =>
            if !option.takesValue then
              let arguments ← readArguments allowed commandFollows rest
              return arguments.addOption option ""
            else
              match rest with
              | [] => .error (.missingValue argument)
              | value :: rest =>
                  let arguments ← readArguments allowed commandFollows rest
                  return arguments.addOption option value
      else if commandFollows then .ok ⟨[], argument :: rest⟩
      else do
        let arguments ← readArguments allowed commandFollows rest
        return arguments.addPositional argument

end RecordFilter
