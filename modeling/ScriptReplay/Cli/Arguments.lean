import ScriptReplay.Cli.Usage

/-!
# Options and arguments

Taking the options out of a command line. An option may have its value behind an equals sign or as
the next argument, whatever that looks like. Two dashes alone end the options. A command either takes
options anywhere or only before its first argument.
-/

namespace ScriptReplay.Cli

/-- The value that an option takes. -/
inductive OptionKind
  | flag
  | text
  | choice (values : List String)
  deriving Repr, DecidableEq

/-- An option of a command. -/
structure Switch where
  name : String
  kind : OptionKind
  deriving Repr, DecidableEq

/-- A command: its name on the command line, what follows the name, its options and their help, and
whether options may follow an argument. -/
structure Command where
  name : String
  synopsis : String
  options : List Switch
  anywhere : Bool
  help : String

/-- What a command line gives: the options in their order, with their values, and the arguments. -/
structure Given where
  options : List (String × String) := []
  arguments : List String := []
  deriving Repr, DecidableEq

namespace Given

/-- Puts an option in front. -/
def withOption (given : Given) (name value : String) : Given :=
  { given with options := (name, value) :: given.options }

/-- Puts an argument in front. -/
def withArgument (given : Given) (argument : String) : Given :=
  { given with arguments := argument :: given.arguments }

/-- Whether an option is given. -/
def has (given : Given) (name : String) : Bool :=
  given.options.any (·.1 == name)

/-- The value of an option, the last if it is given several times. -/
def value? (given : Given) (name : String) : Option String :=
  given.options.reverse.lookup name

end Given

/-- Whether an argument has the form of an option. -/
def isOption (argument : String) : Bool :=
  argument.toList.head? == some '-' && 1 < argument.length

/-- The name of an option and the value behind an equals sign, if there is one. -/
def splitValue (argument : String) : String × Option String :=
  let chars := argument.toList
  let name := String.ofList (chars.takeWhile (· != '='))
  match chars.dropWhile (· != '=') with
  | [] => (name, none)
  | _ :: value => (name, some (String.ofList value))

namespace Command

/-- The error for an option that a command does not have. Behind a single dash only the first letter
counts. -/
def unknownOption (command : Command) (argument : String) : UsageError :=
  if "--".toList.isPrefixOf argument.toList then
    let name := (splitValue argument).1
    .noSuchOption name (Text.suggestions name (command.options.map (·.name)))
  else .noSuchOption (String.ofList (argument.toList.take 2)) []

/-- The option that an argument names. -/
def option? (command : Command) (argument : String) : Option Switch :=
  command.options.find? (·.name == (splitValue argument).1)

/-- Takes the options out of a command line. -/
def parse (command : Command) : List String → Except UsageError Given
  | [] => .ok {}
  | argument :: rest =>
    if argument == "--" then .ok { arguments := rest }
    else if !isOption argument then
      if command.anywhere then do return (← command.parse rest).withArgument argument
      else .ok { arguments := argument :: rest }
    else
      match command.option? argument, (splitValue argument).2, rest with
      | none, _, _ => .error (command.unknownOption argument)
      | some ⟨name, .flag⟩, some _, _ => .error (.takesNoValue name)
      | some ⟨name, .flag⟩, none, rest => do return (← command.parse rest).withOption name ""
      | some ⟨name, _⟩, some value, rest => do return (← command.parse rest).withOption name value
      | some ⟨name, _⟩, none, [] => .error (.needsArgument name)
      | some ⟨name, _⟩, none, value :: rest => do
        return (← command.parse rest).withOption name value

/-- Checks the value of an option. -/
def checkChoice (command : Command) (given : Given) (name : String) : Except UsageError Unit :=
  match command.options.find? (·.name == name), given.value? name with
  | some ⟨_, .choice values⟩, some value =>
    if values.contains value then .ok () else .error (.badChoice name value values)
  | _, _ => .ok ()

/-- Checks the values of the options in the order in which they are given. -/
def checkChoices (command : Command) (given : Given) : Except UsageError Unit :=
  given.options.forM fun (name, _) => command.checkChoice given name

end Command

end ScriptReplay.Cli
