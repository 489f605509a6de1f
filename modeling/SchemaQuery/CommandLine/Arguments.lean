import SchemaQuery.Text.Natural

/-!
# Command line arguments

A command line names a command and gives its options. An option takes its value from the same
argument, after an equals sign, or from the next one; an argument that starts with a hyphen is never
taken for a value. Arguments are read from left to right, and the first fault is the result.
-/

namespace SchemaQuery.CommandLine

/-- Why a command line does not say what to do. -/
inductive UsageError where
  | displayHelp
  | displayVersion
  /-- There are no arguments at all. -/
  | noArguments
  | missingCommand
  | unknownCommand
  | unknownArgument
  /-- An option has no value or an empty one where it must have some. -/
  | invalidValue
  /-- A value cannot be read. -/
  | unreadableValue
  | repeated
  /-- A flag has a value. -/
  | surplusValue
  | missingArgument
  deriving DecidableEq, Repr

/-- The name of the kind of error. -/
def UsageError.kind : UsageError → String
  | .displayHelp => "DisplayHelp"
  | .displayVersion => "DisplayVersion"
  | .noArguments => "DisplayHelpOnMissingArgumentOrSubcommand"
  | .missingCommand => "MissingSubcommand"
  | .unknownCommand => "InvalidSubcommand"
  | .unknownArgument => "UnknownArgument"
  | .invalidValue => "InvalidValue"
  | .unreadableValue => "ValueValidation"
  | .repeated => "ArgumentConflict"
  | .surplusValue => "TooManyValues"
  | .missingArgument => "MissingRequiredArgument"

/-! ## Options -/

/-- An option of some command. -/
inductive Setting where
  | config
  | schema
  | data
  | limit
  | offset
  | sort
  | descending
  | category
  | verbose
  | help
  | version
  deriving DecidableEq, Repr

namespace Setting

/-- The name of the option after two hyphens. -/
def name : Setting → String
  | .config => "config"
  | .schema => "schema"
  | .data => "data"
  | .limit => "limit"
  | .offset => "offset"
  | .sort => "sort"
  | .descending => "descending"
  | .category => "category"
  | .verbose => "verbose"
  | .help => "help"
  | .version => "version"

/-- The letter of the option after one hyphen. -/
def letter? : Setting → Option Char
  | .verbose => some 'v'
  | .help => some 'h'
  | .version => some 'V'
  | _ => none

/-- The option takes a value. -/
def takesValue : Setting → Bool
  | .descending | .verbose | .help | .version => false
  | _ => true

end Setting

/-- What is wrong with a value: locations must not be empty, and numbers must be readable. -/
def valueError? : Setting → String → Option UsageError
  | .config, value | .data, value => if value.isEmpty then some .invalidValue else none
  | .limit, value | .offset, value =>
    if (Text.word? value).isNone then some .unreadableValue else none
  | _, _ => none

/-! ## Arguments -/

/-- The form of an argument. -/
inductive Argument where
  /-- Two hyphens: what follows are no options. -/
  | escape
  | long (name : List Char) (value : Option (List Char))
  | letters (letters : List Char)
  | word (text : String)

/-- The form of an argument. A single hyphen is a word. -/
def Argument.ofString (text : String) : Argument :=
  match text.toList with
  | ['-', '-'] => .escape
  | '-' :: '-' :: rest =>
    let name := rest.takeWhile (· != '=')
    if name.length < rest.length then .long name (some (rest.drop (name.length + 1)))
    else .long name none
  | '-' :: letter :: rest => .letters (letter :: rest)
  | _ => .word text

/-- The options read so far, and one that waits for its value. -/
structure Given where
  settings : List (Setting × String) := []
  waiting : Option Setting := none

namespace Given

/-- The value of an option. -/
def value? (given : Given) (setting : Setting) : Option String :=
  (given.settings.find? (·.1 == setting)).map (·.2)

/-- The option was given. -/
def has (given : Given) (setting : Setting) : Bool := (given.value? setting).isSome

/-- No option waits for its value. -/
def settle (given : Given) : Except UsageError Given :=
  if given.waiting.isSome then .error .invalidValue else .ok given

/-- Gives an option its value; an option may be given once. -/
def set (given : Given) (setting : Setting) (value : String) : Except UsageError Given :=
  if given.has setting then .error .repeated
  else match valueError? setting value with
    | some error => .error error
    | none => .ok ⟨given.settings ++ [(setting, value)], none⟩

/-- Reads an option without a value; asking for help or for the version ends the reading. -/
def setFlag (given : Given) (setting : Setting) : Except UsageError Given := do
  let given ← given.settle
  match setting with
  | .help => .error .displayHelp
  | .version => .error .displayVersion
  | _ => given.set setting ""

/-- Reads letters after one hyphen. -/
def setLetters (known : List Setting) (given : Given) : List Char → Except UsageError Given
  | [] => .ok given
  | letter :: rest =>
    match known.find? (·.letter? == some letter) with
    | some setting => do
      let given ← given.setFlag setting
      given.setLetters known rest
    | none => .error .unknownArgument

/-- Reads an option by its name. -/
def setLong (known : List Setting) (given : Given) (name : List Char)
    (value : Option (List Char)) : Except UsageError Given :=
  match known.find? (·.name.toList == name) with
  | none => .error .unknownArgument
  | some setting =>
    if setting.takesValue then do
      let given ← given.settle
      match value with
      | some value => given.set setting (String.ofList value)
      | none => .ok { given with waiting := some setting }
    else if value.isSome then .error .surplusValue
    else given.setFlag setting

end Given

/-! ## Commands -/

/-- A command by name. -/
inductive CommandName where
  | compile
  | find
  | operators
  | paths
  deriving DecidableEq, Repr

namespace CommandName

/-- The name of the command. -/
def name : CommandName → String
  | .compile => "compile"
  | .find => "find"
  | .operators => "operators"
  | .paths => "paths"

/-- The command with a name. -/
def ofName? (name : String) : Option CommandName :=
  [.compile, .find, .operators, .paths].find? (·.name = name)

/-- The options of the command. -/
def settings : CommandName → List Setting
  | .compile | .paths => [.config, .schema, .verbose, .help]
  | .find =>
    [.config, .schema, .data, .limit, .offset, .sort, .descending, .verbose, .help]
  | .operators => [.category, .verbose, .help]

/-- The options that the command cannot do without. -/
def required : CommandName → List Setting
  | .compile | .paths => [.schema]
  | .find => [.schema, .data]
  | .operators => [.category]

end CommandName

/-- What a command line asks for. -/
inductive Command where
  | compile (config schema : String)
  | find (config schema data : String) (limit : Option Nat) (offset : Nat) (sort : Option String)
      (descending : Bool)
  | operators (category : String)
  | paths (config schema : String)
  deriving DecidableEq, Repr

/-- A command and whether its work is to be reported in detail. -/
structure Invocation where
  command : Command
  verbose : Bool
  deriving DecidableEq, Repr

/-- The configuration file when none is given. -/
def standardConfig : String := "./docfilter.json"

/-- The command with its options. Sorting downwards needs something to sort by. -/
def CommandName.command (name : CommandName) (given : Given) : Except UsageError Command :=
  let config := (given.value? .config).getD standardConfig
  let text (setting : Setting) : String := (given.value? setting).getD ""
  if name.required.any (!given.has ·) || (given.has .descending && !given.has .sort) then
    .error .missingArgument
  else match name with
    | .compile => .ok (.compile config (text .schema))
    | .paths => .ok (.paths config (text .schema))
    | .operators => .ok (.operators (text .category))
    | .find =>
      let limit := (given.value? .limit).bind Text.word?
      let offset := (given.value? .offset).bind Text.word?
      .ok (.find config (text .schema) (text .data) limit (offset.getD 0) (given.value? .sort)
        (given.has .descending))

/-- Reads the options of a command. Commands have no arguments but options. -/
def readOptions (known : List Setting) (given : Given) : List String → Except UsageError Given
  | [] => given.settle
  | argument :: rest =>
    match Argument.ofString argument with
    | .escape => if rest.isEmpty then given.settle else .error .unknownArgument
    | .long name value => do
      let given ← given.setLong known name value
      readOptions known given rest
    | .letters letters => do
      let given ← given.setLetters known letters
      readOptions known given rest
    | .word text =>
      match given.waiting with
      | some setting => do
        let given ← given.set setting text
        readOptions known given rest
      | none => .error .unknownArgument

/-- Asks for help on a command. -/
def askHelp : List String → UsageError
  | [] | ["help"] => .displayHelp
  | [command] => if (CommandName.ofName? command).isSome then .displayHelp else .unknownCommand
  | _ => .unknownCommand

/-- Reads the arguments up to the name of the command and then its options. -/
def readCommand (given : Given) : List String → Except UsageError Invocation
  | [] => .error .missingCommand
  | argument :: rest =>
    let known := [.verbose, .help, .version]
    match Argument.ofString argument with
    | .escape =>
      match rest with
      | [] => .error (if given.settings.isEmpty then .noArguments else .missingCommand)
      | word :: _ =>
        .error (if (CommandName.ofName? word).isSome || word == "help" then .unknownArgument
          else .unknownCommand)
    | .long name value => do
      let given ← given.setLong known name value
      readCommand given rest
    | .letters letters => do
      let given ← given.setLetters known letters
      readCommand given rest
    | .word text =>
      if text == "help" then .error (askHelp rest)
      else match CommandName.ofName? text with
        | none => .error .unknownCommand
        | some name => do
          let options ← readOptions name.settings {} rest
          let command ← name.command options
          return ⟨command, given.has .verbose || options.has .verbose⟩

/-- What a command line, without the name of the program, asks for. -/
def parse (arguments : List String) : Except UsageError Invocation :=
  if arguments.isEmpty then .error .noArguments else readCommand {} arguments

end SchemaQuery.CommandLine
