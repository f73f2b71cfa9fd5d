import LineShell.Session

/-!
# Options

The options that the program is called with.  An option may be given once, its
value is the argument after it, and there are no other arguments.

## Main definitions

* `Options` — the settings of a call.
* `UsageError` — what is wrong with the arguments, with its `message`.
* `Request` — what the arguments ask for.
* `Request.ofArguments` — reads the arguments.
* `helpText` — the description of the options.
-/

namespace LineShell

/-- The settings of a call. An option that was not given is absent. -/
structure Options where
  /-- The one line to run. -/
  command : Option String := none
  /-- The text shown before each line. -/
  prompt : Option String := none
  /-- The longest accepted line, in bytes. -/
  maxLine : Option Nat := none
deriving DecidableEq, Repr

/-- The prompt of a call that does not give one. -/
def defaultPrompt : String := "pipesh$ "

/-- What is wrong with the value of an option. -/
inductive ValueError where
  /-- The option has a value already. -/
  | duplicate
  /-- The value should be a number and is empty. -/
  | empty
  /-- The value should be a number and holds something else. -/
  | invalidDigit
  /-- The number is too large. -/
  | tooLarge
deriving DecidableEq, Repr

/-- The wording of what is wrong with a value. -/
def ValueError.message : ValueError → String
  | .duplicate => "duplicate values provided"
  | .empty => "cannot parse integer from empty string"
  | .invalidDigit => "invalid digit found in string"
  | .tooLarge => "number too large to fit in target type"

/-- What is wrong with the arguments. -/
inductive UsageError where
  /-- An argument is no option. -/
  | unrecognized (argument : String)
  /-- The last argument is an option without its value. -/
  | missingValue (option : String)
  /-- An option cannot take its value. -/
  | badValue (option value : String) (error : ValueError)
  /-- An option follows the request for help. -/
  | afterHelp
deriving DecidableEq, Repr

/-- The wording of what is wrong. -/
def UsageError.message : UsageError → String
  | .unrecognized argument => "Unrecognized argument: " ++ argument ++ "\n"
  | .missingValue option => "No value provided for option '" ++ option ++ "'.\n"
  | .badValue option value error =>
    "Error parsing option '" ++ option ++ "' with value '" ++ value ++ "': " ++
      error.message ++ "\n"
  | .afterHelp => "Trailing arguments are not allowed after `help`."

/-! ### Numbers -/

/-- The largest number that an option takes. -/
def largestNumber : Nat := 2 ^ 64 - 1

/-- Reads the digits of a number whose leading digits have the value `value`. -/
def readDigits (value : Nat) : List Char → Except ValueError Nat
  | [] => .ok value
  | c :: rest =>
    if c.isDigit then
      let value := value * 10 + (c.toNat - '0'.toNat)
      if value > largestNumber then .error .tooLarge else readDigits value rest
    else .error .invalidDigit

/-- Reads a number, which may have a plus sign. -/
def readNumber (text : String) : Except ValueError Nat :=
  match text.toList with
  | [] => .error .empty
  | ['+'] => .error .invalidDigit
  | '+' :: digits => readDigits 0 digits
  | digits => readDigits 0 digits

/-! ### Arguments -/

/-- The options of a call. -/
inductive OptionName where
  | command
  | prompt
  | maxLine
deriving DecidableEq, Repr

/-- The option that an argument names. -/
def OptionName.ofArgument? (argument : String) : Option OptionName :=
  if argument = "-c" ∨ argument = "--command" then some .command
  else if argument = "--prompt" then some .prompt
  else if argument = "--max-line" then some .maxLine
  else none

/-- Sets an option, which must not have been set before. -/
def Options.set (o : Options) (name : OptionName) (value : String) :
    Except ValueError Options :=
  match name with
  | .command =>
    if o.command.isSome then .error .duplicate else .ok { o with command := some value }
  | .prompt =>
    if o.prompt.isSome then .error .duplicate else .ok { o with prompt := some value }
  | .maxLine =>
    if o.maxLine.isSome then .error .duplicate
    else match readNumber value with
      | .ok n => .ok { o with maxLine := some n }
      | .error e => .error e

/-- What the arguments ask for. -/
inductive Request where
  /-- To run with these settings. -/
  | run (options : Options)
  /-- To describe the options. -/
  | help
deriving DecidableEq, Repr

namespace Request

/-- Whether an argument asks for help. -/
def isHelp (argument : String) : Bool := argument = "--help" || argument = "help"

/-- Reads arguments when some options are set. The flag `help` tells whether help
was asked for, and `ended` whether an argument `--` ended the options. -/
def read (options : Options) (help ended : Bool) :
    List String → Except UsageError Request
  | [] => .ok (if help then .help else .run options)
  | argument :: rest =>
    if !ended && isHelp argument then read options true ended rest
    else if ended || argument.toList.head? ≠ some '-' then .error (.unrecognized argument)
    else if argument = "--" then read options help true rest
    else if help then .error .afterHelp
    else match OptionName.ofArgument? argument with
      | none => .error (.unrecognized argument)
      | some name =>
        match rest with
        | [] => .error (.missingValue argument)
        | value :: rest =>
          match options.set name value with
          | .ok options => read options help ended rest
          | .error e => .error (.badValue argument value e)

/-- Reads the arguments of a call. -/
def ofArguments (arguments : List String) : Except UsageError Request :=
  read {} false false arguments

end Request

/-- The description of the options. -/
def helpText : String :=
  "Usage: pipesh [-c <command>] [--prompt <prompt>] [--max-line <max-line>]\n\n" ++
  "Run pipelines of external programs, one line at a time.\n\n" ++
  "Options:\n" ++
  "  -c, --command     run this line and exit with the status of its last stage.\n" ++
  "  --prompt          prompt shown before each line.\n" ++
  "  --max-line        longest accepted line, in bytes.\n" ++
  "  --help, help      display usage information\n"

/-- What is written about wrong arguments. -/
def usageReport (e : UsageError) : String :=
  e.message ++ "\nRun pipesh --help for more information.\n"

end LineShell
