import GraphSketch.Text.Digit
import GraphSketch.Text.Quoted

/-!
# Command-line arguments

A command line is read by a `Grammar`: options with their spellings, and operands. A long option
may be shortened as long as it stays unique and may carry its value after `=`; one-letter options
may be run together, the last with its value. A negative number and a text with a space in it are
no options. After `--` everything is an operand; an option with `--` for its value is given, but
without a value. These are the rules of `argparse`, as far as the two programs use it.

* `CommandOption` is an option: a flag, or with a value, which may be one of a few words, and
  which may be required.
* `Grammar.classify` tells options from operands, and `Grammar.readFrom` gives them to the program
  in their order.
* `Grammar.read` reads a command line into `Arguments`, or says what is wrong with it.
* `UsageFault` is what can be wrong. All arguments are classified before the first is given, so an
  ambiguous option is found before all else; then faults are found from left to right, and what is
  missing or left over at the end.

Usage and help texts are left out: a run that ends with one is known by its exit code and by the
last line of what it says.
-/

set_option autoImplicit false

namespace GraphSketch

/-- An option of a program. -/
structure CommandOption where
  /-- The spellings, with their dashes. -/
  spellings : List Text
  /-- Whether a value follows. -/
  takesValue : Bool
  /-- The values admitted, if not all are. -/
  choices : Option (List Text)
  /-- Whether the option has to be given. -/
  required : Bool
  deriving DecidableEq, Repr

namespace CommandOption

/-- An option without value. -/
def flag (spellings : List Text) : CommandOption := ⟨spellings, false, none, false⟩

/-- An option with any value. -/
def value (spellings : List Text) : CommandOption := ⟨spellings, true, none, false⟩

/-- An option with one of some values. -/
def choice (spellings : List Text) (choices : List Text) : CommandOption :=
  ⟨spellings, true, some choices, false⟩

/-- The option as one that has to be given. -/
def mandatory (option : CommandOption) : CommandOption := { option with required := true }

/-- The name of an option in messages. -/
def name (option : CommandOption) : Text := Text.join "/" option.spellings

end CommandOption

/-- What a program takes on its command line. -/
structure Grammar where
  program : Text
  options : List CommandOption
  operands : List Text

/-- Why a command line is not run. -/
inductive UsageFault where
  | help
  | ambiguous (argument : Text) (candidates : List Text)
  | expectedValue (option : CommandOption)
  | invalidChoice (option : CommandOption) (value : Text) (choices : List Text)
  | ignoredValue (option : CommandOption) (value : Text)
  | missing (names : List Text)
  | unrecognized (arguments : List Text)
  deriving DecidableEq, Repr

/-- What is wrong with an argument of an option. -/
def CommandOption.complain (option : CommandOption) (what : Text) : Text :=
  "argument " ++ option.name ++ ": " ++ what

/-- The fault in words. -/
def UsageFault.message : UsageFault → Text
  | help => []
  | ambiguous argument candidates =>
    "ambiguous option: " ++ argument ++ " could match " ++ Text.join ", " candidates
  | expectedValue option => option.complain "expected one argument"
  | invalidChoice option value choices =>
    option.complain ("invalid choice: " ++ value.quoted ++ " (choose from " ++
      Text.join ", " (choices.map Text.quoted) ++ ")")
  | ignoredValue option value =>
    option.complain ("ignored explicit argument " ++ value.quoted)
  | missing names => "the following arguments are required: " ++ Text.join ", " names
  | unrecognized arguments => "unrecognized arguments: " ++ Text.join " " arguments

/-- What was read from a command line: the options given, each with its value if it has one, and
the operands. -/
structure Arguments where
  given : List (CommandOption × Option Text)
  operands : List Text

namespace Arguments

/-- Whether an option is given. -/
def has (arguments : Arguments) (spelling : Text) : Bool :=
  arguments.given.any fun e => e.1.spellings.contains spelling

/-- The value of an option; of several the last counts. -/
def value? (arguments : Arguments) (spelling : Text) : Option Text :=
  (arguments.given.reverse.find? fun e => e.1.spellings.contains spelling).bind (·.2)

end Arguments

/-- What one argument holds in options: those without value, then perhaps one that takes a value,
with the value if that is part of the argument. -/
structure OptionRun where
  flags : List CommandOption
  valued : Option (CommandOption × Option Text)

/-- An argument by its kind. -/
inductive Argument where
  | operand (t : Text)
  /-- The first `--`. -/
  | separator
  /-- Options, or the fault that is reported when reading comes to the argument. -/
  | options (run : Except UsageFault OptionRun)
  /-- Something that looks like an option. -/
  | unknown (t : Text)

/-- The option that asks for help. -/
def helpOption : CommandOption := .flag ["-h", "--help"]

namespace Grammar

/-- All options, that for help first. -/
def allOptions (grammar : Grammar) : List CommandOption := helpOption :: grammar.options

/-- The spellings of all options in order. -/
def spellings (grammar : Grammar) : List (Text × CommandOption) :=
  grammar.allOptions.flatMap fun option => option.spellings.map fun s => (s, option)

/-- The option with the given spelling. -/
def option? (grammar : Grammar) (spelling : Text) : Option CommandOption :=
  (grammar.spellings.find? (·.1 = spelling)).map (·.2)

/-- An argument parted at its first `=`, if it has one. -/
def partValue (t : Text) : Text × Option Text :=
  match t.dropWhile (· ≠ '=') with
  | [] => (t, none)
  | _ :: value => (t.takeWhile (· ≠ '='), some value)

/-- The options whose spellings begin with the given text. -/
def candidates (grammar : Grammar) (start : Text) : List (Text × CommandOption) :=
  grammar.spellings.filter fun e => start.isPrefixOf e.1

/-- The text without one line feed at its end. -/
def chomp (t : Text) : Text := if t.getLast? = some '\n' then t.dropLast else t

/-- Whether the argument is a negative number. -/
def isNegativeNumber (t : Text) : Bool :=
  match chomp t with
  | '-' :: rest =>
    let whole := rest.takeWhile isDecimalDigit
    match rest.dropWhile isDecimalDigit with
    | [] => !whole.isEmpty
    | '.' :: places => !places.isEmpty && places.all isDecimalDigit
    | _ => false
  | _ => false

/-- The kind of an argument that begins with a dash and means no option. -/
def classifyOther (t : Text) : Argument :=
  if isNegativeNumber t || t.any (· = ' ') then .operand t else .unknown t

/-- What an option alone holds; its value, if it takes one, is the next argument. -/
def runOfOption (option : CommandOption) : OptionRun :=
  if option.takesValue then ⟨[], some (option, none)⟩ else ⟨[option], none⟩

/-- What an option spelled with two dashes holds, with the value after `=`. -/
def longRun (option : CommandOption) : Option Text → Except UsageFault OptionRun
  | none => .ok (runOfOption option)
  | some value =>
    if option.takesValue then .ok ⟨[], some (option, some value)⟩
    else .error (.ignoredValue option value)

/-- What an option spelled with one dash holds, by the text after its letter. That text is the
value of an option that takes one; otherwise it holds more letters, each of which has to be an
option. -/
def shortRun (grammar : Grammar) (option : CommandOption) : Text → Except UsageFault OptionRun
  | [] => .ok (runOfOption option)
  | c :: cs =>
    if option.takesValue then
      .ok ⟨[], some (option, some (c :: cs))⟩
    else
      match grammar.option? ['-', c] with
      | none => .error (.ignoredValue option (c :: cs))
      | some next =>
        (grammar.shortRun next cs).map fun run => { run with flags := option :: run.flags }

/-- What an option spelled with one dash and a letter holds, with the value after `=`. For an
option that takes no value it holds more letters, if it holds anything. -/
def letterRun (grammar : Grammar) (option : CommandOption) :
    Option Text → Except UsageFault OptionRun
  | some [] => longRun option (some [])
  | value => grammar.shortRun option (value.getD [])

/-- The kind of an argument that is not spelled like an option: one that begins like options. -/
def classifyStart (grammar : Grammar) (t : Text) : Except UsageFault Argument :=
  match t with
  | '-' :: '-' :: _ =>
    let (start, value) := partValue t
    match grammar.candidates start with
    | [] => .ok (classifyOther t)
    | [(_, option)] => .ok (.options (longRun option value))
    | several => .error (.ambiguous t (several.map (·.1)))
  | '-' :: c :: rest =>
    match grammar.option? ['-', c] with
    | some option => .ok (.options (grammar.shortRun option rest))
    | none => .ok (classifyOther t)
  | _ => .ok (.operand t)

/-- The kind of an argument before `--`. -/
def classify (grammar : Grammar) (t : Text) : Except UsageFault Argument :=
  let (start, value) := partValue t
  match grammar.option? start with
  | none => grammar.classifyStart t
  | some option =>
    .ok (.options
      (if start.length = 2 then grammar.letterRun option value else longRun option value))

/-- The kinds of all arguments. -/
def classifyAll (grammar : Grammar) : List Text → Except UsageFault (List Argument)
  | [] => .ok []
  | t :: ts =>
    if t = ['-', '-'] then
      .ok (.separator :: ts.map .operand)
    else
      match grammar.classify t with
      | .error fault => .error fault
      | .ok argument => (grammar.classifyAll ts).map (argument :: ·)

/-- How far a command line has been read. -/
structure Reading where
  given : List (CommandOption × Option Text)
  operands : List Text
  extras : List Text
  /-- Whether the last argument was taken as an operand. -/
  afterOperand : Bool

/-- Takes in an option, with a value or without one. -/
def give (reading : Reading) (option : CommandOption) (value : Option Text) :
    Except UsageFault Reading :=
  if option = helpOption then
    .error .help
  else
    .ok { reading with given := reading.given ++ [(option, value)], afterOperand := false }

/-- Takes in an option with its value. Two dashes are no value. -/
def giveValue (reading : Reading) (option : CommandOption) (value : Text) :
    Except UsageFault Reading :=
  if value = ['-', '-'] then
    give reading option none
  else
    match option.choices.filter fun choices => !choices.contains value with
    | some choices => .error (.invalidChoice option value choices)
    | none => give reading option (some value)

/-- Takes in options without value. -/
def giveFlags (reading : Reading) (flags : List CommandOption) : Except UsageFault Reading :=
  flags.foldlM (fun reading option => give reading option none) reading

/-- Reads classified arguments. -/
def readFrom (grammar : Grammar) : List Argument → Reading → Except UsageFault Reading
  | [], reading => .ok reading
  | .operand t :: rest, reading =>
    if reading.operands.length < grammar.operands.length then
      grammar.readFrom rest
        { reading with operands := reading.operands ++ [t], afterOperand := true }
    else
      grammar.readFrom rest
        { reading with extras := reading.extras ++ [t], afterOperand := false }
  | .separator :: rest, reading =>
    if reading.afterOperand ||
        (reading.operands.length < grammar.operands.length && !rest.isEmpty) then
      grammar.readFrom rest reading
    else
      grammar.readFrom rest
        { reading with extras := reading.extras ++ [['-', '-']], afterOperand := false }
  | .unknown t :: rest, reading =>
    grammar.readFrom rest { reading with extras := reading.extras ++ [t], afterOperand := false }
  | .options (.error fault) :: _, _ => .error fault
  | .options (.ok run) :: rest, reading =>
    match run.valued with
    | none => do grammar.readFrom rest (← giveFlags reading run.flags)
    | some (option, some value) => do
      grammar.readFrom rest (← giveValue (← giveFlags reading run.flags) option value)
    | some (option, none) =>
      match rest with
      | .operand value :: rest => do
        grammar.readFrom rest (← giveValue (← giveFlags reading run.flags) option value)
      | _ => .error (.expectedValue option)

/-- The names of what has to be given and is not. -/
def missingNames (grammar : Grammar) (reading : Reading) : List Text :=
  grammar.operands.drop reading.operands.length ++
    (grammar.options.filter fun option =>
      option.required && !reading.given.any (·.1 = option)).map (·.name)

/-- Reads a command line. -/
def read (grammar : Grammar) (line : List Text) : Except UsageFault Arguments := do
  let kinds ← grammar.classifyAll line
  let reading ← grammar.readFrom kinds ⟨[], [], [], false⟩
  let missing := grammar.missingNames reading
  if !missing.isEmpty then
    .error (.missing missing)
  else if !reading.extras.isEmpty then
    .error (.unrecognized reading.extras)
  else
    pure ⟨reading.given, reading.operands⟩

end Grammar

end GraphSketch
