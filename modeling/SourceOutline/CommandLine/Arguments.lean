import SourceOutline.Text.Literal
import SourceOutline.Text.Numeral
import SourceOutline.Text.Basic

/-!
# Command-line arguments

Arguments are first sorted into tokens, each on its own: options, plain arguments, and the
separator behind which everything is a plain argument. Long options may be cut to a unique
beginning and take a value behind an equals sign; the value of a short option may follow it
directly. Then the tokens are consumed from left to right, and the first thing that is wrong
ends the run.
-/

namespace SourceOutline.CommandLine

inductive Switch where
  | help
  | output
  | indent
  deriving DecidableEq, Repr

/-- All spellings of the options. -/
def spellings : List (String × Switch) :=
  [("-h", .help), ("--help", .help), ("--output", .output), ("-o", .output),
    ("--indent", .indent)]

/-- An option as it is called in messages. -/
def Switch.title : Switch → String
  | help => "-h/--help"
  | output => "--output/-o"
  | indent => "--indent"

inductive Token where
  | separator
  | argument (text : String)
  /-- An option under one of its spellings, with the value attached to it. -/
  | option (switch : Switch) (isShort : Bool) (value : Option String)
  | unknown (text : String)
  deriving DecidableEq, Repr

/-- Why a command line is not carried out. -/
inductive Stop where
  | help
  | usage (message : String)
  deriving DecidableEq, Repr

/-- Cut at the first equals sign, if there is one. -/
def cutAtEquals (text : List Char) : List Char × Option (List Char) :=
  match text.dropWhile (· != '=') with
  | _ :: value => (text.takeWhile (· != '='), some value)
  | [] => (text, none)

def isShortSpelling (spelling : String) : Bool := spelling.length == 2

/-- Options that an argument may abbreviate, with the value attached: long options that begin
like it, or a short option that it begins with. -/
def candidates (text : List Char) : List (String × Switch × Option String) :=
  match text with
  | '-' :: '-' :: _ =>
    let (start, value) := cutAtEquals text
    (spellings.filter fun entry => start.isPrefixOf entry.1.toList).map fun entry =>
      (entry.1, entry.2, value.map String.ofList)
  | _ =>
    (spellings.filter fun entry => entry.1.toList == text.take 2).map fun entry =>
      (entry.1, entry.2, some (String.ofList (text.drop 2)))

/-- Digits of any script, at least one. -/
def isDigits (text : List Char) : Bool :=
  !text.isEmpty && text.all fun c => (Text.decimalDigit? c).isSome

/-- A number without sign: digits, and maybe a point before the last of them. -/
def isUnsignedNumber (text : List Char) : Bool :=
  isDigits text ||
    (match text.dropWhile (· != '.') with
    | _ :: fraction =>
      let whole := text.takeWhile (· != '.')
      isDigits fraction && (whole.isEmpty || isDigits whole)
    | [] => false)

/-- A negative number is a value and no option. A line break behind it does no harm. -/
def isNegativeNumber : List Char → Bool
  | '-' :: rest =>
    isUnsignedNumber (if rest.getLast? == some '\n' then rest.dropLast else rest)
  | _ => false

/-- The token of an argument before the separator. -/
def tokenOf (text : String) : Except Stop Token :=
  let cs := text.toList
  match cs with
  | '-' :: _ :: _ =>
    match spellings.lookup text with
    | some switch => .ok (.option switch (isShortSpelling text) none)
    | none =>
      let (start, value) := cutAtEquals cs
      match value, spellings.lookup (String.ofList start) with
      | some value, some switch =>
        .ok (.option switch (start.length == 2) (some (String.ofList value)))
      | _, _ =>
        match candidates cs with
        | [(spelling, switch, value)] =>
          .ok (.option switch (isShortSpelling spelling) value)
        | first :: second :: rest =>
          let matching := (first :: second :: rest).map (·.1)
          .error (.usage ("ambiguous option: " ++ text ++ " could match " ++
            ", ".intercalate matching))
        | [] =>
          if isNegativeNumber cs || cs.contains ' ' then .ok (.argument text)
          else .ok (.unknown text)
  | _ => .ok (.argument text)

/-- The tokens of all arguments. -/
def tokens : List String → Except Stop (List Token)
  | [] => .ok []
  | text :: rest =>
    if text = "--" then .ok (.separator :: rest.map .argument)
    else do
      let first ← tokenOf text
      let others ← tokens rest
      return first :: others

/-- What has been gathered from the tokens so far. -/
structure Options where
  path : Option String := none
  output : Option String := none
  /-- Nothing if the value was given as a bare separator. -/
  indent : Option Int := some 2
  /-- Arguments that no one asked for. -/
  extras : List String := []
  deriving DecidableEq, Repr

def complain (switch : Switch) (message : String) : Stop :=
  .usage ("argument " ++ switch.title ++ ": " ++ message)

/-- Give an option its value. A separator that is attached as the value is dropped, which
leaves the option without one. -/
def Options.set (options : Options) (switch : Switch) (value : String) : Except Stop Options :=
  match switch with
  | .help => .error .help
  | .output => .ok { options with output := if value = "--" then none else some value }
  | .indent =>
    if value = "--" then .ok { options with indent := none }
    else
      match Text.integer? value with
      | some n => .ok { options with indent := some n }
      | none => .error (complain .indent ("invalid int value: " ++ Text.literal value))

/-- Help takes no value. -/
def refuseValue (value : String) : Stop :=
  complain .help ("ignored explicit argument " ++ Text.literal value)

/-- A short help option with further letters behind it: they must be short options too, the
last of which may need the next token as its value. Help is given once they are accepted. -/
def helpCluster (next : Option Token) : List Char → Stop
  | [] => refuseValue ""
  | ['h'] => .help
  | 'h' :: rest => helpCluster next rest
  | ['o'] =>
    match next with
    | some (.argument _) => .help
    | _ => complain .output "expected one argument"
  | 'o' :: _ => .help
  | text => refuseValue (String.ofList text)

/-- Consume tokens. The first plain argument is the path, with a separator before or behind
it; options take their attached value or the next plain argument. -/
def consume (options : Options) : List Token → Except Stop Options
  | [] => .ok options
  | .argument text :: rest =>
    match options.path, rest with
    | none, .separator :: rest => consume { options with path := some text } rest
    | none, rest => consume { options with path := some text } rest
    | some _, rest => consume { options with extras := options.extras ++ [text] } rest
  | .separator :: rest =>
    match options.path, rest with
    | none, .argument text :: rest => consume { options with path := some text } rest
    | _, rest => consume { options with extras := options.extras ++ ["--"] } rest
  | .unknown text :: rest => consume { options with extras := options.extras ++ [text] } rest
  | .option .help _ none :: _ => .error .help
  | .option .help isShort (some value) :: rest =>
    .error (if isShort then helpCluster rest.head? value.toList else refuseValue value)
  | .option switch _ (some value) :: rest => do
    let options ← options.set switch value
    consume options rest
  | .option switch _ none :: rest =>
    match rest with
    | .argument value :: rest => do
      let options ← options.set switch value
      consume options rest
    | _ => .error (complain switch "expected one argument")

/-- What a command line asks for. -/
structure Command where
  path : String
  output : Option String
  indent : Option Int
  deriving DecidableEq, Repr

/-- Read a command line. -/
def Command.parse (arguments : List String) : Except Stop Command := do
  let options ← consume {} (← tokens arguments)
  match options.path with
  | none => .error (.usage "the following arguments are required: path")
  | some path =>
    if options.extras.isEmpty then
      .ok { path := path, output := options.output, indent := options.indent }
    else .error (.usage ("unrecognized arguments: " ++ " ".intercalate options.extras))

end SourceOutline.CommandLine
