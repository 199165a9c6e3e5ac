import DiagramReview.Number.Bits
import DiagramReview.Text.Blank

namespace DiagramReview

inductive ArgumentError where
  | unknownArgument
  | invalidValue
  | valueValidation
  | argumentConflict
  | tooManyValues
  | missingArgument
  | unknownCommand
  | displayHelp
  | displayVersion
  deriving DecidableEq, Repr

namespace ArgumentError

def name : ArgumentError → String
  | unknownArgument => "UnknownArgument"
  | invalidValue => "InvalidValue"
  | valueValidation => "ValueValidation"
  | argumentConflict => "ArgumentConflict"
  | tooManyValues => "TooManyValues"
  | missingArgument => "MissingRequiredArgument"
  | unknownCommand => "InvalidSubcommand"
  | displayHelp => "DisplayHelp"
  | displayVersion => "DisplayVersion"

end ArgumentError

inductive OptionKind where
  | flag
  | number
  | path
  | text
  | help
  | version
  deriving DecidableEq, Repr

structure OptionSpec where
  name : String
  kind : OptionKind
  deriving DecidableEq, Repr

namespace OptionKind

/-- The number in 32 bits that decimal digits write, perhaps after a sign; after a minus sign the
number has to be zero. -/
def number? (s : String) : Option UInt32 :=
  let (negative, digits) := match s.toList with
    | '+' :: rest => (false, rest)
    | '-' :: rest => (true, rest)
    | rest => (false, rest)
  let n := digits.foldl (fun n c => 10 * n + (c.toNat - '0'.toNat)) 0
  if !digits.isEmpty && digits.all Char.isDigit && n < Bits.values 32 && (!negative || n = 0) then
    some n.toUInt32
  else none

def fault? (kind : OptionKind) (value : String) : Option ArgumentError :=
  match kind with
  | number => if (number? value).isNone then some .valueValidation else none
  | path => if value.isEmpty then some .invalidValue else none
  | _ => none

def takesValue : OptionKind → Bool
  | number | path | text => true
  | _ => false

end OptionKind

structure Reading where
  given : List (String × String) := []
  pending : Option (OptionSpec × Option String) := none
  unnamed : List OptionSpec := []
  deriving Repr

namespace Reading

def give (r : Reading) (spec : OptionSpec) (value : String) : Except ArgumentError Reading :=
  if (r.given.lookup spec.name).isSome then .error .argumentConflict
  else match spec.kind.fault? value with
    | some e => .error e
    | none => .ok { r with given := r.given ++ [(spec.name, value)] }

def settle (r : Reading) : Except ArgumentError Reading :=
  match r.pending with
  | none => .ok r
  | some (_, none) => .error .invalidValue
  | some (spec, some value) => { r with pending := none }.give spec value

def addPlain (r : Reading) (word : String) : Except ArgumentError Reading :=
  match r.unnamed with
  | [] => .error .unknownArgument
  | spec :: unnamed => do
    return { ← r.settle with pending := some (spec, some word), unnamed := unnamed }

def act (r : Reading) (spec : OptionSpec) : Except ArgumentError Reading := do
  let r ← r.settle
  match spec.kind with
  | .help => .error .displayHelp
  | .version => .error .displayVersion
  | _ => r.give spec ""

def long (specs : List OptionSpec) (r : Reading) (word : Text) : Except ArgumentError Reading :=
  let name := String.ofList (word.takeWhile (· != '='))
  match specs.find? (·.name = name), word.dropWhile (· != '=') with
  | none, _ => .error .unknownArgument
  | some spec, '=' :: value =>
    if spec.kind.takesValue then do (← r.settle).give spec (String.ofList value)
    else .error .tooManyValues
  | some spec, _ =>
    if spec.kind.takesValue then do return { ← r.settle with pending := some (spec, none) }
    else r.act spec

def short (specs : List OptionSpec) (r : Reading) (letter : Char) : Except ArgumentError Reading :=
  match specs.find? fun spec =>
    (spec.kind = .help && letter == 'h') || (spec.kind = .version && letter == 'V') with
  | some spec => r.act spec
  | none => .error .unknownArgument

def rest : Reading → List String → Except ArgumentError Reading
  | r, [] => r.settle
  | r, word :: words => do rest (← r.addPlain word) words

def all (specs : List OptionSpec) : Reading → List String → Except ArgumentError Reading
  | r, [] => r.settle
  | r, word :: words =>
    match word.toList with
    | ['-', '-'] => rest r words
    | '-' :: '-' :: name => do all specs (← r.long specs name) words
    | '-' :: letter :: _ => do all specs (← r.short specs letter) words
    | _ =>
      match r.pending with
      | some (spec, none) => all specs { r with pending := some (spec, some word) } words
      | _ => do all specs (← r.addPlain word) words

/-- The words up to the first plain one, which names a command, and the words after it. A value
that stands right before the command is looked at only when the command's words are read. -/
def upToCommand (specs : List OptionSpec) :
    Reading → List String → Except ArgumentError (Reading × String × List String)
  | r, [] => do
    let _ ← r.settle
    .error .missingArgument
  | r, word :: words =>
    match word.toList with
    | ['-', '-'] => .error .unknownArgument
    | '-' :: '-' :: name => do upToCommand specs (← r.long specs name) words
    | '-' :: letter :: _ => do upToCommand specs (← r.short specs letter) words
    | _ =>
      match r.pending with
      | some (spec, none) => upToCommand specs { r with pending := some (spec, some word) } words
      | _ => .ok (r, word, words)

def value? (r : Reading) (name : String) : Option String := r.given.lookup name

def number? (r : Reading) (name : String) : Option UInt32 := r.value? name >>= OptionKind.number?

def has (r : Reading) (name : String) : Bool := (r.value? name).isSome

end Reading

end DiagramReview
