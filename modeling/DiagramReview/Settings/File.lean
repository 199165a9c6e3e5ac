import DiagramReview.Number.Shortest
import DiagramReview.Text.Quoted
import DiagramReview.Toml.Reader

namespace DiagramReview

/-- Thresholds given by a file or a command. Zero counts as not given. -/
structure Overrides where
  simple : Option UInt32 := none
  moderate : Option UInt32 := none
  deriving DecidableEq, Repr

inductive SchemaError where
  | unknownField (name : String) (known : List String)
  | outOfRange (n : Int)
  | wrongType (found : Toml) (expected : String)
  | tooFew (count : Nat)
  deriving Repr

namespace Toml

def describe : Toml → String
  | string s => "string " ++ Text.inQuotes s
  | integer n => "integer `" ++ toString n ++ "`"
  | float x => "floating point `" ++ x.shortest ++ "`"
  | boolean b => "boolean `" ++ toString b ++ "`"
  | array _ => "sequence"
  | moment | table _ => "map"

/-- The one field of a date or time, for readers that take it apart. -/
def momentField : String := "$__toml_private_datetime"

end Toml

namespace SchemaError

def number : String := "u32"

def group : String := "struct ThresholdOverrides"

def alternatives (names : List String) : String :=
  " or ".intercalate (names.map fun name => "`" ++ name ++ "`")

def message : SchemaError → String
  | unknownField name known => "unknown field `" ++ name ++ "`, expected " ++ alternatives known
  | outOfRange n => "invalid value: integer `" ++ toString n ++ "`, expected " ++ number
  | wrongType found expected => "invalid type: " ++ found.describe ++ ", expected " ++ expected
  | tooFew count => "invalid length " ++ toString count ++ ", expected " ++ group ++ " with 2 elements"

end SchemaError

namespace Overrides

def threshold : Toml → Except SchemaError UInt32
  | .integer n => if Bits.holds 32 n then .ok n.toNat.toUInt32 else .error (.outOfRange n)
  | v => .error (.wrongType v SchemaError.number)

def fields : List String := ["simple", "moderate"]

def ofMember (o : Overrides) : String × Toml → Except SchemaError Overrides
  | (name, v) =>
    if name = "simple" then do return { o with simple := some (← threshold v) }
    else if name = "moderate" then do return { o with moderate := some (← threshold v) }
    else .error (.unknownField name fields)

def sorted (members : List (String × Toml)) : List (String × Toml) :=
  members.mergeSort fun a b => a.1 ≤ b.1

def ofToml : Toml → Except SchemaError Overrides
  | .table members => (sorted members).foldlM ofMember {}
  | .moment => .error (.unknownField Toml.momentField fields)
  | .array [] => .error (.tooFew 0)
  | .array [a] => do
    let _ ← threshold a
    .error (.tooFew 1)
  | .array (a :: b :: _) => return ⟨some (← threshold a), some (← threshold b)⟩
  | v => .error (.wrongType v SchemaError.group)

end Overrides

inductive SettingsError where
  | notToml
  | schema (e : SchemaError)
  deriving Repr

namespace Overrides

def ofDocument (members : List (String × Toml)) : Except SchemaError Overrides :=
  (sorted members).foldlM (fun _ (name, v) =>
    if name = "thresholds" then ofToml v
    else .error (.unknownField name ["thresholds"])) {}

def ofText (s : Text) : Except SettingsError Overrides :=
  match Toml.parse? s with
  | none => .error .notToml
  | some members => (ofDocument members).mapError .schema

end Overrides

end DiagramReview
