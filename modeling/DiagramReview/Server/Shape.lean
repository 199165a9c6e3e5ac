import DiagramReview.Json.Value
import DiagramReview.Number.Bits
import DiagramReview.Uri.Basic

/-!
The shapes of what a client sends: of what kind a value is and which members a record has. Reading a
value by a shape brings it into one form, in which records are objects and URIs are normal.
-/

namespace DiagramReview

/-- May a member of a record be missing? A trailing one may also be missing from the end of a
list. -/
inductive Presence where
  | needed
  | optional
  | trailing
  deriving DecidableEq, Repr

inductive Shape where
  | any
  | text
  | truth
  | number
  | count
  | whole
  | uri
  | word (choices : List String)
  | nullable (shape : Shape)
  | either (first second : Shape)
  | listOf (item : Shape)
  | pairOf (item : Shape)
  | mapOf (key value : Shape)
  | record (members : List (String × Presence × Shape))
  | object (members : List (String × Presence × Shape)) (others : Shape)

namespace Shape

mutual

def read? : Shape → Json → Option Json
  | any, v => some v
  | text, .string s => some (.string s)
  | truth, .bool b => some (.bool b)
  | number, .integer n => some (.integer n)
  | number, .decimal numeral => some (.decimal numeral)
  | count, .integer n => if Bits.holds 32 n then some (.integer n) else none
  | whole, .integer n => if Bits.holdsSigned 32 n then some (.integer n) else none
  | uri, .string s => (Uri.normal? s).map .string
  | word choices, .string s => if choices.contains s then some (.string s) else none
  | word choices, .object [(s, .null)] => if choices.contains s then some (.string s) else none
  | nullable _, .null => some .null
  | nullable shape, v => read? shape v
  | either first second, v =>
    match read? first v with
    | some v => some v
    | none => read? second v
  | listOf item, .array items => (items.mapM (read? item)).map .array
  | pairOf item, .array [a, b] => do return .array [← read? item a, ← read? item b]
  | mapOf key value, .object members =>
    (members.mapM fun (name, v) => do
      match ← read? key (.string name) with
      | .string name => return (name, ← read? value v)
      | _ => none).map .object
  | record members, .object given => (readMembers members given).map .object
  | record members, .array items => (readItems members items).map .object
  | object members others, .object given => do
    let named ← readMembers members given
    let names := members.map (·.1)
    let rest ← (given.filter (!names.contains ·.1)).mapM fun (name, v) => do
      return (name, ← read? others v)
    return .object (named ++ rest)
  | _, _ => none

def readMembers :
    List (String × Presence × Shape) → List (String × Json) → Option (List (String × Json))
  | [], _ => some []
  | (name, presence, shape) :: rest, given => do
    let rest ← readMembers rest given
    match given.lookup name with
    | some v => return (name, ← read? shape v) :: rest
    | none => if presence = .needed then none else some rest

def readItems : List (String × Presence × Shape) → List Json → Option (List (String × Json))
  | [], [] => some []
  | [], _ :: _ => none
  | (name, _, shape) :: rest, v :: vs => do return (name, ← read? shape v) :: (← readItems rest vs)
  | (_, presence, _) :: rest, [] => if presence = .trailing then readItems rest [] else none

end

def need (name : String) (shape : Shape) : String × Presence × Shape := (name, .needed, shape)

def may (name : String) (shape : Shape) : String × Presence × Shape :=
  (name, .optional, nullable shape)

def mayEnd (name : String) (shape : Shape) : String × Presence × Shape :=
  (name, .trailing, nullable shape)

def switches (names : List String) : List (String × Presence × Shape) := names.map (may · truth)

def token : Shape := either whole text

end Shape

end DiagramReview
