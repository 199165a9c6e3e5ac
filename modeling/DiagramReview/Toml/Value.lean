import DiagramReview.Number.Binary64

/-!
TOML values, and tables in the making. While a document is read, a table remembers how it came to
be, because that decides who may still add to it.
-/

namespace DiagramReview

inductive Toml where
  | string (value : String)
  | integer (value : Int)
  | float (value : Binary64)
  | boolean (value : Bool)
  | moment
  | array (items : List Toml)
  | table (members : List (String × Toml))
  deriving Repr

namespace Toml

/-- How a table came to be: on the way to another table's header, on the way to a dotted key, or
by its own header. -/
inductive Origin where
  | implied
  | dotted
  | header
  deriving DecidableEq, Repr

inductive Node where
  | value (v : Toml)
  | table (origin : Origin) (members : List (String × Node))
  | tables (closed : List (List (String × Node))) (last : List (String × Node))

namespace Node

abbrev Members := List (String × Node)

def put (key : String) (node : Node) : Members → Members
  | [] => [(key, node)]
  | (k, n) :: members => if k = key then (key, node) :: members else (k, n) :: put key node members

/-- The members with a change at the table that a header's path leads to; tables on the way come
into being, and an array of tables leads to its last one. -/
def change (f : Members → Option Members) : List String → Members → Option Members
  | [], members => f members
  | key :: path, members =>
    match members.lookup key with
    | none => return put key (table .implied (← change f path [])) members
    | some (table origin inner) => return put key (table origin (← change f path inner)) members
    | some (tables closed last) => return put key (tables closed (← change f path last)) members
    | some (value _) => none

def openTable (key : String) (members : Members) : Option Members :=
  match members.lookup key with
  | none => some (put key (table .header []) members)
  | some (table .implied inner) => some (put key (table .header inner) members)
  | _ => none

def openNext (key : String) (members : Members) : Option Members :=
  match members.lookup key with
  | none => some (put key (tables [] []) members)
  | some (tables closed last) => some (put key (tables (closed ++ [last]) []) members)
  | _ => none

/-- A key gets a value, once. A dotted path adds to tables that dotted keys opened and does not
pass through one that has a header. -/
def assign (key : String) (v : Toml) : Bool → List String → Members → Option Members
  | mayAdd, [], members =>
    if mayAdd && (members.lookup key).isNone then some (put key (value v) members) else none
  | _, k :: path, members =>
    match members.lookup k with
    | none => return put k (table .dotted (← assign key v true path [])) members
    | some (table .header _) => none
    | some (table origin inner) =>
      return put k (table origin (← assign key v (origin = .dotted) path inner)) members
    | some (tables closed last) =>
      return put k (tables closed (← assign key v false path last)) members
    | some (value _) => none

mutual

def finish : Node → Toml
  | value v => v
  | table _ members => .table (finishMembers members)
  | tables closed last => .array (finishTables closed ++ [.table (finishMembers last)])

def finishMembers : List (String × Node) → List (String × Toml)
  | [] => []
  | (key, node) :: members => (key, finish node) :: finishMembers members

def finishTables : List (List (String × Node)) → List Toml
  | [] => []
  | members :: rest => .table (finishMembers members) :: finishTables rest

end

end Node

end Toml

end DiagramReview
