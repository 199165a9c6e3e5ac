import DiagramReview.Text.Digit

namespace DiagramReview

/-- A JSON value. Members keep their order; a number that is not a whole number keeps its text. -/
inductive Json where
  | null
  | bool (value : Bool)
  | integer (value : Int)
  | decimal (numeral : String)
  | string (value : String)
  | array (items : List Json)
  | object (members : List (String × Json))
  deriving Repr

namespace Json

def escape (c : Char) : Text :=
  if c = '"' then "\\\"".toList
  else if c = '\\' then "\\\\".toList
  else if c = '\n' then "\\n".toList
  else if c = '\r' then "\\r".toList
  else if c = '\t' then "\\t".toList
  else if c.toNat = 8 then "\\b".toList
  else if c.toNat = 12 then "\\f".toList
  else if c.toNat < 32 then "\\u00".toList ++ [Text.hexDigit (c.toNat / 16), Text.hexDigit (c.toNat % 16)]
  else [c]

def quote (s : String) : Text := '"' :: s.toList.flatMap escape ++ ['"']

def indent (level : Nat) : Text := '\n' :: List.replicate (2 * level) ' '

def atom : Json → Text
  | null => "null".toList
  | bool true => "true".toList
  | bool false => "false".toList
  | integer n => (toString n).toList
  | decimal numeral => numeral.toList
  | string s => quote s
  | array _ => "[]".toList
  | object _ => ['{', '}']

mutual

def prettyAt (level : Nat) : Json → Text
  | array (item :: items) =>
    '[' :: indent (level + 1) ++ prettyAt (level + 1) item ++ prettyItems (level + 1) items ++
      indent level ++ [']']
  | object ((key, value) :: members) =>
    '{' :: indent (level + 1) ++ quote key ++ ": ".toList ++ prettyAt (level + 1) value ++
      prettyMembers (level + 1) members ++ indent level ++ ['}']
  | value => atom value

def prettyItems (level : Nat) : List Json → Text
  | [] => []
  | item :: items => ',' :: indent level ++ prettyAt level item ++ prettyItems level items

def prettyMembers (level : Nat) : List (String × Json) → Text
  | [] => []
  | (key, value) :: members =>
    ',' :: indent level ++ quote key ++ ": ".toList ++ prettyAt level value ++
      prettyMembers level members

end

mutual

def compactText : Json → Text
  | array (item :: items) => '[' :: compactText item ++ compactItems items ++ [']']
  | object ((key, value) :: members) =>
    '{' :: quote key ++ ':' :: compactText value ++ compactMembers members ++ ['}']
  | value => atom value

def compactItems : List Json → Text
  | [] => []
  | item :: items => ',' :: compactText item ++ compactItems items

def compactMembers : List (String × Json) → Text
  | [] => []
  | (key, value) :: members =>
    ',' :: quote key ++ ':' :: compactText value ++ compactMembers members

end

def pretty (value : Json) : String := String.ofList (prettyAt 0 value)

def compact (value : Json) : String := String.ofList (compactText value)

def nat (n : Nat) : Json := integer n

def member? (key : String) : Json → Option Json
  | object members => members.lookup key
  | _ => none

def present? (key : String) (value : Json) : Option Json :=
  match value.member? key with
  | none | some null => none
  | some v => some v

def orNull : Option Json → Json
  | none => null
  | some v => v

def optional (key : String) (value : Option Json) : List (String × Json) :=
  value.toList.map (key, ·)

end Json

end DiagramReview
