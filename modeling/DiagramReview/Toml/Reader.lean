import DiagramReview.Toml.Scalar

namespace DiagramReview.Toml

def isSpace (c : Char) : Bool := c == ' ' || c == '\t'

def skipSpaces (s : Text) : Text := s.dropWhile isSpace

def afterComment? (s : Text) : Option Text :=
  match s.dropWhile isPlain with
  | [] => some []
  | '\n' :: rest => some ('\n' :: rest)
  | '\r' :: '\n' :: rest => some ('\r' :: '\n' :: rest)
  | _ => none

def skipLines? : Nat → Text → Option Text
  | 0, _ => none
  | steps + 1, s =>
    match skipSpaces s with
    | '\n' :: rest => skipLines? steps rest
    | '\r' :: '\n' :: rest => skipLines? steps rest
    | '#' :: rest => do skipLines? steps (← afterComment? rest)
    | rest => some rest

def afterLine? (s : Text) : Option Text :=
  match skipSpaces s with
  | [] => some []
  | '\n' :: rest => some rest
  | '\r' :: '\n' :: rest => some rest
  | '#' :: rest => do
    match ← afterComment? rest with
    | '\n' :: rest => some rest
    | '\r' :: '\n' :: rest => some rest
    | _ => some []
  | _ => none

def isBareKey (c : Char) : Bool := c.isAlphanum || c == '_' || c == '-'

def key? (s : Text) : Option (String × Text) :=
  match s with
  | '"' :: _ | '\'' :: _ => (shortString? s).map fun (cs, after) => (String.ofList cs, after)
  | _ =>
    let front := s.takeWhile isBareKey
    if front.isEmpty then none else some (String.ofList front, s.dropWhile isBareKey)

def path? : Nat → Text → Option (List String × Text)
  | 0, _ => none
  | steps + 1, s => do
    let (key, rest) ← key? (skipSpaces s)
    match skipSpaces rest with
    | '.' :: rest =>
      let (path, after) ← path? steps rest
      return (key :: path, after)
    | rest => return ([key], rest)

mutual

def value? : Nat → Text → Option (Toml × Text)
  | 0, _ => none
  | steps + 1, s =>
    match s with
    | '"' :: _ | '\'' :: _ => (string? s).map fun (cs, after) => (.string (String.ofList cs), after)
    | '[' :: rest => (items? steps rest).map fun (items, after) => (.array items, after)
    | '{' :: rest =>
      (members? steps [] rest).map fun (members, after) =>
        (.table (Node.finishMembers members), after)
    | _ => do
      let (front, rest) := scalarSpan s
      return (← scalar? front, rest)

def items? : Nat → Text → Option (List Toml × Text)
  | 0, _ => none
  | steps + 1, s => do
    match ← skipLines? (s.length + 1) s with
    | ']' :: rest => some ([], rest)
    | s =>
      let (item, rest) ← value? steps s
      match ← skipLines? (rest.length + 1) rest with
      | ',' :: rest =>
        let (items, after) ← items? steps rest
        return (item :: items, after)
      | ']' :: rest => some ([item], rest)
      | _ => none

def members? : Nat → Node.Members → Text → Option (Node.Members × Text)
  | 0, _, _ => none
  | steps + 1, members, s => do
    match ← skipLines? (s.length + 1) s with
    | '}' :: rest => some (members, rest)
    | s =>
      let (members, rest) ← assignment? steps members s
      match ← skipLines? (rest.length + 1) rest with
      | ',' :: rest => members? steps members rest
      | '}' :: rest => some (members, rest)
      | _ => none

def assignment? : Nat → Node.Members → Text → Option (Node.Members × Text)
  | 0, _, _ => none
  | steps + 1, members, s => do
    let (path, rest) ← path? (s.length + 1) s
    match rest with
    | '=' :: rest =>
      let (v, after) ← value? steps (skipSpaces rest)
      let members ← Node.assign (path.getLastD "") v true path.dropLast members
      return (members, after)
    | _ => none

end

def header? (close : Text) (s : Text) : Option (List String × Text) := do
  let (path, rest) ← path? (s.length + 1) s
  if close.isPrefixOf rest then return (path, ← afterLine? (rest.drop close.length)) else none

def document? : Nat → List String → Node.Members → Text → Option Node.Members
  | 0, _, _, _ => none
  | steps + 1, here, members, s => do
    match ← skipLines? (s.length + 1) s with
    | [] => some members
    | '[' :: '[' :: rest =>
      let (path, after) ← header? "]]".toList rest
      let members ← Node.change (Node.openNext (path.getLastD "")) path.dropLast members
      document? steps path members after
    | '[' :: rest =>
      let (path, after) ← header? "]".toList rest
      let members ← Node.change (Node.openTable (path.getLastD "")) path.dropLast members
      document? steps path members after
    | s =>
      let (path, rest) ← path? (s.length + 1) s
      match rest with
      | '=' :: rest =>
        let (v, rest) ← value? (2 * rest.length + 2) (skipSpaces rest)
        let members ← Node.change (Node.assign (path.getLastD "") v true path.dropLast) here members
        document? steps here members (← afterLine? rest)
      | _ => none

def parse? (s : Text) : Option (List (String × Toml)) :=
  let s := match s with
    | '\uFEFF' :: rest => rest
    | _ => s
  (document? (s.length + 1) [] [] s).map Node.finishMembers

end DiagramReview.Toml
