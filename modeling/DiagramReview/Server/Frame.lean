import DiagramReview.Json.Reader
import DiagramReview.Server.State

namespace DiagramReview

namespace Frame

open Text

def lengthField : Text := "Content-Length".toList

def length? (line : Text) : Option Nat :=
  match line.splitOn ':' with
  | [name, value] =>
    let digits := trim value
    if trim name = lengthField ∧ !digits.isEmpty ∧ digits.all Char.isDigit then
      some (inBase 10 digits)
    else none
  | _ => none

def lengthOf? (header : List Text) : Option Nat := header.findSome? length?

def ofBody (body : String) : String :=
  String.ofList lengthField ++ ": " ++ toString body.utf8ByteSize ++ "\r\n\r\n" ++ body

def versioned : Json → Json
  | .object members => .object (("jsonrpc", .string "2.0") :: members)
  | message => message

def ofMessage (message : Json) : String := ofBody (versioned message).compact

end Frame

namespace ClientMessage

def ofJson? (body : Json) : Option ClientMessage :=
  match body.member? "method" with
  | some (.string method) =>
    some { method, id := body.member? "id", params := body.present? "params" }
  | _ => none

def ofBody? (body : Text) : Option ClientMessage := Json.parse? body >>= ofJson?

end ClientMessage

end DiagramReview
