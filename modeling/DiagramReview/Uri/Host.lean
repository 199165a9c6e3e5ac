import DiagramReview.Uri.Address
import DiagramReview.Uri.Domain
import DiagramReview.Uri.Percent

namespace DiagramReview.Uri

open Text

inductive Host where
  | name (text : Text)
  | four (address : List Nat)
  | eight (pieces : List Nat)
  deriving DecidableEq, Repr

namespace Host

def toText : Host → Text
  | name text => text
  | four address => Address.fourBytesText address
  | eight pieces => '[' :: Address.eightPiecesText pieces ++ [']']

def bracketed? (s : Text) : Option Host :=
  if s.getLast? = some ']' then (Address.eightPieces? s.dropLast).map eight else none

def ofDomain? (s : Text) : Option Host :=
  match s with
  | '[' :: rest => bracketed? rest
  | _ => do
    let domain ← Domain.normal? (← Percent.decode? s)
    if domain.isEmpty then none
    else if Address.isNumeric domain then (Address.fourBytes? domain).map four
    else some (name domain)

def isForbidden (c : Char) : Bool :=
  c == Char.ofNat 0 || "\t\n\r #/:<>?@[\\]^|".toList.contains c

def ofName? (s : Text) : Option Host :=
  match s with
  | '[' :: rest => bracketed? rest
  | _ => if s.any isForbidden then none else some (name (Percent.encode Percent.isPrintable s))

end Host

end DiagramReview.Uri
