import DiagramReview.Text.Composed
import DiagramReview.Text.Mark
import DiagramReview.Uri.Direction
import DiagramReview.Uri.DomainTable
import DiagramReview.Uri.Joiner
import DiagramReview.Uri.Punycode

namespace DiagramReview.Domain

open Text

def isForbidden (c : Char) : Bool :=
  c.toNat ≤ 0x20 || c.toNat == 0x7F || "%#/:<>?@[\\]^|".toList.contains c

def counted? (s : Text) : Option Text := do
  let s := composed (← s.mapM DomainTable.counted?).flatten
  if s.any isForbidden then none else some s

def encodedMark : Text := "xn--".toList

def maxEncoded : Nat := 2000

def maxShown : Nat := 1000

/-- The text of a label. An encoded label writes a text that counts as itself and needs to be
encoded. -/
def labelText? (label : Text) : Option Text :=
  if encodedMark.isPrefixOf label then do
    let encoded := label.drop encodedMark.length
    let s ← if encoded.length ≤ maxEncoded then Punycode.decode? encoded else none
    if s.all DomainTable.valid.holds ∧ composed s = s ∧ !s.all Punycode.isAscii then some s
    else none
  else some label

def mayBeLabel (text : Text) : Bool := !text.head?.any isMark && Joiner.allStand [] text

def written? (label : Text) : Option Text :=
  if label.all Punycode.isAscii then some label
  else if label.length ≤ maxShown then some (encodedMark ++ Punycode.encode label)
  else none

def normal? (s : Text) : Option Text := do
  let labels := (← counted? s).splitOn '.'
  let texts ← labels.mapM labelText?
  if texts.all mayBeLabel && Direction.agree (texts.map (·.map Direction.ofChar)) then
    (labels.mapM written?).map ['.'].intercalate
  else none

end DiagramReview.Domain
