import DiagramReview.Diagram.Kind
import DiagramReview.Text.Pattern
import DiagramReview.Text.Word

/-!
What is counted in a document of each kind. Except for the nesting depth, every counter is the
number of matches of a few patterns in the whole document; no grammar is consulted.
-/

namespace DiagramReview

open Text Text.Piece Text.Pattern

inductive Counter where
  | elements
  | relationships
  | nesting
  | attributes
  | methods
  | branches
  | subgraphs
  deriving DecidableEq, Repr

namespace Counter

def name : Counter → String
  | elements => "elements"
  | relationships => "relationships"
  | nesting => "nesting"
  | attributes => "attributes"
  | methods => "methods"
  | branches => "branches"
  | subgraphs => "subgraphs"

def all : List Counter :=
  [elements, relationships, nesting, attributes, methods, branches, subgraphs]

end Counter

structure Metrics where
  elements : Nat := 0
  relationships : Nat := 0
  nesting : Nat := 0
  attributes : Nat := 0
  methods : Nat := 0
  branches : Nat := 0
  subgraphs : Nat := 0
  deriving DecidableEq, Repr

namespace Metrics

def get (m : Metrics) : Counter → Nat
  | .elements => m.elements
  | .relationships => m.relationships
  | .nesting => m.nesting
  | .attributes => m.attributes
  | .methods => m.methods
  | .branches => m.branches
  | .subgraphs => m.subgraphs

def entries (m : Metrics) : List (String × Nat) := Counter.all.map fun c => (c.name, m.get c)

end Metrics

def classDeclaration : Pattern :=
  atLineStart ([many isBlank, word "class".toList] ++ run isBlank ++ run isWord)

def isVisibility (c : Char) : Bool := "+-#~".toList.contains c

def classAttribute : Pattern := anywhere (one isVisibility :: run isWord ++ [word ":".toList])

def classMethod : Pattern := anywhere (one isVisibility :: run isWord ++ [word "(".toList])

def classArrow : Pattern := anywhere [word "--".toList, charOf ">o*|".toList]

def classDottedArrow : Pattern := anywhere [word "..".toList, charOf ">|".toList]

def participant : Pattern :=
  atLineStart ([many isBlank, word "participant".toList] ++ run isBlank)

def isArrowTail (c : Char) : Bool := "->".toList.contains c

def messageArrow : Pattern := anywhere (word "-".toList :: run isArrowTail)

def message : Pattern :=
  anywhere (run isWord ++ [many isBlank, word "-".toList] ++ run isArrowTail ++ [many isBlank] ++
    run isWord)

def sequenceBranch : Pattern := atLineStart [many isBlank, anyOf ["alt".toList, "opt".toList]]

def messageEnds (m : Text) : List Text :=
  [m.takeWhile isWord, (m.reverse.takeWhile isWord).reverse]

def implicitParticipants (s : Text) : Nat :=
  ((message.occurrences s).flatMap messageEnds).eraseDups.length

def stateDeclaration : Pattern :=
  atLineStart [many isBlank, anyOf ["[*]".toList, []], many isBlank, one isWord,
    many fun c => isWord c || isBlank c, word ":".toList]

def stateTransition : Pattern := anywhere [word "-->".toList]

def entityBlock : Pattern := atLineStart (many isBlank :: run isWord ++ [many isBlank, word "\x7b".toList])

def entityAttribute : Pattern :=
  atLineStart (run isBlank ++ run isWord ++ run isBlank ++ run isWord)

def barEnd : Pattern := anywhere [word "|".toList, charOf "|o".toList, word "-".toList]

def footEnd : Pattern := anywhere [word "\x7d".toList, charOf "|o".toList, word "-".toList]

def squareNode : Pattern :=
  anywhere (run isWord ++ [word "[".toList] ++ run (· != ']') ++ [word "]".toList])

def roundNode : Pattern :=
  anywhere (run isWord ++ [word "(".toList] ++ run (· != ')') ++ [word ")".toList])

def edge : Pattern := anywhere [word "--".toList, charOf "->".toList]

def dottedEdge : Pattern := anywhere [word "..-".toList, charOf "->".toList]

def subgraph : Pattern := atLineStart [many isBlank, word "subgraph".toList]

def labelledEdge : Pattern := anywhere [word "-->|".toList]

def opened (keywords : List Text) (line : Text) : Nat := keywords.countP (·.isPrefixOf line)

def closed (line : Text) : Nat := if line = "end".toList then 1 else 0

/-- The greatest depth reached in the remaining lines, from the depth before them. Every keyword
that a line opens with opens a block; a line that is just `end` closes one, if one is open. -/
def deepest (keywords : List Text) : Nat → List Text → Nat
  | depth, [] => depth
  | depth, line :: rest =>
    let open' := depth + opened keywords line
    max open' (deepest keywords (open' - closed line) rest)

def nestingDepth (keywords : List Text) (s : Text) : Nat :=
  deepest keywords 0 ((Text.rows s).map Text.trim)

def sequenceBlocks : List Text := ["alt".toList, "loop".toList, "opt".toList, "par".toList]

def stateBlocks : List Text := ["state".toList]

namespace Metrics

/-- Declared participants, or the names at the ends of messages when none is declared. -/
def participants (s : Text) : Nat :=
  let declared := participant.count s
  if declared = 0 then implicitParticipants s else declared

def measure : Kind → Text → Metrics
  | .classes, s =>
    { elements := classDeclaration.count s
      attributes := classAttribute.count s
      methods := classMethod.count s
      relationships := classArrow.count s + classDottedArrow.count s }
  | .sequence, s =>
    { elements := participants s
      relationships := messageArrow.count s
      nesting := nestingDepth sequenceBlocks s
      branches := sequenceBranch.count s }
  | .state, s | .oldState, s =>
    { elements := stateDeclaration.count s
      relationships := stateTransition.count s
      nesting := nestingDepth stateBlocks s }
  | .entities, s =>
    { elements := entityBlock.count s
      attributes := entityAttribute.count s
      relationships := barEnd.count s + footEnd.count s }
  | .flowchart, s | .graph, s =>
    { elements := squareNode.count s + roundNode.count s
      relationships := edge.count s + dottedEdge.count s
      subgraphs := subgraph.count s
      branches := labelledEdge.count s }

def measureAny : Option Kind → Text → Metrics
  | none, _ => {}
  | some kind, s => measure kind s

end Metrics

end DiagramReview
