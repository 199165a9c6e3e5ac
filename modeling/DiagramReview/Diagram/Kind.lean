import DiagramReview.Text.Line

namespace DiagramReview

inductive Kind where
  | classes
  | sequence
  | state
  | oldState
  | entities
  | flowchart
  | graph
  deriving DecidableEq, Repr

namespace Kind

def name : Kind → String
  | classes => "class"
  | sequence => "sequence"
  | state => "state"
  | oldState => "state-old"
  | entities => "er"
  | flowchart => "flowchart"
  | graph => "graph"

def nameOf : Option Kind → String
  | none => "none"
  | some kind => kind.name

def keyword : Kind → String
  | classes => "classDiagram"
  | sequence => "sequenceDiagram"
  | state => "stateDiagram-v2"
  | oldState => "stateDiagram"
  | entities => "erDiagram"
  | flowchart => "flowchart"
  | graph => "graph"

/-- All kinds; a keyword stands before those that it continues. -/
def all : List Kind := [classes, sequence, state, oldState, entities, flowchart, graph]

def ofName? (name : String) : Option Kind := all.find? (·.name == name)

def ofLine? (line : Text) : Option Kind := all.find? (·.keyword.toList.isPrefixOf line)

def detect (s : Text) : Option Kind :=
  (Text.rows s).findSome? fun row => ofLine? (Text.trim row)

end Kind

end DiagramReview
