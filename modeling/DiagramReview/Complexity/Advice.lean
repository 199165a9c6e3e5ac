import DiagramReview.Complexity.Score

namespace DiagramReview

inductive Tone where
  | success
  | warning
  | error
  | suggestion
  deriving DecidableEq, Repr

namespace Tone

def name : Tone → String
  | success => "success"
  | warning => "warning"
  | error => "error"
  | suggestion => "suggestion"

def all : List Tone := [success, warning, error, suggestion]

def ofName? (name : String) : Option Tone := all.find? (·.name == name)

end Tone

structure Recommendation where
  tone : Tone
  message : String
  action : Option String := none
  deriving DecidableEq, Repr

structure Cap where
  counter : Counter
  limit : Nat
  perElement : Bool := false
  noun : String
  measure : String := ""
  action : String
  remedy : Option String := none
  deriving DecidableEq, Repr

namespace Cap

/-- The greatest count that is not too many. The product with the number of elements is taken in
words of 64 bits. -/
def bound (cap : Cap) (m : Metrics) : Nat :=
  if cap.perElement then m.elements * cap.limit % Bits.values 64 else cap.limit

def exceeded (cap : Cap) (m : Metrics) : Bool := cap.bound m < m.get cap.counter

def suggestion (cap : Cap) (m : Metrics) : Recommendation :=
  { tone := .suggestion
    message := (if cap.perElement then "Too many " else "Reduce ") ++ cap.noun ++
      " (current: " ++ toString (m.get cap.counter) ++ cap.measure ++
      ", recommended: " ++ toString (cap.bound m) ++ " or fewer)"
    action := some cap.action }

end Cap

namespace Kind

def caps : Kind → List Cap
  | classes =>
    [{ counter := .elements, limit := 12, noun := "classes"
       action := "Group related classes and split them across several diagrams"
       remedy := some "Split the diagram" },
     { counter := .attributes, limit := 5, perElement := true, noun := "attributes"
       action := "Show only the key attributes and move details to a separate diagram" },
     { counter := .relationships, limit := 15, noun := "relationships"
       action := "Show only the primary relationships" }]
  | sequence =>
    [{ counter := .elements, limit := 7, noun := "participants"
       action := "Group related participants or split the scenario"
       remedy := some "Split the diagram" },
     { counter := .nesting, limit := 2, noun := "nesting", measure := " levels"
       action := "Flatten nested alt/loop/opt blocks" },
     { counter := .relationships, limit := 15, noun := "messages"
       action := "Show only the main message flow"
       remedy := some "Remove unnecessary messages" }]
  | state | oldState =>
    [{ counter := .elements, limit := 10, noun := "states"
       action := "Group related states"
       remedy := some "Split the diagram" },
     { counter := .nesting, limit := 1, noun := "nesting", measure := " levels"
       action := "Keep composite states to a minimum" }]
  | entities =>
    [{ counter := .elements, limit := 10, noun := "entities"
       action := "Split the data model along logical boundaries"
       remedy := some "Split the diagram" },
     { counter := .attributes, limit := 8, perElement := true, noun := "attributes"
       action := "Show only the key attributes" }]
  | flowchart | graph =>
    [{ counter := .elements, limit := 15, noun := "nodes"
       action := "Split the process into several flowcharts"
       remedy := some "Split the diagram" },
     { counter := .subgraphs, limit := 3, noun := "subgraphs"
       action := "Keep subgraph nesting shallow" }]

def capsOf : Option Kind → List Cap
  | none => []
  | some kind => kind.caps

end Kind

namespace Level

def recommendation : Level → Recommendation
  | simple => { tone := .success, message := "Complexity is appropriate. No changes needed." }
  | moderate =>
    { tone := .warning
      message := "Complexity is somewhat high. Consider the improvements below." }
  | complex =>
    { tone := .error
      message := "Complexity is too high. Splitting the diagram is strongly recommended." }

end Level

namespace Metrics

def suggestions (m : Metrics) (kind : Option Kind) : List Recommendation :=
  ((Kind.capsOf kind).filter (·.exceeded m)).map (·.suggestion m)

def advice (m : Metrics) (kind : Option Kind) (t : Thresholds) (score : Binary64) :
    List Recommendation :=
  let level := t.classify score
  level.recommendation :: if level = .simple then [] else m.suggestions kind

end Metrics

end DiagramReview
