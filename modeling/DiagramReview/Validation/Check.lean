import DiagramReview.Complexity.Advice
import DiagramReview.Text.Line
import DiagramReview.Text.Pattern
import DiagramReview.Text.Units
import DiagramReview.Validation.Finding

/-!
What the structural checks look for: each reads the whole document by itself, and most look at one
line at a time. The findings are listed here; how they come into one collection, check after check,
is the matter of `Findings.inspect`.
-/

namespace DiagramReview

def faultText (noun : String) (n limit : Nat) : String :=
  "Too many " ++ noun ++ " (" ++ toString n ++ "). Recommended: " ++ toString limit ++ " or fewer"

def Cap.fault (c : Cap) (m : Metrics) (remedy : String) : Finding :=
  { category := .tooManyElements
    message := faultText c.noun (m.get c.counter) (c.bound m)
    suggestion := some remedy }

end DiagramReview

namespace DiagramReview.Check

open Text

def declarations : List String :=
  ["classDiagram", "sequenceDiagram", "stateDiagram-v2", "erDiagram", "flowchart TB",
    "flowchart TD", "flowchart LR", "flowchart RL", "graph TB", "graph TD", "graph LR", "graph RL"]

def fenceMark : Text := "```".toList

def commentMark : Text := "%%".toList

def isComment (line : Text) : Bool := commentMark.isPrefixOf (trim line)

def isCommentOrFence (line : Text) : Bool := isComment line || fenceMark.isPrefixOf (trim line)

def onLines (check : Nat → Text → Findings) (s : Text) : Findings :=
  .join ((numberedLines s).map fun (n, line) => check n line)

def unopenedBlock : Finding :=
  { category := .codeBlock
    message := "Code block does not start with ```mermaid"
    line := some 1 }

def unclosedBlock (n : Nat) : Finding :=
  { category := .codeBlock
    message := "Code block does not end with ```"
    line := some n }

def fence (s : Text) : Findings :=
  .ensure ("```mermaid".toList.isPrefixOf (trim s)) (.error unopenedBlock) ++
  .ensure (fenceMark.isSuffixOf (trim s)) (.error (unclosedBlock (lines s).length))

def isSignificant (line : Text) : Bool :=
  !line.isEmpty && !fenceMark.isPrefixOf line && !commentMark.isPrefixOf line

def firstSignificant (s : Text) : Option (Nat × Text) :=
  ((numberedLines s).map fun (n, line) => (n, trim line)).find? fun (_, line) => isSignificant line

def isDeclaration (line : Text) : Bool := declarations.any (·.toList.isPrefixOf line)

def missingDeclaration : Finding :=
  { category := .diagramDeclaration
    message := "Diagram declaration not found"
    line := some 1 }

def invalidDeclaration (n : Nat) (line : Text) : Finding :=
  { category := .diagramDeclaration
    message := "Invalid diagram declaration: \"" ++ String.ofList line ++ "\""
    line := some n
    expected := some (", ".intercalate declarations) }

def deprecatedGraph (n : Nat) : Finding :=
  { category := .deprecated
    message := "`graph` is deprecated. Use `flowchart` instead"
    line := some n }

def declaration (s : Text) : Findings :=
  match firstSignificant s with
  | none => .error missingDeclaration
  | some (n, line) =>
    .ensure (isDeclaration line) (.error (invalidDeclaration n line)) ++
    .ensure (!"graph ".toList.isPrefixOf line) (.warning (deprecatedGraph n))

def slashComment (n : Nat) (line : Text) : Finding :=
  { category := .invalidComment
    message := "JavaScript-style comments (//) are invalid. Use %% instead"
    line := some n
    content := some (quoted line) }

def htmlComment (n : Nat) (line : Text) : Finding :=
  { category := .invalidComment
    message := "HTML-style comments (<!-- -->) are invalid. Use %% instead"
    line := some n
    content := some (quoted line) }

def lineComments (n : Nat) (line : Text) : Findings :=
  .ensure (!"//".toList.isPrefixOf (trim line)) (.error (slashComment n line)) ++
  .ensure (!hasPart "<!--".toList line && !"-->".toList.isPrefixOf (trim line))
    (.error (htmlComment n line))

def comments : Text → Findings := onLines lineComments

def unclosedQuote (n : Nat) (line : Text) : Finding :=
  { category := .unclosedQuote
    message := "Unclosed double quote (\")"
    line := some n
    content := some (quoted line) }

def unclosedBracket (n : Nat) (line : Text) : Finding :=
  { category := .unclosedBracket
    message := "Unclosed bracket ([])"
    line := some n
    content := some (quoted line) }

def lineQuotes (n : Nat) (line : Text) : Findings :=
  if isComment line then .empty
  else
    .ensure (line.count '"' % 2 == 0) (.error (unclosedQuote n line)) ++
    .ensure (line.count '[' == line.count ']') (.error (unclosedBracket n line))

def quotes : Text → Findings := onLines lineQuotes

def headByte : UInt8 := 0x3E

def isBodyByte (b : UInt8) : Bool := b == 0x2D || b == 0x3D || b == 0x2E || b == 0x7C

def passHeads (bytes : Array UInt8) (i : Nat) : Nat :=
  if h : bytes[i]? = some headByte then
    have : i < bytes.size := (Array.getElem?_eq_some_iff.mp h).1
    passHeads bytes (i + 1)
  else i
termination_by bytes.size - i

theorem le_passHeads (bytes : Array UInt8) (i : Nat) : i ≤ passHeads bytes i := by
  fun_induction passHeads bytes i with
  | case1 i _ _ ih => exact Nat.le_of_succ_le ih
  | case2 i _ => exact Nat.le_refl i

/-- One turn of the scan for loose heads: the answer, or the place of the next turn. A run of heads
is either loose or passed as a whole. -/
def scanTurn (bytes : Array UInt8) (i : Nat) : Bool ⊕ Nat :=
  match bytes[i]? with
  | none => .inl false
  | some b =>
    if b ≠ headByte then .inr (i + 1)
    else if 0 < i ∧ bytes[i - 1]?.any isBodyByte then .inr (passHeads bytes i)
    else .inl true

theorem lt_of_scanTurn {bytes : Array UInt8} {i next : Nat} (h : scanTurn bytes i = .inr next) :
    i < bytes.size ∧ i < next := by
  unfold scanTurn at h
  split at h
  · cases h
  · next b hb =>
    refine ⟨(Array.getElem?_eq_some_iff.mp hb).1, ?_⟩
    split at h
    · cases h
      exact Nat.lt_succ_self i
    · next hhead =>
      split at h
      · cases h
        rw [passHeads, dif_pos (by rw [hb, Decidable.of_not_not hhead])]
        exact le_passHeads bytes (i + 1)
      · cases h

def scanHeads (bytes : Array UInt8) (i : Nat) : Bool :=
  match h : scanTurn bytes i with
  | .inl found => found
  | .inr next =>
    have := lt_of_scanTurn h
    scanHeads bytes next
termination_by bytes.size - i

def hasLooseHead (line : Text) : Bool := scanHeads (utf8 line) 0

def loneDash : Pattern := .anywhere [.one isBlank, .word "-".toList, .one isBlank]

def looseHeadWarning (n : Nat) (l : Text) : Finding :=
  { category := .invalidArrow
    message := "Possibly invalid arrow: a lone > was found"
    line := some n
    content := some (quoted l)
    suggestion := some "Use --> or ..>" }

def loneDashWarning (n : Nat) (l : Text) : Finding :=
  { category := .invalidArrow
    message := "Possibly invalid arrow: a lone - was found"
    line := some n
    content := some (quoted l)
    suggestion := some "Use -- or -->" }

def lineArrows (n : Nat) (line : Text) : Findings :=
  if isCommentOrFence line then .empty
  else
    .ensure (!hasLooseHead line) (.warning (looseHeadWarning n line)) ++
    .ensure (!(loneDash.occursIn line && !hasPart "--".toList line))
      (.warning (loneDashWarning n line))

def arrows : Text → Findings := onLines lineArrows

def opensLabel (c : Char) : Bool := c == '"' || c == '['

def closesLabel (c : Char) : Bool := c == '"' || c == ']'

def firstLabel? (line : Text) : Option Text :=
  match line.dropWhile (!opensLabel ·) with
  | [] => none
  | _ :: rest => if rest.any closesLabel then some (rest.takeWhile (!closesLabel ·)) else none

def longestLabel : Nat := 30

def angleWarning (n : Nat) (line : Text) : Finding :=
  { category := .specialChar
    message := "Label contains special characters < >"
    line := some n
    content := some (quoted line)
    suggestion := some "Remove the special characters or wrap the label in quotes" }

def braceWarning (n : Nat) (line : Text) : Finding :=
  { category := .specialChar
    message := "Label contains special characters \x7b \x7d"
    line := some n
    content := some (quoted line)
    suggestion := some "Remove the special characters" }

def longLabelWarning (n : Nat) (line label : Text) : Finding :=
  { category := .longLabel
    message := "Label is too long (" ++ toString label.length ++ " characters)"
    line := some n
    content := some (quoted line)
    suggestion := some ("Shorten it to " ++ toString longestLabel ++ " characters or fewer") }

def labelFindings (n : Nat) (line label : Text) : Findings :=
  .ensure (!(label.contains '<' || label.contains '>')) (.warning (angleWarning n line)) ++
  .ensure (!(label.contains '{' || label.contains '}')) (.warning (braceWarning n line)) ++
  .ensure (label.length ≤ longestLabel) (.warning (longLabelWarning n line label))

def lineLabel (n : Nat) (line : Text) : Findings :=
  if isCommentOrFence line then .empty
  else match firstLabel? line with
    | none | some [] => .empty
    | some (c :: label) => labelFindings n line (c :: label)

def labels : Text → Findings := onLines lineLabel

def cap (m : Metrics) (c : Cap) : Findings :=
  match c.remedy with
  | none => .empty
  | some remedy => .ensure (!c.exceeded m) (.warning (c.fault m remedy))

def summary (m : Metrics) : Kind → String
  | .classes => "Classes: " ++ toString m.elements
  | .sequence =>
    "Participants: " ++ toString m.elements ++ ", messages: " ++ toString m.relationships
  | .state | .oldState => "States: " ++ toString m.elements
  | .entities => "Entities: " ++ toString m.elements
  | .flowchart | .graph => "Nodes: " ++ toString m.elements

def counted (m : Metrics) (kind : Kind) : Finding :=
  { category := .elementCount
    message := summary m kind }

def oldNotation : Finding :=
  { category := .invalidVersion
    message := "stateDiagram is deprecated. Use stateDiagram-v2" }

def version (kind : Kind) (s : Text) : Findings :=
  match kind with
  | .state | .oldState => .ensure (hasPart "stateDiagram-v2".toList s) (.error oldNotation)
  | _ => .empty

def specific (kind : Option Kind) (m : Metrics) (s : Text) : Findings :=
  match kind with
  | none => .empty
  | some kind => version kind s ++ .join (kind.caps.map (cap m)) ++ .info (counted m kind)

end DiagramReview.Check

namespace DiagramReview

inductive Aspect where
  | fence
  | declaration
  | comments
  | quotes
  | arrows
  | labels
  | specific (kind : Option Kind) (metrics : Metrics)
  deriving DecidableEq, Repr

namespace Aspect

def structural : List Aspect := [fence, declaration, comments, quotes, arrows, labels]

def findings (s : Text) : Aspect → Findings
  | fence => Check.fence s
  | declaration => Check.declaration s
  | comments => Check.comments s
  | quotes => Check.quotes s
  | arrows => Check.arrows s
  | labels => Check.labels s
  | specific kind m => Check.specific kind m s

end Aspect

end DiagramReview
