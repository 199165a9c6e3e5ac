import DiagramReview.Validation.Check

namespace DiagramReview

/-- A program that writes into the findings so far. -/
abbrev Recorder := StateM Findings Unit

namespace Recorder

open Text Check

def after (r : Recorder) (found : Findings) : Findings := (r.run found).2

def report (severity : Severity) (f : Finding) : Recorder := modify (·.add severity f)

def onLines (check : Nat → Text → Recorder) (s : Text) : Recorder := do
  for (n, line) in numberedLines s do
    check n line

def fence (s : Text) : Recorder := do
  if !"```mermaid".toList.isPrefixOf (trim s) then
    report .error unopenedBlock
  if !fenceMark.isSuffixOf (trim s) then
    report .error (unclosedBlock (lines s).length)

def declaration (s : Text) : Recorder := do
  let some (n, line) := firstSignificant s | report .error missingDeclaration
  if !isDeclaration line then
    report .error (invalidDeclaration n line)
  if "graph ".toList.isPrefixOf line then
    report .warning (deprecatedGraph n)

def lineComments (n : Nat) (line : Text) : Recorder := do
  if "//".toList.isPrefixOf (trim line) then
    report .error (slashComment n line)
  if hasPart "<!--".toList line || "-->".toList.isPrefixOf (trim line) then
    report .error (htmlComment n line)

def lineQuotes (n : Nat) (line : Text) : Recorder := do
  if isComment line then
    return
  if line.count '"' % 2 != 0 then
    report .error (unclosedQuote n line)
  if line.count '[' != line.count ']' then
    report .error (unclosedBracket n line)

def lineArrows (n : Nat) (line : Text) : Recorder := do
  if isCommentOrFence line then
    return
  if hasLooseHead line then
    report .warning (looseHeadWarning n line)
  if loneDash.occursIn line && !hasPart "--".toList line then
    report .warning (loneDashWarning n line)

def lineLabel (n : Nat) (line : Text) : Recorder := do
  if isCommentOrFence line then
    return
  let some label := firstLabel? line | return
  if label.isEmpty then
    return
  if label.contains '<' || label.contains '>' then
    report .warning (angleWarning n line)
  if label.contains '{' || label.contains '}' then
    report .warning (braceWarning n line)
  if longestLabel < label.length then
    report .warning (longLabelWarning n line label)

def version (kind : Kind) (s : Text) : Recorder := do
  if (kind = .state ∨ kind = .oldState) ∧ !hasPart "stateDiagram-v2".toList s then
    report .error oldNotation

def cap (m : Metrics) (c : Cap) : Recorder := do
  let some remedy := c.remedy | return
  if c.exceeded m then
    report .warning (c.fault m remedy)

def specific (kind : Option Kind) (m : Metrics) (s : Text) : Recorder := do
  let some kind := kind | return
  version kind s
  for c in kind.caps do
    cap m c
  report .info (counted m kind)

end Recorder

def Aspect.record (s : Text) : Aspect → Recorder
  | fence => Recorder.fence s
  | declaration => Recorder.declaration s
  | comments => Recorder.onLines Recorder.lineComments s
  | quotes => Recorder.onLines Recorder.lineQuotes s
  | arrows => Recorder.onLines Recorder.lineArrows s
  | labels => Recorder.onLines Recorder.lineLabel s
  | specific kind m => Recorder.specific kind m s

def Findings.inspect (s : Text) (found : Findings) (aspects : List Aspect) : Findings :=
  Recorder.after (aspects.forM (·.record s)) found

end DiagramReview
