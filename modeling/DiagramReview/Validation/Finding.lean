import DiagramReview.Text.Blank

namespace DiagramReview

inductive Severity where
  | error
  | warning
  | info
  deriving DecidableEq, Repr

namespace Severity

def name : Severity → String
  | error => "error"
  | warning => "warning"
  | info => "info"

def all : List Severity := [error, warning, info]

def ofName? (name : String) : Option Severity := all.find? (·.name == name)

end Severity

inductive Category where
  | codeBlock
  | diagramDeclaration
  | deprecated
  | invalidComment
  | unclosedQuote
  | unclosedBracket
  | invalidArrow
  | specialChar
  | longLabel
  | tooManyElements
  | invalidVersion
  | elementCount
  | complexity
  deriving DecidableEq, Repr

namespace Category

def name : Category → String
  | codeBlock => "CODE_BLOCK"
  | diagramDeclaration => "DIAGRAM_DECLARATION"
  | deprecated => "DEPRECATED"
  | invalidComment => "INVALID_COMMENT"
  | unclosedQuote => "UNCLOSED_QUOTE"
  | unclosedBracket => "UNCLOSED_BRACKET"
  | invalidArrow => "INVALID_ARROW"
  | specialChar => "SPECIAL_CHAR"
  | longLabel => "LONG_LABEL"
  | tooManyElements => "TOO_MANY_ELEMENTS"
  | invalidVersion => "INVALID_VERSION"
  | elementCount => "ELEMENT_COUNT"
  | complexity => "COMPLEXITY"

def all : List Category :=
  [codeBlock, diagramDeclaration, deprecated, invalidComment, unclosedQuote, unclosedBracket,
    invalidArrow, specialChar, longLabel, tooManyElements, invalidVersion, elementCount, complexity]

def ofName? (name : String) : Option Category := all.find? (·.name == name)

end Category

/-- One finding. Its line is counted from one; its content is that line, trimmed. -/
structure Finding where
  category : Category
  message : String
  line : Option Nat := none
  content : Option String := none
  suggestion : Option String := none
  expected : Option String := none
  deriving DecidableEq, Repr

def quoted (line : Text) : String := String.ofList (Text.trim line)

structure Findings where
  errors : List Finding := []
  warnings : List Finding := []
  infos : List Finding := []
  deriving DecidableEq, Repr

namespace Findings

def append (a b : Findings) : Findings :=
  ⟨a.errors ++ b.errors, a.warnings ++ b.warnings, a.infos ++ b.infos⟩

instance : Append Findings := ⟨append⟩

def empty : Findings := {}

def single : Severity → Finding → Findings
  | .error, f => { errors := [f] }
  | .warning, f => { warnings := [f] }
  | .info, f => { infos := [f] }

def add (found : Findings) : Severity → Finding → Findings
  | .error, f => { found with errors := found.errors ++ [f] }
  | .warning, f => { found with warnings := found.warnings ++ [f] }
  | .info, f => { found with infos := found.infos ++ [f] }

def error (f : Finding) : Findings := single .error f

def warning (f : Finding) : Findings := single .warning f

def info (f : Finding) : Findings := single .info f

def join (all : List Findings) : Findings :=
  ⟨all.flatMap errors, all.flatMap warnings, all.flatMap infos⟩

def ensure (fine : Bool) (found : Findings) : Findings := if fine then empty else found

def isValid (f : Findings) : Bool := f.errors.isEmpty

def bySeverity (f : Findings) : List (Severity × Finding) :=
  f.errors.map (Severity.error, ·) ++ f.warnings.map (Severity.warning, ·) ++
    f.infos.map (Severity.info, ·)

theorem ext_iff {a b : Findings} :
    a = b ↔ a.errors = b.errors ∧ a.warnings = b.warnings ∧ a.infos = b.infos := by
  cases a; cases b; simp

@[simp] theorem errors_append (a b : Findings) : (a ++ b).errors = a.errors ++ b.errors := rfl

@[simp] theorem warnings_append (a b : Findings) : (a ++ b).warnings = a.warnings ++ b.warnings :=
  rfl

@[simp] theorem infos_append (a b : Findings) : (a ++ b).infos = a.infos ++ b.infos := rfl

theorem add_eq_append (found : Findings) (v : Severity) (f : Finding) :
    found.add v f = found ++ single v f := by
  cases v <;> simp [ext_iff, add, single]

theorem append_assoc (a b c : Findings) : a ++ b ++ c = a ++ (b ++ c) := by
  simp [ext_iff]

theorem empty_append (a : Findings) : empty ++ a = a := by simp [ext_iff, empty]

theorem append_empty (a : Findings) : a ++ empty = a := by simp [ext_iff, empty]

theorem join_cons (f : Findings) (fs : List Findings) : join (f :: fs) = f ++ join fs := rfl

end Findings

end DiagramReview
