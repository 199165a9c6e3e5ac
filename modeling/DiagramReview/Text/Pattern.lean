import DiagramReview.Text.Blank

/-!
Patterns over texts: a sequence of pieces, tied to the start of a line if asked. A piece takes all
it can and never gives back, so a pattern is written with pieces of which no two neighbours accept
the same character. `occurrences` reads a text from left to right and goes on after each match.
-/

namespace DiagramReview.Text

inductive Piece where
  /-- one character of a class -/
  | one (accepts : Char → Bool)
  /-- the longest run of characters of a class, possibly empty -/
  | many (accepts : Char → Bool)
  /-- the first of the given words that the text goes on with -/
  | anyOf (words : List Text)

namespace Piece

def width? : Piece → Text → Option Nat
  | one _, [] => none
  | one accepts, c :: _ => if accepts c then some 1 else none
  | many accepts, s => some (s.takeWhile accepts).length
  | anyOf words, s => (words.find? (·.isPrefixOf s)).map List.length

def word (w : Text) : Piece := anyOf [w]

def charOf (cs : Text) : Piece := one (cs.contains ·)

def run (accepts : Char → Bool) : List Piece := [one accepts, many accepts]

end Piece

structure Pattern where
  lineStart : Bool
  pieces : List Piece

namespace Pattern

def anywhere (pieces : List Piece) : Pattern := ⟨false, pieces⟩

def atLineStart (pieces : List Piece) : Pattern := ⟨true, pieces⟩

def widthOf? : List Piece → Text → Option Nat
  | [], _ => some 0
  | p :: ps, s => do
    let n ← p.width? s
    let m ← widthOf? ps (s.drop n)
    return n + m

def width? (p : Pattern) (lineStart : Bool) (s : Text) : Option Nat :=
  if p.lineStart && !lineStart then none else widthOf? p.pieces s

/-- The matches in a text whose first `skip` characters belong to the match before. -/
def scan (p : Pattern) : Bool → Nat → Text → List Text
  | _, _, [] => []
  | _, skip + 1, c :: s => p.scan (c == '\n') skip s
  | lineStart, 0, c :: s =>
    match p.width? lineStart (c :: s) with
    | some (n + 1) => (c :: s.take n) :: p.scan (c == '\n') n s
    | _ => p.scan (c == '\n') 0 s

def occurrences (p : Pattern) (s : Text) : List Text := p.scan true 0 s

def count (p : Pattern) (s : Text) : Nat := (p.occurrences s).length

def occursIn (p : Pattern) (s : Text) : Bool := !(p.occurrences s).isEmpty

end Pattern

end DiagramReview.Text
