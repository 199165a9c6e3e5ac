import DiagramReview.Text.CharTable
import DiagramReview.Text.Word

namespace DiagramReview

namespace Text

def digitTable : CharTable := .ofRows [
  "30-39 660-669 6F0-6F9 7C0-7C9 966-96F 9E6-9EF A66-A6F AE6-AEF B66-B6F BE6-BEF C66-C6F CE6-CEF",
  "D66-D6F DE6-DEF E50-E59 ED0-ED9 F20-F29 1040-1049 1090-1099 17E0-17E9 1810-1819 1946-194F",
  "19D0-19D9 1A80-1A89 1A90-1A99 1B50-1B59 1BB0-1BB9 1C40-1C49 1C50-1C59 A620-A629 A8D0-A8D9",
  "A900-A909 A9D0-A9D9 A9F0-A9F9 AA50-AA59 ABF0-ABF9 FF10-FF19 104A0-104A9 10D30-10D39",
  "10D40-10D49 11066-1106F 110F0-110F9 11136-1113F 111D0-111D9 112F0-112F9 11450-11459",
  "114D0-114D9 11650-11659 116C0-116C9 116D0-116E3 11730-11739 118E0-118E9 11950-11959",
  "11BF0-11BF9 11C50-11C59 11D50-11D59 11DA0-11DA9 11F50-11F59 16130-16139 16A60-16A69",
  "16AC0-16AC9 16B50-16B59 16D70-16D79 1CCF0-1CCF9 1D7CE-1D7FF 1E140-1E149 1E2F0-1E2F9",
  "1E4F0-1E4F9 1E5F1-1E5FA 1E950-1E959 1FBF0-1FBF9"]

def isDecimal (c : Char) : Bool := digitTable.holds c

end Text

inductive CharClass where
  | digit
  | blank
  | word
  deriving DecidableEq, Repr

namespace CharClass

def holds (ofAllScripts : Bool) (k : CharClass) (c : Char) : Bool :=
  (ofAllScripts || c.toNat < 128) &&
    match k with
    | digit => Text.isDecimal c
    | blank => Text.isBlank c
    | word => Text.isWord c

end CharClass

inductive CharSet where
  | range (first last : Char)
  | ofClass (ofAllScripts : Bool) (k : CharClass)
  | except (s : CharSet)
  | union (s t : CharSet)
  | inter (s t : CharSet)
  | anyCase (s : CharSet)
  deriving DecidableEq, Repr

namespace CharSet

/-- A character in both cases, with the two signs beyond ASCII that are another case of a letter of
ASCII. Other letters count as having one case. -/
def allCases (c : Char) : List Char :=
  if c = 'k' ∨ c = 'K' ∨ c = '\u212A' then ['k', 'K', '\u212A']
  else if c = 's' ∨ c = 'S' ∨ c = '\u017F' then ['s', 'S', '\u017F']
  else [c, c.toLower, c.toUpper]

def holds : CharSet → Char → Bool
  | range first last, c => first ≤ c && c ≤ last
  | ofClass ofAllScripts k, c => k.holds ofAllScripts c
  | except s, c => !s.holds c
  | union s t, c => s.holds c || t.holds c
  | inter s t, c => s.holds c && t.holds c
  | anyCase s, c => (allCases c).any s.holds

def single (c : Char) : CharSet := range c c

def none : CharSet := range '\x01' '\x00'

def ofList (sets : List CharSet) : CharSet := sets.foldr union none

def fold (caseless : Bool) (s : CharSet) : CharSet := if caseless then s.anyCase else s

def flip (negated : Bool) (s : CharSet) : CharSet := if negated then s.except else s

def ranges (ends : List (Char × Char)) : CharSet := ofList (ends.map fun (a, b) => range a b)

def named? (name : String) : Option CharSet :=
  match name with
  | "alnum" => some (ranges [('0', '9'), ('A', 'Z'), ('a', 'z')])
  | "alpha" => some (ranges [('A', 'Z'), ('a', 'z')])
  | "ascii" => some (range '\x00' '\x7f')
  | "blank" => some (ranges [('\t', '\t'), (' ', ' ')])
  | "cntrl" => some (ranges [('\x00', '\x1f'), ('\x7f', '\x7f')])
  | "digit" => some (range '0' '9')
  | "graph" => some (range '!' '~')
  | "lower" => some (range 'a' 'z')
  | "print" => some (range ' ' '~')
  | "punct" => some (ranges [('!', '/'), (':', '@'), ('[', '\x60'), ('\x7b', '~')])
  | "space" => some (ranges [('\t', '\r'), (' ', ' ')])
  | "upper" => some (range 'A' 'Z')
  | "word" => some (ranges [('0', '9'), ('A', 'Z'), ('_', '_'), ('a', 'z')])
  | "xdigit" => some (ranges [('0', '9'), ('A', 'F'), ('a', 'f')])
  | _ => Option.none

end CharSet

end DiagramReview
