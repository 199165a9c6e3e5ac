import DiagramReview.Expression.CharSet

namespace DiagramReview

inductive Anchor where
  | textStart
  | textEnd
  | lineStart (returns : Bool)
  | lineEnd (returns : Bool)
  | wordEdge (ofAllScripts : Bool)
  | noWordEdge (ofAllScripts : Bool)
  | wordStart (ofAllScripts : Bool)
  | wordEnd (ofAllScripts : Bool)
  | noWordBefore (ofAllScripts : Bool)
  | noWordAfter (ofAllScripts : Bool)
  deriving DecidableEq, Repr

namespace Anchor

def inWord (ofAllScripts : Bool) (c : Option Char) : Bool :=
  c.any (CharClass.word.holds ofAllScripts)

def holds : Anchor → Option Char → Option Char → Bool
  | textStart, before, _ => before.isNone
  | textEnd, _, after => after.isNone
  | lineStart false, before, _ => before.isNone || before == some '\n'
  | lineStart true, before, after =>
    before.isNone || before == some '\n' || (before == some '\r' && after != some '\n')
  | lineEnd false, _, after => after.isNone || after == some '\n'
  | lineEnd true, before, after =>
    after.isNone || after == some '\r' || (after == some '\n' && before != some '\r')
  | wordEdge all, before, after => inWord all before != inWord all after
  | noWordEdge all, before, after => inWord all before == inWord all after
  | wordStart all, before, after => !inWord all before && inWord all after
  | wordEnd all, before, after => inWord all before && !inWord all after
  | noWordBefore all, before, _ => !inWord all before
  | noWordAfter all, _, after => !inWord all after

end Anchor

/-- A regular expression. Only where it occurs counts, so a repetition takes neither as much nor as
little as it can. -/
inductive Expression where
  | empty
  | one (s : CharSet)
  | anchor (a : Anchor)
  | seq (e f : Expression)
  | alt (e f : Expression)
  | times (e : Expression) (least : Nat) (most : Option Nat)
  deriving DecidableEq, Repr

namespace Expression

abbrev Places := List Bool

def gaps (s : Text) : List (Option Char × Option Char) :=
  (none :: s.map some).zip (s.map some ++ [none])

def join (p q : Places) : Places := p.zipWith (· || ·) q

def again (f : Places → Places) : Nat → Places → Places
  | 0, p => p
  | n + 1, p => if f p = p then p else again f n (f p)

/-- The places where the expression may end if it begins at one of the given places. A repetition
without a limit reaches nothing new after as many steps as there are places. -/
def run (s : Text) : Expression → Places → Places
  | empty, p => p
  | one set, p => false :: p.zipWith (fun b c => b && set.holds c) s
  | anchor a, p => p.zipWith (fun b (before, after) => b && a.holds before after) (gaps s)
  | seq e f, p => f.run s (e.run s p)
  | alt e f, p => join (e.run s p) (f.run s p)
  | times e least most, p =>
    again (fun q => join q (e.run s q)) ((most.map (· - least)).getD (s.length + 1))
      (again (e.run s) least p)

def occursIn (e : Expression) (s : Text) : Bool :=
  (e.run s (List.replicate (s.length + 1) true)).contains true

def ofList (es : List Expression) : Expression := es.foldr seq empty

end Expression

end DiagramReview
