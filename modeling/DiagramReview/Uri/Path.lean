import DiagramReview.Text.Line
import DiagramReview.Uri.Percent

namespace DiagramReview.Uri.Path

open Text

def isDot (segment : Text) : Bool :=
  segment == ['.'] || segment.map Char.toLower == "%2e".toList

def isDoubleDot (segment : Text) : Bool :=
  ["..", ".%2e", "%2e.", "%2e%2e"].any (·.toList == segment.map Char.toLower)

def isDrive : Text → Bool
  | [c, mark] => c.isAlpha && (mark == ':' || mark == '|')
  | _ => false

def standsFast (segment : Text) : Bool := isDrive (segment.takeWhile (· != '\\'))

structure Walk where
  done : List Text := []
  onDrive : Bool := false

/-- The segments that a written one stands for in the path of a file: the letter of a drive ends
where the name is broken after its colon, and what follows is taken as it is. -/
def broken? : Text → Option (Text × Text)
  | c :: ':' :: '\t' :: d :: rest => if c.isAlpha then some ([c, ':'], d :: rest) else none
  | _ => none

def Walk.follow (ofFile : Bool) (w : Walk) (segment : Text) : Walk :=
  let encode := Percent.encode Percent.isPlainInPath
  let whole := segment.filter (· != '\t')
  if isDoubleDot segment then
    match w.done with
    | last :: done => if standsFast last then w else { w with done }
    | [] => w
  else if isDot segment then w
  else if ofFile && w.done.isEmpty then
    match broken? segment with
    | some (drive, rest) => { w with done := [encode rest, drive] }
    | none =>
      if isDrive whole then { done := [whole.take 1 ++ [':']], onDrive := true }
      else { w with done := [encode whole] }
  else { w with done := encode whole :: w.done }

def walk (ofFile : Bool) (segments : List Text) : Walk := segments.foldl (Walk.follow ofFile) {}

def segments (w : Walk) (last : Text) : List Text :=
  if isDot last || isDoubleDot last then w.done.reverse ++ [[]] else w.done.reverse

def toText (segments : List Text) : Text := segments.flatMap ('/' :: ·)

def normal (s : Text) : Text :=
  let written := s.splitOn '/'
  toText (segments (walk false written) (written.getLastD []))

def normalOfFile (s : Text) : Text × Bool :=
  let written := s.splitOn '/'
  let w := walk true written
  ('/' :: (toText (segments w (written.getLastD []))).dropWhile (· == '/'), w.onDrive)

end DiagramReview.Uri.Path
