import DiagramReview.Expression.Reader
import DiagramReview.Log.Record

namespace DiagramReview

structure LogDirective where
  name : Option Text
  rank : Nat
  deriving DecidableEq, Repr

structure LogFilter where
  directives : List LogDirective
  part : Expression := .empty
  deriving DecidableEq, Repr

namespace LogFilter

open Text

def rank? (name : Text) : Option Nat :=
  let upper := String.ofList (name.map Char.toUpper)
  if upper = "OFF" then some 0 else (LogLevel.all.find? (·.name = upper)).map LogLevel.rank

def greatestRank : Nat := 5

def directive (spec : Text) : Except Text LogDirective :=
  match spec.splitOn '=' with
  | [one] =>
    match rank? one with
    | some rank => .ok ⟨none, rank⟩
    | none => .ok ⟨some one, greatestRank⟩
  | [name, level] =>
    if (trim level).isEmpty then .ok ⟨some name, greatestRank⟩
    else match rank? (trim level) with
      | some rank => .ok ⟨some name, rank⟩
      | none => .error (trim level)
  | _ => .error spec

def readDirectives (spec : Text) : List (Except Text LogDirective) :=
  (((spec.splitOn ',').map trim).filter (!·.isEmpty)).map directive

def insert (new : LogDirective) (old : List LogDirective) : List LogDirective :=
  if old.any (·.name = new.name) then old.map fun d => if d.name = new.name then new else d
  else old ++ [new]

def complaint (what : String) : String := "warning: " ++ what ++ ", ignoring it"

def readPart (s : Text) : Expression × List String :=
  match Expression.ofText s with
  | .ok e => (e, [])
  | .error fault => (.empty,
    [complaint ("invalid regex filter - " ++ String.ofList (unlines (fault.shown s)))])

def ofText (spec : Text) : LogFilter × List String :=
  match spec.splitOn '/' with
  | list :: rest =>
    if rest.length > 1 then
      ({ directives := [⟨none, LogLevel.error.rank⟩] },
        [complaint ("invalid logging spec '" ++ String.ofList spec ++ "' (too many '/'s)")])
    else
      let found := readDirectives list
      let good := (found.filterMap Except.toOption).foldl (fun ds d => insert d ds) []
      let bad := found.filterMap fun
        | .ok _ => none
        | .error words => some (complaint ("invalid logging spec '" ++ String.ofList words ++ "'"))
      let (part, complaints) := readPart (rest.headD [])
      ({ directives := if good.isEmpty then [⟨none, LogLevel.error.rank⟩] else good, part },
        bad ++ complaints)
  | [] => ({ directives := [⟨none, LogLevel.error.rank⟩] }, [])

def concerns (source : Text) (d : LogDirective) : Bool :=
  match d.name with
  | none => true
  | some name => name.isPrefixOf source

def nameLength (d : LogDirective) : Nat := (d.name.map List.length).getD 0

def longest? (source : Text) (ds : List LogDirective) : Option LogDirective :=
  (ds.filter (concerns source)).foldl (fun best d =>
    match best with
    | some b => if nameLength b ≤ nameLength d then some d else some b
    | none => some d) none

def allows (f : LogFilter) (r : LogRecord) : Bool :=
  (match longest? r.source.path.toList f.directives with
    | some d => r.level.rank ≤ d.rank
    | none => false) && f.part.occursIn r.message.toList

def lines (f : LogFilter) (records : List LogRecord) : List String :=
  (records.filter f.allows).map LogRecord.line

end LogFilter

end DiagramReview
