import DiagramReview.Files.Path

namespace DiagramReview

inductive ReadError where
  | notFound
  | isDirectory
  | notDirectory
  | notText
  | other (message : String)
  deriving DecidableEq, Repr

namespace ReadError

def message : ReadError → String
  | notFound => "No such file or directory (os error 2)"
  | isDirectory => "Is a directory (os error 21)"
  | notDirectory => "Not a directory (os error 20)"
  | notText => "stream did not contain valid UTF-8"
  | other message => message

end ReadError

/-- What a program can learn of the files of a machine. Whether a path leads to a file is asked of
the directories: the file may still not be readable, and what is no file may give a text. -/
structure Files where
  isFile : String → Bool
  read : String → Except ReadError Text

namespace Files

def decode (bytes : ByteArray) : Except ReadError Text :=
  match String.fromUTF8? bytes with
  | some s => .ok s.toList
  | none => .error .notText

end Files

inductive Tree where
  | file (content : Except ReadError Text)
  | dir (entries : List (String × Tree))

namespace Tree

/-- The tree that the pieces of a path lead to from the first of the given directories, of which
each is the parent of the one before. -/
def walk : List Tree → List Text → Except ReadError Tree
  | [], _ => .error .notFound
  | here :: _, [] => .ok here
  | file _ :: _, _ :: _ => .error .notDirectory
  | dir entries :: up, piece :: path =>
    if Path.isIdle piece then walk (dir entries :: up) path
    else if piece = "..".toList then
      walk (if up.isEmpty then [dir entries] else up) path
    else match entries.lookup (String.ofList piece) with
      | none => .error .notFound
      | some t => walk (t :: dir entries :: up) path

def find (root : Tree) (here path : String) : Except ReadError Tree :=
  if path.isEmpty then .error .notFound
  else walk [root] ((Path.join here path).toList.splitOn '/')

def files (root : Tree) (here : String) : Files where
  isFile path :=
    match root.find here path with
    | .ok (file _) => true
    | _ => false
  read path :=
    match root.find here path with
    | .ok (file content) => content
    | .ok (dir _) => .error .isDirectory
    | .error e => .error e

end Tree

end DiagramReview
