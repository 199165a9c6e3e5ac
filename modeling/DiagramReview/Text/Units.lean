import DiagramReview.Text.Blank

namespace DiagramReview.Text

def units16 (c : Char) : Nat := if c.toNat < 0x10000 then 1 else 2

def length16 (s : Text) : Nat := s.foldr (fun c n => units16 c + n) 0

def utf8 (s : Text) : Array UInt8 := (s.flatMap String.utf8EncodeChar).toArray

end DiagramReview.Text
