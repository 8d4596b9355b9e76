/-!
# Texts as bytes

Places in a text and the limits of some readers count bytes of UTF-8, of which a character takes one
to four.
-/

namespace Bulletin.Text

/-- How many bytes a text takes up. -/
def byteCount (cs : List Char) : Nat := cs.foldl (fun n c => n + c.utf8Size) 0

/-- The bytes of a text. -/
def utf8Bytes (cs : List Char) : List UInt8 := cs.flatMap String.utf8EncodeChar

end Bulletin.Text
