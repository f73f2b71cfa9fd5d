/-!
# Bytes

Files, pipes and the standard streams carry bytes.  Words and messages are text,
which is written in UTF-8.

## Main definitions

* `Bytes` — a sequence of bytes.
* `Bytes.ofText`, `Bytes.toText?` — the UTF-8 form of a text, and back.
-/

namespace LineShell

/-- A sequence of bytes. -/
abbrev Bytes := List UInt8

namespace Bytes

/-- The UTF-8 form of a text. -/
def ofText (s : String) : Bytes := s.toUTF8.data.toList

/-- The text of which the bytes are the UTF-8 form, if there is one. -/
def toText? (bs : Bytes) : Option String := String.fromUTF8? ⟨bs.toArray⟩

/-- The byte that ends a line. -/
def lineFeed : UInt8 := 10

end Bytes

end LineShell
