/-!
# Embedded files

Some records carry a file of another format, behind a few bytes of their
own. Such a file is not decoded; where it lies is noted.
-/

namespace WpgRaster

/-- Where an embedded file lies. -/
structure EmbeddedFile where
  /-- The type of the record that carries it. -/
  recordType : UInt8
  /-- The offset of its first byte. -/
  offset : Nat
  /-- The number of its bytes. -/
  length : Nat
  deriving DecidableEq, Repr

/-- The file in a record body at an offset, behind `skip` bytes, unless
nothing is left of the body there. -/
def EmbeddedFile.inBody (recordType : UInt8) (body length skip : Nat) :
    Option EmbeddedFile :=
  if length ≤ skip then none else some ⟨recordType, body + skip, length - skip⟩

end WpgRaster
