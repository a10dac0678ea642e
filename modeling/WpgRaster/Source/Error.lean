/-!
# What a byte source reports

A read or a seek fails for one of five kinds of reason. Each kind names
its causes by constructors, and `SourceError.message` is the one place
where they are worded. A message is a line: it ends with a line break.
-/

namespace WpgRaster

/-- What a byte stream of the operating system kind complains about. -/
inductive StreamFault
  /-- An exact read met the end of the stream. -/
  | unfilled
  /-- A seek to a position below zero or beyond the largest word. -/
  | invalidSeek
  /-- A stream that does not know its end was asked to seek from it. -/
  | noEnd
  deriving DecidableEq, Repr

/-- Why a source of its own kind broke. -/
inductive Breakage
  /-- The bytes asked for cannot be read. -/
  | unreadable
  /-- The source cannot tell whether it is at its end. -/
  | endUnknown
  deriving DecidableEq, Repr

/-- Why a cursor refused a seek. -/
inductive SeekFault
  /-- The sum of base and offset is no signed 64-bit number. -/
  | overflow
  /-- The target lies before the first byte. -/
  | beforeStart
  /-- The end is unknown and the seek was relative to it. -/
  | noEnd
  deriving DecidableEq, Repr

/-- The errors of a byte source. -/
inductive SourceError
  /-- A stream failed. -/
  | stream (fault : StreamFault)
  /-- A distance or a base is too large for a signed 64-bit number. -/
  | outOfRange
  /-- An exact read wanted more bytes than are left. -/
  | shortRead (requested available : Nat)
  /-- The source broke. -/
  | broken (cause : Breakage)
  /-- A cursor refused to seek. -/
  | seek (fault : SeekFault)
  deriving DecidableEq, Repr

/-- The wording of a stream's complaint. -/
def StreamFault.text : StreamFault → String
  | .unfilled => "failed to fill whole buffer"
  | .invalidSeek => "invalid seek to a negative or overflowing position"
  | .noEnd => "no end"

/-- The wording of a breakage. -/
def Breakage.text : Breakage → String
  | .unreadable => "source broke"
  | .endUnknown => "eof unknown"

/-- The wording of a refused seek. -/
def SeekFault.text : SeekFault → String
  | .overflow => "Seek offset overflows"
  | .beforeStart => "Cannot seek to a position before the start of the stream"
  | .noEnd => "no end"

/-- The line that describes an error. -/
def SourceError.message : SourceError → String
  | .stream fault => "I/O error: " ++ fault.text ++ "\n"
  | .outOfRange =>
    "Position out of range: number too large to fit in target type\n"
  | .shortRead requested available =>
    "Short read, wanted " ++ toString requested ++ " bytes but only "
      ++ toString available ++ " are left\n"
  | .broken cause => cause.text ++ "\n"
  | .seek fault => "Seek failed: " ++ fault.text ++ "\n"

end WpgRaster
