/-!
# Decoder options

How large a bitmap may be, how many bitmaps are wanted and what becomes of
a damaged one. By default damage is tolerated: truncated bitmaps are kept
with zeros in place of the missing rows, and so are aborted ones. A strict
decoder rejects the file instead.
-/

namespace WpgRaster

/-- What a decoder accepts. -/
structure Options where
  /-- The greatest width of a bitmap. -/
  maxWidth : Nat := 0x4000
  /-- The greatest height of a bitmap. -/
  maxHeight : Nat := 0x4000
  /-- Whether an aborted bitmap fails the file. -/
  rejectAborted : Bool := false
  /-- Whether a truncated bitmap fails the file. -/
  rejectTruncated : Bool := false
  /-- Whether to decode all bitmaps, or the first only. -/
  allFrames : Bool := true
  deriving DecidableEq, Repr

namespace Options

/-- Whether any damage fails the file. -/
def isStrict (options : Options) : Bool := options.rejectAborted || options.rejectTruncated

/-- Rejects all damage or tolerates all of it. -/
def setStrict (options : Options) (strict : Bool) : Options :=
  { options with rejectAborted := strict, rejectTruncated := strict }

/-- The options that tolerate damage. -/
def safe : Options := {}

/-- The options that reject damage. -/
def strict : Options := safe.setStrict true

end Options

end WpgRaster
