import WpgRaster.Proofs.Source.FaithfulHandles

/-!
# Every source of a file

A file can be read through any of the sources, and each of them can be brought to any of its
states by what it is asked for: somewhere within the file, at its end or far beyond it, with
bytes that were read ahead or without. What is true of all faithful sources is true there
(`Everywhere.of_faithful`).

So every reader keeps its place (`KeepsPlace`), which is what a caller relies on who goes on
after something has failed.
-/

namespace WpgRaster

/-- **What is true of every source of a file**, whatever it was asked for before. -/
structure Everywhere (file : Bytes) (holds : ∀ {σ : Type} [ByteReader σ], σ → Prop) : Prop where
  /-- A cursor may stand anywhere, also beyond the file. -/
  cursor : ∀ ops, holds (ReaderOp.performAll ops (Cursor.ofBytes file))
  /-- A cursor may deliver pieces, and refuse to be moved to its end. -/
  pieces : ∀ ops chunk endUnseekable, holds (ReaderOp.performAll ops
    ({ cursor := .ofBytes file, chunk, endUnseekable } : FaultyCursor))
  /-- A stream may have a buffer or none, and know its end or not. -/
  stream : ∀ ops buffering, holds (ReaderOp.performAll ops (ByteStream.ofBytes file buffering))
  /-- A handle may read straight from the bytes, -/
  fileHandle : ∀ ops, holds (ReaderOp.performAll ops (FileHandle.ofBytes file))
  /-- read ahead, -/
  bufferedHandle : ∀ ops, holds (ReaderOp.performAll ops (BufferedHandle.ofBytes file))
  /-- or read ahead from one that does not know its end. -/
  endlessHandle : ∀ ops, holds (ReaderOp.performAll ops (EndlessHandle.ofBytes file))
  /-- There may be other sources, if they are faithful. -/
  other : ∀ {σ : Type} [ByteReader σ] {sound : σ → Prop}, Faithful file sound →
    ∀ source, sound source → holds source

variable {file : Bytes}

/-- **All sources are faithful**, so it is enough to look at those. -/
theorem Everywhere.of_faithful {holds : ∀ {σ : Type} [ByteReader σ], σ → Prop}
    (faithful : ∀ {σ : Type} [ByteReader σ] {sound : σ → Prop}, Faithful file sound →
      ∀ source, sound source → holds source) : Everywhere file holds where
  cursor ops :=
    have sources := Cursor.faithful file
    faithful sources _ (sources.performAll ops rfl)
  pieces ops _ _ :=
    have sources := FaultyCursor.faithful file
    faithful sources _ (sources.performAll ops ⟨rfl, rfl, rfl⟩)
  stream ops _ :=
    have sources := ByteStream.faithful file
    faithful sources _ (sources.performAll ops rfl)
  fileHandle ops :=
    have sources := FileHandle.faithful file
    faithful sources _ (sources.performAll ops rfl)
  bufferedHandle ops :=
    have sources := BufferedHandle.faithful file
    faithful sources _ (sources.performAll ops (.ofBytes file))
  endlessHandle ops :=
    have sources := EndlessHandle.faithful file
    faithful sources _ (sources.performAll ops (BufferedHandle.Of.ofBytes file))
  other := faithful

/-- **Readers keep their places.** Whatever a source was asked for before, an operation that
fails leaves its position as it is, and so does the question for its length. A read that cannot
fail serves the bytes that are asked for, or zeros, and then the end was reached. -/
theorem keepsPlace_everywhere (file : Bytes) :
    Everywhere file fun source => KeepsPlace file source :=
  .of_faithful fun faithful _ kept => faithful.keepsPlace kept

end WpgRaster
