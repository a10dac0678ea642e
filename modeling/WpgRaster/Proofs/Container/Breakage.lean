import WpgRaster.Proofs.Container.PairedDecoders
import WpgRaster.Proofs.Source.Breaking

/-!
# Files that cannot be read to their end

A file of which no byte can be read from some position on is decoded as the intact one,
or it fails for that byte, as long as it is touched in the header or in a raster
(`Decoder.decode_of_break`). Records are different. What stands in front of a raster is
read with reads that cannot fail, and where a record cannot be read from its beginning,
the walk takes the file for ended (`Walk.scan_of_break`). So it is asked of the intact
file whether a record is scanned beyond the byte before a raster is read beyond it
(`Decoder.scansBeyond`). If one is, then frames may be missing, and nothing tells
(`Decoder.decode_of_break_recordEnd`).
-/

namespace WpgRaster

namespace FaultyCursor

variable {first : Nat} {file : Bytes} (inside : first < file.size)

include inside

/-- **Palettes are loaded alike** until the intact cursor is beyond the broken byte. -/
theorem breaking_entries (level : Level) (start count : Nat) (some : count ≠ 0) :
    Compares (Walk.scanning {} (BreaksAt first file) (Cursor.Beyond first))
      (Walk.Paired {} (BreaksAt first file)) (fun _ => Walk.Paired {} (BreaksAt first file))
      (Walk.loadEntries level start count) (Walk.loadEntries level start count) :=
  Walk.loadEntries_compares level start count
    { compared := fun source cursor breaks => by
        have left := breaks.lt_remaining inside
        have within := breaks.within
        have wanted : 0 < count * Walk.entryStride level :=
          Nat.mul_pos (Nat.pos_of_ne_zero some) (by cases level <;> decide)
        generalize count * Walk.entryStride level = limit at wanted
        obtain touches | sound := Nat.lt_or_ge first (cursor.position + limit)
        · refine .late ?_
          show first < cursor.position + min limit cursor.remaining
          omega
        · obtain ⟨-, taken⟩ | ⟨ended, -⟩ := breaks.takeUpTo inside limit
          · have all : min limit (first - cursor.position) = limit := by omega
            have all' : min limit cursor.remaining = limit := by omega
            rw [all] at taken
            have taken' : (ByteSource.takeUpTo limit : SourceM Cursor Bytes) cursor
                = .ok (cursor.peek limit) (cursor.advance (min limit cursor.remaining)) := rfl
            rw [taken, taken', all']
            exact .ok (breaks.advance sound)
          · omega
      stays := fun cursor beyond => beyond.of_le (Nat.le_add_right _ _) }

/-- **A broken cursor takes the place of the intact one**, up to the broken byte. -/
theorem breaking_opensAlike :
    Decoder.OpensAlike {} (BreaksAt first file) (BreaksAt first file) (Cursor.Beyond first) Eq
      SourceError.IsUnreadable file.size where
  likeness := breaking_likeness inside
  weaker _ _ := id
  seek offset := by
    rintro _ cursor - ⟨rfl, rfl, -⟩
    refine ⟨{ cursor := ⟨cursor.bytes, offset⟩, brokenFrom := some first },
      ⟨cursor.bytes, offset⟩, rfl, rfl, ?_⟩
    obtain beyond | within := Nat.lt_or_ge first offset
    · exact .inr beyond
    · exact .inl ⟨rfl, rfl, within⟩
  entries := breaking_entries inside
  empty _ := rfl
  soon _ _ breaks := Nat.not_lt.mpr breaks.within
  prepared level bitmap palette palette' same := by
    cases same
    refine .refl (fun setUp source cursor stop breaks => ?_) _
    obtain same | failed := FrameFormat.decode_compares (breaking_rasters inside)
      (.refl PixelBuffer) (bitmap.format setUp.1) breaks (Eq.refl setUp.2) stop
    · exact .inl ⟨same.result, same.source, same.stop, fun status => by rw [same.sink]⟩
    · exact .inr failed
  start := by
    rintro _ cursor ⟨rfl, rfl, -⟩
    exact ⟨{ cursor := ⟨cursor.bytes, 0⟩, brokenFrom := some first }, ⟨cursor.bytes, 0⟩, rfl, rfl,
      rfl, rfl, Nat.zero_le first⟩
  take count :=
    { compared := fun source cursor breaks => by
        obtain ⟨sound, taken, taken'⟩ | ⟨-, failed⟩ := breaks.take inside count
        · rw [taken, taken']
          exact .ok (breaks.advance sound)
        · rw [failed]
          exact .fatal rfl
      stays := fun _ beyond => beyond.elim }
  length :=
    { compared := fun source cursor breaks => by
        have seekable : source.endUnseekable = false := by
          rw [breaks.eq]
        rw [length_eq seekable]
        unfold onCursor
        obtain rfl := breaks.bytes
        rw [breaks.eq]
        dsimp only
        obtain small | large := Nat.lt_or_ge cursor.bytes.size Size.signedLimit
        · rw [ByteSource.length_eq small]
          exact .ok ⟨⟨rfl, rfl, breaks.within⟩, Nat.le_refl _⟩
        · rw [ByteSource.length_of_le large]
          exact .error rfl ⟨rfl, rfl, breaks.within⟩
      stays := fun _ beyond => beyond.elim }

end FaultyCursor

/-! ## Where records are scanned -/

namespace Walk

/-- **A record whose beginning cannot be read is taken for the end of the file.** -/
theorem scan_of_break {first offset : Nat} (touched : first ≤ offset) (plan : WalkPlan)
    {walk : Walk FaultyCursor} (broken : walk.source.brokenFrom = some first) :
    scan plan offset walk = .ok .ended (walk.withSource
      { walk.source with cursor := ⟨walk.source.cursor.bytes, offset⟩ }) := by
  generalize there : walk.withSource
    { walk.source with cursor := ⟨walk.source.cursor.bytes, offset⟩ } = mid
  have sought : require (ByteSource.seek (.start offset)) walk = .ok offset mid := by
    rw [← there]
    rfl
  have touches : mid.source.touchesFault 1 = true := by
    rw [← there]
    unfold FaultyCursor.touchesFault withSource
    dsimp only
    rw [broken]
    exact decide_eq_true (Nat.lt_succ_of_le touched)
  have failed : ByteSource.take 1 mid.source = .error (.broken .unreadable) mid.source :=
    if_pos touches
  have missing : attempt ByteSource.next mid = .ok none mid := by
    unfold attempt ByteSource.next
    rw [bind_of_error failed]
  unfold scan front
  cases plan.level with
  | one =>
    dsimp only
    unfold frontOne
    rw [bind_assoc, bind_of_ok sought, bind_assoc, bind_of_ok missing]
    rfl
  | two =>
    dsimp only
    unfold frontTwo
    rw [bind_assoc, bind_of_ok sought, bind_assoc, bind_of_ok missing]
    rfl

variable {σ : Type} [ByteSource σ]

/-- **Whether a walk scans a record beyond a byte**, unless the source was beyond it
before. -/
def scansBeyond (first : Nat) (plan : WalkPlan) : (fuel offset : Nat) → Walk σ → Bool
  | 0, _, _ => false
  | fuel + 1, offset, walk =>
    if first < ByteSource.position walk.source ∨ plan.fileSize ≤ offset then false
    else if first < ByteSource.position (behind (scan plan offset walk)).source then true
    else match step plan offset walk with
      | .ok (some next) walk' => scansBeyond first plan fuel next walk'
      | _ => false

/-- A walk that does not is on time. -/
theorem onTime_of_scansBeyond {first : Nat} {plan : WalkPlan} {fuel offset : Nat}
    {walk : Walk Cursor} (within : scansBeyond first plan fuel offset walk = false) :
    OnTime (Cursor.Beyond first) plan fuel offset walk := by
  induction fuel generalizing offset walk with
  | zero => trivial
  | succ fuel ih =>
    intro soon inside
    have goesOn : ¬ (first < ByteSource.position walk.source ∨ plan.fileSize ≤ offset) :=
      not_or.mpr ⟨soon, Nat.not_le.mpr inside⟩
    unfold scansBeyond at within
    rw [if_neg goesOn] at within
    split at within
    · cases within
    · next scanned =>
      refine ⟨scanned, fun next walk' stepped => ih ?_⟩
      rw [stepped] at within
      exact within

variable {late : σ → Prop} {plan : WalkPlan} {fuel offset : Nat} {walk : Walk σ}

/-- Where the source stood before does not matter, if it was not too late. -/
theorem OnTime.withSource (onTime : OnTime late plan fuel offset walk) {source : σ}
    (same : SameFile walk.source source) (soon : ¬ late walk.source) :
    OnTime late plan fuel offset (walk.withSource source) := by
  cases fuel with
  | zero => trivial
  | succ fuel =>
    intro _ inside
    unfold OnTime at onTime
    rw [scan_withSource plan offset same, step_withSource plan offset same]
    exact onTime soon inside

/-- **The walk for the header is on time** if the one that decodes is. -/
theorem OnTime.headersOnly [LawfulByteSource σ] (onTime : OnTime late plan fuel offset walk) :
    OnTime late { plan with headersOnly := true } fuel offset walk := by
  induction fuel generalizing offset walk with
  | zero => trivial
  | succ fuel ih =>
    intro soon inside
    obtain ⟨scanned, later⟩ := onTime soon inside
    refine ⟨scanned, fun next walk' stepped => ?_⟩
    obtain ⟨-, -, same⟩ | ⟨bitmap, next', mid, -, more, handled, goesOn⟩ := step_cases stepped
    · exact ih (later next walk' (same plan.options plan.headersOnly))
    · -- it ends at the first bitmap
      obtain ⟨-, handled⟩ := handleBitmap_eq_ok.mp handled
      cases handled <;> contradiction

end Walk

namespace Decoder

/-- **Whether a record is scanned beyond a byte** when a file is decoded, unless the header
or a raster was read beyond it before. -/
def scansBeyond {σ : Type} [ByteSource σ] (first : Nat) (decoder : Decoder σ) : Bool :=
  match readHeader decoder with
  | .error .. => false
  | .ok header mid =>
    match ByteSource.length mid.source with
    | .error .. => false
    | .ok size source =>
      match (decoder.told source header size).plan? false with
      | none => false
      | some plan =>
        Walk.scansBeyond first plan (plan.fileSize - plan.start) plan.start
          (Walk.make plan.level source .never)

variable {decoder : Decoder Cursor}

/-- Behind the header there is the rest of the file. -/
theorem eq_of_readHeader {mid : Decoder Cursor} {header : Header}
    (read : readHeader decoder = .ok header mid) : mid = decoder.moveTo 16 := by
  obtain ⟨stands, known, sound⟩ := readHeader_ok read
  have again := readHeader_of_prefix stands known sound
  exact (EStateM.Result.ok.inj (read.symm.trans again)).2

/-- **A decoder that scans no record beyond the byte is on time**, once the header was
read in front of it. -/
theorem onTime_of_scansBeyond (unread : decoder.headersDecoded = false) {first : Nat}
    (behind : 16 ≤ first) (within : decoder.scansBeyond first = false) :
    decoder.OnTime (Cursor.Beyond first) .never := by
  have decodes : ∀ header mid size source plan, readHeader decoder = .ok header mid →
      ByteSource.length mid.source = .ok size source →
      (decoder.told source header size).plan? false = some plan →
      Walk.OnTime (Cursor.Beyond first) plan (plan.fileSize - plan.start) plan.start
          (Walk.make plan.level source .never)
        ∧ ¬ Cursor.Beyond first source := by
    intro header mid size source plan read measured planned
    unfold scansBeyond at within
    rw [read] at within
    dsimp only at within
    rw [measured] at within
    dsimp only at within
    rw [planned] at within
    refine ⟨Walk.onTime_of_scansBeyond within, ?_⟩
    rw [ByteSource.length_eq (ByteSource.lt_of_length_ok measured)] at measured
    cases measured
    rw [eq_of_readHeader read]
    exact Nat.not_lt.mpr behind
  constructor
  · intro _ header mid length mid' plan read measured planned
    obtain ⟨source, found, rfl⟩ := exists_of_onSource_ok measured
    have moved := (readHeader_moved.of_ok read).eq
    have told : { mid with source }.told source header length
        = decoder.told source header length := by
      rw [moved]
      rfl
    rw [told] at planned
    obtain ⟨onTime, -⟩ :=
      decodes header mid length source _ read found (plan?_headersOnly planned false)
    have same : { plan with headersOnly := true } = plan := by
      rw [← headersOnly_of_plan? planned]
    have timely := onTime.headersOnly
    rw [same] at timely
    exact timely
  · intro known plan ran planned
    obtain ⟨header, mid, size, source, frames, stop, walked, read, found, went, rfl⟩ :=
      exists_of_decodeHeaders_ok unread ran
    obtain ⟨plan', last, planned', run, -, -, rfl⟩ := exists_of_walk_ok went
    have told : (decoder.told source header size).plan? false = some plan := planned
    obtain ⟨onTime, soon⟩ := decodes header mid size source plan read found told
    exact onTime.withSource ((Walk.steps_proceeds plan' _ _).of_ok run).file soon

/-- Without a header nothing is decoded. -/
theorem decodeWithStop_of_readHeader_error {σ : Type} [ByteSource σ] {decoder mid : Decoder σ}
    (unread : decoder.headersDecoded = false) {err : WpgError}
    (failed : readHeader decoder = .error err mid) (stop : Stop) :
    decoder.decodeWithStop stop = ((.error err, stop), mid) := by
  have here : (get : EStateM WpgError (Decoder σ) (Decoder σ)) decoder = .ok decoder decoder := rfl
  have opened : decodeHeaders decoder = .error err mid := by
    unfold decodeHeaders
    rw [bind_of_ok here, unread, if_neg Bool.false_ne_true]
    exact bind_of_error failed
  unfold decodeWithStop
  rw [opened]

/-- **A file that cannot be read to its end** is decoded as the intact one, or it fails for
the byte that cannot be read: always if that byte belongs to the header, and behind it
if no record is scanned beyond the byte before a raster is read beyond it. -/
theorem decode_of_break {file : Bytes} {first : Nat} (inside : first < file.size)
    (options : Options)
    (within : 16 ≤ first →
      ({ source := .ofBytes file, options } : Decoder Cursor).scansBeyond first = false) :
    let broken : Decoder FaultyCursor :=
      { source := { cursor := .ofBytes file, brokenFrom := some first }, options }
    let intact : Decoder Cursor := { source := .ofBytes file, options }
    (broken.decode.1 = intact.decode.1 ∧ broken.decode.2.embedded = intact.decode.2.embedded)
      ∨ ∃ err, broken.decode.1 = .error err ∧ err.Fatal SourceError.IsUnreadable := by
  intro broken intact
  have opens := FaultyCursor.breaking_opensAlike inside
  have breaks : FaultyCursor.BreaksAt first file broken.source intact.source :=
    ⟨rfl, rfl, Nat.zero_le first⟩
  have paired : Paired (FaultyCursor.BreaksAt first file) file.size broken intact :=
    .ofSources breaks options
  obtain header | behind := Nat.lt_or_ge first 16
  · -- the broken cursor does not get behind the header
    have read := opens.readHeader.compared _ _ paired
    generalize ran : readHeader broken = result, ran' : readHeader intact = result' at read
    cases read with
    | ok here =>
      have position : 16 ≤ first := by
        rw [eq_of_readHeader ran'] at here
        exact here.source.within
      omega
    | error same known =>
      refine .inl ?_
      unfold decode
      rw [decodeWithStop_of_readHeader_error rfl ran, decodeWithStop_of_readHeader_error rfl ran']
      exact ⟨(DeliveredAlike.error same).eq, known.embedded⟩
    | fatal failed =>
      refine .inr ⟨_, ?_, failed⟩
      unfold decode
      rw [decodeWithStop_of_readHeader_error rfl ran]
    | late beyond => exact beyond.elim
  · have onTime := onTime_of_scansBeyond (Eq.refl intact.headersDecoded) behind (within behind)
    exact (opens.decodeWithStop paired onTime).imp_left fun ⟨results, _, known⟩ =>
      ⟨results.eq, known.embedded⟩

end Decoder

/-- A file with two bitmaps. -/
def Bytes.twoRows : Bytes := Bytes.plainHeader ++ Bytes.rowRecord ++ Bytes.rowRecord

namespace Decoder

set_option maxRecDepth 4000 in
/-- The raster of the first bitmap cannot be read, so the file fails. -/
theorem decode_of_break_raster :
    let broken : Decoder FaultyCursor :=
      { source := { cursor := .ofBytes Bytes.twoRows, brokenFrom := some 29 } }
    let intact : Decoder Cursor := { source := .ofBytes Bytes.twoRows }
    29 < Bytes.twoRows.size ∧ intact.scansBeyond 29 = false
      ∧ intact.decode.1.toOption.map Array.size = some 2
      ∧ ∃ err, broken.decode.1 = .error err ∧ err.Fatal SourceError.IsUnreadable := by
  intro broken intact
  have inside : 29 < Bytes.twoRows.size := by decide
  have within : intact.scansBeyond 29 = false := by decide +kernel
  have delivered : intact.decode.1.toOption.map Array.size = some 2
      ∧ broken.decode.1.toOption.map Array.size = none := by decide +kernel
  refine ⟨inside, within, delivered.1, ?_⟩
  refine (decode_of_break inside {} fun _ => within).resolve_left fun same => ?_
  have sizes := delivered.1
  rw [← same.1, delivered.2] at sizes
  cases sizes

set_option maxRecDepth 4000 in
/-- **The type of the second record cannot be read, and nothing tells**: the file is decoded
as if it ended behind the first one. -/
theorem decode_of_break_recordEnd :
    let broken : Decoder FaultyCursor :=
      { source := { cursor := .ofBytes Bytes.twoRows, brokenFrom := some 30 } }
    let intact : Decoder Cursor := { source := .ofBytes Bytes.twoRows }
    30 < Bytes.twoRows.size ∧ broken.decode.1.toOption.map Array.size = some 1
      ∧ intact.decode.1.toOption.map Array.size = some 2 := by
  decide +kernel

end Decoder

end WpgRaster
