import Mathlib.Logic.Function.Basic
import WpgRaster.Proofs.Container.Colors
import WpgRaster.Proofs.Pixel.Unpacking

/-!
# The colours of a colormap

A colormap is made in three steps: it begins with the loaded colours or the default ones, it grows
by black until there is a colour for every sample, and a colormap of two colours that are both
black gets white for the second one. Each step is known by the colours that a palette shows behind
it (`Palette.Shows`), and together they say what every colour of a colormap is
(`Colormap.make_shows`).

The last step is meant to look at the loaded colours, of which there may be just one, but it comes
behind the growth. So a colour that was loaded alone is told apart from black and is joined by it,
where it should be joined by white.
-/

namespace WpgRaster

namespace PaletteEntry

/-- Opaque white. -/
def white : PaletteEntry := ofBytes 255 255 255 255

/-- An opaque gray. -/
def gray (level : UInt8) : PaletteEntry := ofBytes level level level 255

end PaletteEntry

namespace Palette

/-- **The colours that a palette shows**: so many, and these. -/
structure Shows (palette : Palette) (count : Nat) (colors : Nat → PaletteEntry) : Prop where
  /-- There are so many colours. -/
  count_eq : palette.count = count
  /-- Each of them is known. -/
  get?_eq : ∀ i, i < count → palette.get? i = some (colors i)

namespace Shows

variable {palette : Palette} {count : Nat} {colors colors' : Nat → PaletteEntry}

theorem congr (shows : palette.Shows count colors) (same : ∀ i, i < count → colors i = colors' i) :
    palette.Shows count colors' :=
  ⟨shows.count_eq, fun i inside => (shows.get?_eq i inside).trans (congrArg some (same i inside))⟩

/-- **A palette that grows shows black** behind its colours. -/
theorem resize (shows : palette.Shows count colors) {len : Nat} (fits : len ≤ palette.capacity)
    (few : len ≤ 0x10000) :
    ∃ grown, palette.resize len = .ok grown ∧ grown.capacity = palette.capacity
      ∧ grown.Shows (max count len) fun i => if i < count then colors i else .black := by
  obtain ⟨rfl, get?_eq⟩ := shows
  by_cases more : palette.count < len
  · refine ⟨_, palette.resize_of_lt more fits few, rfl, ?_, fun i inside => ?_⟩
    · show (palette.entries ++ Array.replicate (len - palette.count) PaletteEntry.black).size = _
      rw [Array.size_append, Array.size_replicate]
      unfold count at more ⊢
      omega
    · show (palette.entries ++ Array.replicate (len - palette.count) PaletteEntry.black)[i]? = _
      by_cases there : i < palette.count
      · rw [Array.getElem?_append_left there, if_pos there]
        exact get?_eq i there
      · have behind : i - palette.count < len - palette.count := by omega
        rw [Array.getElem?_append_right (Nat.le_of_not_lt there), if_neg there,
          Array.getElem?_replicate]
        exact if_pos behind
  · refine ⟨palette, ?_, rfl, (Nat.max_eq_left (Nat.le_of_not_lt more)).symm, fun i inside => ?_⟩
    · unfold Palette.resize
      rw [if_neg (Nat.not_lt.mpr fits), if_pos (Nat.le_of_not_lt more)]
    · rw [Nat.max_eq_left (Nat.le_of_not_lt more)] at inside
      rw [if_pos inside]
      exact get?_eq i inside

/-- **A colour that is set is shown**, among the others or next to them. -/
theorem set (shows : palette.Shows count colors) (entry : PaletteEntry) {index : Nat}
    (next : index ≤ count) (fits : index < palette.capacity) (few : index < 0x10000) :
    ∃ changed, palette.set index entry = .ok changed ∧ changed.capacity = palette.capacity
      ∧ changed.Shows (max count (index + 1)) (Function.update colors index entry) := by
  obtain ⟨grown, resized, capacity, shown⟩ :=
    shows.resize (Nat.succ_le_of_lt fits) (Nat.succ_le_of_lt few)
  refine ⟨{ grown with entries := grown.entries.setIfInBounds index entry }, ?_, capacity,
    ?_, fun i inside => ?_⟩
  · unfold Palette.set
    rw [if_neg (Nat.not_le.mpr fits), resized]
    rfl
  · show (grown.entries.setIfInBounds index entry).size = _
    rw [Array.size_setIfInBounds]
    exact shown.count_eq
  · show (grown.entries.setIfInBounds index entry)[i]? = _
    rw [Array.getElem?_setIfInBounds]
    by_cases here : index = i
    · subst here
      have there : index < grown.entries.size := Nat.lt_of_lt_of_eq inside shown.count_eq.symm
      rw [if_pos rfl, if_pos there, Function.update_self]
    · rw [if_neg here, Function.update_of_ne (Ne.symm here)]
      have before : i < count := by omega
      refine (shown.get?_eq i inside).trans ?_
      rw [if_pos before]

end Shows

end Palette

/-! ## Colours to begin with -/

namespace Colormap

/-- **A default colour** of a level, of so many. -/
def defaultColor (level : Level) (colors i : Nat) : PaletteEntry :=
  match level with
  | .one =>
    let (red, green, blue) := defaultColors[i]?.getD (0, 0, 0)
    .ofBytes red green blue 255
  | .two => .gray (rampLevel colors i)

theorem ramp_shows {colors count : Nat} (fits : count ≤ colors) (few : count ≤ 0x10000) :
    ∃ ramped, ramp colors count (.withCapacity colors) = .ok ramped ∧ ramped.capacity = colors
      ∧ ramped.Shows count (defaultColor .two colors) := by
  induction count with
  | zero => exact ⟨_, rfl, rfl, rfl, nofun⟩
  | succ count ih =>
    obtain ⟨ramped, ran, capacity, shown⟩ := ih (by omega) (by omega)
    obtain ⟨changed, set, capacity', shown'⟩ := shown.set (.gray (rampLevel colors count))
      (Nat.le_refl count) (by omega) few
    refine ⟨changed, ?_, capacity'.trans capacity, ?_⟩
    · rw [ramp, ran]
      exact set
    · rw [Nat.max_eq_right (Nat.le_succ count)] at shown'
      refine shown'.congr fun i _ => ?_
      by_cases last : i = count
      · subst last
        rw [Function.update_self]
        rfl
      · rw [Function.update_of_ne last]

/-- **The default colormap shows the default colours.** -/
theorem default_shows (level : Level) {colors : Nat} (few : colors ≤ 256) :
    ∃ palette, default level colors = .ok palette ∧ colors ≤ palette.capacity
      ∧ palette.Shows colors (defaultColor level colors) := by
  cases level with
  | one =>
    have size : defaultColors.size = 256 := by decide +kernel
    have count : (defaultColors.extract 0 colors).size = colors := by
      rw [Array.size_extract, size]
      omega
    refine ⟨_, rfl, Nat.le_of_eq count.symm, ?_, fun i inside => ?_⟩
    · show ((defaultColors.extract 0 colors).map _).size = colors
      rw [Array.size_map, count]
    · show ((defaultColors.extract 0 colors).map _)[i]? = _
      rw [Array.getElem?_map, Array.getElem?_extract, if_pos (by omega), Nat.zero_add]
      unfold defaultColor
      rw [Array.getElem?_eq_getElem (by omega)]
      rfl
  | two =>
    obtain ⟨ramped, ran, capacity, shown⟩ := ramp_shows (Nat.le_refl colors) (by omega)
    exact ⟨ramped, ran, Nat.le_of_eq capacity.symm, shown⟩

/-- The colours that were loaded. -/
def loadedColors (loaded : Option Palette) : Array PaletteEntry :=
  (loaded.map Palette.entries).getD #[]

/-- **The colours of a colormap before two of them are told apart**: those that were loaded and
black behind them or, if none was, the default ones. -/
def filledColor (level : Level) (loaded : Option Palette) (depth i : Nat) : PaletteEntry :=
  if (loadedColors loaded).isEmpty then defaultColor level (Size.values depth) i
  else (loadedColors loaded)[i]?.getD .black

/-- A colour that was loaded alone is followed by black. -/
theorem filledColor_of_single {loaded : Option Palette} {color : PaletteEntry}
    (only : loadedColors loaded = #[color]) (level : Level) (depth : Nat) :
    filledColor level loaded depth 0 = color ∧ filledColor level loaded depth 1 = .black := by
  unfold filledColor
  rw [only]
  exact ⟨rfl, rfl⟩

/-- **A colormap begins with colours that were loaded or the default ones.** -/
theorem base_shows (level : Level) {loaded : Option Palette} {depth : Nat}
    (few : Size.values depth ≤ 256)
    (room : ∀ palette ∈ loaded, palette.isEmpty = false → Size.values depth ≤ palette.capacity) :
    ∃ palette count, base level loaded (Size.values depth) = .ok palette
      ∧ Size.values depth ≤ palette.capacity
      ∧ palette.Shows count (filledColor level loaded depth)
      ∧ max count (Size.values depth) = max (Size.values depth) (loadedColors loaded).size
      ∧ ∀ i, count ≤ i → i < Size.values depth → filledColor level loaded depth i = .black := by
  obtain ⟨defaults, ran, fits, shown⟩ := default_shows level few
  by_cases empty : (loadedColors loaded).isEmpty = true
  · refine ⟨defaults, Size.values depth, ?_, fits, shown.congr fun i _ => ?_, ?_,
      fun i beyond inside => absurd inside (Nat.not_lt.mpr beyond)⟩
    · rw [← ran]
      cases loaded with
      | none => rfl
      | some palette => exact if_pos empty
    · exact (if_pos empty).symm
    · rw [Array.isEmpty_iff_size_eq_zero.mp empty, Nat.max_self, Nat.max_zero]
  · cases loaded with
    | none => exact absurd rfl empty
    | some palette =>
      have filled : palette.isEmpty = false := Bool.eq_false_iff.mpr empty
      have color : ∀ i, filledColor level (some palette) depth i
          = palette.entries[i]?.getD .black := fun i => if_neg empty
      refine ⟨palette, palette.count, if_neg empty, room palette rfl filled,
        ⟨rfl, fun i inside => ?_⟩, Nat.max_comm _ _, fun i beyond _ => ?_⟩
      · rw [color]
        show palette.entries[i]? = _
        rw [Array.getElem?_eq_getElem inside]
        rfl
      · rw [color, Array.getElem?_eq_none beyond]
        rfl

/-- **A colormap grows by black.** -/
theorem grow_shows {palette : Palette} {count : Nat} {colors : Nat → PaletteEntry}
    (shows : palette.Shows count colors) {len : Nat} (fits : len ≤ palette.capacity)
    (few : len ≤ 0x10000) (filler : ∀ i, count ≤ i → i < len → colors i = .black) :
    ∃ grown, (if palette.count < len then palette.resize len else .ok palette) = .ok grown
      ∧ len ≤ grown.capacity ∧ grown.Shows (max count len) colors := by
  by_cases short : palette.count < len
  · obtain ⟨grown, resized, capacity, shown⟩ := shows.resize fits few
    refine ⟨grown, (if_pos short).trans resized, capacity ▸ fits, shown.congr fun i inside => ?_⟩
    split
    · rfl
    · next beyond => exact (filler i (by omega) (by omega)).symm
  · have enough : len ≤ count := shows.count_eq ▸ Nat.le_of_not_lt short
    rw [Nat.max_eq_left enough]
    exact ⟨palette, if_neg short, fits, shows⟩

/-! ## Colours told apart -/

/-- **The colours of a colormap** where the second one of two is white if something is wrong. -/
def repairedColor (colors : Nat → PaletteEntry) (wrong : Prop) [Decidable wrong] (i : Nat) :
    PaletteEntry :=
  if wrong ∧ i = 1 then .white else colors i

theorem repairedColor_congr {colors : Nat → PaletteEntry} {wrong wrong' : Prop} [Decidable wrong]
    [Decidable wrong'] (same : wrong ↔ wrong') :
    repairedColor colors wrong = repairedColor colors wrong' := by
  unfold repairedColor
  simp only [same]

/-- **Two colours that are both black are told apart**, others stay as they are. -/
theorem repair_shows {palette : Palette} {count : Nat} {colors : Nat → PaletteEntry}
    (shows : palette.Shows count colors) (two : 2 ≤ count) (room : 2 ≤ palette.capacity) :
    ∃ repaired, repair palette = .ok repaired
      ∧ repaired.Shows count
        (repairedColor colors ((colors 0).isBlack ∧ (colors 1).isBlack)) := by
  have flat : isFlat palette ↔ (colors 0).isBlack ∧ (colors 1).isBlack := by
    unfold isFlat
    rw [shows.get?_eq 0 (by omega), shows.get?_eq 1 (by omega)]
    exact Bool.and_eq_true_iff
  unfold repair
  by_cases wrong : (colors 0).isBlack ∧ (colors 1).isBlack
  · obtain ⟨grown, resized, capacity, shown⟩ := shows.resize room (by decide)
    have second : 1 < grown.capacity := by omega
    obtain ⟨changed, set, -, shown'⟩ := shown.set .white (by omega) second (by decide)
    rw [Nat.max_eq_left two, Nat.max_eq_left two] at shown'
    refine ⟨changed, ?_, shown'.congr fun i inside => ?_⟩
    · rw [if_pos (flat.mpr wrong), resized]
      exact set
    · unfold repairedColor
      by_cases second : i = 1
      · rw [if_pos ⟨wrong, second⟩, second, Function.update_self]
      · rw [if_neg fun both => second both.2, Function.update_of_ne second, if_pos inside]
  · refine ⟨palette, if_neg fun both => wrong (flat.mp both), shows.congr fun i _ => ?_⟩
    exact (if_neg fun both => wrong both.1).symm

/-- **Every colour of a colormap.** For a depth of up to eight bits there is a colormap, whatever
was loaded, if it has room for as many colours as there are samples. It has as many colours as
there are samples, or as were loaded if those are more. It keeps the loaded colours and has black
behind them, and if none was loaded it begins with the default colours of the level. There is one
exception: at a depth of one bit the second colour is white if the first two are both black, where
black counts as the second one if a single colour was loaded. So the second colour is also white if
a single colour was loaded, as it should be, unless that colour is not black: then it stays black,
and only then. -/
theorem make_shows (level : Level) {loaded : Option Palette} {depth : Nat} (bits : 1 ≤ depth)
    (shallow : depth ≤ 8)
    (room : ∀ palette ∈ loaded, palette.isEmpty = false → Size.values depth ≤ palette.capacity) :
    let colors := filledColor level loaded depth
    let count := max (Size.values depth) (loadedColors loaded).size
    let black := (colors 0).isBlack ∧ (colors 1).isBlack
    ∃ palette, make level loaded depth = .ok (some palette)
      ∧ palette.Shows count (repairedColor colors (depth = 1 ∧ black))
      ∧ (palette.Shows count
          (repairedColor colors (depth = 1 ∧ ((loadedColors loaded).size = 1 ∨ black)))
        ↔ ¬ (depth = 1 ∧ ∃ color, loadedColors loaded = #[color] ∧ color.isBlack = false)) := by
  intro colors count black
  have few : Size.values depth ≤ 256 := Size.values_le shallow
  obtain ⟨first, begun, based, fits, shown, most, filler⟩ := base_shows level few room
  obtain ⟨grown, grew, capacity, shown⟩ := grow_shows shown fits (by omega) filler
  rw [most] at shown
  obtain ⟨last, kept, shown⟩ : ∃ last,
      (if depth = 1 then repair grown else .ok grown) = .ok last
        ∧ last.Shows count (repairedColor colors (depth = 1 ∧ black)) := by
    by_cases single : depth = 1
    · have two : Size.values depth = 2 := by rw [single]; rfl
      obtain ⟨repaired, done, shown⟩ := repair_shows shown (by omega) (by omega)
      refine ⟨repaired, (if_pos single).trans done, ?_⟩
      rwa [← repairedColor_congr (and_iff_right single)] at shown
    · refine ⟨grown, if_neg single, shown.congr fun i _ => ?_⟩
      exact (if_neg fun both => single both.1.1).symm
  have made : make level loaded depth = .ok (some last) := by
    unfold make
    rw [if_neg (by omega)]
    dsimp only
    rw [based]
    exact (except_ite_bind grew).trans (except_ite_bind kept)
  refine ⟨last, made, shown, ?_⟩
  by_cases alone : depth = 1 ∧ ∃ color, loadedColors loaded = #[color] ∧ color.isBlack = false
  · -- white is wanted for the second colour, and black is there
    obtain ⟨single, color, only, light⟩ := alone
    obtain ⟨zeroth, second⟩ := filledColor_of_single only level depth
    have two : Size.values depth = 2 := by rw [single]; rfl
    have kept : ¬ ((depth = 1 ∧ black) ∧ 1 = 1) := by
      rintro ⟨⟨-, dark, -⟩, -⟩
      rw [show colors 0 = color from zeroth, light] at dark
      cases dark
    refine iff_of_false (fun wanted => ?_) (not_not_intro ⟨single, color, only, light⟩)
    have same := (shown.get?_eq 1 (by omega)).symm.trans (wanted.get?_eq 1 (by omega))
    unfold repairedColor at same
    rw [if_neg kept, if_pos ⟨⟨single, .inl (congrArg Array.size only)⟩, rfl⟩,
      show colors 1 = .black from second] at same
    cases same
  · refine iff_of_true ?_ alone
    have same : depth = 1 ∧ ((loadedColors loaded).size = 1 ∨ black) ↔ depth = 1 ∧ black := by
      refine and_congr_right fun single => or_iff_right_of_imp fun size => ?_
      obtain ⟨color, only⟩ := Array.size_eq_one_iff.mp size
      obtain ⟨zeroth, second⟩ := filledColor_of_single only level depth
      have dark : color.isBlack = true :=
        (Bool.eq_false_or_eq_true _).resolve_right fun light => alone ⟨single, color, only, light⟩
      show (filledColor level loaded depth 0).isBlack ∧ (filledColor level loaded depth 1).isBlack
      rw [zeroth, second]
      exact ⟨dark, rfl⟩
    rwa [repairedColor_congr same]

/-- Two blacks that were loaded for a bitmap of one bit: the second one becomes white. -/
theorem make_shows_twoBlacks :
    let loaded : Palette := ⟨#[.black, .black], 2⟩
    1 ≤ 1 ∧ 1 ≤ 8 ∧ (∀ palette ∈ some loaded, palette.isEmpty = false →
        Size.values 1 ≤ palette.capacity)
      ∧ ∃ palette, make .two (some loaded) 1 = .ok (some palette) ∧ palette.count = 2
        ∧ palette.get? 0 = some .black ∧ palette.get? 1 = some .white := by
  intro loaded
  have room : ∀ palette ∈ some loaded, palette.isEmpty = false →
      Size.values 1 ≤ palette.capacity := by
    rintro _ ⟨⟩ -
    exact Nat.le_refl 2
  obtain ⟨palette, made, shown, -⟩ := make_shows .two (Nat.le_refl 1) (by decide) room
  exact ⟨Nat.le_refl 1, by decide, room, palette, made, shown.count_eq,
    shown.get?_eq 0 (by decide), shown.get?_eq 1 (by decide)⟩

/-- **A single red stays with black.** It was loaded for a bitmap of one bit, and the second colour
of the colormap is not white. -/
theorem make_shows_singleRed :
    let red : PaletteEntry := .ofBytes 255 0 0 255
    make .one (some ⟨#[red], 256⟩) 1 = .ok (some ⟨#[red, .black], 256⟩)
      ∧ PaletteEntry.black ≠ .white := by
  decide

end Colormap

end WpgRaster
