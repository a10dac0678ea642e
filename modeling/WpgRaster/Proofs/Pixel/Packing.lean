import Mathlib.Data.List.Forall2
import Mathlib.Data.List.Induction
import WpgRaster.Proofs.Pixel.Indices

/-!
# Packing

Rows are packed in two ways. Gray levels and palette indices of fewer bits than a byte are
written bit by bit, the most significant one first, and what remains of the last byte is filled
with bits that mean nothing. Components take whole bytes, one or two of them (`Layout.pack`).

A sample that was written bit by bit is found again, since the digits of a number that is made of
digits are these (`digit_ofBits`). What is written behind the samples makes no difference
(`packedSample_flatMap`).
-/

namespace WpgRaster

/-! ## Digits -/

/-- The binary digits of a number of so many bits, the most significant one first. -/
def digits (bits value : Nat) : List Nat :=
  (List.range bits).map fun i => value / Size.values (bits - 1 - i) % 2

@[simp] theorem length_digits (bits value : Nat) : (digits bits value).length = bits := by
  simp [digits]

/-- Digits that are binary. -/
def Binary (bits : List Nat) : Prop := ∀ bit ∈ bits, bit < 2

theorem binary_digits (bits value : Nat) : Binary (digits bits value) := by
  intro bit among
  obtain ⟨i, -, rfl⟩ := List.mem_map.mp among
  exact Nat.mod_lt _ Nat.two_pos

/-- **A number is made of its digits.** -/
theorem ofBits_digits_self {bits value : Nat} (fits : value < Size.values bits) :
    ofBits (digits bits value) = value := by
  have whole := ofBits_digits value 0 bits
  simp only [Nat.zero_add, Size.values_zero, Nat.div_one, Nat.mod_eq_of_lt fits] at whole
  exact whole

theorem ofBits_concat (front : List Nat) (bit : Nat) :
    ofBits (front ++ [bit]) = 2 * ofBits front + bit := by
  unfold ofBits
  rw [List.foldl_append]
  rfl

/-- Digits behind others make a number smaller than the place of those. -/
theorem ofBits_append (front : List Nat) {rest : List Nat} (binary : Binary rest) :
    ofBits (front ++ rest) / Size.values rest.length = ofBits front := by
  induction rest using List.reverseRecOn with
  | nil => rw [List.append_nil, List.length_nil, Size.values_zero, Nat.div_one]
  | append_singleton rest bit ih =>
    have small : bit < 2 := binary bit (List.mem_append_right _ (List.mem_singleton_self bit))
    have others : Binary rest := fun other among => binary other (List.mem_append_left _ among)
    rw [← List.append_assoc, ofBits_concat, List.length_append, List.length_singleton,
      Size.values_succ, ← Nat.div_div_eq_div_mul, Nat.mul_add_div Nat.two_pos,
      Nat.div_eq_of_lt small, Nat.add_zero, ih others]

theorem ofBits_lt {bits : List Nat} (binary : Binary bits) :
    ofBits bits < Size.values bits.length := by
  have none := ofBits_append [] binary
  rw [List.nil_append] at none
  exact (Nat.div_eq_zero_iff_lt (Size.values_pos _)).mp none

/-- **The digits of a number that is made of digits** are these. -/
theorem digit_ofBits {bits : List Nat} (binary : Binary bits) {i : Nat} (inside : i < bits.length) :
    ofBits bits / Size.values (bits.length - 1 - i) % 2 = bits[i] := by
  have small : bits[i] < 2 := binary _ (List.getElem_mem inside)
  have split : bits.take i ++ [bits[i]] ++ bits.drop (i + 1) = bits := by
    rw [List.append_assoc, List.singleton_append, ← List.drop_eq_getElem_cons inside,
      List.take_append_drop]
  have behind : (bits.drop (i + 1)).length = bits.length - 1 - i := by
    rw [List.length_drop]
    omega
  have front := ofBits_append (bits.take i ++ [bits[i]])
    fun bit (among : bit ∈ bits.drop (i + 1)) => binary bit (List.mem_of_mem_drop among)
  rw [split, behind, ofBits_concat] at front
  rw [front]
  omega

/-! ## Bits in bytes -/

/-- Eight bits from a place on; those that are missing are zero. -/
def octet (bits : List Nat) (index : Nat) : List Nat :=
  (List.range 8).map fun i => bits[8 * index + i]?.getD 0

@[simp] theorem length_octet (bits : List Nat) (index : Nat) : (octet bits index).length = 8 := by
  simp [octet]

theorem getElem_octet (bits : List Nat) (index : Nat) {i : Nat}
    (inside : i < (octet bits index).length) :
    (octet bits index)[i] = bits[8 * index + i]?.getD 0 := by
  simp [octet]

theorem binary_octet {bits : List Nat} (binary : Binary bits) (index : Nat) :
    Binary (octet bits index) := by
  intro bit among
  obtain ⟨i, -, rfl⟩ := List.mem_map.mp among
  cases found : bits[8 * index + i]? with
  | none => exact Nat.two_pos
  | some bit => exact binary bit (List.mem_of_getElem? found)

/-- **Bits written into bytes**, the first one in the most significant place. -/
def packBits (bits : List Nat) : Bytes :=
  Array.ofFn fun index : Fin ((bits.length + 7) / 8) => (ofBits (octet bits index)).toUInt8

/-- **A bit that was written is found in its place.** -/
theorem rowBit_packBits {bits : List Nat} (binary : Binary bits) {position : Nat}
    (inside : position < bits.length) : rowBit (packBits bits) position = bits[position] := by
  have there : (packBits bits)[position / 8]?
      = some (ofBits (octet bits (position / 8))).toUInt8 := by
    unfold packBits
    rw [Array.getElem?_ofFn, dif_pos (by omega)]
  have binary' := binary_octet binary (position / 8)
  have small := ofBits_lt binary'
  rw [length_octet] at small
  have place : position % 8 < (octet bits (position / 8)).length := by
    rw [length_octet]
    omega
  have digit := digit_ofBits binary' place
  rw [length_octet, getElem_octet, Nat.div_add_mod, List.getElem?_eq_getElem inside,
    Option.getD_some] at digit
  unfold rowBit
  rw [there, Option.getD_some, UInt8.toNat_ofNat_of_lt' small, digit]

/-- **A number whose digits were written into bytes is found in its place**, if it does not reach
into another byte. -/
theorem packedSample_packBits {bits value : Nat} (fits : value < Size.values bits)
    {front rest : List Nat} (binary : Binary (front ++ digits bits value ++ rest)) {x : Nat}
    (place : front.length = x * bits) (aligned : x * bits % 8 + bits ≤ 8) :
    packedSample (packBits (front ++ digits bits value ++ rest)) x bits = value := by
  rw [packedSample_eq_packedIndex _ aligned]
  refine Eq.trans (congrArg ofBits (List.ext_getElem (by simp) fun i _ inside => ?_))
    (ofBits_digits_self fits)
  rw [length_digits] at inside
  have within : x * bits + i < (front ++ digits bits value ++ rest).length := by
    simp only [List.length_append, length_digits]
    omega
  rw [List.getElem_map, List.getElem_range, rowBit_packBits binary within]
  simp only [← place]
  rw [List.getElem_append_left (by rw [List.length_append, length_digits]; omega),
    List.getElem_append_right (Nat.le_add_right _ _)]
  simp only [Nat.add_sub_cancel_left]

/-! ## Pieces of a list -/

section

variable {α β : Type} {l : List α} {f : α → List β} {n : Nat}

/-- Pieces that are as long as each other. -/
theorem length_flatMap_of_forall (length : ∀ a ∈ l, (f a).length = n) :
    (l.flatMap f).length = l.length * n := by
  induction l with
  | nil => rw [List.flatMap_nil, List.length_nil, List.length_nil, Nat.zero_mul]
  | cons a rest ih =>
    rw [List.flatMap_cons, List.length_append, length a List.mem_cons_self,
      ih fun other among => length other (List.mem_cons_of_mem a among), List.length_cons,
      Nat.succ_mul, Nat.add_comm]

/-- A piece stands between the pieces in front of it and those behind it. -/
theorem flatMap_eq_append (f : α → List β) {x : Nat} (inside : x < l.length) :
    l.flatMap f = (l.take x).flatMap f ++ f l[x] ++ (l.drop (x + 1)).flatMap f := by
  rw [List.append_assoc, ← List.flatMap_cons, ← List.drop_eq_getElem_cons inside,
    ← List.flatMap_append, List.take_append_drop]

/-- The pieces in front of a piece. -/
theorem length_flatMap_take (length : ∀ a ∈ l, (f a).length = n) {x : Nat}
    (inside : x < l.length) : ((l.take x).flatMap f).length = x * n := by
  rw [length_flatMap_of_forall fun a among => length a (List.mem_of_mem_take among),
    List.length_take, Nat.min_eq_left (Nat.le_of_lt inside)]

/-- Pieces that are known one by one. -/
theorem flatMap_range {g : Nat → List β} (same : ∀ x (inside : x < l.length), g x = f l[x]) :
    (List.range l.length).flatMap g = l.flatMap f := by
  have pieces : (List.range l.length).map g = l.map f :=
    List.ext_getElem (by simp) fun x _ inside => by
      rw [List.length_map] at inside
      rw [List.getElem_map, List.getElem_map, List.getElem_range, same x inside]
  rw [List.flatMap_def, List.flatMap_def, pieces]

end

/-! ## Packed rows -/

namespace Component

/-- The bytes of a sample: one, or two of which the more significant one comes first. -/
def pack (component : Component) (sample : Nat) : List UInt8 :=
  if component.depth ≤ 8 then [sample.toUInt8] else [(sample / 256).toUInt8, sample.toUInt8]

/-- The bytes of a pixel. -/
def packAll (components : List Component) (pixel : List Nat) : List UInt8 :=
  (List.zipWith pack components pixel).flatten

/-- **A pixel that can be packed**: it has a sample for each component, of as many bits. -/
def Holds (components : List Component) (pixel : List Nat) : Prop :=
  List.Forall₂ (fun component sample => sample < Size.values component.depth) components pixel

theorem length_pack (component : Component) (sample : Nat) :
    (component.pack sample).length = component.storedBytes := by
  unfold pack storedBytes
  split <;> rfl

theorem length_packAll {components : List Component} {pixel : List Nat}
    (holds : Holds components pixel) :
    (packAll components pixel).length = totalBytes components := by
  induction holds with
  | nil => rfl
  | @cons component sample components pixel _ _ ih =>
    show (component.pack sample ++ packAll components pixel).length = _
    rw [List.length_append, length_pack, ih]
    rfl

end Component

/-- **Packed pixels.** Samples of fewer bits than a byte are written bit by bit, and some bits that
mean nothing behind them. -/
def Layout.pack (layout : Layout) (components : List Component) (pixels : List (List Nat))
    (padding : List Bool) : Bytes :=
  match layout with
  | gray bits | indexed bits =>
    packBits (pixels.flatten.flatMap (digits bits) ++ padding.map Bool.toNat)
  | interleaved _ => (pixels.flatMap (Component.packAll components)).toArray

/-- **Samples that were written bit by bit are found again**, whatever is behind them. -/
theorem packedSample_flatMap {bits : Nat} (whole : bits ∈ [1, 2, 4, 8]) {samples : List Nat}
    (fits : ∀ sample ∈ samples, sample < Size.values bits) (padding : List Bool) {x : Nat}
    (inside : x < samples.length) :
    packedSample (packBits (samples.flatMap (digits bits) ++ padding.map Bool.toNat)) x bits
      = samples[x] := by
  have aligned := aligned_of_mem whole x
  have place := length_flatMap_take (fun sample _ => length_digits bits sample) inside
  have binary : Binary (samples.flatMap (digits bits) ++ padding.map Bool.toNat) := by
    intro bit among
    obtain digit | filled := List.mem_append.mp among
    · obtain ⟨sample, -, digit⟩ := List.mem_flatMap.mp digit
      exact binary_digits bits sample bit digit
    · obtain ⟨bit, -, rfl⟩ := List.mem_map.mp filled
      exact bit.toNat_lt
  rw [flatMap_eq_append (digits bits) inside, List.append_assoc _ _ (padding.map _)] at binary ⊢
  exact packedSample_packBits (fits _ (List.getElem_mem inside)) binary place aligned

end WpgRaster
