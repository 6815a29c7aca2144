-- SUMMARY: A packed color holds the lowest byte of each of its channels.
import SceneSource.Color

/-!
# Colors

The channels of a packed color are the lowest bytes of the channels that were packed. What a
color field reads from the packed form is thus the color with every channel cut down to its
lowest byte, and packing that color again changes nothing.
-/

namespace SceneSource.Color

/-! ## Packing -/

/-- Each channel sits at its own eight bits. -/
theorem extract_pack (r g b a : BitVec 8) :
    (pack r g b a).extractLsb' 0 8 = r ∧ (pack r g b a).extractLsb' 8 8 = g ∧
      (pack r g b a).extractLsb' 16 8 = b ∧ (pack r g b a).extractLsb' 24 8 = a := by
  unfold pack
  simp only [BitVec.extractLsb'_append_eq_of_le (Nat.le_refl 8),
    BitVec.extractLsb'_append_eq_of_le (by decide : 8 ≤ 16),
    BitVec.extractLsb'_append_eq_of_le (by decide : 8 ≤ 24), Nat.reduceSub,
    BitVec.extractLsb'_append_eq_right, BitVec.extractLsb'_eq_self, and_self]

theorem ofInt_packed (r g b a : Int) :
    BitVec.ofInt 32 (packed r g b a) =
      pack (BitVec.ofInt 8 r) (BitVec.ofInt 8 g) (BitVec.ofInt 8 b) (BitVec.ofInt 8 a) := by
  simp only [packed, BitVec.ofInt_natCast, BitVec.ofNat_toNat, BitVec.setWidth_eq]

theorem toNat_byte (n : Int) : ((BitVec.ofInt 8 n).toNat : Int) = n % 256 := by
  simp only [BitVec.toNat_ofInt]
  exact Int.toNat_of_nonneg (Int.emod_nonneg _ (by decide))

/-- The channels of a packed color are lowest bytes. -/
theorem channelAt_packed (r g b a : Int) :
    channelAt (packed r g b a) 0 = r % 256 ∧ channelAt (packed r g b a) 8 = g % 256 ∧
      channelAt (packed r g b a) 16 = b % 256 ∧ channelAt (packed r g b a) 24 = a % 256 := by
  unfold channelAt
  obtain ⟨hr, hg, hb, ha⟩ := extract_pack (BitVec.ofInt 8 r) (BitVec.ofInt 8 g)
    (BitVec.ofInt 8 b) (BitVec.ofInt 8 a)
  simp only [ofInt_packed, hr, hg, hb, ha, toNat_byte, and_self]

/-- Only the lowest byte of a channel is packed. -/
theorem packed_emod (r g b a : Int) :
    packed (r % 256) (g % 256) (b % 256) (a % 256) = packed r g b a := by
  have hbyte : ∀ n : Int, BitVec.ofInt 8 (n % 256) = BitVec.ofInt 8 n := by
    intro n
    apply BitVec.eq_of_toNat_eq
    simp
  simp only [packed, hbyte]

theorem packed_nonneg (r g b a : Int) : 0 ≤ packed r g b a := Int.natCast_nonneg _

theorem packed_lt (r g b a : Int) : packed r g b a < 4294967296 :=
  Int.ofNat_lt.mpr (BitVec.isLt _)

/-! ## Colors in documents -/

/-- A channel cut down to its lowest byte. -/
def lowest (channel : Value) : Value :=
  match channel.int? with
  | some n => .int (n % 256)
  | none => channel

/-- A color as it comes out of its packed form. -/
def settled : Value → Value
  | .color r g b a => .color (lowest r) (lowest g) (lowest b) (lowest a)
  | v => v

/-- That the channels of a color are integral. -/
def IsIntegral : Value → Prop
  | .color r g b a => ∀ channel ∈ [r, g, b, a], channel.int?.isSome
  | _ => True

theorem exists_ints {r g b a : Value} (h : IsIntegral (.color r g b a)) :
    ∃ rn gn bn an, r.int? = some rn ∧ g.int? = some gn ∧ b.int? = some bn ∧
      a.int? = some an := by
  have hint : ∀ channel ∈ [r, g, b, a], ∃ n, channel.int? = some n := fun channel hchannel =>
    Option.isSome_iff_exists.mp (h channel hchannel)
  obtain ⟨rn, hr⟩ := hint r (by simp)
  obtain ⟨gn, hg⟩ := hint g (by simp)
  obtain ⟨bn, hb⟩ := hint b (by simp)
  obtain ⟨an, ha⟩ := hint a (by simp)
  exact ⟨rn, gn, bn, an, hr, hg, hb, ha⟩

section Channels

variable {r g b a : Value} {rn gn bn an : Int} (hr : r.int? = some rn) (hg : g.int? = some gn)
  (hb : b.int? = some bn) (ha : a.int? = some an)
include hr hg hb ha

theorem encode_color : encode (.color r g b a) = .ok (like r (packed rn gn bn an)) := by
  simp only [encode, Value.elements?, channel, hr, hg, hb, ha]
  rfl

theorem settled_color : settled (.color r g b a) =
    .color (.int (rn % 256)) (.int (gn % 256)) (.int (bn % 256)) (.int (an % 256)) := by
  simp only [settled, lowest, hr, hg, hb, ha]

/-- What a color field reads from the packed form of a color. -/
theorem ofValue_packed :
    ofValue (.int (packed rn gn bn an)) = .ok (settled (.color r g b a)) := by
  obtain ⟨hred, hgreen, hblue, halpha⟩ := channelAt_packed rn gn bn an
  simp only [settled_color hr hg hb ha, ← hred, ← hgreen, ← hblue, ← halpha]
  rfl

theorem encode_settled :
    encode (settled (.color r g b a)) = .ok (.int (packed rn gn bn an)) := by
  rw [settled_color hr hg hb ha, encode_color rfl rfl rfl rfl, packed_emod]
  rfl

end Channels

end SceneSource.Color
