-- SUMMARY: The packed form of colors as arithmetic, and colors that go through it unchanged.
import SceneSource.Proofs.Channels

/-!
# The packed form of colors

The packed form of a color is the sum of the residues of its channels, each with the weight of its
place, and unpacking takes the residues out again. So what a color field makes of anything but a
color is a color that its packed form has all of: the field stores the same one for it.
-/

namespace SceneSource

namespace Color

/-! ## Packing and unpacking as arithmetic -/

/-- The packed form is the sum of the lowest bytes, each with the weight of its place. -/
theorem packed_eq (r g b a : Int) : packed r g b a =
    r % 256 + 256 * (g % 256) + 65536 * (b % 256) + 16777216 * (a % 256) := by
  have hplace : ∀ {w : Nat} (high : BitVec w) (low : BitVec 8),
      (high ++ low).toNat = 256 * high.toNat + low.toNat := by
    intro w high low
    rw [BitVec.toNat_append, Nat.shiftLeft_eq, Nat.mul_comm,
      ← Nat.two_pow_add_eq_or_of_lt low.isLt]
  simp only [packed, pack, hplace, ← toNat_byte]
  omega

/-- A channel is a byte of the lowest 32 bits. -/
theorem channelAt_eq (n : Int) (bit : Nat) :
    channelAt n bit = n % 4294967296 / (Nat.pow 2 bit : Nat) % 256 := by
  have hlow : ((BitVec.ofInt 32 n).toNat : Int) = n % 4294967296 := by
    rw [BitVec.toNat_ofInt]
    exact Int.toNat_of_nonneg (Int.emod_nonneg _ (by decide))
  rw [channelAt, BitVec.extractLsb'_toNat, Nat.shiftRight_eq_div_pow, ← hlow]
  rfl

theorem isByte_channelAt (n : Int) (bit : Nat) : IsByte (channelAt n bit) := by
  rw [channelAt_eq]
  unfold IsByte
  omega

/-- Packing what was unpacked gives the lowest 32 bits. -/
theorem packed_channelAt (n : Int) :
    packed (channelAt n 0) (channelAt n 8) (channelAt n 16) (channelAt n 24) =
      n % 4294967296 := by
  simp only [packed_eq, channelAt_eq, Nat.pow_eq, Nat.reducePow, Nat.cast_ofNat, Nat.cast_one]
  omega

theorem decode_int (n : Int) : decode (.int n) = .ok (unpacked n) := rfl

theorem encode_unpacked (n : Int) : encode (unpacked n) = .ok (.int (n % 4294967296)) := by
  rw [← packed_channelAt]
  exact encode_color rfl rfl rfl rfl

/-- Unpacking depends on the lowest 32 bits, on all of them. -/
theorem decode_eq_iff (m n : Int) :
    decode (.int m) = decode (.int n) ↔ m % 4294967296 = n % 4294967296 := by
  simp only [decode_int]
  constructor
  · intro h
    have hencode := congrArg encode (Except.ok.inj h)
    rw [encode_unpacked, encode_unpacked] at hencode
    exact Value.int.inj (Except.ok.inj hencode)
  · intro h
    simp only [unpacked, unpackedWith, channelAt_eq, h]

theorem decode_packed (r g b a : Int) : decode (.int (packed r g b a)) =
    .ok (.color (.int (r % 256)) (.int (g % 256)) (.int (b % 256)) (.int (a % 256))) := by
  obtain ⟨hr, hg, hb, ha⟩ := channelAt_packed r g b a
  simp only [decode_int, unpacked, unpackedWith, hr, hg, hb, ha]

/-! ## What a color field makes of a value -/

/-- That a color has integers in 0…255, the red one in some guise. -/
structure HasBytes (color red : Value) (r g b a : Int) : Prop where
  channels : color = .color red (.int g) (.int b) (.int a)
  red : red.int? = some r
  bytes : IsByte r ∧ IsByte g ∧ IsByte b ∧ IsByte a

theorem hasBytes_of_ofIntegers? {ns : List Int} {c : Value} (hns : ∀ n ∈ ns, IsByte n)
    (h : ofIntegers? ns = some c) : ∃ r g b a, HasBytes c (.int r) r g b a := by
  unfold ofIntegers? at h
  split at h
  · rename_i r g b
    cases h
    obtain ⟨hr, hg, hb, _⟩ := by simpa only [List.forall_mem_cons] using hns
    exact ⟨r, g, b, 255, rfl, rfl, hr, hg, hb, by unfold IsByte; omega⟩
  · rename_i r g b a
    cases h
    obtain ⟨hr, hg, hb, ha, _⟩ := by simpa only [List.forall_mem_cons] using hns
    exact ⟨r, g, b, a, rfl, rfl, hr, hg, hb, ha⟩
  · cases h

theorem int?_like (v : Value) {n : Int} (hn : 0 ≤ n) : (like v n).int? = some n := by
  cases v with
  | flags m => simp only [like, Value.ofFlags, if_pos hn, Value.int?, Int.toNat_of_nonneg hn]
  | _ => rfl

theorem like_of_not_flags {v : Value} (hv : ∀ m, v ≠ .flags m) (n : Int) : like v n = .int n := by
  cases v with
  | flags m => exact absurd rfl (hv m)
  | _ => rfl

theorem hasBytes_unpackedWith (v : Value) (n : Int) : HasBytes (unpackedWith (like v) n)
    (like v (channelAt n 0)) (channelAt n 0) (channelAt n 8) (channelAt n 16) (channelAt n 24) where
  channels := rfl
  red := int?_like v (isByte_channelAt n 0).1
  bytes := ⟨isByte_channelAt n 0, isByte_channelAt n 8, isByte_channelAt n 16,
    isByte_channelAt n 24⟩

/-- What is no color becomes one with integers in 0…255. Only flags stay flags in it. -/
theorem hasBytes_of_ofValue {v c : Value} (hv : ∀ r g b a, v ≠ .color r g b a)
    (h : ofValue v = .ok c) : ∃ red r g b a, HasBytes c red r g b a ∧
      ((∀ m, v ≠ .flags m) → red = .int r) := by
  by_cases hcollection : IsCollection v
  · obtain ⟨_, ns, _, _, hns, hc⟩ := (ofValue_ok_iff hcollection).mp h
    obtain ⟨r, g, b, a, hbytes⟩ := hasBytes_of_ofIntegers? hns hc
    exact ⟨_, r, g, b, a, hbytes, fun _ => rfl⟩
  · have hpacked : ∃ n, c = unpackedWith (like v) n := by
      unfold ofValue at h
      split at h
      · exact absurd rfl (hv _ _ _ _)
      · cases h
      · exact absurd trivial hcollection
      · exact absurd trivial hcollection
      · exact absurd trivial hcollection
      · split at h
        · cases h
          exact ⟨_, rfl⟩
        · cases h
    obtain ⟨n, rfl⟩ := hpacked
    exact ⟨_, _, _, _, _, hasBytes_unpackedWith v n, fun hflags => like_of_not_flags hflags _⟩

namespace HasBytes

variable {c red : Value} {r g b a : Int} (h : HasBytes c red r g b a)
include h

/-- A color of bytes loses nothing in its packed form. -/
theorem ofValue_packed :
    ofValue (.int (packed r g b a)) = .ok (.color (.int r) (.int g) (.int b) (.int a)) := by
  have hresidue : ∀ {n : Int}, IsByte n → n % 256 = n := fun h =>
    Int.emod_eq_of_lt h.1 (Int.lt_add_one_of_le h.2)
  have hplain : ∀ n : Int, (Value.int n).int? = some n := fun _ => rfl
  obtain ⟨_, hred, hr, hg, hb, ha⟩ := h
  rw [Color.ofValue_packed hred (hplain g) (hplain b) (hplain a),
    settled_color hred (hplain g) (hplain b) (hplain a), hresidue hr, hresidue hg, hresidue hb,
    hresidue ha]

theorem write_settings : (Shape.leaf .color).write .settings 0 c =
    .ok (.int (packed r g b a)) := by
  rw [h.channels]
  exact Leaf.write_color .settings 0 h.red rfl rfl rfl

/-- The color is equal to the one of the plain integers. -/
theorem equal_plain : (Value.color (.int r) (.int g) (.int b) (.int a)).equal c = true := by
  have hagree : ∀ {v : Value} {n : Int}, v.int? = some n →
      Value.agreeAtoms (.int n) v = true := by
    intro v n hn
    have hplain : (Value.int n).number? = some (.int n) := rfl
    have hnumber : v.number? = some (.int n) := Value.number?_eq_some_iff.mpr (.inr ⟨n, hn, rfl⟩)
    simp only [Value.agreeAtoms, hplain, hnumber, Number.same, beq_self_eq_true, Bool.true_or]
  have hself : ∀ n : Int, Value.agreeAtoms (.int n) (.int n) = true := fun n => hagree rfl
  rw [h.channels]
  simp only [Value.equal, Value.agrees, Value.tuple?, hagree h.red, hself, Bool.and_self]

end HasBytes

end Color

/-! ## Colors given back to their fields -/

namespace Kind

/-- That a field gets back what it sent: a value that it made a color of bytes is sent as an
    integer, for which it stores the same color again and sends the same integer. -/
structure TakesBack (k : Kind) (f : Field Shape) (v stored : Value) : Prop where
  bytes : ∃ r g b a, stored = .color r g b a ∧
    ∀ channel ∈ [r, g, b, a], ∃ n, channel.int? = some n ∧ Color.IsByte n
  /-- The color is the same one to the letter, but for flags, which come back as an integer. -/
  back : ∃ n again, k.Sends f v (.int n) ∧ k.Stores f (.int n) again ∧
    again.equal stored = true ∧ ((∀ m, v ≠ .flags m) → again = stored) ∧
    k.Sends f (.int n) (.int n)

theorem takesBack {k : Kind} {f : Field Shape} (hf : f ∈ k.fields)
    (hshape : f.shape = .leaf .color) {v stored : Value} (hv : ∀ r g b a, v ≠ .color r g b a)
    (hstores : k.Stores f v stored) : k.TakesBack f v stored := by
  have hk : k ≠ .displayCapture := ne_displayCapture hf hshape (by decide)
  have hcheck := (stores_iff hf).mp hstores
  have hvalue : Color.ofValue v = .ok stored := by
    rw [hshape] at hcheck
    exact Outcome.mapError_eq_ok hcheck
  obtain ⟨red, r, g, b, a, hbytes, hplain⟩ := Color.hasBytes_of_ofValue hv hvalue
  have hagain : f.shape.check (.int (Color.packed r g b a)) =
      .ok (.color (.int r) (.int g) (.int b) (.int a)) := by
    rw [hshape]
    exact congrArg Leaf.converted hbytes.ofValue_packed
  -- the plain color has the same bytes, so the same integer is sent for it
  have hwrite : ∀ {c red}, Color.HasBytes c red r g b a →
      f.write .settings 0 c = .ok (.int (Color.packed r g b a)) := by
    intro c red hc
    rw [Field.write, hshape]
    exact hc.write_settings
  refine ⟨⟨red, _, _, _, hbytes.channels, ?_⟩, _, _, sends hf hcheck hk (hwrite hbytes),
    (stores_iff hf).mpr hagain, hbytes.equal_plain, fun hflags => ?_,
    sends hf hagain hk (hwrite ⟨rfl, rfl, hbytes.bytes⟩)⟩
  · obtain ⟨hr, hg, hb, ha⟩ := hbytes.bytes
    simp only [List.forall_mem_cons]
    exact ⟨⟨r, hbytes.red, hr⟩, ⟨g, rfl, hg⟩, ⟨b, rfl, hb⟩, ⟨a, rfl, ha⟩, List.forall_mem_nil _⟩
  · rw [hbytes.channels, hplain hflags]

end Kind

namespace Color

/-- Packing and unpacking are exact on all integers, up to the bits that the packed form has no
    place for. What a color field makes of anything but a color comes back to it unchanged. -/
theorem codec_exact :
    (∀ r g b a : Int, ∃ n, encode (.color (.int r) (.int g) (.int b) (.int a)) = .ok (.int n) ∧
      n = r % 256 + 256 * (g % 256) + 65536 * (b % 256) + 16777216 * (a % 256) ∧
      0 ≤ n ∧ n ≤ 4294967295 ∧
      decode (.int n) =
        .ok (.color (.int (r % 256)) (.int (g % 256)) (.int (b % 256)) (.int (a % 256)))) ∧
    (∀ n : Int, ∃ color, decode (.int n) = .ok color ∧
      encode color = .ok (.int (n % 4294967296))) ∧
    (∀ m n : Int, decode (.int m) = decode (.int n) ↔ m % 4294967296 = n % 4294967296) ∧
    ∀ (k : Kind) (f : Field Shape), f ∈ k.fields → f.shape = .leaf .color →
      ∀ v stored, (∀ r g b a, v ≠ .color r g b a) → k.Stores f v stored →
        k.TakesBack f v stored := by
  refine ⟨fun r g b a => ⟨packed r g b a, encode_color rfl rfl rfl rfl, packed_eq r g b a,
    packed_nonneg r g b a, Int.le_of_lt_add_one (packed_lt r g b a), decode_packed r g b a⟩,
    fun n => ⟨_, decode_int n, encode_unpacked n⟩, decode_eq_iff, ?_⟩
  exact fun k f hf hshape v stored hv hstores => Kind.takesBack hf hshape hv hstores

/-- A negative integer is a color of bytes, which comes back as an integer of 32 bits. -/
theorem codec_exact_negative : ∃ stored,
    Kind.colorSource.Stores (.color "color" 209 209 209) (.int (-2)) stored ∧
    Kind.colorSource.TakesBack (.color "color" 209 209 209) (.int (-2)) stored := by
  have hfield : Field.color "color" 209 209 209 ∈ Kind.colorSource.fields :=
    List.mem_cons_self ..
  have hstores : Kind.colorSource.Stores (.color "color" 209 209 209) (.int (-2))
      (.color (.int 254) (.int 255) (.int 255) (.int 255)) :=
    Kind.stores hfield rfl
  exact ⟨_, hstores, codec_exact.2.2.2 _ _ hfield rfl _ _ (fun _ _ _ _ h => nomatch h) hstores⟩

end Color

end SceneSource
