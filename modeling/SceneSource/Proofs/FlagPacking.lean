-- SUMMARY: Packing joins sequences of font flags into the OR of their bytes.
import SceneSource.Proofs.Channels
import SceneSource.Proofs.FlagLeaves

/-!
# Packed font flags

The byte that flags travel as has a bit exactly if one of the flags has it. So two sequences one
behind the other are packed into the OR of their bytes, and neither order nor repetition matters,
however large the integers among the flags are and whatever their sign is.
-/

namespace SceneSource

namespace FontFlags

/-! ## Packed integers -/

theorem pack_eq_toNat (ns : List Int) : pack ns = (lowest ns).toNat := by
  rw [pack_eq, lowest, Color.toNat_byte]

/-- Integers one behind the other are packed into the OR of what they are packed into. -/
theorem pack_append (ms ns : List Int) : pack (ms ++ ns) = (pack ms).lor (pack ns) := by
  rw [pack_eq_toNat, lowest_append, BitVec.toNat_or, pack_eq_toNat ms, pack_eq_toNat ns]
  rfl

/-- Only which integers there are matters. -/
theorem pack_congr {ms ns : List Int} (h : ∀ n, n ∈ ms ↔ n ∈ ns) : pack ms = pack ns := by
  rw [pack_eq, pack_eq, orAll_congr h]

theorem pack_isByte (ns : List Int) : 0 ≤ pack ns ∧ pack ns ≤ 255 := by
  rw [pack_eq]
  omega

/-- A bit of a byte is packed exactly if one of the integers has it. -/
theorem testBit_pack (ns : List Int) {i : Nat} (hi : i < 8) :
    (pack ns).testBit i = ns.any fun n => n.testBit i := by
  have hbit : (pack ns).testBit i = (lowest ns).getLsbD i := by
    rw [pack_eq_toNat]
    rfl
  simp only [hbit, getLsbD_lowest, hi, decide_true, Bool.true_and]

/-! ## Packed sequences -/

/-- That a value is a sequence of font flags and integers: a collection of integral values. -/
structure IsSequence (v : Value) (xs : List Value) : Prop where
  collection : v.int? = none
  elements : v.elements? = some xs
  integral : ∀ x ∈ xs, x.int?.isSome

section Sequence

variable {v w : Value} {xs ys : List Value}

theorem isSequence_list (h : ∀ x ∈ xs, x.int?.isSome) : IsSequence (.list xs) xs := ⟨rfl, rfl, h⟩

theorem isSequence_tuple (h : ∀ x ∈ xs, x.int?.isSome) : IsSequence (.tuple xs) xs := ⟨rfl, rfl, h⟩

/-- A sequence is packed as the integers of its elements. -/
theorem encode_of_isSequence (hv : IsSequence v xs) :
    encode v = .ok (pack (xs.filterMap Value.int?)) := by
  have hintegers : xs.mapM Value.toInteger = .ok (xs.filterMap Value.int?) := by
    refine mapM_filterMap fun x hx => ?_
    obtain ⟨n, hn⟩ := Option.isSome_iff_exists.mp (hv.integral x hx)
    exact ⟨n, hn, Value.toInteger_of_int? hn⟩
  simp only [encode, hv.collection, hv.elements, hintegers]
  rfl

theorem encode_of_int? {x : Value} {n : Int} (hx : x.int? = some n) : encode x = .ok (pack [n]) := by
  simp only [encode, hx]

/-- The same elements are packed alike. -/
theorem encode_congr (hv : IsSequence v xs) (hw : IsSequence w ys)
    (hsame : ∀ x, x ∈ xs ↔ x ∈ ys) : encode v = encode w := by
  have hintegers : ∀ n, n ∈ xs.filterMap Value.int? ↔ n ∈ ys.filterMap Value.int? := by
    intro n
    simp only [List.mem_filterMap, hsame]
  rw [encode_of_isSequence hv, encode_of_isSequence hw, pack_congr hintegers]

/-- A sequence has a byte, with the bits of its elements. -/
theorem exists_byte (hv : IsSequence v xs) : ∃ n, encode v = .ok n ∧ 0 ≤ n ∧ n ≤ 255 ∧
    ∀ i < 8, n.testBit i = true ↔ ∃ x ∈ xs, ∃ m, x.int? = some m ∧ m.testBit i = true := by
  obtain ⟨hleast, hgreatest⟩ := pack_isByte (xs.filterMap Value.int?)
  refine ⟨_, encode_of_isSequence hv, hleast, hgreatest, fun i hi => ?_⟩
  rw [testBit_pack _ hi, List.any_eq_true]
  constructor
  · rintro ⟨m, hm, hbit⟩
    obtain ⟨x, hx, hint⟩ := List.mem_filterMap.mp hm
    exact ⟨x, hx, m, hint, hbit⟩
  · rintro ⟨x, hx, m, hint, hbit⟩
    exact ⟨m, List.mem_filterMap.mpr ⟨x, hx, hint⟩, hbit⟩

end Sequence

/-- Packing takes sequences to bytes that have the bits of all elements: sequences one behind the
    other to the OR of their bytes, the same elements to the same byte, in whatever order and
    however often they stand there, and a single element to the byte that it has by itself. -/
theorem encode_joins :
    (∀ u v w xs ys, IsSequence u xs → IsSequence v ys → IsSequence w (xs ++ ys) →
      ∃ m n, encode u = .ok m ∧ encode v = .ok n ∧ encode w = .ok (m.lor n)) ∧
    (∀ v w xs ys, IsSequence v xs → IsSequence w ys → (∀ x, x ∈ xs ↔ x ∈ ys) →
      encode v = encode w) ∧
    (∀ v xs, IsSequence v xs → ∃ n, encode v = .ok n ∧ 0 ≤ n ∧ n ≤ 255 ∧
      ∀ i < 8, n.testBit i = true ↔ ∃ x ∈ xs, ∃ m, x.int? = some m ∧ m.testBit i = true) ∧
    ∀ x v, x.int?.isSome → IsSequence v [x] → encode x = encode v := by
  refine ⟨?_, fun v w xs ys => encode_congr, fun v xs => exists_byte, ?_⟩
  · intro u v w xs ys hu hv hw
    refine ⟨_, _, encode_of_isSequence hu, encode_of_isSequence hv, ?_⟩
    rw [encode_of_isSequence hw, List.filterMap_append, pack_append]
  · intro x v hx hv
    obtain ⟨n, hn⟩ := Option.isSome_iff_exists.mp hx
    rw [encode_of_isSequence hv, encode_of_int? hn, List.filterMap_cons_some hn, List.filterMap_nil]

/-- A flag and an integer far below zero, joined with two more elements, put in another order and
    repeated, and alone. -/
theorem encode_joins_negative :
    (∃ m n, encode (.list [.flags 1, .int (-65530)]) = .ok m ∧
      encode (.tuple [.int 4096, .flags 8]) = .ok n ∧
      encode (.list [.flags 1, .int (-65530), .int 4096, .flags 8]) = .ok (m.lor n)) ∧
    encode (.tuple [.flags 8, .int (-65530), .flags 8]) = encode (.list [.int (-65530), .flags 8]) ∧
    (∃ n, encode (.list [.flags 1, .int (-65530)]) = .ok n ∧ n.testBit 2 = true) ∧
    encode (.int (-65530)) = encode (.tuple [.int (-65530)]) := by
  obtain ⟨hjoined, hsame, hbits, hsingle⟩ := encode_joins
  have hfirst : IsSequence (.list [.flags 1, .int (-65530)]) [.flags 1, .int (-65530)] :=
    isSequence_list (by decide)
  refine ⟨?_, ?_, ?_, ?_⟩
  · exact hjoined _ _ _ _ _ hfirst (isSequence_tuple (by decide)) (isSequence_list (by decide))
  · exact hsame _ _ _ _ (isSequence_tuple (by decide)) (isSequence_list (by decide))
      (by simp [or_comm])
  · obtain ⟨n, hn, _, _, hbit⟩ := hbits _ _ hfirst
    exact ⟨n, hn, (hbit 2 (by decide)).mpr ⟨.int (-65530), by simp, -65530, rfl, by decide⟩⟩
  · exact hsingle _ _ rfl (isSequence_tuple (by decide))

end FontFlags

end SceneSource
