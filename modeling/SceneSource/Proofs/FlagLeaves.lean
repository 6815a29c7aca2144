-- SUMMARY: Font flags of any nested shape are the OR of their leaves.
import Mathlib.Data.Int.Bitwise
import SceneSource.Catalog
import SceneSource.Document.Plain
import SceneSource.Proofs.BoundingSizes
import SceneSource.Proofs.Leaves
import SceneSource.Proofs.Outcomes

/-!
# The leaves of font flags

A flags field takes collections apart to any depth. What is left are leaves, and each leaf
stands for bits or is refused. Only the lowest byte of the bits is ever written, so it does not
matter which leaves were cut down to a byte on the way: what is written is the OR of the integers
of all leaves, taken once modulo 256.
-/

namespace SceneSource

namespace FontFlags

/-! ## Leaves -/

mutual

/-- What is left of a value when the collections in it are taken apart: items, the keys of
    mappings, the bytes of byte strings, channels, the names and the values of attributes. -/
def leaves : Value → List Value
  | .list xs | .tuple xs | .set xs => leavesOfItems xs
  | .bytes bs => bs.map fun b => .int b.toNat
  | .mapping entries => entries.map fun e => .text e.1
  | .color r g b a => leaves r ++ leaves g ++ leaves b ++ leaves a
  | .record _ attributes => leavesOfAttributes attributes
  | v => [v]

/-- The leaves of some items. -/
def leavesOfItems : List Value → List Value
  | [] => []
  | x :: xs => leaves x ++ leavesOfItems xs

/-- The leaves of attributes, each of which is a pair of its name and its value. -/
def leavesOfAttributes : List (String × Value) → List Value
  | [] => []
  | (k, v) :: rest => .text k :: (leaves v ++ leavesOfAttributes rest)

end

/-- The integer whose bits a leaf stands for. -/
def bits? (v : Value) : Option Int :=
  v.whole? <|> (v.text?.bind named?).map fun f => (f.bit : Int)

/-- What is wrong with a leaf that stands for nothing. -/
def complaint (v : Value) : Fault :=
  if v.text?.isSome then .flagUnknown v.shown else .flagsShape

/-- The bits of a leaf, or what is wrong with it. -/
def ofLeaf (v : Value) : Except Fault Int :=
  match bits? v with
  | some n => .ok n
  | none => .error (complaint v)

/-- The bitwise OR of integers of any size and sign. -/
def orAll (ns : List Int) : Int := ns.foldr Int.lor 0

theorem leavesOfItems_eq (xs : List Value) : leavesOfItems xs = xs.flatMap leaves := by
  induction xs with
  | nil => rfl
  | cons x xs ih => simp only [leavesOfItems, List.flatMap_cons, ih]

theorem leavesOfAttributes_eq (attributes : List (String × Value)) :
    leavesOfAttributes attributes =
      (attributes.map fun e => Value.tuple [.text e.1, e.2]).flatMap leaves := by
  induction attributes with
  | nil => rfl
  | cons e rest ih =>
    simp only [leavesOfAttributes, ih, List.map_cons, List.flatMap_cons, leaves, leavesOfItems,
      List.append_nil, List.cons_append, List.nil_append]

/-- A collection has the leaves of its elements, in the order in which it is iterated over. -/
theorem leaves_of_elements {v : Value} {xs : List Value} (hint : v.int? = none)
    (htext : v.text? = none) (helements : v.elements? = some xs) :
    leaves v = xs.flatMap leaves := by
  cases v with
  | list | tuple | set =>
    cases helements
    exact leavesOfItems_eq xs
  | bytes bs =>
    cases helements
    simp only [leaves, List.flatMap_map, ← List.map_eq_flatMap]
  | mapping entries =>
    cases helements
    simp only [leaves, List.flatMap_map, ← List.map_eq_flatMap]
  | color r g b a =>
    cases helements
    simp only [leaves, List.flatMap_cons, List.flatMap_nil, List.append_nil, List.append_assoc]
  | record m attributes =>
    cases helements
    exact leavesOfAttributes_eq attributes
  | flags n => cases hint
  | choice c =>
    simp only [Value.elements?, htext] at helements
    cases helements
  | text s => cases htext
  | _ => cases helements

/-! ## The OR of integers, byte by byte -/

theorem getLsbD_ofInt (w : Nat) (n : Int) (i : Nat) :
    (BitVec.ofInt w n).getLsbD i = (decide (i < w) && n.testBit i) := by
  cases n with
  | ofNat m =>
    change (BitVec.ofInt w (m : Int)).getLsbD i = (decide (i < w) && m.testBit i)
    rw [BitVec.ofInt_natCast, BitVec.getLsbD_ofNat]
  | negSucc m =>
    rw [BitVec.ofInt_negSucc_eq_not_ofNat, BitVec.getLsbD_not, BitVec.getLsbD_ofNat, Int.testBit]
    by_cases hi : i < w <;> simp [hi]

/-- The lowest byte of an OR is the OR of the lowest bytes. -/
theorem ofInt_lor (m n : Int) :
    BitVec.ofInt 8 (m.lor n) = BitVec.ofInt 8 m ||| BitVec.ofInt 8 n := by
  refine BitVec.eq_of_getLsbD_eq fun i _ => ?_
  simp only [BitVec.getLsbD_or, getLsbD_ofInt, Int.testBit_lor, Bool.and_or_distrib_left]

/-- The lowest byte of the OR of integers. -/
def lowest (ns : List Int) : BitVec 8 := BitVec.ofInt 8 (orAll ns)

theorem lowest_cons (n : Int) (ns : List Int) :
    lowest (n :: ns) = BitVec.ofInt 8 n ||| lowest ns :=
  ofInt_lor n (orAll ns)

theorem lowest_append (ms ns : List Int) : lowest (ms ++ ns) = lowest ms ||| lowest ns := by
  induction ms with
  | nil => exact (BitVec.zero_or).symm
  | cons m ms ih => rw [List.cons_append, lowest_cons, lowest_cons, ih, BitVec.or_assoc]

/-- A bit is set exactly if it is set in one of the integers. -/
theorem getLsbD_lowest (ns : List Int) (i : Nat) :
    (lowest ns).getLsbD i = ns.any fun n => decide (i < 8) && n.testBit i := by
  induction ns with
  | nil => exact BitVec.getLsbD_zero
  | cons n ns ih => rw [lowest_cons, BitVec.getLsbD_or, getLsbD_ofInt, ih, List.any_cons]

/-- Neither order nor repetition matters. -/
theorem orAll_congr {ms ns : List Int} (h : ∀ n, n ∈ ms ↔ n ∈ ns) :
    orAll ms % 256 = orAll ns % 256 := by
  have hlowest : lowest ms = lowest ns := by
    refine BitVec.eq_of_getLsbD_eq fun i _ => ?_
    rw [getLsbD_lowest, getLsbD_lowest, Bool.eq_iff_iff, List.any_eq_true, List.any_eq_true]
    simp only [h]
  rw [← Color.toNat_byte, ← Color.toNat_byte]
  exact congrArg (fun byte : BitVec 8 => (byte.toNat : Int)) hlowest

/-- Packing takes the OR modulo 256. -/
theorem pack_eq (ns : List Int) : pack ns = orAll ns % 256 := by
  have hfold : ∀ b, ns.foldl (fun bits n => bits ||| BitVec.ofInt 8 n) b = b ||| lowest ns := by
    induction ns with
    | nil => exact fun b => (BitVec.or_zero).symm
    | cons n ns ih =>
      intro b
      rw [List.foldl_cons, ih, lowest_cons, BitVec.or_assoc]
  rw [pack, hfold, BitVec.zero_or, lowest, Color.toNat_byte]

/-! ## What is stored -/

/-- That stored bits, or a fault, are what comes of some leaves, as far as the lowest byte
    goes. -/
def Gathers (stored : Except Fault Nat) (xs : List Value) : Prop :=
  stored.map (BitVec.ofNat 8) = (xs.mapM ofLeaf).map lowest

namespace Gathers

theorem nil : Gathers (.ok 0) [] := rfl

theorem bits {x : Value} {b : Nat} {n : Int} (hx : bits? x = some n)
    (hbyte : BitVec.ofNat 8 b = BitVec.ofInt 8 n) : Gathers (.ok b) [x] := by
  have hlowest : BitVec.ofNat 8 b = lowest [n] := by
    rw [lowest_cons, hbyte]
    exact (BitVec.or_zero).symm
  simp only [Gathers, List.mapM_cons, List.mapM_nil, ofLeaf, hx]
  exact congrArg Except.ok hlowest

theorem refused {x : Value} {f : Fault} (hx : bits? x = none) (hf : complaint x = f) :
    Gathers (.error f) [x] := by
  simp only [Gathers, List.mapM_cons, List.mapM_nil, ofLeaf, hx, hf]
  rfl

/-- What comes first fails first. -/
theorem append {r s : Except Fault Nat} {xs ys : List Value} (hr : Gathers r xs)
    (hs : Gathers s ys) :
    Gathers (do let a ← r; let b ← s; return a ||| b) (xs ++ ys) := by
  unfold Gathers at *
  rw [List.mapM_append]
  cases hxs : xs.mapM ofLeaf with
  | error f =>
    obtain rfl : r = .error f := Outcome.map_eq_error (hxs ▸ hr)
    rfl
  | ok ms =>
    obtain ⟨a, rfl, ha⟩ := Outcome.map_eq_ok (hxs ▸ hr)
    cases hys : ys.mapM ofLeaf with
    | error f =>
      obtain rfl : s = .error f := Outcome.map_eq_error (hys ▸ hs)
      rfl
    | ok ns =>
      obtain ⟨b, rfl, hb⟩ := Outcome.map_eq_ok (hys ▸ hs)
      have hor : BitVec.ofNat 8 (a ||| b) = lowest (ms ++ ns) := by
        rw [lowest_append, ← ha, ← hb]
        exact BitVec.ofNat_or
      exact congrArg Except.ok hor

end Gathers

/-- A text is no integer, and never too long to be shown. -/
theorem textual {x : Value} {s : String} (hx : x.text? = some s) :
    x.whole? = none ∧ x.isOversize = false := by
  cases x with
  | text => exact ⟨rfl, rfl⟩
  | choice c =>
    refine ⟨?_, rfl⟩
    simp only [Value.text?] at hx
    simp only [Value.whole?, Value.int?]
    split at hx
    · rename_i hvalue
      simp only [hvalue]
    · cases hx
  | _ => cases hx

theorem gathers_ofName {x : Value} {s : String} (hx : x.text? = some s) :
    Gathers (ofName x s) [x] := by
  obtain ⟨hwhole, hsize⟩ := textual hx
  unfold ofName
  split
  · rename_i flag hflag
    refine .bits ?_ (BitVec.ofInt_natCast 8 flag.bit).symm
    simp only [bits?, hwhole, hx, Option.bind_some, hflag]
    rfl
  · rename_i hflag
    have hcomplaint : complaint x = .flagUnknown x.shown := by
      simp only [complaint, hx]
      rfl
    have hnone : bits? x = none := by
      simp only [bits?, hwhole, hx, Option.bind_some, hflag]
      rfl
    have hshow : x.show? = .ok x.shown := by
      simp only [Value.show?, hsize]
      rfl
    simp only [hshow]
    exact .refused hnone hcomplaint

theorem ofNat_lowByte (n : Int) : BitVec.ofNat 8 (lowByte n) = BitVec.ofInt 8 n := by
  refine BitVec.eq_of_toNat_eq (Int.ofNat.inj ?_)
  change ((BitVec.ofNat 8 (lowByte n)).toNat : Int) = (BitVec.ofInt 8 n).toNat
  rw [Color.toNat_byte, BitVec.toNat_ofNat]
  unfold lowByte
  omega

theorem gathers_ofNames (keys : List String) : Gathers (ofNames keys) (keys.map .text) := by
  induction keys with
  | nil => exact .nil
  | cons k rest ih => exact (gathers_ofName (x := .text k) rfl).append ih

theorem gathers_bytes {n : Nat} {xs : List Value} (h : Gathers (.ok n) xs) (bs : List UInt8) :
    Gathers (.ok (bs.foldl (fun bits b => bits ||| b.toNat) n))
      (xs ++ bs.map fun b => .int b.toNat) := by
  induction bs generalizing n xs with
  | nil => simpa using h
  | cons b rest ih =>
    have hbyte : Gathers (.ok b.toNat) [.int b.toNat] :=
      .bits rfl (BitVec.ofInt_natCast 8 b.toNat).symm
    simpa using ih (h.append hbyte)

mutual

/-- What a flags field stores is what comes of the leaves. -/
theorem gathers_ofValue (v : Value) : Gathers (ofValue v) (leaves v) := by
  -- stored bits differ from those of the leaves above the lowest byte, since plain integers are cut
  -- down and flags are not; `Gathers` forgets that part, which is what makes every case go through
  cases v with
  | flags n => exact .bits rfl (BitVec.ofInt_natCast 8 n).symm
  | int n => exact .bits rfl (ofNat_lowByte n)
  | text s => exact gathers_ofName rfl
  | choice c =>
    unfold ofValue
    split
    · rename_i n hvalue
      refine .bits ?_ (ofNat_lowByte n)
      simp only [bits?, Value.whole?, Value.int?, hvalue]
      rfl
    · rename_i s hvalue
      refine gathers_ofName ?_
      simp only [Value.text?, hvalue]
  | list xs | tuple xs | set xs =>
    unfold ofValue leaves
    exact gathers_ofItems xs
  | bytes bs => exact gathers_bytes .nil bs
  | mapping entries =>
    have hkeys := gathers_ofNames (entries.map (·.1))
    rw [List.map_map] at hkeys
    exact hkeys
  | color r g b a =>
    have hchannels := (((gathers_ofValue r).append (gathers_ofValue g)).append
      (gathers_ofValue b)).append (gathers_ofValue a)
    simp only [bind_assoc, pure_bind] at hchannels
    unfold ofValue leaves
    exact hchannels
  | record m attributes =>
    unfold ofValue leaves
    exact gathers_ofEntries attributes
  | _ => exact .refused rfl rfl

theorem gathers_ofItems (xs : List Value) : Gathers (ofItems xs) (leavesOfItems xs) := by
  cases xs with
  | nil => exact .nil
  | cons x rest =>
    unfold ofItems leavesOfItems
    exact (gathers_ofValue x).append (gathers_ofItems rest)

theorem gathers_ofEntries (attributes : List (String × Value)) :
    Gathers (ofEntries attributes) (leavesOfAttributes attributes) := by
  cases attributes with
  | nil => exact .nil
  | cons e rest =>
    obtain ⟨k, v⟩ := e
    have hname : Gathers (ofName (.text k) k) [.text k] := gathers_ofName rfl
    have hentries := (hname.append (gathers_ofValue v)).append (gathers_ofEntries rest)
    simp only [bind_assoc, pure_bind, List.cons_append] at hentries
    unfold ofEntries leavesOfAttributes
    exact hentries

end

theorem mapM_filterMap {f : Value → Except Fault Int} {g : Value → Option Int} {xs : List Value}
    (h : ∀ x ∈ xs, ∃ n, g x = some n ∧ f x = .ok n) : xs.mapM f = .ok (xs.filterMap g) := by
  induction xs with
  | nil => rfl
  | cons x xs ih =>
    obtain ⟨⟨n, hg, hf⟩, hxs⟩ := List.forall_mem_cons.mp h
    simp only [List.mapM_cons, hf, ih hxs, List.filterMap_cons_some hg]
    rfl

theorem mapM_ofLeaf_ok {xs : List Value} (h : ∀ x ∈ xs, (bits? x).isSome) :
    xs.mapM ofLeaf = .ok (xs.filterMap bits?) := by
  refine mapM_filterMap fun x hx => ?_
  obtain ⟨n, hn⟩ := Option.isSome_iff_exists.mp (h x hx)
  refine ⟨n, hn, ?_⟩
  simp only [ofLeaf, hn]

theorem mapM_ofLeaf_error {xs : List Value} {x : Value}
    (h : xs.find? (fun x => (bits? x).isNone) = some x) :
    xs.mapM ofLeaf = .error (complaint x) := by
  induction xs with
  | nil => cases h
  | cons y xs ih =>
    cases hy : bits? y with
    | none =>
      rw [List.find?_cons_of_pos (by simp [hy])] at h
      cases h
      simp only [List.mapM_cons, ofLeaf, hy]
      rfl
    | some n =>
      rw [List.find?_cons_of_neg (by simp [hy])] at h
      simp only [List.mapM_cons, ofLeaf, hy, ih h]
      rfl

theorem ofValue_of_bits {v : Value} (h : ∀ x ∈ leaves v, (bits? x).isSome) :
    ∃ n : Nat, ofValue v = .ok n ∧ pack [(n : Int)] = orAll ((leaves v).filterMap bits?) % 256 := by
  have hgathers := gathers_ofValue v
  unfold Gathers at hgathers
  rw [mapM_ofLeaf_ok h] at hgathers
  obtain ⟨n, hn, hlowest⟩ := Outcome.map_eq_ok hgathers
  refine ⟨n, hn, ?_⟩
  calc pack [(n : Int)] = ((BitVec.ofInt 8 n).toNat : Int) := by
        rw [pack_singleton, Color.toNat_byte]
    _ = ((lowest ((leaves v).filterMap bits?)).toNat : Int) := by
        rw [BitVec.ofInt_natCast, hlowest]
    _ = orAll ((leaves v).filterMap bits?) % 256 := by
        rw [lowest, Color.toNat_byte]

theorem ofValue_of_complaint {v x : Value}
    (h : (leaves v).find? (fun x => (bits? x).isNone) = some x) :
    ofValue v = .error (complaint x) := by
  have hgathers := gathers_ofValue v
  unfold Gathers at hgathers
  rw [mapM_ofLeaf_error h] at hgathers
  exact Outcome.map_eq_error hgathers

/-! ## Fonts -/

/-- The entries of a font of which only the flags were given, and hold some value. -/
def fontEntries (text : String → α) (int : Int → α) (flags : α) : List (String × α) :=
  [("face", text "Helvetica"), ("flags", flags), ("size", int 256), ("style", text "Regular")]

/-- Such a font. -/
def fontWith (flags : Value) : Value := Part.font.record (fontEntries .text .int flags)

/-- The construction of a font from nothing but its flags. -/
def construct (v : Value) : Action Value := Action.construct (.part .font) [("flags", v)]

theorem read_font (v : Value) :
    (Model.part .font).read [("flags", v)] =
      ((Leaf.check .flags v).mapError (·.under (.key "flags"))).map fontWith := by
  change (Refusal.join (fun attributes _ => attributes)
    (Refusal.all [.ok ("face", .text "Helvetica"),
      ((Leaf.check .flags v).mapError (·.under (.key "flags"))).map fun w => ("flags", w),
      .ok ("size", .int 256), .ok ("style", .text "Regular")])
    (.ok ())).map Part.font.record = _
  cases Leaf.check .flags v with
  | ok w => rfl
  | error r => cases r <;> rfl

section Font

variable {v : Value} (h : Host)

theorem run_construct_ok {n : Nat} (hv : ofValue v = .ok n) :
    (construct v).run h = (.ok (fontWith (.flags n)), h) := by
  have hcheck : Leaf.check .flags v = .ok (.flags n) := by
    simp only [Leaf.check, hv]
    rfl
  unfold construct Action.construct
  rw [read_font, hcheck]
  rfl

theorem run_construct_error {f : Fault} (hv : ofValue v = .error f) (hf : f.category = .value) :
    (construct v).run h = (.error (.invalid "Font" [⟨.fault f, [.key "flags"]⟩]), h) := by
  have hcheck : Leaf.check .flags v = .error (.because (.fault f)) := by
    simp only [Leaf.check, hv]
    change Except.error (Refusal.ofFault f) = _
    simp only [Refusal.ofFault, hf, if_true]
  unfold construct Action.construct
  rw [read_font, hcheck]
  rfl

end Font

theorem document_fontWith (n : Nat) :
    document (fontWith (.flags n)) =
      .ok (.object (fontEntries .text .int (.int (pack [(n : Int)])))) := rfl

theorem plainWhole_fontWith (n : Nat) :
    plainWhole .own (fontWith (.flags n)) =
      .ok (.mapping (fontEntries .text .int (.int (pack [(n : Int)])))) := rfl

theorem category_complaint (x : Value) : (complaint x).category = .value := by
  unfold complaint
  split <;> rfl

/-! ## Flat flags -/

/-- That a value is an integer or flags, or a collection of these. Neither a text nor a truth
    value is one. -/
def IsFlat (v : Value) : Prop :=
  v.whole?.isSome ∨ v.int? = none ∧ v.text? = none ∧
    ∃ xs, v.elements? = some xs ∧ ∀ x ∈ xs, x.whole?.isSome

section Whole

variable {x : Value} {n : Int} (hx : x.whole? = some n)
include hx

theorem leaves_of_whole : leaves x = [x] := by
  cases x with
  | int | flags | choice => rfl
  | _ => cases hx

theorem bits?_of_whole : bits? x = some n := by
  simp only [bits?, hx]
  rfl

theorem toInteger_of_whole : x.toInteger = .ok n := by
  have hint := Value.int?_of_whole? hx
  cases x with
  | int | flags | choice => simp only [Value.toInteger, hint]
  | _ => cases hx

end Whole

/-- What packing gives for flat flags is what comes of their leaves. -/
theorem encode_of_isFlat {v : Value} (hflat : IsFlat v) :
    (∀ x ∈ leaves v, (bits? x).isSome) ∧
      encode v = .ok (orAll ((leaves v).filterMap bits?) % 256) := by
  have hbits : ∀ {xs : List Value}, (∀ x ∈ xs, x.whole?.isSome) → ∀ x ∈ xs, (bits? x).isSome := by
    intro xs hxs x hx
    obtain ⟨n, hn⟩ := Option.isSome_iff_exists.mp (hxs x hx)
    exact Option.isSome_of_eq_some (bits?_of_whole hn)
  rcases hflat with hwhole | ⟨hint, htext, xs, helements, hxs⟩
  · obtain ⟨n, hn⟩ := Option.isSome_iff_exists.mp hwhole
    rw [leaves_of_whole hn, List.filterMap_cons_some (bits?_of_whole hn), List.filterMap_nil,
      ← pack_eq]
    refine ⟨hbits (List.forall_mem_singleton.mpr hwhole), ?_⟩
    simp only [encode, Value.int?_of_whole? hn]
  · have hleaves : leaves v = xs := by
      have halone : ∀ x ∈ xs, leaves x = [x] := fun x hx => by
        obtain ⟨n, hn⟩ := Option.isSome_iff_exists.mp (hxs x hx)
        exact leaves_of_whole hn
      rw [leaves_of_elements hint htext helements, List.flatMap_congr halone,
        List.flatMap_singleton']
    have hintegers : xs.mapM Value.toInteger = .ok (xs.filterMap bits?) := by
      refine mapM_filterMap fun x hx => ?_
      obtain ⟨n, hn⟩ := Option.isSome_iff_exists.mp (hxs x hx)
      exact ⟨n, bits?_of_whole hn, toInteger_of_whole hn⟩
    rw [hleaves]
    refine ⟨hbits hxs, ?_⟩
    simp only [encode, hint, helements, hintegers, ← pack_eq]
    rfl

/-! ## Flags of any shape -/

/-- That a font can be made from some flags, and is written with an integer for them. -/
def Written (v : Value) (h : Host) (flags : Int) : Prop :=
  ∃ font, (construct v).run h = (.ok font, h) ∧
    document font = .ok (.object (fontEntries .text .int (.int flags))) ∧
    plainWhole .own font = .ok (.mapping (fontEntries .text .int (.int flags)))

/-- What becomes of a font that is given flags of any shape. -/
structure Collects (v : Value) (h : Host) : Prop where
  /-- It is accepted exactly if every leaf stands for bits. -/
  accepted_iff : (∃ font h', (construct v).run h = (.ok font, h')) ↔
    ∀ x ∈ leaves v, (bits? x).isSome
  /-- What is written is then the OR of the bits of all leaves, modulo 256. -/
  written : (∀ x ∈ leaves v, (bits? x).isSome) →
    Written v h (orAll ((leaves v).filterMap bits?) % 256)
  /-- Otherwise there is one issue, which is about the first leaf that stands for nothing. -/
  refused : ∀ x, (leaves v).find? (fun x => (bits? x).isNone) = some x →
    (construct v).run h =
      (.error (.invalid "Font" [⟨.fault (complaint x), [.key "flags"]⟩]), h)
  /-- The same leaves are written alike, in whatever way they are nested, ordered or repeated. -/
  regardless : ∀ w, (∀ x, x ∈ leaves v ↔ x ∈ leaves w) → ∀ n, Written v h n → Written w h n
  /-- Flat flags are written as they are packed. -/
  flat : IsFlat v → ∃ n, encode v = .ok n ∧ Written v h n

theorem written_of_bits {v : Value} (h : Host) (hbits : ∀ x ∈ leaves v, (bits? x).isSome) :
    Written v h (orAll ((leaves v).filterMap bits?) % 256) := by
  obtain ⟨n, hn, hpack⟩ := ofValue_of_bits hbits
  rw [← hpack]
  exact ⟨_, run_construct_ok h hn, document_fontWith n, plainWhole_fontWith n⟩

theorem refused_of_complaint {v x : Value} (h : Host)
    (hx : (leaves v).find? (fun x => (bits? x).isNone) = some x) :
    (construct v).run h =
      (.error (.invalid "Font" [⟨.fault (complaint x), [.key "flags"]⟩]), h) :=
  run_construct_error h (ofValue_of_complaint hx) (category_complaint x)

theorem accepted_iff_bits (v : Value) (h : Host) :
    (∃ font h', (construct v).run h = (.ok font, h')) ↔ ∀ x ∈ leaves v, (bits? x).isSome := by
  constructor
  · rintro ⟨font, h', hrun⟩
    cases hfind : (leaves v).find? fun x => (bits? x).isNone with
    | none => simpa [Option.isSome_iff_ne_none] using hfind
    | some x => cases hrun.symm.trans (refused_of_complaint h hfind)
  · intro hbits
    obtain ⟨font, hrun, _⟩ := written_of_bits h hbits
    exact ⟨font, h, hrun⟩

theorem Written.unique {v : Value} {h : Host} {m n : Int} (hm : Written v h m)
    (hn : Written v h n) : m = n := by
  obtain ⟨font, hfont, hdocument, _⟩ := hm
  obtain ⟨font', hfont', hdocument', _⟩ := hn
  cases hfont.symm.trans hfont'
  cases hdocument.symm.trans hdocument'
  rfl

theorem Written.regardless {v w : Value} {h : Host} {n : Int}
    (hsame : ∀ x, x ∈ leaves v ↔ x ∈ leaves w) (hn : Written v h n) : Written w h n := by
  have hbits : ∀ x ∈ leaves v, (bits? x).isSome := by
    obtain ⟨font, hrun, _⟩ := hn
    exact (accepted_iff_bits v h).mp ⟨font, h, hrun⟩
  have hvalues : ∀ m, m ∈ (leaves v).filterMap bits? ↔ m ∈ (leaves w).filterMap bits? := by
    intro m
    simp only [List.mem_filterMap, hsame]
  rw [hn.unique (written_of_bits h hbits), orAll_congr hvalues]
  exact written_of_bits h fun x hx => hbits x ((hsame x).mpr hx)

/-- Flags of any shape are written as the OR of their leaves, or refused for the first of them
    that stands for nothing. -/
theorem collects (v : Value) (h : Host) : Collects v h where
  accepted_iff := accepted_iff_bits v h
  written := written_of_bits h
  refused _ := refused_of_complaint h
  regardless _ hsame _ := .regardless hsame
  flat hflat := by
    obtain ⟨hbits, hencode⟩ := encode_of_isFlat hflat
    exact ⟨_, hencode, written_of_bits h hbits⟩

example : (leaves (.list [.text " bold", .tuple [.int (-252), .bytes [64]]])).map bits? =
    [some 1, some (-252), some 64] := by
  cbv

end FontFlags

end SceneSource
