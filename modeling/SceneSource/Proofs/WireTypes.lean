-- SUMMARY: What validates has a document of plain data, with every entry of its wire type.
import SceneSource.Proofs.ReadBack

/-!
# Wire types

Every field has a wire type, and what validation leaves in the field is written to a document
of that type. So the document of a payload always exists, as long as no part of the payload
went unchecked, and it is plain data at every depth: only a side of a crop rectangle that is
not finite has nothing in its place.
-/

namespace SceneSource

/-! ## Plain data -/

namespace Json

mutual

/-- Whether a document lacks nothing at any depth and has no double that is not finite. -/
def isComplete : Json → Bool
  | null => false
  | real d => d.isFinite
  | array items => areComplete items
  | object entries => areCompleteEntries entries
  | bool _ | int _ | text _ => true

/-- `isComplete` for the items of an array. -/
def areComplete : List Json → Bool
  | [] => true
  | j :: rest => j.isComplete && areComplete rest

/-- `isComplete` for the entries of an object. -/
def areCompleteEntries : List (String × Json) → Bool
  | [] => true
  | (_, j) :: rest => j.isComplete && areCompleteEntries rest

end

theorem areComplete_of_forall {items : List Json} (h : ∀ j ∈ items, j.isComplete = true) :
    areComplete items = true := by
  induction items with
  | nil => rfl
  | cons j rest ih =>
    obtain ⟨hfirst, hrest⟩ := List.forall_mem_cons.mp h
    simp only [areComplete, hfirst, ih hrest, Bool.and_self]

theorem areCompleteEntries_of_forall {entries : List (String × Json)}
    (h : ∀ e ∈ entries, e.2.isComplete = true) : areCompleteEntries entries = true := by
  induction entries with
  | nil => rfl
  | cons e rest ih =>
    obtain ⟨hfirst, hrest⟩ := List.forall_mem_cons.mp h
    simp only [areCompleteEntries, hfirst, ih hrest, Bool.and_self]

mutual

/-- A document that lacks nothing has no double that would be left out. -/
theorem finite_of_isComplete (j : Json) (h : j.isComplete = true) : j.finite = j := by
  cases j with
  | real d => exact if_pos h
  | array items => simp only [finite, finiteItems_of_areComplete items h]
  | object entries => simp only [finite, finiteEntries_of_areComplete entries h]
  | _ => rfl

theorem finiteItems_of_areComplete (items : List Json) (h : areComplete items = true) :
    finiteItems items = items := by
  cases items with
  | nil => rfl
  | cons j rest =>
    obtain ⟨hfirst, hrest⟩ := Bool.and_eq_true_iff.mp h
    simp only [finiteItems, finite_of_isComplete j hfirst, finiteItems_of_areComplete rest hrest]

theorem finiteEntries_of_areComplete (entries : List (String × Json))
    (h : areCompleteEntries entries = true) : finiteEntries entries = entries := by
  cases entries with
  | nil => rfl
  | cons e rest =>
    obtain ⟨key, j⟩ := e
    obtain ⟨hfirst, hrest⟩ := Bool.and_eq_true_iff.mp h
    simp only [finiteEntries, finite_of_isComplete j hfirst,
      finiteEntries_of_areComplete rest hrest]

end

end Json

/-! ## Wire types -/

/-- The documents that the value of a leaf can travel as. -/
inductive Leaf.Wires : Leaf → Json → Prop
  | boolean (b : Bool) : Wires boolean (.bool b)
  | integer (n : Int) : Wires integer (.int n)
  | text (s : String) : Wires text (.text s)
  /-- All four channels in one integer of 32 bits. -/
  | color {n : Int} (hleast : 0 ≤ n) (hgreatest : n < 4294967296) : Wires color (.int n)
  /-- Whole milliseconds. -/
  | duration (millis : Int) : Wires duration (.int millis)
  | flags {n : Int} (hleast : 0 ≤ n) (hgreatest : n < 256) : Wires flags (.int n)
  | path (s : String) : Wires path (.text s)
  | boundingSize (s : String) : Wires boundingSize (.text s)
  | choice (c : Choice) : Wires (choice c.enumeration) c.value.toJson

/-- The documents that a part can travel as: an entry for each field, in order. -/
def Part.Wires (p : Part) (j : Json) : Prop :=
  ∃ out : Field Leaf → Json, (∀ f ∈ p.fields, f.shape.Wires (out f)) ∧
    j = .object (p.fields.map fun f => (f.wire, out f))

/-- The documents that the value of a field can travel as. A crop has none of its own. -/
inductive Shape.Wires : Shape → Json → Prop
  | leaf {l : Leaf} {j : Json} (h : l.Wires j) : Wires (leaf l) j
  | part {p : Part} {j : Json} (h : p.Wires j) : Wires (part p) j
  | parts {p : Part} {js : List Json} (h : ∀ j ∈ js, p.Wires j) : Wires (parts p) (.array js)
  | embedded {p : Part} {j : Json} (h : p.Wires j) : Wires (embedded p) (.text j.render)

theorem Leaf.Wires.isComplete {l : Leaf} {j : Json} (h : l.Wires j) : j.isComplete = true := by
  cases h with
  | choice c => cases hvalue : c.value <;> rfl
  | _ => rfl

theorem Leaf.Wires.depth_eq {l : Leaf} {j : Json} (h : l.Wires j) : j.depth = 1 := by
  cases h with
  | choice c => cases hvalue : c.value <;> rfl
  | _ => rfl

theorem Part.Wires.isComplete {p : Part} {j : Json} (h : p.Wires j) : j.isComplete = true := by
  obtain ⟨out, hout, rfl⟩ := h
  refine Json.areCompleteEntries_of_forall (List.forall_mem_map.mpr fun f hf => ?_)
  exact (hout f hf).isComplete

theorem Shape.Wires.isComplete {shape : Shape} {j : Json} (h : shape.Wires j) :
    j.isComplete = true := by
  cases h with
  | leaf h => exact h.isComplete
  | part h => exact h.isComplete
  | parts h => exact Json.areComplete_of_forall fun j hj => (h j hj).isComplete
  | embedded h => rfl

/-! ## Leaves -/

namespace Leaf

/-- A value that a leaf stores is written to a document of the wire type of the leaf. -/
theorem exists_write {l : Leaf} (hl : l.isPlain = true) {v : Value} (hstores : l.stores v = true)
    (hcolor : Color.IsIntegral v) (hsize : l = boundingSize → v.isOversize = false) {outer : Nat}
    (houter : outer < depthLimit) (s : Style) :
    ∃ j, (Shape.leaf l).write s outer v = .ok j ∧ l.Wires j := by
  cases l with
  | boolean => cases v with
    | bool b => exact ⟨_, dump_bool houter s _ b, .boolean b⟩
    | _ => cases hstores
  | integer => cases v with
    | int n => exact ⟨_, dump_int houter s _ n, .integer n⟩
    | _ => cases hstores
  | text => cases v with
    | text t => exact ⟨_, dump_text houter s _ t, .text t⟩
    | _ => cases hstores
  | color => cases v with
    | color r g b a =>
      obtain ⟨rn, gn, bn, an, hr, hg, hb, ha⟩ := Color.exists_ints hcolor
      exact ⟨_, write_color s outer hr hg hb ha,
        .color (Color.packed_nonneg rn gn bn an) (Color.packed_lt rn gn bn an)⟩
    | _ => cases hstores
  | duration => cases v with
    | duration d => exact ⟨_, (settles_duration s outer d).written, .duration _⟩
    | _ => cases hstores
  | flags => cases v with
    | flags n =>
      refine ⟨_, (settles_flags s outer n).written, .flags ?_ ?_⟩
      · omega
      · omega
    | _ => cases hstores
  | path =>
    obtain ⟨t, hsettles, ht⟩ := settles_path s outer hstores
    exact ⟨_, hsettles.written, .path t⟩
  | boundingSize =>
    obtain ⟨t, ht⟩ : ∃ t, BoundingSize.format v = .ok t := by
      cases v with
      | choice c => cases c with
        | aspect p => exact ⟨p.text, rfl⟩
        | _ => cases hstores
      | ratio w h | size w h => exact ⟨_, if_neg (Bool.eq_false_iff.mp (hsize rfl))⟩
      | _ => cases hstores
    exact ⟨_, write_boundingSize s outer ht, .boundingSize t⟩
  | choice e => cases v with
    | choice c =>
      have he : c.enumeration = e := of_decide_eq_true hstores
      subst he
      exact ⟨_, dump_choice houter s _ c, .choice c⟩
    | _ => cases hstores
  | _ => cases hl

end Leaf

/-! ## Parts -/

theorem Leaf.isPlain_of_isSimple {l : Leaf} (h : l.isSimple = true) : l.isPlain = true := by
  cases l <;> first | rfl | cases h

/-- A part that was read is written to entries of its wire type. -/
theorem Part.exists_entries {p : Part} (hp : p.isSimple = true) {v : Value}
    (hv : ∃ entries, p.read entries = .ok v) (s : Style) {outer : Nat}
    (houter : outer < depthLimit) : ∃ attributes entries,
      v = p.record attributes ∧
      dumpFields s outer (Model.part p).fields attributes = .ok entries ∧
      p.Wires (.object entries) := by
  obtain ⟨_, hread⟩ := hv
  obtain ⟨val, hstores, rfl⟩ := eq_record_of_read hread
  have hleaf : ∀ f ∈ p.fields, ∃ j,
      (Shape.leaf f.shape).write s outer (val f) = .ok j ∧ f.shape.Wires j := by
    intro f hf
    have hsimple := List.all_eq_true.mp hp f hf
    have hcolor := (isRegular_of_isSimple hsimple (hstores f hf)).1
    have hsize : f.shape ≠ .boundingSize := fun h => by
      rw [h] at hsimple
      cases hsimple
    exact Leaf.exists_write (Leaf.isPlain_of_isSimple hsimple) (hstores f hf) hcolor
      (fun h => absurd h hsize) houter s
  choose! out hwrite hwires using hleaf
  exact ⟨_, _, rfl, dumpFields_ok_iff.mpr ⟨out, hwrite, rfl⟩, out, hwires, rfl⟩

namespace Shape

section Parts

variable {p : Part} (hp : p.isSimple = true)
include hp

theorem exists_write_part {v : Value} (hv : ∃ entries, p.read entries = .ok v) :
    ∃ j, (part p).write .settings 0 v = .ok j ∧ p.Wires j := by
  obtain ⟨attributes, entries, rfl, hentries, hwires⟩ :=
    Part.exists_entries hp hv .settings (Nat.zero_lt_succ 254)
  refine ⟨_, (dump_part .settings p attributes (Nat.zero_le _)).trans ?_, hwires⟩
  exact congrArg (Except.map Json.object) hentries

theorem exists_write_parts {xs : List Value}
    (hxs : ∀ x ∈ xs, ∃ entries, p.read entries = .ok x) :
    ∃ js, (parts p).write .settings 0 (.tuple xs) = .ok (.array js) ∧ ∀ j ∈ js, p.Wires j := by
  have hitem : ∀ x ∈ xs, ∃ j, (part p).write .settings 0 x = .ok j ∧ p.Wires j := fun x hx =>
    exists_write_part hp (hxs x hx)
  choose! out hwrite hwires using hitem
  refine ⟨xs.map out, (dump_tuple .settings p (Nat.zero_le _) xs).trans ?_,
    List.forall_mem_map.mpr hwires⟩
  have hitems : xs.map (dump .settings (.part p) 0) = (xs.map out).map .ok := by
    simp only [List.map_map]
    exact List.map_congr_left hwrite
  simp only [dumpItems_eq_mapM, Outcome.mapM_ok_iff.mpr hitems]
  rfl

theorem exists_write_embedded {v : Value} (hv : ∃ entries, p.read entries = .ok v) :
    ∃ j, (embedded p).write .settings 0 v = .ok (.text j.render) ∧ p.Wires j := by
  obtain ⟨attributes, entries, rfl, hentries, hwires⟩ :=
    Part.exists_entries hp hv .textOfInstance (by decide : 1 < depthLimit)
  exact ⟨_, write_embedded hentries, hwires⟩

end Parts

/-- What a field of a payload stores is written to a document of the wire type of the field. -/
theorem exists_write {shape : Shape} (hshape : shape.isPlain = true) {v : Value}
    (hv : shape.Holds v) (hcolor : Color.IsIntegral v)
    (hsize : shape = leaf .boundingSize → v.isOversize = false) :
    ∃ j, shape.write .settings 0 v = .ok j ∧ shape.Wires j := by
  cases shape with
  | leaf l =>
    obtain ⟨j, hwrite, hwires⟩ := Leaf.exists_write hshape hv hcolor
      (fun h => hsize (congrArg leaf h)) (Nat.zero_lt_succ 254) .settings
    exact ⟨j, hwrite, .leaf hwires⟩
  | part p =>
    obtain ⟨j, hwrite, hwires⟩ := exists_write_part hshape hv
    exact ⟨j, hwrite, .part hwires⟩
  | parts p => cases v with
    | tuple xs =>
      obtain ⟨js, hwrite, hwires⟩ := exists_write_parts hshape hv
      exact ⟨_, hwrite, .parts hwires⟩
    | _ => cases hv
  | embedded p =>
    obtain ⟨j, hwrite, hwires⟩ := exists_write_embedded (isSimple_of_isPlain hshape) hv
    exact ⟨_, hwrite, .embedded hwires⟩
  | crop => cases hshape

end Shape

/-! ## Crops -/

/-- Whether a leaf is one that crops have. -/
def Leaf.isInCrop : Leaf → Bool
  | boolean | integer | real | text | tag _ => true
  | _ => false

/-- What a leaf of a crop is written as beside the other fields of a payload: as it is, with
    nothing in place of a double that is not finite. -/
def Value.beside : Value → Json
  | .bool b => .bool b
  | .int n => .int n
  | .text s => .text s
  | .real d => if d.isFinite then .real d else .null
  | _ => .null

namespace Leaf

variable {l : Leaf} (hl : l.isInCrop = true) {v : Value} (hstores : l.stores v = true)
include hl hstores

theorem dump_beside : dump .settings .any 0 v = .ok v.beside := by
  cases v with
  | bool | int | text | real => rfl
  | _ => cases l <;> first | cases hl; done | cases hstores

/-- A leaf of a crop can be written where it belongs, too. -/
theorem exists_write_crop : ∃ j, (Shape.leaf l).write .settings 0 v = .ok j := by
  cases l with
  | boolean => cases v with
    | bool b => exact ⟨_, rfl⟩
    | _ => cases hstores
  | integer => cases v with
    | int n => exact ⟨_, rfl⟩
    | _ => cases hstores
  | real => cases v with
    | real d => exact ⟨_, rfl⟩
    | _ => cases hstores
  | text => cases v with
    | text t => exact ⟨_, rfl⟩
    | _ => cases hstores
  | tag variant => cases v with
    | int n => exact ⟨_, rfl⟩
    | _ => cases hstores
  | _ => cases hl

theorem depth_beside : v.beside.depth = 1 := by
  cases v with
  | bool | int | text => rfl
  | real d =>
    simp only [Value.beside]
    split <;> rfl
  | _ => cases l <;> first | cases hl; done | cases hstores

theorem beside_cases : (v.beside.isComplete = true ∧ v.beside.toValue = v) ∨
    ∃ d, v = .real d ∧ d.isFinite = false ∧ v.beside = .null := by
  cases v with
  | bool | int | text => exact .inl ⟨rfl, rfl⟩
  | real d =>
    cases hd : d.isFinite with
    | true =>
      have hbeside : (Value.real d).beside = .real d := if_pos hd
      exact .inl ⟨by simp only [hbeside, Json.isComplete, hd], by simp only [hbeside, Json.toValue]⟩
    | false => exact .inr ⟨d, rfl, hd, if_neg (Bool.eq_false_iff.mp hd)⟩
  | _ => cases l <;> first | cases hl; done | cases hstores

end Leaf

namespace CropVariant

theorem isInCrop_of_mem (variant : CropVariant) :
    ∀ f ∈ (Part.crop variant).fields, f.shape.isInCrop = true := by
  cases variant <;> decide

/-- A crop that a field accepts was read as some variant, unless it is an unchecked instance. -/
theorem exists_read {w v : Value} (h : check w = .ok v) (hread : v.IsRead) :
    ∃ variant entries, (Part.crop variant).read entries = .ok v := by
  have htagged : ∀ tag crop, checkTagged tag crop = .ok v →
      ∃ variant entries, (Part.crop variant).read entries = .ok v := by
    intro tag crop htagged
    unfold checkTagged at htagged
    split at htagged
    · rename_i variant _
      have hpart := Outcome.mapError_eq_ok htagged
      refine ⟨variant, Part.read_of_check hpart ?_⟩
      rintro attributes rfl
      exact hread
    · cases htagged
  unfold check at h
  split at h
  · split at h
    · exact htagged _ _ h
    · cases h
  · split at h
    · exact htagged _ _ h
    · cases h
  all_goals cases h

end CropVariant

theorem dumpEntries_map {s : Style} {outer : Nat} {fs : List (Field Leaf)}
    {val : Field Leaf → Value} {out : Field Leaf → Json}
    (h : ∀ f ∈ fs, dump s .any outer (val f) = .ok (out f)) :
    dumpEntries s outer (fs.map fun f => (f.name, val f)) =
      .ok (fs.map fun f => (f.name, out f)) := by
  induction fs with
  | nil => simp only [List.map_nil, dumpEntries]
  | cons f rest ih =>
    obtain ⟨hfirst, hrest⟩ := List.forall_mem_cons.mp h
    simp only [List.map_cons, dumpEntries, hfirst, ih hrest]
    rfl

/-- A crop that was read is written as its number and what its leaves are beside the other fields
    of a payload. -/
theorem CropVariant.exists_flatten {variant : CropVariant} {crop : Value}
    (hread : ∃ entries, (Part.crop variant).read entries = .ok crop) : ∃ val : Field Leaf → Value,
      (∀ f ∈ (Part.crop variant).fields, f.shape.stores (val f) = true) ∧
      crop = (Part.crop variant).record ((Part.crop variant).fields.map fun f => (f.name, val f)) ∧
      (∃ j, cropField.write .settings 0 crop = .ok j) ∧
      flatten 0 crop = .ok (("crop_mode", .int variant.tag) :: variant.arrange
        ((Part.crop variant).fields.map fun f => (f.name, (val f).beside))) := by
  obtain ⟨_, hread⟩ := hread
  obtain ⟨val, hstores, rfl⟩ := Part.eq_record_of_read hread
  have hleaf := variant.isInCrop_of_mem
  have hdump := dumpEntries_map fun f hf => Leaf.dump_beside (hleaf f hf) (hstores f hf)
  have hwrite : ∀ f ∈ (Part.crop variant).fields, ∃ j,
      (Shape.leaf f.shape).write .settings 0 (val f) = .ok j := fun f hf =>
    Leaf.exists_write_crop (hleaf f hf) (hstores f hf)
  choose! out hout using hwrite
  refine ⟨val, hstores, rfl, ?_, ?_⟩
  · have hfields := Part.dumpFields_ok_iff.mpr ⟨out, hout, rfl⟩
    exact ⟨_, congrArg (Except.map Json.object) hfields⟩
  · simp only [Part.record, flatten, hdump]
    rfl

/-- The entries that a crop has beside the other fields of a payload. -/
theorem CropVariant.exists_entries {variant : CropVariant} {crop : Value}
    (hread : ∃ entries, (Part.crop variant).read entries = .ok crop) : ∃ attributes more,
      crop = .record (.part (.crop variant)) attributes ∧
      (∃ j, cropField.write .settings 0 crop = .ok j) ∧
      flatten 0 crop = .ok (("crop_mode", .int variant.tag) :: more) ∧
      ∀ e ∈ more, ∃ name l v, (name, e.1) ∈ variant.wires ∧ attributes.lookup name = some v ∧
        Leaf.isInCrop l = true ∧ l.stores v = true ∧ e.2 = v.beside := by
  obtain ⟨val, hstores, rfl, hwhole, hflatten⟩ := exists_flatten hread
  refine ⟨_, _, rfl, hwhole, hflatten, ?_⟩
  intro e he
  obtain ⟨⟨name, wire⟩, hwire, he⟩ := List.mem_filterMap.mp he
  obtain ⟨j, hj, rfl⟩ := Option.map_eq_some_iff.mp he
  obtain ⟨before, after, hsplit, _⟩ := List.lookup_eq_some_iff.mp hj
  have hmem : (name, j) ∈ (Part.crop variant).fields.map fun f => (f.name, (val f).beside) :=
    hsplit ▸ List.mem_append_right _ (List.mem_cons_self ..)
  obtain ⟨f, hf, hfield⟩ := List.mem_map.mp hmem
  cases hfield
  exact ⟨f.name, f.shape, val f, hwire, (Part.separate_fields _).lookup_name val hf,
    variant.isInCrop_of_mem f hf, hstores f hf, rfl⟩

/-! ## Payloads -/

/-- That an entry of a document stands for a side of a crop rectangle that is not finite. -/
def Value.LeavesOut (payload : Value) (key : String) : Prop :=
  ∃ variant attributes name d,
    payload.attribute? "crop_mode" = some (.record (.part (.crop variant)) attributes) ∧
    (name, key) ∈ variant.wires ∧ attributes.lookup name = some (.real d) ∧ d.isFinite = false

/-- The entries that the document of a payload of a kind consists of. -/
inductive Kind.Entry (k : Kind) (payload : Value) : String → Json → Prop
  | field {f : Field Shape} {j : Json} (hf : f ∈ k.fields) (hwires : f.shape.Wires j) :
      Entry k payload f.wire j
  /-- The number of the crop. -/
  | mode {variant : CropVariant} {attributes : List (String × Value)}
      (hcrop : payload.attribute? "crop_mode" = some (.record (.part (.crop variant)) attributes)) :
      Entry k payload "crop_mode" (.int variant.tag)
  /-- What the crop carries, as it is. -/
  | carried {variant : CropVariant} {attributes : List (String × Value)} {name wire : String}
      {j : Json}
      (hcrop : payload.attribute? "crop_mode" = some (.record (.part (.crop variant)) attributes))
      (hwire : (name, wire) ∈ variant.wires) (hvalue : attributes.lookup name = some j.toValue)
      (hcomplete : j.isComplete = true) : Entry k payload wire j
  | leftOut {wire : String} (hside : payload.LeavesOut wire) : Entry k payload wire .null

theorem Kind.Entry.complete_or {k : Kind} {payload : Value} {key : String} {j : Json}
    (h : k.Entry payload key j) : j.isComplete = true ∨ j = .null ∧ payload.LeavesOut key := by
  cases h with
  | field hf hwires => exact .inl hwires.isComplete
  | mode hcrop => exact .inl rfl
  | carried hcrop hwire hvalue hcomplete => exact .inl hcomplete
  | leftOut hside => exact .inr ⟨rfl, hside⟩

/-- What a crop carries is an entry once doubles that are not finite are left out. -/
theorem Kind.Entry.beside {k : Kind} {payload : Value} {variant : CropVariant}
    {attributes : List (String × Value)}
    (hcrop : payload.attribute? "crop_mode" = some (.record (.part (.crop variant)) attributes))
    {name wire : String} (hwire : (name, wire) ∈ variant.wires) {l : Leaf}
    (hl : l.isInCrop = true) {v : Value} (hstores : l.stores v = true)
    (hvalue : attributes.lookup name = some v) : k.Entry payload wire v.beside.finite := by
  rcases Leaf.beside_cases hl hstores with ⟨hcomplete, hv⟩ | ⟨d, rfl, hd, hbeside⟩
  · rw [Json.finite_of_isComplete _ hcomplete]
    exact .carried hcrop hwire (hvalue.trans (congrArg some hv.symm)) hcomplete
  · rw [hbeside]
    exact .leftOut ⟨variant, attributes, name, d, hcrop, hwire, hvalue, hd⟩

/-- That a payload can be written out as plain data: no part of it went unchecked, channels are
    integral, and no integer is too long. -/
structure Value.IsWritable (payload : Value) : Prop where
  parts : ∀ name v, payload.attribute? name = some v → v.IsRead
  colors : ∀ name v, payload.attribute? name = some v → Color.IsIntegral v
  fits : payload.isOversize = false

namespace Kind

variable {k : Kind} {entries : List (String × Value)}

/-- What is read for the fields other than a crop is written to documents of their wire types. -/
theorem exists_write {val : Field Shape → Value}
    (hval : ∀ f ∈ k.fields, f.read Shape.check entries = .ok (val f))
    (hwritable : (Value.record (.payload k) (k.fields.map fun f => (f.name, val f))).IsWritable) :
    ∀ f ∈ k.fields, f.shape ≠ .crop → ∃ j, f.write .settings 0 (val f) = .ok j ∧
      f.shape.Wires j := by
  intro f hf hshape
  have hattribute := attribute?_record k val hf
  have hholds := holds_of_read hf (hval f hf) (hwritable.parts _ _ hattribute)
  have hsize : (val f).isOversize = false :=
    List.forall_mem_map.mp (isOversize_of_mem_entries hwritable.fits) f hf
  have hplain : ∀ g ∈ k.fields, g.shape ≠ .crop → g.shape.isPlain = true := by
    cases k <;> decide
  exact Shape.exists_write (hplain f hf hshape) hholds (hwritable.colors _ _ hattribute)
    fun _ => hsize

section Document

variable {val : Field Shape → Value}
  (hval : ∀ f ∈ k.fields, f.read Shape.check entries = .ok (val f))
  (hwritable : (Value.record (.payload k) (k.fields.map fun f => (f.name, val f))).IsWritable)
include hval hwritable

theorem exists_document_ordinary (hk : k ≠ .displayCapture) : ∃ es,
    document (.record (.payload k) (k.fields.map fun f => (f.name, val f))) = .ok (.object es) ∧
    ∀ e ∈ es, k.Entry (.record (.payload k) (k.fields.map fun f => (f.name, val f))) e.1 e.2 := by
  have hwrite := fun f hf => exists_write hval hwritable f hf (shape_ne_crop hk f hf)
  choose! out hout hwires using hwrite
  exact ⟨_, document_ok hk hout, List.forall_mem_map.mpr fun f hf => .field hf (hwires f hf)⟩

end Document

/-- The crop of a display capture was read, if it is not an unchecked instance. -/
theorem exists_crop {v : Value} (h : cropField.read Shape.check entries = .ok v)
    (hread : v.IsRead) : ∃ variant entries, (Part.crop variant).read entries = .ok v := by
  rcases Field.read_eq_ok h with ⟨w, hw⟩ | hdefault
  · exact CropVariant.exists_read hw hread
  · cases hdefault
    exact ⟨.none, [], rfl⟩

theorem exists_document_displayCapture {val : Field Shape → Value}
    (hval : ∀ f ∈ displayCapture.fields, f.read Shape.check entries = .ok (val f))
    (hwritable : (Value.record (.payload .displayCapture)
      (displayCapture.fields.map fun f => (f.name, val f))).IsWritable) : ∃ es,
    document (.record (.payload .displayCapture)
      (displayCapture.fields.map fun f => (f.name, val f))) = .ok (.object es) ∧
    ∀ e ∈ es, displayCapture.Entry (.record (.payload .displayCapture)
      (displayCapture.fields.map fun f => (f.name, val f))) e.1 e.2 := by
  have hdisplay := mem_displayCapture_fields.mpr (.inl rfl)
  have hcursor := mem_displayCapture_fields.mpr (.inr (.inl rfl))
  have hcrop := mem_displayCapture_fields.mpr (.inr (.inr rfl))
  have hattribute := attribute?_record .displayCapture val hcrop
  obtain ⟨variant, hread⟩ := exists_crop (hval _ hcrop) (hwritable.parts _ _ hattribute)
  obtain ⟨attributes, more, hrecord, hwhole, hflatten, hmore⟩ :=
    CropVariant.exists_entries hread
  rw [hrecord] at hattribute
  have hwrite : ∀ f ∈ displayCapture.fields, ∃ j, f.write .settings 0 (val f) = .ok j ∧
      (f.shape ≠ .crop → f.shape.Wires j) := by
    intro f hf
    by_cases hshape : f.shape = .crop
    · obtain ⟨_, rfl⟩ := eq_cropField hf hshape
      obtain ⟨whole, hwhole⟩ := hwhole
      exact ⟨whole, hwhole, fun h => absurd hshape h⟩
    · obtain ⟨j, hj, hwires⟩ := exists_write hval hwritable f hf hshape
      exact ⟨j, hj, fun _ => hwires⟩
  choose! out hout hwires using hwrite
  -- every entry is in place before doubles are left out, and has no parts
  have hentries : ∀ e ∈ [("display", out (.count "display" 0)),
      ("show_cursor", out (.flag "show_cursor" true))] ++ ("crop_mode", .int variant.tag) :: more,
      e.2.depth = 1 ∧ displayCapture.Entry (.record (.payload .displayCapture)
        (displayCapture.fields.map fun f => (f.name, val f))) e.1 e.2.finite := by
    have hleaf : ∀ f ∈ displayCapture.fields, ∀ l, f.shape = .leaf l → (out f).depth = 1 ∧
        displayCapture.Entry (.record (.payload .displayCapture)
          (displayCapture.fields.map fun f => (f.name, val f))) f.wire (out f).finite := by
      intro f hf l hshape
      have hwire := hwires f hf (by simp only [hshape, ne_eq, reduceCtorEq, not_false_eq_true])
      rw [Json.finite_of_isComplete _ hwire.isComplete]
      refine ⟨?_, .field hf hwire⟩
      rw [hshape] at hwire
      cases hwire with
      | leaf h => exact h.depth_eq
    refine List.forall_mem_cons.mpr ⟨hleaf _ hdisplay .integer rfl, ?_⟩
    refine List.forall_mem_cons.mpr ⟨hleaf _ hcursor .boolean rfl, ?_⟩
    refine List.forall_mem_cons.mpr ⟨⟨rfl, .mode hattribute⟩, fun e he => ?_⟩
    obtain ⟨name, l, v, hwire, hvalue, hl, hstores, heq⟩ := hmore e he
    rw [heq]
    exact ⟨Leaf.depth_beside hl hstores, .beside hattribute hwire hl hstores hvalue⟩
  refine ⟨_, document_displayCapture_ok_iff.mpr ⟨out, _, hout, hflatten, ?_, rfl⟩, ?_⟩
  · have hdepth := Json.depthOfEntries_le fun e he => Nat.le_of_eq (hentries e he).1
    exact Nat.le_trans hdepth (by decide)
  · simp only [finiteEntries_eq_map]
    exact List.forall_mem_map.mpr fun e he => (hentries e he).2

end Kind

/-- Whatever validates has a document, with the keys of its kind and entries of their wire
    types, in which nothing is missing at any depth but the sides of a crop rectangle that are
    not finite. -/
theorem settings_complete (k : Kind) (entries : List (String × Value)) (payload : Value)
    (hread : (Model.payload k).read entries = .ok payload) (hwritable : payload.IsWritable) :
    ∃ es, Action.settings payload = .ok (.object es) ∧
      es.map (·.1) = k.wires ++ payload.cropKeysWithin ∧
      (∀ e ∈ es, k.Entry payload e.1 e.2) ∧
      ∀ e ∈ es, e.2.isComplete = true ∨ e.2 = .null ∧ payload.LeavesOut e.1 := by
  obtain ⟨val, hval, rfl⟩ := eq_record_of_read hread
  have hdocument : ∃ es,
      document (.record (.payload k) (k.fields.map fun f => (f.name, val f))) = .ok (.object es) ∧
      ∀ e ∈ es, k.Entry (.record (.payload k) (k.fields.map fun f => (f.name, val f))) e.1 e.2 := by
    by_cases hk : k = .displayCapture
    · subst hk
      exact Kind.exists_document_displayCapture hval hwritable
    · exact Kind.exists_document_ordinary hval hwritable hk
  obtain ⟨es, hes, hentries⟩ := hdocument
  obtain ⟨segment, hsegment, hobject⟩ := document_ok_iff.mp hes
  cases hobject
  exact ⟨_, hes, keys_segments hsegment, hentries, fun e he => (hentries e he).complete_or⟩

/-- A slideshow whose ratio has a negative width, and a truth value for its height. -/
def mirroredSlideshow : Value :=
  evenSlideshow (.ratio (.int (-1)) (.bool true)) ⟨1000999, by decide, by decide⟩

/-- The mirrored slideshow is written out like any other one, and nothing in it is missing. -/
theorem settings_complete_mirrored : ∃ entries,
    (Model.payload .slideshow).read entries = .ok mirroredSlideshow ∧
    mirroredSlideshow.IsWritable ∧
    ∃ es, Action.settings mirroredSlideshow = .ok (.object es) ∧
      ∀ e ∈ es, e.2.isComplete = true := by
  have hread : (Model.payload .slideshow).read [
      ("use_custom_size", .ratio (.int (-1)) (.bool true)),
      ("slide_time", .duration ⟨1000999, by decide, by decide⟩),
      ("transition_speed", .duration ⟨1000999, by decide, by decide⟩)] =
    .ok mirroredSlideshow := rfl
  have hwritable : mirroredSlideshow.IsWritable := by
    refine ⟨Value.forall_attribute? ?_, Value.forall_attribute? ?_, ?_⟩
    · simp [Value.IsRead]
    · simp [Color.IsIntegral]
    · simp [mirroredSlideshow, evenSlideshow, Value.isOversize, Value.anyOversizeEntry,
        Value.anyOversize, Integer.fits_of_lt_ten]
  obtain ⟨es, hes, _, _, hcomplete⟩ := settings_complete .slideshow _ _ hread hwritable
  refine ⟨_, hread, hwritable, es, hes, fun e he => ?_⟩
  rcases hcomplete e he with hcomplete | ⟨_, hside⟩
  · exact hcomplete
  · obtain ⟨_, _, _, _, hcrop, _⟩ := hside
    cases hcrop

end SceneSource
