-- SUMMARY: Equal payloads have documents with the same keys, equal if their paths are spelled alike.
import SceneSource.Proofs.Agreement
import SceneSource.Proofs.PathFields

/-!
# Equal payloads

Payloads of a kind that are equal have documents with the same keys in the same order, whatever
the payloads were built from. The documents are equal, too, if the payloads are spelled alike, and
only then, since a path that takes no notice of capitals is sent as it is spelled. Apart from such
paths what is written differs in the rectangle of a crop only, by the sign of a zero, and there it
is equal.
-/

namespace SceneSource

/-! ## Leaves -/

/-- Equal values that a leaf stores are written as equal documents exactly if they are spelled
    alike. -/
theorem Leaf.alike_iff {l : Leaf} (hl : l.isPlain = true) {v w : Value} (hv : l.stores v = true)
    (hw : l.stores w = true) (hcolor : Color.IsIntegral v) (hcolor' : Color.IsIntegral w)
    (hsize : BoundingSize.IsPlain v) (hsize' : BoundingSize.IsPlain w)
    (hagree : v.agrees w = true) {i j : Json}
    (hi : (Shape.leaf l).write .settings 0 v = .ok i)
    (hj : (Shape.leaf l).write .settings 0 w = .ok j) :
    i.Alike j ↔ v.spelledAlike w = true := by
  constructor
  · intro halike
    by_cases hpath : l = path
    · subst hpath
      cases v with
      | caselessPath t => cases w with
        | caselessPath u =>
          cases hi
          cases hj
          rw [Value.spelledAlike, beq_iff_eq]
          exact Json.alike_text_iff.mp halike
        | _ => simp only [Value.spelledAlike]
      | tuple | record => cases hv
      | _ => simp only [Value.spelledAlike]
    · exact spelledAlike_of_ne_path hpath hv w
  · intro hspelled
    obtain ⟨i', hi', hwires⟩ := exists_write hl hv hcolor
      (fun hsized => BoundingSize.isOversize_of_isPlain (hsized ▸ hv) hsize)
      (Nat.zero_lt_succ 254) .settings
    have hsame := write_of_agrees hl hv hw hcolor hcolor' hsize hsize' hagree hspelled .settings 0
    rw [hi] at hi' hsame
    cases hi'
    cases hsame.trans hj
    exact hwires.alike

/-! ## Parts -/

/-- Records that are equal agree field by field. -/
theorem Field.Separate.agrees_of_record {σ : Type} {fields : List (Field σ)}
    (hsep : Field.Separate fields) {m n : Model} {val val' : Field σ → Value}
    (h : (Value.record m (fields.map fun f => (f.name, val f))).agrees
      (.record n (fields.map fun f => (f.name, val' f))) = true) :
    ∀ f ∈ fields, (val f).agrees (val' f) = true := by
  intro f hf
  rw [Value.agrees, Bool.and_eq_true_iff] at h
  obtain ⟨w, hw, hagree⟩ := Value.agreeEntries_iff.mp h.2 _ (List.mem_map_of_mem hf)
  rw [hsep.lookup_name val' hf] at hw
  rw [Option.some.inj hw]
  exact hagree

theorem BoundingSize.isPlain_of_isSimple {l : Leaf} (hl : l.isSimple = true) {v : Value}
    (hv : l.stores v = true) : IsPlain v := by
  cases v with
  | ratio | size => cases l <;> first | cases hl; done | cases hv
  | _ => trivial

section Parts

variable {p : Part} {v w : Value} (hv : ∃ entries, p.read entries = .ok v)
  (hw : ∃ entries, p.read entries = .ok w) (hagree : v.agrees w = true)
include hv hw hagree

/-- Equal parts are written as equal documents exactly if they are spelled alike. -/
theorem Part.alike_iff (hp : p.isSimple = true) {i j : Json}
    (hi : dump .settings (.part p) 0 v = .ok i) (hj : dump .settings (.part p) 0 w = .ok j) :
    i.Alike j ↔ v.spelledAlike w = true := by
  obtain ⟨_, hv⟩ := hv
  obtain ⟨_, hw⟩ := hw
  obtain ⟨val, hstores, rfl⟩ := eq_record_of_read hv
  obtain ⟨val', hstores', rfl⟩ := eq_record_of_read hw
  rw [Shape.dump_part .settings p _ (Nat.zero_le _)] at hi hj
  obtain ⟨_, hentries, rfl⟩ := Outcome.map_eq_ok hi
  obtain ⟨_, hentries', rfl⟩ := Outcome.map_eq_ok hj
  obtain ⟨out, hout, rfl⟩ := dumpFields_ok_iff.mp hentries
  obtain ⟨out', hout', rfl⟩ := dumpFields_ok_iff.mp hentries'
  rw [Json.alike_fields_iff p.nodup_wires, Part.record, Part.record,
    p.separate_fields.spelledAlike_record_iff]
  refine forall₂_congr fun f hf => ?_
  have hsimple := List.all_eq_true.mp hp f hf
  have hcolor : ∀ {v : Value}, f.shape.stores v = true → Color.IsIntegral v := fun hv =>
    (isRegular_of_isSimple hsimple hv).1
  have hsize : ∀ {v : Value}, f.shape.stores v = true → BoundingSize.IsPlain v := fun hv =>
    BoundingSize.isPlain_of_isSimple hsimple hv
  exact Leaf.alike_iff (Leaf.isPlain_of_isSimple hsimple) (hstores f hf) (hstores' f hf)
    (hcolor (hstores f hf)) (hcolor (hstores' f hf)) (hsize (hstores f hf))
    (hsize (hstores' f hf)) (p.separate_fields.agrees_of_record hagree f hf) (hout f hf)
    (hout' f hf)

/-- Parts of integers are the same if they are equal, and have no spelling. -/
theorem Part.eq_of_agrees (hp : (Shape.embedded p).isPlain = true) :
    v = w ∧ v.spelledAlike w = true := by
  obtain ⟨_, hv⟩ := hv
  obtain ⟨_, hw⟩ := hw
  obtain ⟨val, hstores, rfl⟩ := eq_record_of_read hv
  obtain ⟨val', hstores', rfl⟩ := eq_record_of_read hw
  have hinteger : ∀ f ∈ p.fields, f.shape = .integer := fun f hf =>
    of_decide_eq_true (List.all_eq_true.mp hp f hf)
  refine ⟨congrArg (Value.record (.part p)) (List.map_congr_left fun f hf => ?_),
    p.separate_fields.spelledAlike_record_iff.mpr fun f hf => ?_⟩
  · have hfield := p.separate_fields.agrees_of_record hagree f hf
    have hint := hstores f hf
    have hint' := hstores' f hf
    rw [hinteger f hf] at hint hint'
    have hsize : ∀ {v : Value}, Leaf.integer.stores v = true → BoundingSize.IsPlain v :=
      BoundingSize.isPlain_of_isSimple rfl
    rw [Leaf.eq_of_agrees (l := .integer) rfl hint hint' hfield nofun nofun (hsize hint)
      (hsize hint')]
  · exact Leaf.spelledAlike_of_ne_path (by rw [hinteger f hf]; exact nofun) (hstores f hf) _

end Parts

/-! ## Fields -/

namespace Shape

/-- Equal tuples of parts are written as equal documents exactly if they are spelled alike. -/
theorem alike_parts_iff {p : Part} (hp : p.isSimple = true) {xs ys : List Value}
    (hxs : ∀ x ∈ xs, ∃ entries, p.read entries = .ok x)
    (hys : ∀ y ∈ ys, ∃ entries, p.read entries = .ok y)
    (hagree : List.Forall₂ (fun x y => x.agrees y = true) xs ys) {i j : Json}
    (hi : (parts p).write .settings 0 (.tuple xs) = .ok i)
    (hj : (parts p).write .settings 0 (.tuple ys) = .ok j) :
    i.Alike j ↔ (Value.tuple xs).spelledAlike (.tuple ys) = true := by
  obtain ⟨is, rfl, his⟩ := write_parts_ok_iff.mp hi
  obtain ⟨js, rfl, hjs⟩ := write_parts_ok_iff.mp hj
  rw [Json.alike_array_iff, Value.spelledAlike_tuple_iff hagree.length_eq]
  -- along the items that agree, for any documents of them
  clear hi hj
  induction hagree generalizing is js with
  | nil =>
    cases his
    cases hjs
    simp
  | cons hfirst _ ih =>
    obtain ⟨hx, hxs⟩ := List.forall_mem_cons.mp hxs
    obtain ⟨hy, hys⟩ := List.forall_mem_cons.mp hys
    cases his with
    | cons hi his => cases hjs with
      | cons hj hjs =>
        rw [List.forall₂_cons, List.forall₂_cons, ih hxs hys _ his _ hjs,
          Part.alike_iff hx hy hfirst hp hi hj]

/-- Equal values that a field of a payload stores are written as equal documents exactly if they
    are spelled alike. -/
theorem alike_iff {shape : Shape} (hshape : shape.isPlain = true) {v w : Value}
    (hv : shape.Holds v) (hw : shape.Holds w) (hcolor : Color.IsIntegral v)
    (hcolor' : Color.IsIntegral w) (hsize : BoundingSize.IsPlain v)
    (hsize' : BoundingSize.IsPlain w) (hagree : v.agrees w = true) {i j : Json}
    (hi : shape.write .settings 0 v = .ok i) (hj : shape.write .settings 0 w = .ok j)
    (hwires : shape.Wires i) : i.Alike j ↔ v.spelledAlike w = true := by
  cases shape with
  | leaf l => exact Leaf.alike_iff hshape hv hw hcolor hcolor' hsize hsize' hagree hi hj
  | part p => exact Part.alike_iff hv hw hagree hshape hi hj
  | parts p => cases v with
    | tuple xs => cases w with
      | tuple ys =>
        rw [Value.agrees] at hagree
        exact alike_parts_iff hshape hv hw (Value.agreeItems_iff.mp hagree) hi hj
      | _ => cases hw
    | _ => cases hv
  | embedded p =>
    obtain ⟨rfl, hspelled⟩ := Part.eq_of_agrees hv hw hagree hshape
    cases hi.symm.trans hj
    exact iff_of_true hwires.alike hspelled
  | crop => cases hshape

end Shape

/-! ## Payloads -/

/-- That a payload was read, and its parts, that the channels of its colors are integral, and the
    entries of its bounding sizes plain integers that are not too long. -/
structure Kind.Validated (k : Kind) (payload : Value) : Prop where
  read : ∃ entries, (Model.payload k).read entries = .ok payload
  parts : ∀ name v, payload.attribute? name = some v → v.IsRead
  colors : ∀ name v, payload.attribute? name = some v → Color.IsIntegral v
  sizes : ∀ name v, payload.attribute? name = some v → BoundingSize.IsPlain v

namespace Kind

variable {k : Kind}

theorem validated_of_forall {attributes : List (String × Value)}
    (hread : ∃ entries, (Model.payload k).read entries = .ok (.record (.payload k) attributes))
    (h : ∀ e ∈ attributes, e.2.IsRead ∧ Color.IsIntegral e.2 ∧ BoundingSize.IsPlain e.2) :
    k.Validated (.record (.payload k) attributes) where
  read := hread
  parts := Value.forall_attribute? fun e he => (h e he).1
  colors := Value.forall_attribute? fun e he => (h e he).2.1
  sizes := Value.forall_attribute? fun e he => (h e he).2.2

section Field

variable {val : Field Shape → Value} {f : Field Shape} (hf : f ∈ k.fields)
  (ha : k.Validated (.record (.payload k) (k.fields.map fun f => (f.name, val f))))
  {entries : List (String × Value)} (hread : f.read Shape.check entries = .ok (val f))
include hf ha hread

theorem Validated.holds : f.shape.Holds (val f) :=
  holds_of_read hf hread (ha.parts _ _ (attribute?_record k val hf))

/-- What a validated payload has in a field without a crop is written to a document of its wire
    type. -/
theorem Validated.exists_write (hplain : f.shape.isPlain = true) :
    ∃ j, f.write .settings 0 (val f) = .ok j ∧ f.shape.Wires j := by
  have hholds := ha.holds hf hread
  have hattribute := attribute?_record k val hf
  refine Shape.exists_write hplain hholds (ha.colors _ _ hattribute) fun hshape => ?_
  rw [hshape] at hholds
  exact BoundingSize.isOversize_of_isPlain hholds (ha.sizes _ _ hattribute)

end Field

/-- Without a crop, equal payloads have documents with the same keys, which are equal exactly if
    the payloads are spelled alike. -/
theorem exists_settings_ordinary (hk : k ≠ .displayCapture) {a b : Value} (ha : k.Validated a)
    (hb : k.Validated b) (heq : a.equal b = true) : ∃ es fs,
      Action.settings a = .ok (.object es) ∧ Action.settings b = .ok (.object fs) ∧
      es.map (·.1) = fs.map (·.1) ∧
      (Json.Alike (.object es) (.object fs) ↔ a.spelledAlike b = true) := by
  obtain ⟨_, hread⟩ := ha.read
  obtain ⟨_, hread'⟩ := hb.read
  obtain ⟨val, hval, rfl⟩ := eq_record_of_read hread
  obtain ⟨val', hval', rfl⟩ := eq_record_of_read hread'
  have hagree := (separate_fields k).agrees_of_record heq
  have hfield : ∀ f ∈ k.fields, ∃ i j, f.write .settings 0 (val f) = .ok i ∧
      f.write .settings 0 (val' f) = .ok j ∧
      (i.Alike j ↔ (val f).spelledAlike (val' f) = true) := by
    intro f hf
    have hplain := isPlain_shape hk f hf
    have hattribute := attribute?_record k val hf
    have hattribute' := attribute?_record k val' hf
    obtain ⟨i, hi, hwires⟩ := ha.exists_write hf (hval f hf) hplain
    obtain ⟨j, hj, -⟩ := hb.exists_write hf (hval' f hf) hplain
    exact ⟨i, j, hi, hj, Shape.alike_iff hplain (ha.holds hf (hval f hf))
      (hb.holds hf (hval' f hf)) (ha.colors _ _ hattribute) (hb.colors _ _ hattribute')
      (ha.sizes _ _ hattribute) (hb.sizes _ _ hattribute') (hagree f hf) hi hj hwires⟩
  choose! out out' hout hout' halike using hfield
  refine ⟨_, _, document_ok hk hout, document_ok hk hout', ?_, ?_⟩
  · rw [List.map_map, List.map_map]
    rfl
  · rw [Json.alike_fields_iff (nodup_wires k), (separate_fields k).spelledAlike_record_iff]
    exact forall₂_congr halike

end Kind

/-! ## Display captures -/

section Capture

variable {variant : CropVariant} {attributes attributes' : List (String × Value)}

theorem IsWholeCrop.stored_of_lookup (hwhole : IsWholeCrop variant attributes) {name : String}
    {v : Value} (hv : attributes.lookup name = some v) :
    ∃ l, Leaf.isInCrop l = true ∧ l.stores v = true := by
  obtain ⟨before, after, hsplit, _⟩ := List.lookup_eq_some_iff.mp hv
  exact hwhole.stored (name, v) (hsplit ▸ List.mem_append_right _ (List.mem_cons_self ..))

/-- Crops that are alike are written alike beside the other fields. -/
theorem alike_arrange (hwhole : IsWholeCrop variant attributes)
    (hwhole' : IsWholeCrop variant attributes')
    (halike : CropsAlike variant attributes attributes') :
    List.Forall₂ (fun e f : String × Json => e.2.Alike f.2)
      ((variant.arrange attributes).map fun e => (e.1, e.2.beside))
      ((variant.arrange attributes').map fun e => (e.1, e.2.beside)) := by
  rw [List.forall₂_map_left_iff, List.forall₂_map_right_iff, CropVariant.arrange,
    CropVariant.arrange, CropVariant.wires_eq_carries]
  unfold CropsAlike at halike
  generalize variant.carries = wires at halike
  induction wires with
  | nil => exact .nil
  | cons w rest ih =>
    obtain ⟨⟨v, v', hv, hv', hagree⟩, hrest⟩ := List.forall_mem_cons.mp halike
    obtain ⟨l, hl, hstores⟩ := hwhole.stored_of_lookup hv
    obtain ⟨l', hl', hstores'⟩ := hwhole'.stored_of_lookup hv'
    simp only [List.filterMap_cons, hv, hv', Option.map_some]
    exact .cons (Value.alike_beside hl hstores hl' hstores' hagree) (ih hrest)

/-- The keys of a display capture whose crop was read are those of its variant. -/
theorem keys_capture (hwhole : IsWholeCrop variant attributes) (display : Int) (cursor : Bool) :
    (frontEntries display cursor variant ++
      (variant.arrange attributes).map fun e => (e.1, e.2.beside)).map (·.1) =
        "display" :: "show_cursor" :: "crop_mode" :: variant.carries.map (·.2) := by
  rw [List.map_append, List.map_map, ← keys_of_isWholeCrop hwhole]
  rfl

/-- Nothing that a display capture stores is a path. -/
theorem spelledAlike_captureOf (hwhole : IsWholeCrop variant attributes) (display : Int)
    (cursor : Bool) (w : Value) :
    (captureOf display cursor (cropOf variant attributes)).spelledAlike w = true := by
  have hcrop : ∀ w, (cropOf variant attributes).spelledAlike w = true := by
    refine Value.spelledAlike_record fun e he => ?_
    obtain ⟨l, hl, hstores⟩ := hwhole.stored e he
    exact Leaf.spelledAlike_of_ne_path (by rintro rfl; cases hl) hstores
  refine Value.spelledAlike_record ?_ w
  simp only [List.forall_mem_cons]
  exact ⟨Leaf.spelledAlike_of_ne_path (l := .integer) nofun rfl,
    Leaf.spelledAlike_of_ne_path (l := .boolean) nofun rfl, hcrop, List.forall_mem_nil _⟩

end Capture

/-- Equal display captures have equal documents with the same keys. -/
theorem Kind.exists_settings_displayCapture {a b : Value} (ha : displayCapture.Validated a)
    (hb : displayCapture.Validated b) (heq : a.equal b = true) : ∃ es fs,
      Action.settings a = .ok (.object es) ∧ Action.settings b = .ok (.object fs) ∧
      es.map (·.1) = fs.map (·.1) ∧
      (Json.Alike (.object es) (.object fs) ↔ a.spelledAlike b = true) := by
  obtain ⟨_, hread⟩ := ha.read
  obtain ⟨_, hread'⟩ := hb.read
  obtain ⟨display, cursor, variant, attributes, rfl, _⟩ := exists_captureOf hread
  obtain ⟨display', cursor', variant', attributes', rfl, _⟩ := exists_captureOf hread'
  have hcrop : (cropOf variant attributes).IsRead := ha.parts "crop_mode" _ rfl
  have hcrop' : (cropOf variant' attributes').IsRead := hb.parts "crop_mode" _ rfl
  have hwhole := isWholeCrop_of_read hcrop
  have hwhole' := isWholeCrop_of_read hcrop'
  obtain ⟨hdisplay, hcursor, hagree⟩ := equal_captureOf.mp heq
  obtain ⟨rfl, halike⟩ := (agrees_cropOf hwhole hwhole').mp hagree
  have hkeys := (keys_capture hwhole display cursor).trans
    (keys_capture hwhole' display' cursor').symm
  refine ⟨_, _, settings_of_read hcrop, settings_of_read hcrop', hkeys,
    iff_of_true ((Json.alike_object_iff hkeys ?_).mpr ?_)
      (spelledAlike_captureOf hwhole display cursor _)⟩
  · rw [keys_capture hwhole']
    exact variant.nodup_carries
  · exact .cons hdisplay (.cons hcursor (.cons (Json.alike_int _)
      (alike_arrange hwhole hwhole' halike)))

/-! ## Equal documents -/

/-- Payloads of a kind that are equal have documents with the same keys in the same order, however
    the payloads were built. The documents are equal exactly if the payloads are spelled alike. -/
theorem equal_settings (k : Kind) (a b : Value) (ha : k.Validated a) (hb : k.Validated b)
    (heq : a.equal b = true) : ∃ i j, Action.settings a = .ok i ∧ Action.settings b = .ok j ∧
      Action.keys i = Action.keys j ∧
      (i.toValue.equal j.toValue = true ↔ a.spelledAlike b = true) := by
  have hsettings : ∃ es fs, Action.settings a = .ok (.object es) ∧
      Action.settings b = .ok (.object fs) ∧ es.map (·.1) = fs.map (·.1) ∧
      (Json.Alike (.object es) (.object fs) ↔ a.spelledAlike b = true) := by
    by_cases hk : k = .displayCapture
    · subst hk
      exact Kind.exists_settings_displayCapture ha hb heq
    · exact Kind.exists_settings_ordinary hk ha hb heq
  obtain ⟨es, fs, hes, hfs, hkeys, halike⟩ := hsettings
  refine ⟨_, _, hes, hfs, hkeys, ?_⟩
  simpa only [Json.Alike, Json.toValue, Value.equal] using halike

/-- A picture from a file. -/
def picture (file : Value) : Value :=
  .record (.payload .imageSource) [("file", file), ("unload", .bool false)]

theorem equal_picture {file file' : Value} (h : file.agrees file' = true) :
    (picture file).equal (picture file') = true := by
  have hnil : Value.agreeEntries [] [("file", file'), ("unload", .bool false)] = true := by
    simp only [Value.agreeEntries]
  simp only [picture, Value.equal]
  rw [Value.agrees, Bool.and_eq_true_iff]
  exact ⟨rfl, (Value.agreeEntries_cons rfl).mpr
    ⟨h, (Value.agreeEntries_cons rfl).mpr ⟨Json.alike_bool false, hnil⟩⟩⟩

/-- A display capture that is cropped from the left is validated. -/
theorem validated_leftCrop {x : Double} (hx : x.isFinite = true) :
    Kind.displayCapture.Validated (captureOf 0 true (leftCrop x)) := by
  have hfinite := isFiniteCapture_leftCrop hx
  have hcrop : (leftCrop x).IsRead := (hfinite.crop _ rfl).1
  refine Kind.validated_of_forall hfinite.read ?_
  simp only [List.forall_mem_cons]
  exact ⟨⟨trivial, trivial, trivial⟩, ⟨trivial, trivial, trivial⟩, ⟨hcrop, trivial, trivial⟩,
    List.forall_mem_nil _⟩

/-- A file that is named by a member and by its text, and rectangles with zeros of both signs. -/
theorem equal_settings_spellings :
    (∃ i j, Action.settings (picture (.choice (.aspect .automatic))) = .ok i ∧
      Action.settings (picture (.text AspectPreset.automatic.text)) = .ok j ∧
      Action.keys i = Action.keys j ∧ i.toValue.equal j.toValue = true) ∧
    ∃ i j, Action.settings (captureOf 0 true (leftCrop .zero)) = .ok i ∧
      Action.settings (captureOf 0 true (leftCrop ⟨0x8000000000000000⟩)) = .ok j ∧
      Action.keys i = Action.keys j ∧ i.toValue.equal j.toValue = true := by
  constructor
  · have hfiles : (picture (.choice (.aspect .automatic))).equal
        (picture (.text AspectPreset.automatic.text)) = true := by
      refine equal_picture ?_
      simp only [Value.agrees]
      rfl
    obtain ⟨i, j, hi, hj, hkeys, hequal⟩ := equal_settings .imageSource _ _
      (Kind.validated_of_forall ⟨[("file", .choice (.aspect .automatic))], rfl⟩
        (by simp [Value.IsRead, Color.IsIntegral, BoundingSize.IsPlain]))
      (Kind.validated_of_forall ⟨[("file", .text AspectPreset.automatic.text)], rfl⟩
        (by simp [Value.IsRead, Color.IsIntegral, BoundingSize.IsPlain])) hfiles
    refine ⟨i, j, hi, hj, hkeys, hequal.mpr (Value.spelledAlike_record ?_ _)⟩
    simp only [List.forall_mem_cons]
    exact ⟨Leaf.spelledAlike_of_ne_path (l := .boundingSize) (by decide) rfl,
      Leaf.spelledAlike_of_ne_path (l := .boolean) (by decide) rfl, List.forall_mem_nil _⟩
  · have hwhole := fun (x : Double) (hx : x.isFinite = true) =>
      isWholeCrop_of_read ((isFiniteCapture_leftCrop hx).crop _ rfl).1
    have hzeros : (Value.real .zero).agrees (.real ⟨0x8000000000000000⟩) = true := by
      simp only [Value.agrees]
      rfl
    have hzero : (Value.real .zero).agrees (.real .zero) = true := by
      simp only [Value.agrees]
      rfl
    have hcrops : (captureOf 0 true (leftCrop .zero)).equal
        (captureOf 0 true (leftCrop ⟨0x8000000000000000⟩)) = true := by
      refine equal_captureOf.mpr ⟨Value.agrees_int.mpr rfl, Json.alike_bool true,
        (agrees_cropOf (hwhole .zero rfl) (hwhole ⟨0x8000000000000000⟩ rfl)).mpr ⟨rfl, ?_⟩⟩
      unfold CropsAlike CropVariant.carries
      simp only [List.forall_mem_cons]
      exact ⟨⟨_, _, rfl, rfl, hzeros⟩, ⟨_, _, rfl, rfl, hzero⟩, ⟨_, _, rfl, rfl, hzero⟩,
        ⟨_, _, rfl, rfl, hzero⟩, List.forall_mem_nil _⟩
    obtain ⟨i, j, hi, hj, hkeys, hequal⟩ := equal_settings .displayCapture _ _
      (validated_leftCrop rfl) (validated_leftCrop rfl) hcrops
    exact ⟨i, j, hi, hj, hkeys, hequal.mpr (spelledAlike_captureOf (hwhole .zero rfl) 0 true _)⟩

/-- A file that is named with capitals and without, in the notation of a system that takes no
    notice of them, is sent as it is spelled. -/
theorem equal_settings_capitals : ¬ ∀ (k : Kind) (a b : Value), k.Validated a → k.Validated b →
    a.equal b = true → ∃ i j, Action.settings a = .ok i ∧ Action.settings b = .ok j ∧
      Action.keys i = Action.keys j ∧ i.toValue.equal j.toValue = true := by
  intro hall
  have hvalidated : ∀ text, Kind.imageSource.Validated
      (picture (.caselessPath text ["c:\\", "pics", "a.png"])) := fun text =>
    Kind.validated_of_forall ⟨[("file", .caselessPath text ["c:\\", "pics", "a.png"])], rfl⟩
      (by simp [Value.IsRead, Color.IsIntegral, BoundingSize.IsPlain])
  obtain ⟨_, _, hi, hj, -, hequal⟩ := hall .imageSource _ _
    (hvalidated "C:\\Pics\\A.png") (hvalidated "c:\\pics\\a.png") (equal_picture (by
      simp only [Value.agrees]
      rfl))
  cases hi
  cases hj
  revert hequal
  decide +kernel

end SceneSource
