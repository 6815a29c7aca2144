-- SUMMARY: The document of a payload in terms of the entries of its fields.
import SceneSource.Document.Dump
import SceneSource.Proofs.Fields

/-!
# Documents of payloads

The document of a payload is made of the entries of its fields. Only a display capture adds
something to them: it writes its crop out beside them.
-/

namespace SceneSource

/-! ## The document as a whole -/

/-- Without a crop, the entries of the fields are the document. -/
theorem document_payload {k : Kind} (hk : k ≠ .displayCapture)
    (attributes : List (String × Value)) :
    document (.record (.payload k) attributes) =
      (dumpFields .settings 0 k.fields attributes).map .object := by
  unfold document dump
  cases k with
  | displayCapture => exact absurd rfl hk
  | _ => rfl

/-- The document of a display capture: the entries of its other fields, then those of the
    crop. What goes wrong is reported as a fault of the encoder of crops. -/
theorem document_displayCapture (attributes : List (String × Value)) :
    document (.record (.payload .displayCapture) attributes) =
      match dumpFields .settings 0 Kind.displayCapture.fields attributes,
        dumpCrop 0 attributes with
      | .ok entries, .ok crop =>
          Style.settings.entries 0 (entries.filter (·.1 != "crop_mode") ++ crop)
      | .error f, _ | .ok _, .error f => .error (Style.settings.fault cropEncoder f) := by
  unfold document dump
  rfl

/-- The document of a payload is an object. -/
theorem document_object {k : Kind} {attributes : List (String × Value)} {j : Json}
    (h : document (.record (.payload k) attributes) = .ok j) : ∃ entries, j = .object entries := by
  by_cases hk : k = .displayCapture
  · subst hk
    simp only [document_displayCapture] at h
    split at h
    · unfold Style.entries at h
      split at h
      · cases h
      · cases h
        exact ⟨_, rfl⟩
    · cases h
    · cases h
  · simp only [document_payload hk] at h
    obtain ⟨entries, _, rfl⟩ := Outcome.map_eq_ok h
    exact ⟨entries, rfl⟩

/-! ## Entries of fields -/

/-- What a value is written as in a place with a shape. -/
def Shape.write (shape : Shape) (s : Style) (outer : Nat) (v : Value) : Except Fault Json :=
  shape.close s v (dump (shape.style s) shape.slot (shape.outer outer) v)

/-- What a value is written as in a field. -/
def Field.write (s : Style) (outer : Nat) (f : Field Shape) (v : Value) : Except Fault Json :=
  f.shape.write s outer v

theorem Field.Separate.find?_name {σ : Type} {fields : List (Field σ)} (hsep : Separate fields)
    {f : Field σ} (hf : f ∈ fields) : Field.find? fields f.name = some f := by
  have hsome : (Field.find? fields f.name).isSome = true :=
    List.find?_isSome.mpr ⟨f, hf, beq_self_eq_true f.name⟩
  obtain ⟨g, hg⟩ := Option.isSome_iff_exists.mp hsome
  have hname : g.name = f.name := by simpa using List.find?_some hg
  simp only [hg, hsep.eq_of_name (List.mem_of_find?_eq_some hg) hf hname]

/-- Attributes that stand in the order of fields are written field by field. -/
theorem dumpFields_eq_mapM {fields : List (Field Shape)} (hsep : Field.Separate fields)
    (s : Style) (outer : Nat) {fs : List (Field Shape)} (hfs : ∀ f ∈ fs, f ∈ fields)
    (val : Field Shape → Value) :
    dumpFields s outer fields (fs.map fun f => (f.name, val f)) =
      fs.mapM fun f => (f.write s outer (val f)).map fun j => (f.wire, j) := by
  induction fs with
  | nil =>
    simp only [List.map_nil, List.mapM_nil, dumpFields]
    rfl
  | cons f rest ih =>
    rw [List.map_cons, List.mapM_cons, dumpFields, hsep.find?_name (hfs f (List.mem_cons_self ..)),
      ← ih fun g hg => hfs g (List.mem_cons_of_mem _ hg)]
    simp only []
    rw [← Shape.write, ← Field.write]
    cases f.write s outer (val f) with
    | error e => rfl
    | ok j => rfl

/-- The entries of attributes are what each of the fields writes. -/
theorem dumpFields_ok_iff {fields : List (Field Shape)} (hsep : Field.Separate fields)
    {s : Style} {outer : Nat} {val : Field Shape → Value} {entries : List (String × Json)} :
    dumpFields s outer fields (fields.map fun f => (f.name, val f)) = .ok entries ↔
      ∃ out : Field Shape → Json, (∀ f ∈ fields, f.write s outer (val f) = .ok (out f)) ∧
        entries = fields.map fun f => (f.wire, out f) := by
  simp only [dumpFields_eq_mapM hsep s outer fun _ hf => hf, Outcome.mapM_ok_iff,
    Outcome.map_named_ok_iff]

/-! ## Entries of crops -/

/-- The keys that a document has for a crop: its tag, then what its variant carries. -/
def Value.cropKeys : Value → List String
  | .record (.part (.crop variant)) attributes =>
      "crop_mode" :: (variant.wires.filter fun w => (attributes.lookup w.1).isSome).map (·.2)
  | _ => []

/-- A crop that has all its attributes has all the keys of its variant. -/
theorem Value.cropKeys_complete {variant : CropVariant} {attributes : List (String × Value)}
    (h : ∀ w ∈ variant.wires, (attributes.lookup w.1).isSome) :
    (Value.record (.part (.crop variant)) attributes).cropKeys =
      "crop_mode" :: variant.wires.map (·.2) := by
  simp only [cropKeys, List.filter_eq_self.mpr h]

/-- What holds of the keys of all variants holds of the keys of a crop. -/
theorem Value.forall_cropKeys {P : String → Prop} (hmode : P "crop_mode")
    (hwires : ∀ variant : CropVariant, ∀ w ∈ variant.wires, P w.2) (crop : Value) :
    ∀ key ∈ crop.cropKeys, P key := by
  unfold cropKeys
  split
  · rename_i variant attributes
    refine List.forall_mem_cons.mpr ⟨hmode, List.forall_mem_map.mpr fun w hw => ?_⟩
    exact hwires variant w (List.mem_of_mem_filter hw)
  · exact List.forall_mem_nil _

theorem dumpEntries_keys {s : Style} {outer : Nat} {attributes : List (String × Value)}
    {entries : List (String × Json)} (h : dumpEntries s outer attributes = .ok entries) :
    entries.map (·.1) = attributes.map (·.1) := by
  induction attributes generalizing entries with
  | nil =>
    simp only [dumpEntries] at h
    cases h
    rfl
  | cons a rest ih =>
    simp only [dumpEntries] at h
    obtain ⟨first, _, h⟩ := Outcome.bind_eq_ok h
    obtain ⟨more, hmore, h⟩ := Outcome.bind_eq_ok h
    cases h
    simp only [List.map_cons, ih hmore]

/-- Whether a key is there depends on the keys alone. -/
theorem isSome_lookup_iff {α : Type} {key : String} {entries : List (String × α)} :
    (entries.lookup key).isSome = true ↔ key ∈ entries.map (·.1) := by
  simp only [List.lookup_isSome_iff, List.mem_map]
  exact exists_congr fun e => and_congr_right fun _ => by rw [beq_iff_eq, eq_comm]

theorem arrange_keys {α : Type} (variant : CropVariant) (attributes : List (String × α)) :
    (variant.arrange attributes).map (·.1) =
      (variant.wires.filter fun w => (attributes.lookup w.1).isSome).map (·.2) := by
  unfold CropVariant.arrange
  induction variant.wires with
  | nil => rfl
  | cons w rest ih =>
    cases hw : attributes.lookup w.1 with
    | none => simp [hw, ih]
    | some a => simp [hw, ih]

/-- What has the entries of a crop is an instance of a variant, and the first of them is its
    number. -/
theorem flatten_eq_ok {outer : Nat} {crop : Value} {entries : List (String × Json)}
    (h : flatten outer crop = .ok entries) : ∃ variant attributes written,
      crop = .record (.part (.crop variant)) attributes ∧
      dumpEntries .settings outer attributes = .ok written ∧
      entries = ("crop_mode", .int variant.tag) :: variant.arrange written := by
  cases crop with
  | record m attributes => cases m with
    | part p => cases p with
      | crop variant =>
        simp only [flatten] at h
        obtain ⟨written, hwritten, rfl⟩ := Outcome.map_eq_ok h
        exact ⟨variant, attributes, written, rfl, hwritten, rfl⟩
      | _ => cases h
    | _ => cases h
  | _ => cases h

/-- A crop is written under its own keys. -/
theorem flatten_keys {outer : Nat} {crop : Value} {entries : List (String × Json)}
    (h : flatten outer crop = .ok entries) : entries.map (·.1) = crop.cropKeys := by
  obtain ⟨variant, attributes, written, rfl, hwritten, rfl⟩ := flatten_eq_ok h
  have hsome : ∀ w : String × String,
      (written.lookup w.1).isSome = (attributes.lookup w.1).isSome := by
    intro w
    rw [Bool.eq_iff_iff, isSome_lookup_iff, isSome_lookup_iff, dumpEntries_keys hwritten]
  simp only [List.map_cons, arrange_keys]
  simp only [hsome]
  rfl

/-! ## Documents by segments -/

theorem finiteEntries_eq_map (entries : List (String × Json)) :
    Json.finiteEntries entries = entries.map fun e => (e.1, e.2.finite) := by
  induction entries with
  | nil => rfl
  | cons e rest ih => simp only [Json.finiteEntries, ih, List.map_cons]

theorem finiteEntries_append (es fs : List (String × Json)) :
    Json.finiteEntries (es ++ fs) = Json.finiteEntries es ++ Json.finiteEntries fs := by
  simp only [finiteEntries_eq_map, List.map_append]

theorem depthOfEntries_append (es fs : List (String × Json)) :
    Json.depthOfEntries (es ++ fs) = max (Json.depthOfEntries es) (Json.depthOfEntries fs) := by
  induction es with
  | nil => exact (Nat.zero_max _).symm
  | cons e rest ih =>
    simp only [List.cons_append, Json.depthOfEntries, ih, Nat.max_assoc]

/-- What a field adds to the document of a payload. In a display capture the entries are
    those that the encoder of crops gives, so they are checked once more. -/
def Kind.segment (k : Kind) (f : Field Shape) (v : Value) : Except Fault (List (String × Json)) :=
  (f.write .settings 0 v).bind fun j =>
    if k = .displayCapture then
      (if f.shape = .crop then flatten 0 v else .ok [(f.wire, j)]).bind fun entries =>
        if depthLimit < Json.depthOfEntries entries then .error .tooDeep
        else .ok (Json.finiteEntries entries)
    else .ok [(f.wire, j)]

theorem segment_ok_iff {k : Kind} (hk : k ≠ .displayCapture) {f : Field Shape} {v : Value}
    {segment : List (String × Json)} :
    k.segment f v = .ok segment ↔ ∃ j, f.write .settings 0 v = .ok j ∧ segment = [(f.wire, j)] := by
  unfold Kind.segment
  simp only [Outcome.bind_ok_iff]
  refine exists_congr fun j => and_congr_right fun _ => ?_
  simp only [if_neg hk, Except.ok.injEq, eq_comm]

theorem segment_displayCapture_ok_iff {f : Field Shape} {v : Value}
    {segment : List (String × Json)} :
    Kind.displayCapture.segment f v = .ok segment ↔ ∃ j entries, f.write .settings 0 v = .ok j ∧
      (if f.shape = .crop then flatten 0 v else .ok [(f.wire, j)]) = .ok entries ∧
      Json.depthOfEntries entries ≤ depthLimit ∧ segment = Json.finiteEntries entries := by
  unfold Kind.segment
  rw [Outcome.bind_ok_iff]
  refine exists_congr fun j => ?_
  rw [if_pos rfl, Outcome.bind_ok_iff, ← exists_and_left]
  refine exists_congr fun entries => and_congr_right fun _ => and_congr_right fun _ => ?_
  by_cases hdepth : depthLimit < Json.depthOfEntries entries
  · simp only [if_pos hdepth]
    exact ⟨fun h => (nomatch h), fun h => absurd hdepth (Nat.not_lt.mpr h.1)⟩
  · simp only [if_neg hdepth, Except.ok.injEq, and_iff_right (Nat.le_of_not_lt hdepth), eq_comm]

/-- The fields of payloads have defaults and do not get in each other's way. -/
theorem defaulted_fields (k : Kind) : Field.Defaulted k.fields where
  names := by cases k <;> decide
  keys := by cases k <;> decide
  defaults := by cases k <;> decide

theorem separate_fields (k : Kind) : Field.Separate k.fields := (defaulted_fields k).toSeparate

/-- The field that holds the crop of a display capture. -/
def cropField : Field Shape :=
  { name := "crop_mode", shape := .crop, default? := some (Part.crop .none).default }

theorem mem_displayCapture_fields {f : Field Shape} :
    f ∈ Kind.displayCapture.fields ↔
      f = .count "display" 0 ∨ f = .flag "show_cursor" true ∨ f = cropField := by
  have hfields : Kind.displayCapture.fields =
      [.count "display" 0, .flag "show_cursor" true, cropField] := rfl
  rw [hfields, List.mem_cons, List.mem_cons, List.mem_singleton]

/-- A display capture has a document exactly if each of its fields can be written, its crop
    has entries, and none of it is too deep. -/
theorem document_displayCapture_ok_iff {val : Field Shape → Value} {j : Json} :
    document (.record (.payload .displayCapture)
        (Kind.displayCapture.fields.map fun f => (f.name, val f))) = .ok j ↔
      ∃ (out : Field Shape → Json) (crop : List (String × Json)),
        (∀ f ∈ Kind.displayCapture.fields, f.write .settings 0 (val f) = .ok (out f)) ∧
        flatten 0 (val cropField) = .ok crop ∧
        Json.depthOfEntries ([("display", out (.count "display" 0)),
          ("show_cursor", out (.flag "show_cursor" true))] ++ crop) ≤ depthLimit ∧
        j = .object (Json.finiteEntries ([("display", out (.count "display" 0)),
          ("show_cursor", out (.flag "show_cursor" true))] ++ crop)) := by
  have hcrop : dumpCrop 0 (Kind.displayCapture.fields.map fun f => (f.name, val f)) =
      flatten 0 (val cropField) := rfl
  simp only [document_displayCapture, hcrop]
  constructor
  · intro h
    split at h
    · rename_i entries crop hentries hflatten
      obtain ⟨out, hout, rfl⟩ := (dumpFields_ok_iff (separate_fields _)).mp hentries
      refine ⟨out, crop, hout, hflatten, ?_⟩
      unfold Style.entries at h
      split at h
      · cases h
      · rename_i hdepth
        simp only [Nat.zero_add] at hdepth
        exact ⟨Nat.le_of_not_lt hdepth, (Except.ok.inj h).symm⟩
    · cases h
    · cases h
  · rintro ⟨out, crop, hout, hflatten, hdepth, rfl⟩
    simp only [(dumpFields_ok_iff (separate_fields _)).mpr ⟨out, hout, rfl⟩, hflatten]
    refine if_neg (Nat.not_lt.mpr ?_)
    simp only [Nat.zero_add]
    exact hdepth

/-- A display capture has the document that its fields' entries make. -/
theorem document_displayCapture_segments {val : Field Shape → Value} {j : Json} :
    document (.record (.payload .displayCapture)
        (Kind.displayCapture.fields.map fun f => (f.name, val f))) = .ok j ↔
      ∃ segment : Field Shape → List (String × Json),
        (∀ f ∈ Kind.displayCapture.fields,
          Kind.displayCapture.segment f (val f) = .ok (segment f)) ∧
        j = .object (Kind.displayCapture.fields.flatMap segment) := by
  simp only [document_displayCapture_ok_iff]
  constructor
  · rintro ⟨out, crop, hout, hflatten, hdepth, rfl⟩
    simp only [depthOfEntries_append] at hdepth
    obtain ⟨hothers, hcrop⟩ := Nat.max_le.mp hdepth
    obtain ⟨hdisplay, hcursor⟩ := Nat.max_le.mp hothers
    refine ⟨fun f => Json.finiteEntries (if f.shape = .crop then crop else [(f.wire, out f)]),
      fun f hf => segment_displayCapture_ok_iff.mpr ⟨out f, _, hout f hf, ?_, ?_, rfl⟩, ?_⟩
    · rcases mem_displayCapture_fields.mp hf with rfl | rfl | rfl
      · rfl
      · rfl
      · exact hflatten
    · rcases mem_displayCapture_fields.mp hf with rfl | rfl | rfl
      · exact Nat.max_le.mpr ⟨hdisplay, Nat.zero_le _⟩
      · exact hcursor
      · exact hcrop
    · rw [finiteEntries_append, ← List.append_nil (Json.finiteEntries crop)]
      rfl
  · rintro ⟨segment, hsegment, rfl⟩
    have hparts := fun f hf => segment_displayCapture_ok_iff.mp (hsegment f hf)
    obtain ⟨d, _, hd, ⟨⟩, hdisplay, hsd⟩ := hparts _ (mem_displayCapture_fields.mpr (.inl rfl))
    obtain ⟨c, _, hc, ⟨⟩, hcursor, hsc⟩ :=
      hparts _ (mem_displayCapture_fields.mpr (.inr (.inl rfl)))
    obtain ⟨_, crop, _, hflatten, hcrop, hs⟩ :=
      hparts _ (mem_displayCapture_fields.mpr (.inr (.inr rfl)))
    choose! out entries hout _ _ _ using hparts
    have hod : out (.count "display" 0) = d :=
      Except.ok.inj ((hout _ (mem_displayCapture_fields.mpr (.inl rfl))).symm.trans hd)
    have hoc : out (.flag "show_cursor" true) = c :=
      Except.ok.inj ((hout _ (mem_displayCapture_fields.mpr (.inr (.inl rfl)))).symm.trans hc)
    refine ⟨out, crop, hout, hflatten, ?_, ?_⟩
    · simp only [depthOfEntries_append, hod, hoc]
      refine Nat.max_le.mpr ⟨Nat.max_le.mpr ⟨?_, hcursor⟩, hcrop⟩
      exact (Nat.max_le.mp hdisplay).1
    · rw [hod, hoc, finiteEntries_append, ← hs, ← List.append_nil (segment cropField)]
      change Json.object (segment (.count "display" 0) ++
        (segment (.flag "show_cursor" true) ++ (segment cropField ++ []))) = _
      simp only [hsd, hsc]
      rfl

/-- Any other payload has the document that its fields' entries make. -/
theorem document_payload_segments {k : Kind} (hk : k ≠ .displayCapture) {val : Field Shape → Value}
    {j : Json} :
    document (.record (.payload k) (k.fields.map fun f => (f.name, val f))) = .ok j ↔
      ∃ segment : Field Shape → List (String × Json),
        (∀ f ∈ k.fields, k.segment f (val f) = .ok (segment f)) ∧
        j = .object (k.fields.flatMap segment) := by
  simp only [document_payload hk]
  constructor
  · intro h
    obtain ⟨entries, hentries, rfl⟩ := Outcome.map_eq_ok h
    obtain ⟨out, hout, rfl⟩ := (dumpFields_ok_iff (separate_fields k)).mp hentries
    refine ⟨fun f => [(f.wire, out f)], fun f hf => ?_, ?_⟩
    · exact (segment_ok_iff hk).mpr ⟨out f, hout f hf, rfl⟩
    · simp only [List.map_eq_flatMap]
  · rintro ⟨segment, hsegment, rfl⟩
    have hout : ∀ f ∈ k.fields, ∃ j, f.write .settings 0 (val f) = .ok j ∧
        segment f = [(f.wire, j)] := fun f hf => (segment_ok_iff hk).mp (hsegment f hf)
    choose! out hwrite hout using hout
    rw [(dumpFields_ok_iff (separate_fields k)).mpr ⟨out, hwrite, rfl⟩, List.map_eq_flatMap,
      List.flatMap_congr hout]
    rfl

/-- A payload has a document exactly if each of its fields has its segment, and then the
    segments are the document. -/
theorem document_ok_iff {k : Kind} {val : Field Shape → Value} {j : Json} :
    document (.record (.payload k) (k.fields.map fun f => (f.name, val f))) = .ok j ↔
      ∃ segment : Field Shape → List (String × Json),
        (∀ f ∈ k.fields, k.segment f (val f) = .ok (segment f)) ∧
        j = .object (k.fields.flatMap segment) := by
  by_cases hk : k = .displayCapture
  · subst hk
    exact document_displayCapture_segments
  · exact document_payload_segments hk

/-! ## Keys of documents -/

/-- The keys that a payload of a kind has for its fields. -/
def Kind.wires (k : Kind) : List String := (k.fields.filter (·.shape ≠ .crop)).map (·.wire)

/-- Whether a key of a document belongs to a field. In a display capture, what is no other
    field's belongs to the crop. -/
def Field.Carries (f : Field Shape) (key : String) : Prop :=
  if f.shape = .crop then key ∉ Kind.displayCapture.wires else key = f.wire

theorem shape_ne_crop {k : Kind} (hk : k ≠ .displayCapture) : ∀ f ∈ k.fields, f.shape ≠ .crop := by
  cases k with
  | displayCapture => exact absurd rfl hk
  | _ => decide

theorem eq_cropField {k : Kind} {f : Field Shape} (hf : f ∈ k.fields) (hshape : f.shape = .crop) :
    k = .displayCapture ∧ f = cropField := by
  by_cases hk : k = .displayCapture
  · subst hk
    refine ⟨rfl, ?_⟩
    rcases mem_displayCapture_fields.mp hf with rfl | rfl | rfl
    · cases hshape
    · cases hshape
    · rfl
  · exact absurd hshape (shape_ne_crop hk f hf)

theorem wire_mem_wires {k : Kind} {f : Field Shape} (hf : f ∈ k.fields) (hshape : f.shape ≠ .crop) :
    f.wire ∈ k.wires :=
  List.mem_map_of_mem (List.mem_filter.mpr ⟨hf, decide_eq_true hshape⟩)

/-- No key of a crop is the name of another entry of a display capture. -/
theorem cropKeys_apart {crop : Value} {key : String} (hkey : key ∈ crop.cropKeys) :
    key ∉ Kind.displayCapture.wires := by
  have hwires : ∀ variant : CropVariant, ∀ w ∈ variant.wires, w.2 ∉ Kind.displayCapture.wires := by
    intro variant
    cases variant <;> decide
  have hmode : "crop_mode" ∉ Kind.displayCapture.wires := by decide
  exact Value.forall_cropKeys (P := (· ∉ Kind.displayCapture.wires)) hmode hwires crop key hkey

theorem segment_keys {k : Kind} {f : Field Shape} (hf : f ∈ k.fields) {v : Value}
    {segment : List (String × Json)} (h : k.segment f v = .ok segment) :
    segment.map (·.1) = if f.shape = .crop then v.cropKeys else [f.wire] := by
  by_cases hk : k = .displayCapture
  · subst hk
    obtain ⟨j, entries, _, hentries, _, rfl⟩ := segment_displayCapture_ok_iff.mp h
    have hkeys : (Json.finiteEntries entries).map (·.1) = entries.map (·.1) := by
      simp only [finiteEntries_eq_map, List.map_map]
      rfl
    simp only [hkeys]
    by_cases hshape : f.shape = .crop
    · simp only [if_pos hshape] at hentries ⊢
      exact flatten_keys hentries
    · simp only [if_neg hshape] at hentries ⊢
      simp only [← Except.ok.inj hentries]
      rfl
  · obtain ⟨j, _, rfl⟩ := (segment_ok_iff hk).mp h
    simp only [if_neg (shape_ne_crop hk f hf)]
    rfl

theorem lookup_flatMap {α β : Type} {key : String} {segment : α → List (String × β)} {as : List α}
    {a : α} (ha : a ∈ as) (h : ∀ b ∈ as, b ≠ a → (segment b).lookup key = none) :
    (as.flatMap segment).lookup key = (segment a).lookup key := by
  have hnone : ∀ bs : List α, (∀ b ∈ bs, b ∈ as) → ∀ v,
      (bs.flatMap segment).lookup key = some v → (segment a).lookup key = some v := by
    intro bs hbs v hv
    induction bs with
    | nil => cases hv
    | cons b rest ih =>
      simp only [List.flatMap_cons, List.lookup_append, Option.or_eq_some_iff] at hv
      rcases hv with hv | ⟨_, hv⟩
      · by_cases hb : b = a
        · simp only [← hb, hv]
        · simp only [h b (hbs b (List.mem_cons_self ..)) hb] at hv
          cases hv
      · exact ih (fun c hc => hbs c (List.mem_cons_of_mem _ hc)) hv
  refine Option.ext fun v => ⟨hnone as (fun _ hb => hb) v, fun hv => ?_⟩
  have hsome : ((as.flatMap segment).lookup key).isSome = true := by
    simp only [isSome_lookup_iff, List.map_flatMap, List.mem_flatMap]
    exact ⟨a, ha, isSome_lookup_iff.mp (hv ▸ rfl)⟩
  obtain ⟨w, hw⟩ := Option.isSome_iff_exists.mp hsome
  simp only [hw, ← hv, hnone as (fun _ hb => hb) w hw]

theorem nodup_wires (k : Kind) : (k.fields.map (·.wire)).Nodup := by
  cases k <;> decide

/-- What a document has under a key is what the segment of the field of the key has there. -/
theorem lookup_segments {k : Kind} {val : Field Shape → Value}
    {segment : Field Shape → List (String × Json)}
    (hsegment : ∀ f ∈ k.fields, k.segment f (val f) = .ok (segment f)) {f : Field Shape}
    (hf : f ∈ k.fields) {key : String} (hkey : f.Carries key) :
    (k.fields.flatMap segment).lookup key = (segment f).lookup key := by
  refine lookup_flatMap hf fun g hg hne => ?_
  by_contra hsome
  have hmem : key ∈ (segment g).map (·.1) :=
    isSome_lookup_iff.mp (Option.isSome_iff_ne_none.mpr hsome)
  simp only [segment_keys hg (hsegment g hg)] at hmem
  unfold Field.Carries at hkey
  by_cases hfcrop : f.shape = .crop
  · obtain ⟨rfl, rfl⟩ := eq_cropField hf hfcrop
    have hgcrop : g.shape ≠ .crop := fun h => hne (eq_cropField hg h).2
    simp only [if_neg hgcrop, List.mem_singleton] at hmem
    exact hkey (hmem ▸ wire_mem_wires hg hgcrop)
  · simp only [if_neg hfcrop] at hkey
    by_cases hgcrop : g.shape = .crop
    · obtain ⟨rfl, rfl⟩ := eq_cropField hg hgcrop
      simp only [if_pos hgcrop, hkey] at hmem
      exact cropKeys_apart hmem (wire_mem_wires hf hfcrop)
    · simp only [if_neg hgcrop, hkey, List.mem_singleton] at hmem
      exact hne (List.inj_on_of_nodup_map (nodup_wires k) hg hf hmem.symm)

/-- The keys that a payload has for its crop, if it has one. -/
def Value.cropKeysWithin (payload : Value) : List String :=
  ((payload.attribute? "crop_mode").map Value.cropKeys).getD []

theorem cropKeysWithin_payload (k : Kind) (val : Field Shape → Value) :
    (Value.record (.payload k) (k.fields.map fun f => (f.name, val f))).cropKeysWithin =
      if k = .displayCapture then (val cropField).cropKeys else [] := by
  unfold Value.cropKeysWithin
  by_cases hk : k = .displayCapture
  · subst hk
    rfl
  · have hnames : ∀ f ∈ k.fields, f.name ≠ "crop_mode" := by
      cases k with
      | displayCapture => exact absurd rfl hk
      | _ => decide
    have hnone : (k.fields.map fun f => (f.name, val f)).lookup "crop_mode" = none := by
      simp only [List.lookup_eq_none_iff, List.forall_mem_map]
      exact fun f hf => by simpa using (hnames f hf).symm
    simp only [Value.attribute?, hnone, if_neg hk]
    rfl

/-- The keys of a document are the names of its fields in their order, and those of the crop
    behind them. -/
theorem keys_segments {k : Kind} {val : Field Shape → Value}
    {segment : Field Shape → List (String × Json)}
    (hsegment : ∀ f ∈ k.fields, k.segment f (val f) = .ok (segment f)) :
    (k.fields.flatMap segment).map (·.1) = k.wires ++
      (Value.record (.payload k) (k.fields.map fun f => (f.name, val f))).cropKeysWithin := by
  simp only [List.map_flatMap, List.flatMap_congr fun f hf => segment_keys hf (hsegment f hf),
    cropKeysWithin_payload]
  by_cases hk : k = .displayCapture
  · subst hk
    rw [if_pos rfl, ← List.append_nil (val cropField).cropKeys]
    rfl
  · have hfilter : k.fields.filter (·.shape ≠ .crop) = k.fields :=
      List.filter_eq_self.mpr fun f hf => decide_eq_true (shape_ne_crop hk f hf)
    simp only [if_neg hk, List.append_nil, Kind.wires, hfilter, List.map_eq_flatMap]
    exact List.flatMap_congr fun f hf => if_neg (shape_ne_crop hk f hf)

end SceneSource
