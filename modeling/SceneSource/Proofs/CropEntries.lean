-- SUMMARY: A display capture carries its crop beside its own entries, without loss or collision.
import SceneSource.Proofs.WireTypes

/-!
# Crops among the entries of a display capture

The document of a display capture has no object for the crop: the attributes of the crop stand
beside the display and the cursor, under keys that depend on the variant. No key stands for two
things and no attribute is lost, so documents are equal only if the display captures are. Only
doubles that are not finite are lost, since nothing stands in their place.
-/

namespace SceneSource

/-! ## Equal mappings -/

namespace Value

theorem agrees_int {m n : Int} : (int m).agrees (int n) = true ↔ m = n := by
  simp [agrees, agreeAtoms, number?, int?, Number.same, Number.equal]

theorem agreeEntries_iff {es fs : List (String × Value)} :
    agreeEntries es fs = true ↔
      ∀ e ∈ es, ∃ w, fs.lookup e.1 = some w ∧ e.2.agrees w = true := by
  induction es with
  | nil => simp only [agreeEntries, List.not_mem_nil, false_implies, implies_true]
  | cons e es ih =>
    obtain ⟨k, v⟩ := e
    rw [agreeEntries, List.forall_mem_cons]
    cases fs.lookup k with
    | none => simp
    | some w => simp [ih]

/-- An entry of a mapping is equal to what the other one has under its key. -/
theorem agreeEntries_cons {k : String} {v w : Value} {es fs : List (String × Value)}
    (hk : fs.lookup k = some w) : agreeEntries ((k, v) :: es) fs = true ↔
      v.agrees w = true ∧ agreeEntries es fs = true := by
  rw [agreeEntries]
  simp only [hk, Bool.and_eq_true]

theorem equal_mapping {es fs : List (String × Value)} :
    (mapping es).equal (mapping fs) = true ↔
      es.length = fs.length ∧ agreeEntries es fs = true := by
  simp only [equal, agrees, Bool.and_eq_true, beq_iff_eq]

end Value

/-! ## The keys of crops -/

namespace CropVariant

/-- What a variant carries behind its number: attributes, each with the key that stands for it. -/
def carries : CropVariant → List (String × String)
  | none => []
  | manual => [("left", "manual.origin.x"), ("top", "manual.origin.y"),
      ("right", "manual.size.width"), ("bottom", "manual.size.height")]
  | toWindow => [("owner_name", "owner_name"), ("window_name", "window_name"),
      ("window", "window"), ("show_empty_names", "show_empty_names")]
  | toWindowAndManual => [("owner_name", "owner_name"), ("window_name", "window_name"),
      ("window", "window"), ("show_empty_names", "show_empty_names"),
      ("left", "window.origin.x"), ("top", "window.origin.y"),
      ("right", "window.size.width"), ("bottom", "window.size.height")]

theorem ofTag?_tag (variant : CropVariant) : ofTag? (.int variant.tag) = some variant := by
  have hequal : ∀ m n : Int, (Value.int m).equal (.int n) = decide (m = n) := fun m n => by
    rw [Bool.eq_iff_iff, decide_eq_true_iff]
    exact Value.agrees_int
  simp only [ofTag?, hequal]
  cases variant <;> rfl

theorem wires_eq_carries (variant : CropVariant) : variant.wires = variant.carries := by
  cases variant <;> rfl

theorem nodup_carries (variant : CropVariant) :
    ("display" :: "show_cursor" :: "crop_mode" :: variant.carries.map (·.2)).Nodup := by
  cases variant <;> decide

/-- Only a manual crop has keys of its own rectangle, and only one that refines a window has a
    rectangle among the keys of the window. -/
theorem prefix_carries (variant : CropVariant) : ∀ w ∈ variant.carries,
    ("manual.".toList <+: w.2.toList → variant.tag = 1) ∧
      ("window.".toList <+: w.2.toList → variant.tag = 3) := by
  cases variant <;> decide

/-- A variant carries all its fields but its tag. -/
theorem tag_or_carries (variant : CropVariant) : ∀ f ∈ (Part.crop variant).fields,
    f.name = "mode" ∧ f.shape = .tag variant ∨ ∃ w ∈ variant.carries, f.name = w.1 := by
  cases variant <;> decide

theorem exists_mode (variant : CropVariant) : ∃ f ∈ (Part.crop variant).fields,
    f.name = "mode" ∧ f.shape = .tag variant := by
  cases variant <;> decide

theorem exists_field (variant : CropVariant) : ∀ w ∈ variant.carries,
    ∃ f ∈ (Part.crop variant).fields, f.name = w.1 := by
  cases variant <;> decide

section Arrange

variable {α β : Type} (variant : CropVariant) (attributes : List (String × α))

theorem arrange_map (g : α → β) :
    variant.arrange (attributes.map fun e => (e.1, g e.2)) =
      (variant.arrange attributes).map fun e => (e.1, g e.2) := by
  have hlookup : ∀ name, (attributes.map fun e => (e.1, g e.2)).lookup name =
      (attributes.lookup name).map g := by
    intro name
    induction attributes with
    | nil => rfl
    | cons e rest ih =>
      obtain ⟨k, a⟩ := e
      simp only [List.map_cons, List.lookup_cons, ih]
      cases name == k <;> rfl
  simp only [arrange, hlookup, List.map_filterMap, Option.map_map]
  rfl

theorem mem_arrange {e : String × α} : e ∈ variant.arrange attributes ↔
    ∃ name, (name, e.1) ∈ variant.carries ∧ attributes.lookup name = some e.2 := by
  simp only [arrange, wires_eq_carries, List.mem_filterMap, Option.map_eq_some_iff]
  constructor
  · rintro ⟨⟨name, key⟩, hw, a, ha, rfl⟩
    exact ⟨name, hw, ha⟩
  · rintro ⟨name, hw, ha⟩
    exact ⟨(name, e.1), hw, e.2, ha, rfl⟩

/-- What stands under a key is the attribute that the key stands for. -/
theorem lookup_arrange {name key : String} (hw : (name, key) ∈ variant.carries) :
    (variant.arrange attributes).lookup key = attributes.lookup name := by
  have hflat : variant.arrange attributes = variant.carries.flatMap fun w =>
      ((attributes.lookup w.1).map fun a => (w.2, a)).toList := by
    rw [arrange, wires_eq_carries, List.filterMap_eq_flatMap_toList]
  have hnodup : (variant.carries.map (·.2)).Nodup := (List.nodup_cons.mp
    (List.nodup_cons.mp (List.nodup_cons.mp variant.nodup_carries).2).2).2
  rw [hflat, lookup_flatMap hw]
  · cases attributes.lookup name with
    | none => rfl
    | some a => simp
  · intro w hw' hne
    have hkey : key ≠ w.2 := fun heq => hne (List.inj_on_of_nodup_map hnodup hw' hw heq.symm)
    cases attributes.lookup w.1 with
    | none => rfl
    | some a => simp [hkey]

end Arrange

end CropVariant

/-! ## Display captures -/

/-- A crop with some attributes. -/
def cropOf (variant : CropVariant) (attributes : List (String × Value)) : Value :=
  (Part.crop variant).record attributes

/-- A display capture with some values. -/
def captureOf (display : Int) (cursor : Bool) (crop : Value) : Value :=
  .record (.payload .displayCapture)
    [("display", .int display), ("show_cursor", .bool cursor), ("crop_mode", crop)]

namespace CropVariant

variable {w v : Value}

theorem checkTagged_eq_ok {tag : Value} (h : checkTagged tag w = .ok v) :
    ∃ variant, (Part.crop variant).check w = .ok v := by
  unfold checkTagged at h
  split at h
  · exact ⟨_, Outcome.mapError_eq_ok h⟩
  · cases h

theorem check_eq_ok (h : check w = .ok v) : ∃ variant, (Part.crop variant).check w = .ok v := by
  unfold check at h
  split at h
  · split at h
    · exact checkTagged_eq_ok h
    · cases h
  · split at h
    · exact checkTagged_eq_ok h
    · cases h
  all_goals cases h

/-- What a field for a crop stores is an instance of a variant. -/
theorem exists_cropOf (h : check w = .ok v) :
    ∃ variant attributes, v = cropOf variant attributes := by
  obtain ⟨variant, h⟩ := check_eq_ok h
  rcases Part.check_eq_ok h with ⟨entries, hread⟩ | ⟨attributes, hv⟩
  · obtain ⟨val, _, hv⟩ := Part.eq_record_of_read hread
    exact ⟨variant, _, hv⟩
  · exact ⟨variant, attributes, hv⟩

/-- A crop that was not given as an instance is read. -/
theorem isRead_of_check (h : check w = .ok v) (hw : ∀ m attributes, w ≠ .record m attributes) :
    v.IsRead := by
  obtain ⟨variant, h⟩ := check_eq_ok h
  unfold Part.check at h
  split at h
  · exact absurd rfl (hw _ _)
  · obtain ⟨val, _, rfl⟩ := Part.eq_record_of_read h
    exact ⟨_, h⟩
  · cases h

end CropVariant

section Capture

variable {entries : List (String × Value)} {d : Value}
  (hread : (Model.payload .displayCapture).read entries = .ok d)
include hread

/-- A display capture that was read holds a display, a truth value and a crop, which was read
    unless it was given as an instance. -/
theorem exists_captureOf : ∃ display cursor variant attributes,
    d = captureOf display cursor (cropOf variant attributes) ∧
    ((∀ e ∈ entries, e.1 = "crop_mode" → ∀ m attributes, e.2 ≠ .record m attributes) →
      (cropOf variant attributes).IsRead) := by
  obtain ⟨val, hval, rfl⟩ := eq_record_of_read hread
  have hdisplay := mem_displayCapture_fields.mpr (.inl rfl)
  have hcursor := mem_displayCapture_fields.mpr (.inr (.inl rfl))
  have hcrop := mem_displayCapture_fields.mpr (.inr (.inr rfl))
  have hinteger : ∃ n, val (.count "display" 0) = .int n := by
    have hstores := Kind.stores_of_read hdisplay (hval _ hdisplay) (l := .integer) rfl
    cases hv : val (.count "display" 0) with
    | int n => exact ⟨n, rfl⟩
    | _ => simp [hv, Leaf.stores] at hstores
  have hboolean : ∃ b, val (.flag "show_cursor" true) = .bool b := by
    have hstores := Kind.stores_of_read hcursor (hval _ hcursor) (l := .boolean) rfl
    cases hv : val (.flag "show_cursor" true) with
    | bool b => exact ⟨b, rfl⟩
    | _ => simp [hv, Leaf.stores] at hstores
  have hvariant : ∃ variant attributes, val cropField = cropOf variant attributes ∧
      ((∀ e ∈ entries, e.1 = "crop_mode" → ∀ m attributes, e.2 ≠ .record m attributes) →
        (val cropField).IsRead) := by
    have hfield := hval _ hcrop
    unfold Field.read at hfield
    split at hfield
    · rename_i key w hgiven
      have hcheck := Outcome.mapError_eq_ok hfield
      obtain ⟨variant, attributes, hv⟩ := CropVariant.exists_cropOf hcheck
      refine ⟨variant, attributes, hv, fun hinstance => CropVariant.isRead_of_check hcheck ?_⟩
      obtain ⟨hmem, hkey⟩ := Field.given?_eq_some hgiven
      exact hinstance _ hmem (List.mem_singleton.mp hkey)
    · have hdefault := Except.ok.inj hfield
      exact ⟨.none, _, hdefault.symm, fun _ => hdefault ▸ ⟨[], rfl⟩⟩
  obtain ⟨display, hn⟩ := hinteger
  obtain ⟨cursor, hb⟩ := hboolean
  obtain ⟨variant, attributes, hc, hinstance⟩ := hvariant
  refine ⟨display, cursor, variant, attributes, ?_, fun h => hc ▸ hinstance h⟩
  rw [captureOf, ← hn, ← hb, ← hc]
  rfl

end Capture

/-- The document of a display capture: what its crop can be written as goes behind the other
    two values. -/
theorem document_captureOf {display : Int} {cursor : Bool} {crop : Value} {j : Json} :
    document (captureOf display cursor crop) = .ok j ↔
      (∃ whole, cropField.write .settings 0 crop = .ok whole) ∧
      ∃ entries, flatten 0 crop = .ok entries ∧ Json.depthOfEntries entries ≤ depthLimit ∧
        j = .object (("display", .int display) :: ("show_cursor", .bool cursor) ::
          Json.finiteEntries entries) := by
  let val : Field Shape → Value := fun f =>
    if f.name = "display" then .int display
    else if f.name = "show_cursor" then .bool cursor
    else crop
  have hcapture : captureOf display cursor crop =
      .record (.payload .displayCapture)
        (Kind.displayCapture.fields.map fun f => (f.name, val f)) := rfl
  rw [hcapture, document_displayCapture_ok_iff]
  constructor
  · rintro ⟨out, entries, hout, hflatten, hdepth, rfl⟩
    have hdisplay : Json.int display = out (.count "display" 0) :=
      Except.ok.inj (hout _ (mem_displayCapture_fields.mpr (.inl rfl)))
    have hcursor : Json.bool cursor = out (.flag "show_cursor" true) :=
      Except.ok.inj (hout _ (mem_displayCapture_fields.mpr (.inr (.inl rfl))))
    rw [depthOfEntries_append] at hdepth
    refine ⟨⟨_, hout _ (mem_displayCapture_fields.mpr (.inr (.inr rfl)))⟩, entries, hflatten,
      (Nat.max_le.mp hdepth).2, ?_⟩
    rw [← hdisplay, ← hcursor]
    rfl
  · rintro ⟨⟨whole, hwhole⟩, entries, hflatten, hdepth, rfl⟩
    let out : Field Shape → Json := fun f =>
      if f.name = "display" then .int display
      else if f.name = "show_cursor" then .bool cursor
      else whole
    have hout : ∀ f ∈ Kind.displayCapture.fields, f.write .settings 0 (val f) = .ok (out f) := by
      intro f hf
      rcases mem_displayCapture_fields.mp hf with rfl | rfl | rfl
      · rfl
      · rfl
      · exact hwhole
    refine ⟨out, entries, hout, hflatten, ?_, rfl⟩
    rw [depthOfEntries_append]
    exact Nat.max_le.mpr ⟨(by decide : 1 ≤ depthLimit), hdepth⟩

/-! ## Documents -/

/-- The entries that stand in front of what a crop carries. -/
def frontEntries (display : Int) (cursor : Bool) (variant : CropVariant) : List (String × Json) :=
  [("display", .int display), ("show_cursor", .bool cursor), ("crop_mode", .int variant.tag)]

theorem dumpEntries_eq_ok {s : Style} {outer : Nat} {attributes : List (String × Value)}
    {entries : List (String × Json)} (h : dumpEntries s outer attributes = .ok entries) :
    ∃ out : Value → Json, (∀ e ∈ attributes, dump s .any outer e.2 = .ok (out e.2)) ∧
      entries = attributes.map fun e => (e.1, out e.2) := by
  obtain ⟨out, hout⟩ : ∃ out : Value → Json, ∀ v j, dump s .any outer v = .ok j → out v = j := by
    refine ⟨fun v => (dump s .any outer v).toOption.getD .null, fun v j hj => ?_⟩
    simp only [hj]
    rfl
  refine ⟨out, ?_⟩
  induction attributes generalizing entries with
  | nil =>
    simp only [dumpEntries] at h
    cases h
    exact ⟨List.forall_mem_nil _, rfl⟩
  | cons e rest ih =>
    simp only [dumpEntries] at h
    obtain ⟨first, hfirst, h⟩ := Outcome.bind_eq_ok h
    obtain ⟨more, hmore, h⟩ := Outcome.bind_eq_ok h
    cases h
    obtain ⟨hrest, rfl⟩ := ih hmore
    obtain rfl := hout _ _ hfirst
    exact ⟨List.forall_mem_cons.mpr ⟨hfirst, hrest⟩, rfl⟩

/-! ## Crops that were read -/

/-- That a crop has its tag and a value for everything that its variant carries, and nothing
    else. -/
structure IsWholeCrop (variant : CropVariant) (attributes : List (String × Value)) : Prop where
  names : attributes.map (·.1) = (Part.crop variant).fields.map (·.name)
  mode : attributes.lookup "mode" = some (.int variant.tag)
  carried : ∀ w ∈ variant.carries, ∃ v, attributes.lookup w.1 = some v
  stored : ∀ e ∈ attributes, ∃ l, Leaf.isInCrop l = true ∧ l.stores e.2 = true
  found : ∀ e ∈ attributes, attributes.lookup e.1 = some e.2
  nothing_else : ∀ e ∈ attributes, e.1 = "mode" ∨ ∃ w ∈ variant.carries, e.1 = w.1

theorem isWholeCrop_of_read {variant : CropVariant} {attributes : List (String × Value)}
    (hcrop : (cropOf variant attributes).IsRead) : IsWholeCrop variant attributes := by
  obtain ⟨val, hstores, heq, _⟩ := CropVariant.exists_flatten hcrop
  cases heq
  have hlookup : ∀ f ∈ (Part.crop variant).fields, ((Part.crop variant).fields.map fun f =>
      (f.name, val f)).lookup f.name = some (val f) := fun f hf =>
    (Part.separate_fields _).lookup_name val hf
  exact {
    names := List.map_map
    mode := by
      obtain ⟨f, hf, hname, hshape⟩ := variant.exists_mode
      have htag := hstores f hf
      rw [← hname, hlookup f hf]
      rw [hshape] at htag
      cases hv : val f with
      | int n => simpa [hv, Leaf.stores] using htag
      | _ => simp [hv, Leaf.stores] at htag
    carried := by
      intro w hw
      obtain ⟨f, hf, hname⟩ := variant.exists_field w hw
      exact ⟨val f, hname ▸ hlookup f hf⟩
    stored := List.forall_mem_map.mpr fun f hf =>
      ⟨f.shape, variant.isInCrop_of_mem f hf, hstores f hf⟩
    found := List.forall_mem_map.mpr hlookup
    nothing_else := List.forall_mem_map.mpr fun f hf =>
      (variant.tag_or_carries f hf).imp_left (·.1) }

section Document

variable {display : Int} {cursor : Bool} {variant : CropVariant}
  {attributes : List (String × Value)}

/-- Whatever the attributes of a crop are, what it carries is written behind the front entries,
    key by key. -/
theorem document_entries {j : Json}
    (h : Action.settings (captureOf display cursor (cropOf variant attributes)) = .ok j) :
    ∃ out : Value → Json,
      (∀ e ∈ variant.arrange attributes, dump .settings .any 0 e.2 = .ok (out e.2)) ∧
      j = .object (frontEntries display cursor variant ++
        (variant.arrange attributes).map fun e => (e.1, (out e.2).finite)) := by
  obtain ⟨_, entries, hflatten, _, rfl⟩ := document_captureOf.mp h
  obtain ⟨variant', attributes', written, heq, hwritten, rfl⟩ := flatten_eq_ok hflatten
  cases heq
  obtain ⟨out, hout, rfl⟩ := dumpEntries_eq_ok hwritten
  refine ⟨out, fun e he => ?_, ?_⟩
  · obtain ⟨name, _, hlookup⟩ := (variant.mem_arrange attributes).mp he
    obtain ⟨before, after, hattributes, _⟩ := List.lookup_eq_some_iff.mp hlookup
    exact hout (name, e.2) (hattributes ▸ List.mem_append_right _ (List.mem_cons_self ..))
  · rw [CropVariant.arrange_map, finiteEntries_eq_map, List.map_cons, List.map_map]
    rfl

theorem mem_of_mem_arrange {e : String × Value} (he : e ∈ variant.arrange attributes) :
    ∃ name, (name, e.1) ∈ variant.carries ∧ (name, e.2) ∈ attributes := by
  obtain ⟨name, hw, hlookup⟩ := (variant.mem_arrange attributes).mp he
  obtain ⟨before, after, hsplit, _⟩ := List.lookup_eq_some_iff.mp hlookup
  exact ⟨name, hw, hsplit ▸ List.mem_append_right _ (List.mem_cons_self ..)⟩

theorem keys_of_isWholeCrop (hwhole : IsWholeCrop variant attributes) :
    (variant.arrange attributes).map (·.1) = variant.carries.map (·.2) := by
  rw [arrange_keys, CropVariant.wires_eq_carries, List.filter_eq_self.mpr]
  intro w hw
  obtain ⟨v, hv⟩ := hwhole.carried w hw
  exact Option.isSome_of_eq_some hv

/-- What a crop that was read carries is written value by value. -/
theorem settings_of_read (hcrop : (cropOf variant attributes).IsRead) :
    Action.settings (captureOf display cursor (cropOf variant attributes)) =
      .ok (.object (frontEntries display cursor variant ++
        (variant.arrange attributes).map fun e => (e.1, e.2.beside))) := by
  have hwhole := isWholeCrop_of_read hcrop
  have hbeside : ∀ e ∈ variant.arrange attributes, e.2.beside.depth = 1 ∧
      e.2.beside.finite = e.2.beside := by
    intro e he
    obtain ⟨name, _, hmem⟩ := mem_of_mem_arrange he
    obtain ⟨l, hl, hstores⟩ := hwhole.stored _ hmem
    refine ⟨Leaf.depth_beside hl hstores, ?_⟩
    rcases Leaf.beside_cases hl hstores with ⟨hcomplete, _⟩ | ⟨_, _, _, hnull⟩
    · exact Json.finite_of_isComplete _ hcomplete
    · rw [hnull]
      rfl
  have hflatten : flatten 0 (cropOf variant attributes) = .ok (("crop_mode", .int variant.tag) ::
      (variant.arrange attributes).map fun e => (e.1, e.2.beside)) := by
    obtain ⟨val, _, heq, _, hflatten⟩ := CropVariant.exists_flatten hcrop
    cases heq
    rw [← CropVariant.arrange_map, List.map_map]
    exact hflatten
  refine document_captureOf.mpr ⟨?_, _, hflatten, ?_, ?_⟩
  · obtain ⟨_, _, _, hwrite, _⟩ := CropVariant.exists_flatten hcrop
    exact hwrite
  · have hdepth : Json.depthOfEntries (("crop_mode", .int variant.tag) ::
        (variant.arrange attributes).map fun e => (e.1, e.2.beside)) ≤ 1 := by
      refine Json.depthOfEntries_le (List.forall_mem_cons.mpr ⟨Nat.le_refl 1,
        List.forall_mem_map.mpr fun e he => ?_⟩)
      exact Nat.le_of_eq (hbeside e he).1
    exact Nat.le_trans hdepth (by decide)
  · rw [finiteEntries_eq_map, List.map_cons, List.map_map]
    refine congrArg (fun more => Json.object (frontEntries display cursor variant ++ more)) ?_
    refine List.map_congr_left fun e he => ?_
    simp only [Function.comp_apply, (hbeside e he).2]

end Document

/-! ## Equality -/

section Equality

variable {display display' : Int} {cursor cursor' : Bool} {variant variant' : CropVariant}
  {attributes attributes' : List (String × Value)}

/-- That crops hold equal values for what a variant carries. -/
def CropsAlike (variant : CropVariant) (attributes attributes' : List (String × Value)) : Prop :=
  ∀ w ∈ variant.carries, ∃ v v', attributes.lookup w.1 = some v ∧
    attributes'.lookup w.1 = some v' ∧ v.agrees v' = true

theorem equal_captureOf {crop crop' : Value} :
    (captureOf display cursor crop).equal (captureOf display' cursor' crop') = true ↔
      (Value.int display).agrees (.int display') = true ∧
        (Value.bool cursor).agrees (.bool cursor') = true ∧ crop.agrees crop' = true := by
  simp only [Value.equal, captureOf, Value.agrees, Bool.and_eq_true]
  rw [Value.agreeEntries_cons rfl, Value.agreeEntries_cons rfl, Value.agreeEntries_cons rfl]
  simp [Value.agreeEntries, Value.agrees]

/-- Whole crops are equal exactly if they are of one variant and alike. -/
theorem agrees_cropOf (hwhole : IsWholeCrop variant attributes)
    (hwhole' : IsWholeCrop variant' attributes') :
    (cropOf variant attributes).agrees (cropOf variant' attributes') = true ↔
      variant = variant' ∧ CropsAlike variant attributes attributes' := by
  simp only [cropOf, Part.record, Value.agrees, Bool.and_eq_true, beq_iff_eq, Model.part.injEq,
    Part.crop.injEq, Value.agreeEntries_iff, and_assoc]
  refine and_congr_right fun hvariant => ?_
  subst hvariant
  constructor
  · rintro ⟨_, hagree⟩ w hw
    obtain ⟨v, hv⟩ := hwhole.carried w hw
    obtain ⟨before, after, hsplit, _⟩ := List.lookup_eq_some_iff.mp hv
    obtain ⟨v', hv', hagrees⟩ :=
      hagree (w.1, v) (hsplit ▸ List.mem_append_right _ (List.mem_cons_self ..))
    exact ⟨v, v', hv, hv', hagrees⟩
  · intro halike
    have hnames := hwhole.names.trans hwhole'.names.symm
    refine ⟨by simpa using congrArg List.length hnames, fun e he => ?_⟩
    have hfound := hwhole.found e he
    rcases hwhole.nothing_else e he with hmode | ⟨w, hw, hname⟩
    · rw [hmode, hwhole.mode] at hfound
      rw [hmode, ← Option.some.inj hfound]
      exact ⟨_, hwhole'.mode, Value.agrees_int.mpr rfl⟩
    · obtain ⟨v, v', hv, hv', hagrees⟩ := halike w hw
      rw [hname, hv] at hfound
      rw [hname, ← Option.some.inj hfound]
      exact ⟨v', hv', hagrees⟩

/-- The entries of a display capture, as values. -/
def captureEntries (display : Int) (cursor : Bool) (variant : CropVariant)
    (attributes : List (String × Value)) : List (String × Value) :=
  ("display", .int display) :: ("show_cursor", .bool cursor) ::
    ("crop_mode", .int variant.tag) :: variant.arrange attributes

/-- The keys in front of what a crop carries are none of its own. -/
theorem lookup_captureEntries {name key : String} (hw : (name, key) ∈ variant.carries) :
    (captureEntries display cursor variant attributes).lookup key = attributes.lookup name := by
  obtain ⟨hdisplay, hnodup⟩ := List.nodup_cons.mp variant.nodup_carries
  obtain ⟨hcursor, hnodup⟩ := List.nodup_cons.mp hnodup
  obtain ⟨hmode, _⟩ := List.nodup_cons.mp hnodup
  have hkey : key ∈ variant.carries.map (·.2) := List.mem_map_of_mem (f := (·.2)) hw
  have hne : key ≠ "display" ∧ key ≠ "show_cursor" ∧ key ≠ "crop_mode" := by
    refine ⟨?_, ?_, ?_⟩
    · rintro rfl
      exact hdisplay (List.mem_cons_of_mem _ (List.mem_cons_of_mem _ hkey))
    · rintro rfl
      exact hcursor (List.mem_cons_of_mem _ hkey)
    · rintro rfl
      exact hmode hkey
  have hskip : ∀ {k : String} {v : Value} {rest : List (String × Value)}, key ≠ k →
      ((k, v) :: rest).lookup key = rest.lookup key := fun hk => by
    rw [List.lookup_cons, beq_eq_false_iff_ne.mpr hk]
  rw [captureEntries, hskip hne.1, hskip hne.2.1, hskip hne.2.2, variant.lookup_arrange _ hw]

/-- The entries of whole crops are equal exactly if the crops are, and what stands in front. -/
theorem equal_captureEntries (hwhole : IsWholeCrop variant attributes)
    (hwhole' : IsWholeCrop variant' attributes') :
    (Value.mapping (captureEntries display cursor variant attributes)).equal
        (.mapping (captureEntries display' cursor' variant' attributes')) = true ↔
      (Value.int display).agrees (.int display') = true ∧
        (Value.bool cursor).agrees (.bool cursor') = true ∧
        variant = variant' ∧ CropsAlike variant attributes attributes' := by
  have hfront : Value.agreeEntries (captureEntries display cursor variant attributes)
        (captureEntries display' cursor' variant' attributes') = true ↔
      (Value.int display).agrees (.int display') = true ∧
        (Value.bool cursor).agrees (.bool cursor') = true ∧
        (Value.int variant.tag).agrees (.int variant'.tag) = true ∧
        Value.agreeEntries (variant.arrange attributes)
          (captureEntries display' cursor' variant' attributes') = true :=
    (Value.agreeEntries_cons rfl).trans (and_congr_right fun _ =>
      (Value.agreeEntries_cons rfl).trans (and_congr_right fun _ => Value.agreeEntries_cons rfl))
  rw [Value.equal_mapping, hfront, Value.agreeEntries_iff]
  constructor
  · rintro ⟨_, hdisplay, hcursor, htag, hagree⟩
    obtain rfl := CropVariant.tag_injective (Value.agrees_int.mp htag)
    refine ⟨hdisplay, hcursor, rfl, fun w hw => ?_⟩
    obtain ⟨v, hv⟩ := hwhole.carried w hw
    have hentry := (variant.mem_arrange attributes (e := (w.2, v))).mpr ⟨w.1, hw, hv⟩
    obtain ⟨v', hv', hagrees⟩ := hagree _ hentry
    exact ⟨v, v', hv, (lookup_captureEntries hw).symm.trans hv', hagrees⟩
  · rintro ⟨hdisplay, hcursor, rfl, halike⟩
    have hlength : (variant.arrange attributes).length = (variant.arrange attributes').length := by
      have hkeys := (keys_of_isWholeCrop hwhole).trans (keys_of_isWholeCrop hwhole').symm
      simpa using congrArg List.length hkeys
    refine ⟨by simp [captureEntries, hlength], hdisplay, hcursor, Value.agrees_int.mpr rfl,
      fun e he => ?_⟩
    obtain ⟨name, hw, hlookup⟩ := (variant.mem_arrange attributes).mp he
    obtain ⟨v, v', hv, hv', hagrees⟩ := halike _ hw
    obtain rfl := Option.some.inj (hv.symm.trans hlookup)
    exact ⟨v', (lookup_captureEntries hw).trans hv', hagrees⟩

end Equality

/-! ## Without loss or collision -/

/-- How a display capture with a crop of some variant is written out. -/
structure Flattens (display : Int) (cursor : Bool) (variant : CropVariant)
    (attributes carried : List (String × Value)) : Prop where
  /-- A crop is encoded as its number and what it carries. -/
  encode_eq : CropVariant.encode (cropOf variant attributes) =
    .ok (("crop_mode", .int variant.tag) :: carried)
  /-- Everything that is carried is the attribute that its key stands for. -/
  carried_from : ∀ e ∈ carried,
    ∃ name, (name, e.1) ∈ variant.carries ∧ attributes.lookup name = some e.2
  /-- Nothing takes the place of anything else. -/
  nodup : ("display" :: "show_cursor" :: "crop_mode" :: carried.map (·.1)).Nodup
  /-- The keys of a rectangle tell the variant. -/
  prefixes : ∀ e ∈ carried, ("manual.".toList <+: e.1.toList → variant.tag = 1) ∧
    ("window.".toList <+: e.1.toList → variant.tag = 3)
  /-- A document, if there is one, is the display, the cursor and the entries of the crop in this
      order, whatever the attributes of the crop are. -/
  document_eq : ∀ j,
    Action.settings (captureOf display cursor (cropOf variant attributes)) = .ok j →
    ∃ out : Value → Json, (∀ e ∈ carried, dump .settings .any 0 e.2 = .ok (out e.2)) ∧
      j = .object (frontEntries display cursor variant ++
        carried.map fun e => (e.1, (out e.2).finite))
  /-- With a crop that was read there is a document, and it has all keys of the variant. -/
  complete : (cropOf variant attributes).IsRead →
    carried.map (·.1) = variant.carries.map (·.2) ∧
      Action.settings (captureOf display cursor (cropOf variant attributes)) =
        .ok (.object (frontEntries display cursor variant ++
          carried.map fun e => (e.1, e.2.beside)))

theorem flattens (display : Int) (cursor : Bool) (variant : CropVariant)
    (attributes : List (String × Value)) :
    Flattens display cursor variant attributes (variant.arrange attributes) where
  encode_eq := rfl
  carried_from _ := (variant.mem_arrange attributes).mp
  nodup := by
    have hkeys : ((variant.arrange attributes).map (·.1)).Sublist (variant.carries.map (·.2)) := by
      rw [arrange_keys, CropVariant.wires_eq_carries]
      exact List.filter_sublist.map _
    exact variant.nodup_carries.sublist (((hkeys.cons_cons _).cons_cons _).cons_cons _)
  prefixes e he := by
    obtain ⟨name, hw, _⟩ := (variant.mem_arrange attributes).mp he
    exact variant.prefix_carries _ hw
  document_eq _ := document_entries
  complete hcrop := ⟨keys_of_isWholeCrop (isWholeCrop_of_read hcrop), settings_of_read hcrop⟩

/-- What is read back from the document of a finite rectangle is the values themselves. -/
theorem toValue_document {display : Int} {cursor : Bool} {variant : CropVariant}
    {attributes : List (String × Value)} (hwhole : IsWholeCrop variant attributes)
    (hfinite : ∀ side x, (cropOf variant attributes).attribute? side = some (.real x) →
      x.isFinite = true) :
    (Json.object (frontEntries display cursor variant ++
      (variant.arrange attributes).map fun e => (e.1, e.2.beside))).toValue =
        .mapping (captureEntries display cursor variant attributes) := by
  have hvalues : ∀ e ∈ variant.arrange attributes, e.2.beside.toValue = e.2 := by
    intro e he
    obtain ⟨name, _, hlookup⟩ := (variant.mem_arrange attributes).mp he
    obtain ⟨_, _, hmem⟩ := mem_of_mem_arrange he
    obtain ⟨l, hl, hstores⟩ := hwhole.stored _ hmem
    rcases Leaf.beside_cases hl hstores with ⟨_, hvalue⟩ | ⟨x, hx, hinfinite, _⟩
    · exact hvalue
    · have hside := hfinite name x (hlookup.trans (congrArg some hx))
      cases hside.symm.trans hinfinite
  simp only [Json.toValue, entryValues_eq_map, List.map_append, List.map_map]
  have hcarried : (variant.arrange attributes).map
      ((fun e : String × Json => (e.1, e.2.toValue)) ∘ fun e => (e.1, e.2.beside)) =
        variant.arrange attributes := by
    refine (List.map_congr_left fun e he => ?_).trans (List.map_id _)
    simp only [Function.comp_apply, hvalues e he, id]
  rw [hcarried]
  rfl

/-- That a display capture was read, and its crop with it, and that every side of a rectangle in it
    is finite. -/
structure IsFiniteCapture (d : Value) : Prop where
  read : ∃ entries, (Model.payload .displayCapture).read entries = .ok d
  crop : ∀ crop, d.attribute? "crop_mode" = some crop → crop.IsRead ∧
    ∀ side x, crop.attribute? side = some (.real x) → x.isFinite = true

/-- Display captures with finite rectangles are equal exactly if their documents are. -/
theorem equal_documents {d d' : Value} (hd : IsFiniteCapture d) (hd' : IsFiniteCapture d') :
    ∃ j j', Action.settings d = .ok j ∧ Action.settings d' = .ok j' ∧
      (j.toValue.equal j'.toValue = true ↔ d.equal d' = true) := by
  obtain ⟨_, hread⟩ := hd.read
  obtain ⟨_, hread'⟩ := hd'.read
  obtain ⟨display, cursor, variant, attributes, rfl, _⟩ := exists_captureOf hread
  obtain ⟨display', cursor', variant', attributes', rfl, _⟩ := exists_captureOf hread'
  obtain ⟨hcrop, hfinite⟩ := hd.crop _ rfl
  obtain ⟨hcrop', hfinite'⟩ := hd'.crop _ rfl
  have hwhole := isWholeCrop_of_read hcrop
  have hwhole' := isWholeCrop_of_read hcrop'
  refine ⟨_, _, settings_of_read hcrop, settings_of_read hcrop', ?_⟩
  rw [toValue_document hwhole hfinite, toValue_document hwhole' hfinite',
    equal_captureEntries hwhole hwhole', equal_captureOf, agrees_cropOf hwhole hwhole']

/-- Display captures are written with their crops beside their own entries: nothing collides with
    anything else, nothing is lost but doubles that are not finite, and only crops are written. -/
theorem flatten_crop :
    (∀ entries d, (Model.payload .displayCapture).read entries = .ok d →
      ∃ display cursor variant attributes carried,
        d = captureOf display cursor (cropOf variant attributes) ∧
        Flattens display cursor variant attributes carried ∧
        ((∀ e ∈ entries, e.1 = "crop_mode" → ∀ m attributes, e.2 ≠ .record m attributes) →
          (cropOf variant attributes).IsRead)) ∧
    (∀ d d', IsFiniteCapture d → IsFiniteCapture d' → ∃ j j',
      Action.settings d = .ok j ∧ Action.settings d' = .ok j' ∧
      (j.toValue.equal j'.toValue = true ↔ d.equal d' = true)) ∧
    ∀ v, (∀ variant attributes, v ≠ cropOf variant attributes) →
      CropVariant.encode v = .error (.cropRequired v.typeName) ∧
      (Fault.cropRequired v.typeName).category = .type := by
  refine ⟨fun entries d hread => ?_, fun d d' => equal_documents, fun v hv => ⟨?_, rfl⟩⟩
  · obtain ⟨display, cursor, variant, attributes, hd, hinstance⟩ := exists_captureOf hread
    exact ⟨display, cursor, variant, attributes, _, hd,
      flattens display cursor variant attributes, hinstance⟩
  · unfold CropVariant.encode
    split
    · rename_i variant attributes
      exact absurd rfl (hv variant attributes)
    · rfl

/-- A manual crop from the left. -/
def leftCrop (x : Double) : Value :=
  cropOf .manual [("left", .real x), ("top", .real .zero), ("right", .real .zero),
    ("bottom", .real .zero), ("mode", .int 1)]

/-- A display capture that is given such a crop is read as it is. -/
theorem isFiniteCapture_leftCrop {x : Double} (hx : x.isFinite = true) :
    IsFiniteCapture (captureOf 0 true (leftCrop x)) where
  read := by
    have hcheck : CropVariant.check (leftCrop x) = .ok (leftCrop x) := by
      change CropVariant.checkTagged (.int CropVariant.manual.tag) (leftCrop x) = _
      unfold CropVariant.checkTagged
      rw [CropVariant.ofTag?_tag]
      rfl
    have hfield : cropField.read Shape.check [("crop_mode", leftCrop x)] = .ok (leftCrop x) := by
      change (CropVariant.check (leftCrop x)).mapError _ = _
      rw [hcheck]
      rfl
    refine ⟨[("crop_mode", leftCrop x)], ?_⟩
    change Except.map (Value.record (.payload .displayCapture)) (Refusal.join (fun as _ => as)
      (Refusal.all [.ok ("display", .int 0), .ok ("show_cursor", .bool true),
        (cropField.read Shape.check [("crop_mode", leftCrop x)]).map fun v => ("crop_mode", v)])
      (.ok ())) = _
    rw [hfield]
    rfl
  crop := by
    rintro crop ⟨⟩
    have hsides : ∀ side v, (leftCrop x).attribute? side = some v → ∀ y, v = .real y →
        y.isFinite = true := by
      have hzero : Double.zero.isFinite = true := rfl
      exact Value.forall_attribute? (by simp [hx, hzero])
    exact ⟨⟨[("left", .real x)], rfl⟩, fun side y hy => hsides side _ hy y rfl⟩

/-- Positive and negative zero are equal, in display captures and in their documents. -/
theorem flatten_crop_zeros : ∃ j j',
    Action.settings (captureOf 0 true (leftCrop .zero)) = .ok j ∧
    Action.settings (captureOf 0 true (leftCrop ⟨0x8000000000000000⟩)) = .ok j' ∧
    (j.toValue.equal j'.toValue = true ↔
      (captureOf 0 true (leftCrop .zero)).equal
        (captureOf 0 true (leftCrop ⟨0x8000000000000000⟩)) = true) :=
  flatten_crop.2.1 _ _ (isFiniteCapture_leftCrop rfl) (isFiniteCapture_leftCrop rfl)

end SceneSource
