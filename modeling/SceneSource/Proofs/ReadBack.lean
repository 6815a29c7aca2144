-- SUMMARY: A payload is built again from its own document, with its fields settled.
import SceneSource.Proofs.Overrides
import SceneSource.Proofs.Settled

/-!
# Reading documents back

The document of a payload can be given for the overrides of its kind. What is built from it is
the payload with its fields settled, and that has the same document. Only the document of a
display capture cannot be read back: it names its crop by a number, which is no crop.
-/

namespace SceneSource

/-! ## Sound payloads -/

/-- That the parts that a value is or holds were read, not put together unchecked. -/
def Value.IsRead : Value → Prop
  | .record (.part p) attributes => ∃ entries, p.read entries = .ok (p.record attributes)
  | .tuple xs => ∀ x ∈ xs, ∀ p attributes, x = Part.record p attributes →
      ∃ entries, p.read entries = .ok x
  | _ => True

/-- That a document keeps what a payload holds: no part of it went unchecked, channels are
    integral, entries of bounding sizes are counts, and no integer is too long. -/
structure Value.IsSound (payload : Value) : Prop where
  parts : ∀ name v, payload.attribute? name = some v → v.IsRead
  regular : ∀ name v, payload.attribute? name = some v → v.IsRegular
  fits : payload.isOversize = false

theorem Value.forall_attribute? {P : Value → Prop} {m : Model}
    {attributes : List (String × Value)} (h : ∀ e ∈ attributes, P e.2) (name : String) (v : Value)
    (hv : (record m attributes).attribute? name = some v) : P v := by
  obtain ⟨before, after, rfl, _⟩ := List.lookup_eq_some_iff.mp hv
  exact h _ (List.mem_append_right _ (List.mem_cons_self ..))

theorem Value.isSound_of_forall {m : Model} {attributes : List (String × Value)}
    (hattributes : ∀ e ∈ attributes, e.2.IsRead ∧ e.2.IsRegular)
    (hfits : (record m attributes).isOversize = false) : (record m attributes).IsSound where
  parts := forall_attribute? fun e he => (hattributes e he).1
  regular := forall_attribute? fun e he => (hattributes e he).2
  fits := hfits

/-! ## What payloads hold -/

theorem mem_checkItems {p : Part} {x : Except Refusal Value} {ys : List Value} {i : Nat}
    (h : x ∈ Shape.checkItems p i ys) :
    ∃ y ∈ ys, ∃ i, x = (p.check y).mapError (·.under (.index i)) := by
  induction ys generalizing i with
  | nil => cases h
  | cons y rest ih =>
    rcases List.mem_cons.mp h with hfirst | hrest
    · exact ⟨y, List.mem_cons_self .., i, hfirst⟩
    · obtain ⟨z, hz, hrest⟩ := ih hrest
      exact ⟨z, List.mem_cons_of_mem _ hz, hrest⟩

/-- A part that a field accepts was read, or is an instance that was given for it. -/
theorem Part.check_eq_ok {p : Part} {w v : Value} (h : p.check w = .ok v) :
    (∃ entries, p.read entries = .ok v) ∨ ∃ attributes, v = p.record attributes := by
  unfold check at h
  split at h
  · split at h
    · rename_i hm
      cases h
      exact .inr ⟨_, congrArg (Value.record · _) hm⟩
    · cases h
  · exact .inl ⟨_, h⟩
  · cases h

theorem Part.read_of_check {p : Part} {w v : Value} (h : p.check w = .ok v)
    (hread : ∀ attributes, v = p.record attributes → ∃ entries, p.read entries = .ok v) :
    ∃ entries, p.read entries = .ok v := by
  rcases check_eq_ok h with hentries | ⟨attributes, hv⟩
  · exact hentries
  · exact hread attributes hv

namespace Shape

theorem holds_of_check {shape : Shape} {w v : Value} (h : shape.check w = .ok v)
    (hread : v.IsRead) : shape.Holds v := by
  have hpart : ∀ p : Part, ∀ attributes, v = p.record attributes →
      ∃ entries, p.read entries = .ok v := by
    rintro p attributes rfl
    exact hread
  cases shape with
  | leaf l => exact Leaf.stores_of_check h
  | part p => exact Part.read_of_check h (hpart p)
  | parts p =>
    change checkParts p w = .ok v at h
    unfold checkParts at h
    split at h
    · rename_i ys _
      obtain ⟨xs, hxs, rfl⟩ := Outcome.map_eq_ok h
      intro x hx
      have hmem : Except.ok x ∈ checkItems p 0 ys :=
        Refusal.all_ok_iff.mp hxs ▸ List.mem_map_of_mem hx
      obtain ⟨y, _, i, hy⟩ := mem_checkItems hmem
      exact Part.read_of_check (Outcome.mapError_eq_ok hy.symm) fun attributes hrecord =>
        hread x hx p attributes hrecord
    · cases h
  | embedded p =>
    obtain ⟨u, _, hu⟩ := Outcome.bind_eq_ok h
    exact Part.read_of_check hu (hpart p)
  | crop => trivial

end Shape

namespace Kind

theorem font_default : ∃ entries, Part.font.read entries = .ok Part.font.default :=
  ⟨[], rfl⟩

theorem frameRate_default : ∃ entries, Part.frameRate.read entries =
    .ok (Part.frameRate.record [("numerator", .int 30), ("denominator", .int 1)]) :=
  ⟨[("numerator", .int 30), ("denominator", .int 1)], rfl⟩

theorem resolution_default : ∃ entries, Part.resolution.read entries =
    .ok (Part.resolution.record [("width", .int 1280), ("height", .int 720)]) :=
  ⟨[("width", .int 1280), ("height", .int 720)], rfl⟩

/-- The default of a field is what its shape stores. -/
theorem holds_default (k : Kind) : ∀ f ∈ k.fields, ∃ v, f.default? = some v ∧ f.shape.Holds v := by
  cases k
  all_goals
    repeat' first
      | exact List.forall_mem_nil _
      | refine List.forall_mem_cons.mpr ⟨⟨_, rfl, ?_⟩, ?_⟩
  all_goals first
    | rfl
    | exact trivial
    | exact List.forall_mem_nil _
    | exact font_default
    | exact frameRate_default
    | exact resolution_default

theorem wire_mem_keys (k : Kind) : ∀ f ∈ k.fields, f.wire ∈ f.keys := by
  cases k <;> decide

theorem wire_ne (k : Kind) : ∀ f ∈ k.fields, f.wire ≠ "source_kind" := by
  cases k <;> decide

theorem isPlain_shape {k : Kind} (hk : k ≠ .displayCapture) :
    ∀ f ∈ k.fields, f.shape.isPlain = true := by
  cases k with
  | displayCapture => exact absurd rfl hk
  | _ => decide

theorem settled_record (k : Kind) (val : Field Shape → Value) :
    k.settled (.record (.payload k) (k.fields.map fun f => (f.name, val f))) =
      .record (.payload k) (k.fields.map fun f => (f.name, f.shape.settled (val f))) := by
  simp only [settled, settleAttributes_map (separate_fields k)]

section Read

variable {k : Kind} {f : Field Shape} (hf : f ∈ k.fields) {entries : List (String × Value)}
  {v : Value} (h : f.read Shape.check entries = .ok v)
include hf h

theorem checked_or_holds : (∃ w, f.shape.check w = .ok v) ∨ f.shape.Holds v := by
  refine (Field.read_eq_ok h).imp_right fun hdefault => ?_
  obtain ⟨u, hu, hholds⟩ := holds_default k f hf
  cases hdefault.symm.trans hu
  exact hholds

/-- What is read for a field is what its shape stores, as far as parts of it were read. -/
theorem holds_of_read (hread : v.IsRead) : f.shape.Holds v := by
  rcases checked_or_holds hf h with ⟨w, hw⟩ | hholds
  · exact Shape.holds_of_check hw hread
  · exact hholds

theorem stores_of_read {l : Leaf} (hl : f.shape = .leaf l) : l.stores v = true := by
  rcases checked_or_holds hf h with ⟨w, hw⟩ | hholds
  · simp only [hl] at hw
    exact Leaf.stores_of_check hw
  · simp only [hl] at hholds
    exact hholds

end Read

theorem attribute?_record (k : Kind) (val : Field Shape → Value) {f : Field Shape}
    (hf : f ∈ k.fields) :
    (Value.record (.payload k) (k.fields.map fun f => (f.name, val f))).attribute? f.name =
      some (val f) := (separate_fields k).lookup_name val hf

/-- What is built from the entries of a document, given what is read for each field. -/
theorem built_wires {k : Kind} {h : Host} {c : Config} (hc : h.configuration = .ok c)
    {wired val : Field Shape → Value}
    (hcheck : ∀ f ∈ k.fields, f.shape.check (wired f) = .ok (val f)) :
    built k h (k.fields.map fun f => (f.wire, wired f)) =
      .ok (.record (.payload k) (k.fields.map fun f => (f.name, val f))) := by
  have hkind : ∀ e ∈ k.fields.map (fun f => (f.wire, wired f)), e.1 ≠ "source_kind" :=
    List.forall_mem_map.mpr (wire_ne k)
  simp only [built_eq hc hkind,
    (separate_fields k).readAll_wires (wire_mem_keys k) wired hcheck true]
  rfl

section Ordinary

variable {k : Kind} (hk : k ≠ .displayCapture)
include hk

/-- Without a crop, the document of a payload has an entry for each field. -/
theorem document_ok {val : Field Shape → Value} {out : Field Shape → Json}
    (hout : ∀ f ∈ k.fields, f.shape.write .settings 0 (val f) = .ok (out f)) :
    document (.record (.payload k) (k.fields.map fun f => (f.name, val f))) =
      .ok (.object (k.fields.map fun f => (f.wire, out f))) := by
  simp only [document_payload hk, (dumpFields_ok_iff (separate_fields k)).mpr ⟨out, hout, rfl⟩]
  rfl

theorem exists_document {entries : List (String × Value)} {p : Value}
    (hp : (Model.payload k).read entries = .ok p) (hsound : p.IsSound) {h : Host} {c : Config}
    (hc : h.configuration = .ok c) : ∃ j, document p = .ok j ∧
      ((Action.rebuild (.text k.tag) j.toValue).run h).1 = .ok (k.settled p) ∧
      document (k.settled p) = .ok j := by
  obtain ⟨val, hval, rfl⟩ := eq_record_of_read hp
  have hsizes : ∀ f ∈ k.fields, (val f).isOversize = false :=
    List.forall_mem_map.mp (isOversize_of_mem_entries hsound.fits)
  have hfield : ∀ f ∈ k.fields, ∃ j,
      f.shape.Settles .settings 0 (val f) (f.shape.settled (val f)) j := by
    intro f hf
    have hattribute := attribute?_record k val hf
    have hholds := holds_of_read hf (hval f hf) (hsound.parts _ _ hattribute)
    exact Shape.exists_settles (isPlain_shape hk f hf) hholds (hsound.regular _ _ hattribute)
      (hsizes f hf)
  choose! out hout using hfield
  refine ⟨_, document_ok hk fun f hf => (hout f hf).written, ?_, ?_⟩
  · have hvalue : (Json.object (k.fields.map fun f => (f.wire, out f))).toValue =
        .mapping (k.fields.map fun f => (f.wire, (out f).toValue)) := by
      simp only [Json.toValue, entryValues_eq_map, List.map_map]
      rfl
    simp only [hvalue, settled_record]
    exact built_wires hc fun f hf => (hout f hf).read
  · simp only [settled_record]
    exact document_ok hk fun f hf => (hout f hf).rewritten

end Ordinary

end Kind

/-! ## Display captures -/

theorem cropKeys_ne (crop : Value) : ∀ key ∈ crop.cropKeys, key ≠ "source_kind" := by
  have hwires : ∀ variant : CropVariant, ∀ w ∈ variant.wires, w.2 ≠ "source_kind" := by
    intro variant
    cases variant <;> decide
  exact Value.forall_cropKeys (P := (· ≠ "source_kind")) (by decide) hwires crop

/-- Entries that name a crop by its number are refused. -/
theorem built_crop_number {h : Host} {c : Config} (hc : h.configuration = .ok c) (n : Int)
    (b : Bool) (tag : Int) {more : List (String × Value)}
    (hmore : ∀ e ∈ more, e.1 ≠ "source_kind") : ∃ issues,
      built .displayCapture h (("display", .int n) :: ("show_cursor", .bool b) ::
        ("crop_mode", .int tag) :: more) =
        .error (.invalid Kind.displayCapture.modelName issues) := by
  have hkind : ∀ e ∈ ("display", Value.int n) :: ("show_cursor", .bool b) ::
      ("crop_mode", .int tag) :: more, e.1 ≠ "source_kind" := by
    simpa using hmore
  have hread : ∀ f ∈ Kind.displayCapture.fields, Refusal.NoFault (f.read Shape.check
      (("display", .int n) :: ("show_cursor", .bool b) :: ("crop_mode", .int tag) :: more)) := by
    intro f hf
    rcases mem_displayCapture_fields.mp hf with rfl | rfl | rfl
    · rintro _ ⟨⟩
    · rintro _ ⟨⟩
    · rintro _ ⟨⟩
  obtain ⟨issues, hissues⟩ := Field.readAll_refused true hread
    (mem_displayCapture_fields.mpr (.inr (.inr rfl))) (by rintro _ ⟨⟩)
  refine ⟨issues, ?_⟩
  simp only [built_eq hc hkind, hissues]
  rfl

section Written

variable {k : Kind} {f : Field Shape} (hf : f ∈ k.fields) {entries : List (String × Value)}
  {v : Value} (hread : f.read Shape.check entries = .ok v) {j : Json}
  (hwritten : f.write .settings 0 v = .ok j)
include hf hread hwritten

theorem written_integer (hshape : f.shape = .leaf .integer) : ∃ n, j = .int n := by
  have hstores := Kind.stores_of_read hf hread hshape
  simp only [Field.write, hshape] at hwritten
  cases v with
  | int n =>
    have hint := (Leaf.settles_integer (Nat.zero_lt_succ 254) .settings n).written
    exact ⟨n, Except.ok.inj (hwritten.symm.trans hint)⟩
  | _ => cases hstores

theorem written_boolean (hshape : f.shape = .leaf .boolean) : ∃ b, j = .bool b := by
  have hstores := Kind.stores_of_read hf hread hshape
  simp only [Field.write, hshape] at hwritten
  cases v with
  | bool b =>
    have hbool := (Leaf.settles_boolean (Nat.zero_lt_succ 254) .settings b).written
    exact ⟨b, Except.ok.inj (hwritten.symm.trans hbool)⟩
  | _ => cases hstores

end Written

/-- No document of a display capture can be read back. -/
theorem rebuild_displayCapture {entries : List (String × Value)} {p : Value}
    (hp : (Model.payload .displayCapture).read entries = .ok p) {h : Host} {c : Config}
    (hc : h.configuration = .ok c) {j : Json} (hj : document p = .ok j) : ∃ issues,
      ((Action.rebuild (.text Kind.displayCapture.tag) j.toValue).run h).1 =
        .error (.invalid Kind.displayCapture.modelName issues) := by
  obtain ⟨val, hval, rfl⟩ := eq_record_of_read hp
  obtain ⟨out, crop, hout, hflatten, _, rfl⟩ := document_displayCapture_ok_iff.mp hj
  have hdisplay := mem_displayCapture_fields.mpr (.inl rfl)
  have hcursor := mem_displayCapture_fields.mpr (.inr (.inl rfl))
  obtain ⟨n, hn⟩ := written_integer hdisplay (hval _ hdisplay) (hout _ hdisplay) rfl
  obtain ⟨b, hb⟩ := written_boolean hcursor (hval _ hcursor) (hout _ hcursor) rfl
  have hkeys := flatten_keys hflatten
  obtain ⟨variant, _, written, _, _, rfl⟩ := flatten_eq_ok hflatten
  have hmore : ∀ e ∈ Json.entryValues (Json.finiteEntries (variant.arrange written)),
      e.1 ≠ "source_kind" := by
    simp only [entryValues_eq_map, finiteEntries_eq_map, List.map_map]
    refine List.forall_mem_map.mpr fun e he => ?_
    have hkey : e.1 ∈ (val cropField).cropKeys :=
      hkeys ▸ List.mem_cons_of_mem _ (List.mem_map_of_mem he)
    exact cropKeys_ne _ e.1 hkey
  simp only [hn, hb]
  exact built_crop_number hc n b variant.tag hmore

/-! ## Documents read back -/

/-- A payload that was constructed was read. -/
theorem read_of_construct {k : Kind} {entries : List (String × Value)} {h : Host} {p : Value}
    (hp : ((Action.construct (.payload k) entries).run h).1 = .ok p) :
    (Model.payload k).read entries = .ok p := by
  unfold Action.construct at hp
  cases hread : (Model.payload k).read entries with
  | error r =>
    simp only [hread] at hp
    cases hp
  | ok v =>
    simp only [hread] at hp
    have hrun : ((Action.warnBelowMinimums k v >>= fun _ => pure v).run h).1 = .ok p := hp
    simp only [Action.run_bind] at hrun
    generalize (Action.warnBelowMinimums k v).run h = outcome at hrun
    rcases outcome with ⟨_ | _, h'⟩
    · cases hrun
    · simp only [Action.run_pure] at hrun
      exact congrArg Except.ok (Except.ok.inj hrun)

/-- What is built from the document of a sound payload is the payload with its fields settled,
    which has the same document. The document of a display capture is refused. -/
theorem rebuild_document (k : Kind) (entries : List (String × Value)) (h₀ h : Host) (c : Config)
    (p : Value) (hp : ((Action.construct (.payload k) entries).run h₀).1 = .ok p)
    (hc : h.configuration = .ok c) :
    (k ≠ .displayCapture → p.IsSound → ∃ j, document p = .ok j ∧
      ((Action.rebuild (.text k.tag) j.toValue).run h).1 = .ok (k.settled p) ∧
      document (k.settled p) = .ok j) ∧
    (k = .displayCapture → ∀ j, document p = .ok j → ∃ issues,
      ((Action.rebuild (.text k.tag) j.toValue).run h).1 =
        .error (.invalid k.modelName issues)) := by
  have hread := read_of_construct hp
  constructor
  · intro hk hsound
    exact Kind.exists_document hk hread hsound hc
  · rintro rfl j hj
    exact rebuild_displayCapture hread hc hj

/-- A slideshow of some size that takes as long for a picture as for the passage to the next. -/
def evenSlideshow (size : Value) (time : Duration) : Value :=
  .record (.payload .slideshow) [
    ("playback_behavior", .choice (.playback .alwaysPlay)),
    ("slide_mode", .choice (.slideMode .auto)),
    ("transition", .choice (.transition .fade)),
    ("slide_time", .duration time),
    ("transition_speed", .duration time),
    ("loop", .bool true),
    ("hide", .bool false),
    ("randomize", .bool false),
    ("use_custom_size", size),
    ("files", .tuple [])]

/-- The slideshow is read back with its preset and in whole milliseconds, a display capture is
    refused. -/
theorem rebuild_document_slideshow :
    (evenSlideshow (.ratio (.int 4) (.int 3)) ⟨1000999, by decide, by decide⟩).IsSound ∧
    (∃ j, document (evenSlideshow (.ratio (.int 4) (.int 3)) ⟨1000999, by decide, by decide⟩) =
        .ok j ∧
      ((Action.rebuild (.text Kind.slideshow.tag) j.toValue).run { config? := some {} }).1 =
        .ok (evenSlideshow (.choice (.aspect .fourToThree)) ⟨1000000, by decide, by decide⟩)) ∧
    ∃ p j issues, ((Action.construct (.payload .displayCapture) []).run {}).1 = .ok p ∧
      document p = .ok j ∧
      ((Action.rebuild (.text Kind.displayCapture.tag) j.toValue).run { config? := some {} }).1 =
        .error (.invalid Kind.displayCapture.modelName issues) := by
  have hsound :
      (evenSlideshow (.ratio (.int 4) (.int 3)) ⟨1000999, by decide, by decide⟩).IsSound := by
    refine Value.isSound_of_forall ?_ ?_
    · simp [Value.IsRead, Value.IsRegular, Color.IsIntegral, BoundingSize.IsCounted]
      decide
    · simp [Value.isOversize, Value.anyOversizeEntry, Value.anyOversize,
        Integer.fits_of_lt_ten]
  refine ⟨hsound, ?_, ?_⟩
  · have hread := rebuild_document .slideshow
      [("use_custom_size", .ratio (.int 4) (.int 3)),
        ("slide_time", .duration ⟨1000999, by decide, by decide⟩),
        ("transition_speed", .duration ⟨1000999, by decide, by decide⟩)]
      { config? := some {} } { config? := some {} } {}
      (evenSlideshow (.ratio (.int 4) (.int 3)) ⟨1000999, by decide, by decide⟩) rfl rfl
    obtain ⟨j, hj, hrebuild, _⟩ := hread.1 (by decide) hsound
    exact ⟨j, hj, hrebuild⟩
  · have hread := rebuild_document .displayCapture [] {} { config? := some {} } {} _ rfl rfl
    obtain ⟨issues, hissues⟩ := hread.2 rfl _ rfl
    exact ⟨_, _, issues, rfl, rfl, hissues⟩

end SceneSource
