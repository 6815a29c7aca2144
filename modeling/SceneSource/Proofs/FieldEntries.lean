-- SUMMARY: What becomes of the value that one field is given, alone and among other overrides.
import SceneSource.Proofs.ReadBack

/-!
# Fields one at a time

A value that a field is given is stored, sent or refused in the same way whatever else is given.
So what the check and the encoder of a single field do says what a payload holds, what its
document has under the name of the field, and for which reason a construction is refused.
-/

namespace SceneSource

namespace Kind

/-! ## What becomes of a value -/

/-- That a field which is given a value stores another one. -/
structure Stores (k : Kind) (f : Field Shape) (v stored : Value) : Prop where
  /-- The value alone is enough to build a payload. -/
  alone : ∀ (h : Host) (c : Config), h.configuration = .ok c →
    ∃ p, built k h [(f.name, v)] = .ok p ∧ p.attribute? f.name = some stored
  among : ∀ (h : Host) overrides key p, f.given? overrides = some (key, v) →
    ((Action.construct (.payload k) overrides).run h).1 = .ok p →
    p.attribute? f.name = some stored

/-- That a field which is given a value sends a document for it. -/
structure Sends (k : Kind) (f : Field Shape) (v : Value) (j : Json) : Prop where
  /-- The value alone is enough to build a payload that has a document. -/
  alone : ∀ (h : Host) (c : Config), h.configuration = .ok c → ∃ p entries,
    built k h [(f.name, v)] = .ok p ∧ document p = .ok (.object entries) ∧
    entries.lookup f.wire = some j
  among : ∀ (h : Host) overrides key p entries, f.given? overrides = some (key, v) →
    ((Action.construct (.payload k) overrides).run h).1 = .ok p →
    document p = .ok (.object entries) → entries.lookup f.wire = some j

/-- That a field which is given a value refuses it for a reason. -/
structure Refuses (k : Kind) (f : Field Shape) (v : Value) (reason : Reason) : Prop where
  /-- The value alone is refused with one issue. -/
  alone : ∀ h : Host,
    built k h [(f.name, v)] = .error (.invalid k.modelName [⟨reason, [.key f.name]⟩])
  /-- Unless another override ends the construction, its issue is among those reported. -/
  among : ∀ (h : Host) overrides key, f.given? overrides = some (key, v) →
    (∃ fault, ((Action.construct (.payload k) overrides).run h).1 = .error (.fault fault)) ∨
    ∃ issues, ((Action.construct (.payload k) overrides).run h).1 =
      .error (.invalid k.modelName issues) ∧ ⟨reason, [.key key]⟩ ∈ issues

/-! ## A value alone -/

theorem name_mem_keys (k : Kind) : ∀ f ∈ k.fields, f.name ∈ f.keys := by
  cases k <;> decide

theorem name_ne (k : Kind) : ∀ f ∈ k.fields, f.name ≠ "source_kind" := by
  cases k <;> decide

section Alone

variable {k : Kind} {f : Field Shape} (hf : f ∈ k.fields) (v : Value)
include hf

theorem only_alone : f.only [(f.name, v)] = [(f.name, v)] := by
  have hkept : f.keys.contains f.name = true := List.contains_iff_mem.mpr (name_mem_keys k f hf)
  simp only [Field.only, List.filter_cons, hkept, List.filter_nil, if_true]

theorem read_alone : f.read Shape.check [(f.name, v)] =
    (f.shape.check v).mapError (·.under (.key f.name)) := by
  simp only [Field.read, Field.given?_of_only_singleton (only_alone hf v)]

/-- Every other field is read as its default. -/
theorem read_alone_other {g : Field Shape} (hg : g ∈ k.fields) (hne : g ≠ f) :
    ∃ d, g.default? = some d ∧ g.read Shape.check [(f.name, v)] = .ok d := by
  rw [← only_alone hf v]
  exact (defaulted_fields k).read_other Shape.check hf hg hne

theorem kind_alone : ∀ e ∈ [(f.name, v)], e.1 ≠ "source_kind" :=
  List.forall_mem_singleton.mpr (name_ne k f hf)

end Alone

/-! ## Values that are stored and sent -/

section Accepted

variable {k : Kind} {f : Field Shape} (hf : f ∈ k.fields) {v stored : Value}
  (hcheck : f.shape.check v = .ok stored)
include hf hcheck

/-- With a field that is given a value every payload is one that holds what the field stores. -/
theorem exists_built_alone {h : Host} {c : Config} (hc : h.configuration = .ok c) :
    ∃ val : Field Shape → Value, val f = stored ∧
      (∀ g ∈ k.fields, g ≠ f → g.default? = some (val g)) ∧
      built k h [(f.name, v)] =
        .ok (.record (.payload k) (k.fields.map fun g => (g.name, val g))) := by
  have hread : f.read Shape.check [(f.name, v)] = .ok stored := by
    simp only [read_alone hf, hcheck]
    rfl
  have hkind := kind_alone hf v
  have hone : (f.only [(f.name, v)]).length ≤ 1 := List.length_filter_le _ _
  obtain ⟨p, hp⟩ := (built_only_ok_iff hkind hc hf hone).mpr ⟨stored, hread⟩
  rw [only_alone hf v] at hp
  obtain ⟨val, hval, rfl⟩ := eq_record_of_built hkind hc hp
  refine ⟨val, Except.ok.inj ((hval f hf).symm.trans hread), fun g hg hne => ?_, hp⟩
  obtain ⟨d, hd, hother⟩ := read_alone_other hf v hg hne
  rw [hd, Except.ok.inj ((hval g hg).symm.trans hother)]

omit hf in
theorem read_given {overrides : List (String × Value)} {key : String}
    (hgiven : f.given? overrides = some (key, v)) : f.read Shape.check overrides = .ok stored := by
  simp only [Field.read, hgiven, hcheck]
  rfl

theorem stores : k.Stores f v stored where
  alone h c hc := by
    obtain ⟨val, hstored, _, hbuilt⟩ := exists_built_alone hf hcheck hc
    exact ⟨_, hbuilt, (attribute?_record k val hf).trans (congrArg some hstored)⟩
  among h overrides key p hgiven hp := by
    obtain ⟨val, hval, rfl⟩ := eq_record_of_read (read_of_construct hp)
    rw [attribute?_record k val hf,
      Except.ok.inj ((hval f hf).symm.trans (read_given hcheck hgiven))]

variable (hk : k ≠ .displayCapture) {j : Json} (hwrite : f.write .settings 0 stored = .ok j)
include hk hwrite

omit hcheck in
/-- A payload has under the name of a field what is written for the value there. -/
theorem lookup_document {val : Field Shape → Value} (hval : val f = stored)
    {entries : List (String × Json)}
    (hdocument : document (.record (.payload k) (k.fields.map fun g => (g.name, val g))) =
      .ok (.object entries)) : entries.lookup f.wire = some j := by
  obtain ⟨segment, hsegment, hentries⟩ := document_ok_iff.mp hdocument
  have hown : segment f = [(f.wire, j)] := by
    obtain ⟨out, hout, hsegment⟩ := (segment_ok_iff hk).mp (hsegment f hf)
    rw [hval] at hout
    rw [hsegment, Except.ok.inj (hout.symm.trans hwrite)]
  have hkey : f.Carries f.wire := by
    unfold Field.Carries
    rw [if_neg (shape_ne_crop hk f hf)]
  rw [Json.object.inj hentries, lookup_segments hsegment hf hkey, hown, List.lookup_cons_self]

theorem sends : k.Sends f v j where
  alone h c hc := by
    obtain ⟨val, hstored, hothers, hbuilt⟩ := exists_built_alone hf hcheck hc
    obtain ⟨_, hdefault⟩ := document_default k
    obtain ⟨segment, hsegment, _⟩ := document_ok_iff.mp hdefault
    -- the other fields are written as in the document of the defaults
    have hsegments : ∀ g ∈ k.fields, ∃ own, k.segment g (val g) = .ok own := by
      intro g hg
      by_cases hne : g = f
      · subst hne
        exact ⟨_, (segment_ok_iff hk).mpr ⟨j, hstored ▸ hwrite, rfl⟩⟩
      · have hown := hsegment g hg
        rw [hothers g hg hne] at hown
        exact ⟨_, hown⟩
    choose! own hown using hsegments
    have hdocument := document_ok_iff.mpr ⟨own, hown, rfl⟩
    exact ⟨_, _, hbuilt, hdocument, lookup_document hf hk hwrite hstored hdocument⟩
  among h overrides key p entries hgiven hp hdocument := by
    obtain ⟨val, hval, rfl⟩ := eq_record_of_read (read_of_construct hp)
    have hstored := Except.ok.inj ((hval f hf).symm.trans (read_given hcheck hgiven))
    exact lookup_document hf hk hwrite hstored hdocument

end Accepted

section Iff

variable {k : Kind} {f : Field Shape} (hf : f ∈ k.fields) {v stored : Value}
include hf

/-- A payload that was built from one value holds what the field stores for it. -/
theorem eq_record_of_built_alone {h : Host} {c : Config} (hc : h.configuration = .ok c) {p : Value}
    (hp : built k h [(f.name, v)] = .ok p) : ∃ val : Field Shape → Value,
      f.shape.check v = .ok (val f) ∧
      p = .record (.payload k) (k.fields.map fun g => (g.name, val g)) := by
  obtain ⟨val, hval, rfl⟩ := eq_record_of_built (kind_alone hf v) hc hp
  have hread := hval f hf
  rw [read_alone hf] at hread
  exact ⟨val, Outcome.mapError_eq_ok hread, rfl⟩

/-- A field stores for a value what its check makes of it. -/
theorem stores_iff : k.Stores f v stored ↔ f.shape.check v = .ok stored := by
  refine ⟨fun h => ?_, stores hf⟩
  obtain ⟨p, hp, hattribute⟩ := h.alone { config? := some {} } {} rfl
  obtain ⟨val, hcheck, rfl⟩ := eq_record_of_built_alone hf rfl hp
  rw [attribute?_record k val hf] at hattribute
  rw [hcheck, Option.some.inj hattribute]

/-- A field sends for a value what is written for what its check makes of it. -/
theorem sends_iff (hk : k ≠ .displayCapture) {j : Json} : k.Sends f v j ↔
    ∃ stored, f.shape.check v = .ok stored ∧ f.write .settings 0 stored = .ok j := by
  constructor
  · intro h
    obtain ⟨p, entries, hp, hdocument, hlookup⟩ := h.alone { config? := some {} } {} rfl
    obtain ⟨val, hcheck, rfl⟩ := eq_record_of_built_alone hf rfl hp
    obtain ⟨segment, hsegment, _⟩ := document_ok_iff.mp hdocument
    obtain ⟨out, hwrite, _⟩ := (segment_ok_iff hk).mp (hsegment f hf)
    rw [lookup_document hf hk hwrite rfl hdocument] at hlookup
    exact ⟨val f, hcheck, hwrite.trans (congrArg Except.ok (Option.some.inj hlookup))⟩
  · rintro ⟨stored, hcheck, hwrite⟩
    exact sends hf hcheck hk hwrite

/-- A display capture has an integer, a truth value and a crop only. -/
theorem ne_displayCapture {shape : Shape} (hshape : f.shape = shape)
    (hother : shape ∉ [Shape.leaf .integer, .leaf .boolean, .crop]) : k ≠ .displayCapture := by
  rintro rfl
  rcases mem_displayCapture_fields.mp hf with rfl | rfl | rfl <;> subst hshape
  · exact hother (by decide)
  · exact hother (by decide)
  · exact hother (by decide)

end Iff

/-! ## Values that are refused -/

theorem run_construct_refused {k : Kind} {entries : List (String × Value)} {r : Refusal}
    (hread : Field.readAll Shape.check true k.fields entries = .error r) (h : Host) :
    ((Action.construct (.payload k) entries).run h).1 =
      .error (.ofRefusal k.modelName r) := by
  have hmodel : (Model.payload k).read entries = .error r := congrArg (Except.map _) hread
  unfold Action.construct
  simp only [hmodel]
  rfl

theorem built_eq_construct {k : Kind} {entries : List (String × Value)}
    (hkind : ∀ e ∈ entries, e.1 ≠ "source_kind") (h : Host) :
    built k h entries = ((Action.construct (.payload k) entries).run h).1 := by
  have hany : entries.any (·.1 == "source_kind") = false := by simpa using hkind
  unfold built Action.build
  simp only [hany, Action.kindOf_tag]
  rfl

section Refused

variable {k : Kind} {f : Field Shape} (hf : f ∈ k.fields) {v : Value}
include hf

/-- A value that ends its check ends the construction. -/
theorem built_alone_fault {fault : Fault} (hcheck : f.shape.check v = .error (.fault fault))
    (h : Host) : built k h [(f.name, v)] = .error (.fault fault) := by
  have hread : f.read Shape.check [(f.name, v)] = .error (.fault fault) := by
    simp only [read_alone hf, hcheck]
    rfl
  have hfault : ¬ Refusal.NoFault (Field.readAll Shape.check true k.fields [(f.name, v)]) :=
    fun hno => (Field.readAll_noFault_iff true).mp hno f hf fault hread
  obtain ⟨fault', hall⟩ := not_forall_not.mp hfault
  -- no other field is read from the value, so the fault is the one of this field
  obtain ⟨g, hg, hgfault⟩ := Field.readAll_fault hall
  have hsame : g = f := by
    by_contra hne
    obtain ⟨d, _, hother⟩ := read_alone_other hf v hg hne
    cases hother.symm.trans hgfault
  subst hsame
  cases hread.symm.trans hgfault
  rw [built_eq_construct (kind_alone hf v), run_construct_refused hall]
  rfl

theorem readAll_alone_issues {found : List Issue}
    (hcheck : f.shape.check v = .error (.issues found)) :
    Field.readAll Shape.check true k.fields [(f.name, v)] =
      .error ((Refusal.issues found).under (.key f.name)) := by
  have hread : f.read Shape.check [(f.name, v)] =
      .error ((Refusal.issues found).under (.key f.name)) := by
    simp only [read_alone hf, hcheck]
    rfl
  have hone : (f.only [(f.name, v)]).length ≤ 1 := List.length_filter_le _ _
  have hnoFault : Refusal.NoFault (f.read Shape.check [(f.name, v)]) := by
    rw [hread]
    exact Refusal.noFault_issues _
  have hno : ∀ w, f.read Shape.check [(f.name, v)] ≠ .ok w := by
    rw [hread]
    exact fun _ h => nomatch h
  have hfound := (defaulted_fields k).found_only hf hone hnoFault
  have hfaults : Refusal.NoFault (Field.readAll Shape.check true k.fields
      (f.only [(f.name, v)])) ↔ Refusal.NoFault (f.read Shape.check [(f.name, v)]) :=
    (defaulted_fields k).readAll_only_noFault_iff hf
  rw [only_alone hf v, hread] at hfound
  rw [only_alone hf v] at hfaults
  obtain ⟨issues, hissues⟩ := Field.readAll_refused true
    ((Field.readAll_noFault_iff true).mp (hfaults.mpr hnoFault)) hf hno
  rw [hissues] at hfound ⊢
  exact congrArg (fun found => Except.error (Refusal.issues found)) hfound

/-- What a field refuses is refused for that reason. -/
theorem refuses {reason : Reason} (hcheck : f.shape.check v = .error (.because reason)) :
    k.Refuses f v reason where
  alone h := by
    rw [built_eq_construct (kind_alone hf v),
      run_construct_refused (readAll_alone_issues hf hcheck)]
    rfl
  among h overrides key hgiven := by
    have hread : f.read Shape.check overrides = .error (.issues [⟨reason, [.key key]⟩]) := by
      simp only [Field.read, hgiven, hcheck]
      rfl
    rcases hall : Field.readAll Shape.check true k.fields overrides with
      (issues | fault) | attributes
    · refine .inr ⟨issues, run_construct_refused hall h, ?_⟩
      have hnoFault : Refusal.NoFault (Field.readAll Shape.check true k.fields overrides) := by
        rw [hall]
        exact Refusal.noFault_issues _
      have hfound := Field.found_readAll ((Field.readAll_noFault_iff true).mp hnoFault)
      rw [hall] at hfound
      change issues = _ at hfound
      rw [hfound]
      refine List.mem_append_left _ (List.mem_flatMap.mpr ⟨f, hf, ?_⟩)
      rw [hread]
      exact List.mem_singleton_self _
    · exact .inl ⟨fault, run_construct_refused hall h⟩
    · obtain ⟨_, val, hval, _⟩ := Field.readAll_ok_iff.mp hall
      cases hread.symm.trans (hval f hf)

end Refused

end Kind

end SceneSource
