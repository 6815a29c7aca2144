-- SUMMARY: Overrides do not depend on each other: each one by itself says what it does in company.
import SceneSource.Proofs.Documents
import SceneSource.Proofs.Host

/-!
# Overrides

What is built from some overrides can be told from what is built from each of them alone:
whether it can be built, what its fields hold, what its document says, and what is wrong
with it if it cannot be built.
-/

namespace SceneSource

/-- What building the payload of a kind from overrides gives. -/
def built (k : Kind) (h : Host) (overrides : List (String × Value)) : Except Failure Value :=
  ((Action.build (.text k.tag) overrides).run h).1

/-- The issues of an outcome. -/
def issuesOf : Except Failure Value → List Issue
  | .error (.invalid _ issues) => issues
  | _ => []

/-- What is wrong with a key that no field has. -/
def strayIssue (e : String × Value) : Issue := ⟨.extra, [.key e.1]⟩

/-! ## What is built -/

section Built

variable {k : Kind} {h : Host} {c : Config} (hc : h.configuration = .ok c)
include hc

/-- With a configuration, an instance is constructed as it is read. -/
theorem run_construct_payload (entries : List (String × Value)) :
    ((Action.construct (.payload k) entries).run h).1 =
      ((Model.payload k).read entries).mapError (.ofRefusal k.modelName) := by
  unfold Action.construct
  cases (Model.payload k).read entries with
  | error r => rfl
  | ok v =>
    cases hk : k.minimums.isEmpty with
    | true =>
      exact congrArg Prod.fst (Action.run_bind_ok (Action.run_warnBelowMinimums_of_isEmpty hk v) _)
    | false =>
      exact congrArg Prod.fst (Action.run_bind_ok (Action.run_warnBelowMinimums_ok hk hc v) _)

omit hc in
/-- A payload that was read has what was read for each of its fields. -/
theorem eq_record_of_read {entries : List (String × Value)} {p : Value}
    (hp : (Model.payload k).read entries = .ok p) : ∃ val : Field Shape → Value,
      (∀ f ∈ k.fields, f.read Shape.check entries = .ok (val f)) ∧
      p = .record (.payload k) (k.fields.map fun f => (f.name, val f)) := by
  obtain ⟨attributes, hread, rfl⟩ := Outcome.map_eq_ok hp
  obtain ⟨_, val, hval, rfl⟩ := Field.readAll_eq_ok_iff.mp hread
  exact ⟨val, hval, rfl⟩

theorem built_eq {entries : List (String × Value)} (hkind : ∀ e ∈ entries, e.1 ≠ "source_kind") :
    built k h entries =
      ((Field.readAll Shape.check true k.fields entries).map (.record (.payload k))).mapError
        (.ofRefusal k.modelName) := by
  have hany : entries.any (·.1 == "source_kind") = false := by simpa using hkind
  unfold built Action.build
  simp only [hany, Action.kindOf_tag]
  exact run_construct_payload hc entries

theorem built_ok_iff {entries : List (String × Value)} (hkind : ∀ e ∈ entries, e.1 ≠ "source_kind")
    {p : Value} :
    built k h entries = .ok p ↔ ∃ attributes,
      Field.readAll Shape.check true k.fields entries = .ok attributes ∧
      p = .record (.payload k) attributes := by
  simp only [built_eq hc hkind]
  rcases Field.readAll Shape.check true k.fields entries with (_ | _) | attributes
  · exact ⟨fun h => (nomatch h), fun ⟨_, h, _⟩ => (nomatch h)⟩
  · exact ⟨fun h => (nomatch h), fun ⟨_, h, _⟩ => (nomatch h)⟩
  · constructor
    · intro h
      exact ⟨attributes, rfl, (Except.ok.inj h).symm⟩
    · rintro ⟨_, ⟨⟩, rfl⟩
      rfl

/-- What is built is a fault exactly if a check ends in one. -/
theorem built_noFault_iff {entries : List (String × Value)}
    (hkind : ∀ e ∈ entries, e.1 ≠ "source_kind") :
    (∀ f, built k h entries ≠ .error (.fault f)) ↔
      Refusal.NoFault (Field.readAll Shape.check true k.fields entries) := by
  simp only [built_eq hc hkind]
  unfold Refusal.NoFault
  rcases Field.readAll Shape.check true k.fields entries with (_ | _) | _ <;>
    simp [Except.map, Except.mapError, Failure.ofRefusal]

theorem issuesOf_built {entries : List (String × Value)}
    (hkind : ∀ e ∈ entries, e.1 ≠ "source_kind") :
    issuesOf (built k h entries) =
      Refusal.found (Field.readAll Shape.check true k.fields entries) := by
  simp only [built_eq hc hkind]
  rcases Field.readAll Shape.check true k.fields entries with (_ | _) | _ <;> rfl

/-- What cannot be built, but not for a fault, is refused with its issues. -/
theorem built_error {entries : List (String × Value)}
    (hkind : ∀ e ∈ entries, e.1 ≠ "source_kind")
    (hfault : ∀ f, built k h entries ≠ .error (.fault f)) (hno : ¬ ∃ p, built k h entries = .ok p) :
    built k h entries = .error (.invalid k.modelName (issuesOf (built k h entries))) := by
  simp only [built_eq hc hkind] at hfault hno ⊢
  generalize Field.readAll Shape.check true k.fields entries = outcome at hfault hno ⊢
  rcases outcome with (issues | f) | attributes
  · rfl
  · exact absurd rfl (hfault f)
  · exact absurd ⟨_, rfl⟩ hno

end Built

/-! ## Overrides one by one -/

/-- The issues of overrides are those of each of them: of the known fields in their order,
    then of every key that no field has. -/
def combinedIssues (k : Kind) (h : Host) (overrides : List (String × Value)) : List Issue :=
  k.fields.flatMap (fun f => (f.only overrides).flatMap fun e => issuesOf (built k h [e])) ++
    (Field.unknown k.fields overrides).flatMap fun e => issuesOf (built k h [e])

/-- Overrides that building one payload tells apart: what comes out of all of them is put
    together from what comes out of each. -/
structure Independent (k : Kind) (h : Host) (overrides : List (String × Value)) : Prop where
  /-- They can be used together exactly if each can be used alone. -/
  succeeds_iff : (∃ p, built k h overrides = .ok p) ↔ ∀ e ∈ overrides, ∃ q, built k h [e] = .ok q
  /-- Each field holds what its own override gives it, or its default. -/
  holds : ∀ p, built k h overrides = .ok p → ∀ f ∈ k.fields,
    (∀ e ∈ f.only overrides, ∀ q, built k h [e] = .ok q →
      p.attribute? f.name = q.attribute? f.name ∧ (p.attribute? f.name).isSome) ∧
    (f.only overrides = [] → p.attribute? f.name = f.default?)
  /-- If each of them has a document, so have all of them together. It has the keys of the
      kind in their order, and under the keys of each field what stands there in the document
      for the override of the field alone, or without any. -/
  document : ∀ p, built k h overrides = .ok p →
    (∀ e ∈ overrides, ∃ q j, built k h [e] = .ok q ∧ document q = .ok j) →
    ∃ entries, document p = .ok (.object entries) ∧
      entries.map (·.1) = k.wires ++ p.cropKeysWithin ∧
      ∀ f ∈ k.fields, ∃ q alone, built k h (f.only overrides) = .ok q ∧
        document q = .ok (.object alone) ∧
        ∀ key, f.Carries key → entries.lookup key = alone.lookup key
  /-- A crop that has all its attributes has all the keys of its variant. -/
  crop : ∀ p variant attributes, built k h overrides = .ok p →
    p.attribute? "crop_mode" = some (.record (.part (.crop variant)) attributes) →
    (∀ w ∈ variant.wires, (attributes.lookup w.1).isSome) →
    p.cropKeysWithin = "crop_mode" :: variant.wires.map (·.2)
  /-- If one of them is refused, all of them are, with the issues of each. -/
  refused : (∃ e ∈ overrides, ¬ ∃ q, built k h [e] = .ok q) →
    built k h overrides = .error (.invalid k.modelName (combinedIssues k h overrides))
  /-- A key that no field has is one issue. -/
  unknown : ∀ e ∈ Field.unknown k.fields overrides,
    built k h [e] = .error (.invalid k.modelName [strayIssue e])

/-! ## What overrides are -/

section Overrides

variable {k : Kind} {overrides : List (String × Value)}

theorem keys_cases (k : Kind) : ∀ f ∈ k.fields,
    f.keys = [f.name] ∨ k = .vlcSource ∧ f.keys = ["loop", "bool"] := by
  cases k <;> decide

/-- Overrides with different keys hold one value for each field, unless both keys of the loop
    of a playlist are among them. -/
theorem single_of_nodup (hkeys : (overrides.map (·.1)).Nodup)
    (hloop : k = .vlcSource → ¬ ("loop" ∈ overrides.map (·.1) ∧ "bool" ∈ overrides.map (·.1))) :
    Field.Single k.fields overrides := by
  intro f hf
  have hsame : ∀ e ∈ f.only overrides, ∀ e' ∈ f.only overrides, e.1 = e'.1 := by
    intro e he e' he'
    obtain ⟨hmem, hkey⟩ := Field.mem_only.mp he
    obtain ⟨hmem', hkey'⟩ := Field.mem_only.mp he'
    rcases keys_cases k f hf with hone | ⟨hvlc, htwo⟩
    · simp only [hone, List.mem_singleton] at hkey hkey'
      simp only [hkey, hkey']
    · simp only [htwo] at hkey hkey'
      have hin : e.1 ∈ overrides.map (·.1) := List.mem_map_of_mem hmem
      have hin' : e'.1 ∈ overrides.map (·.1) := List.mem_map_of_mem hmem'
      rcases List.mem_pair.mp hkey with h | h <;> rcases List.mem_pair.mp hkey' with h' | h' <;>
        simp only [h] at hin ⊢ <;> simp only [h'] at hin' ⊢
      · exact absurd ⟨hin, hin'⟩ (hloop hvlc)
      · exact absurd ⟨hin', hin⟩ (hloop hvlc)
  have hnodup : ((f.only overrides).map (·.1)).Nodup :=
    hkeys.sublist (List.Sublist.map _ List.filter_sublist)
  generalize f.only overrides = own at hsame hnodup ⊢
  rcases own with _ | ⟨e, _ | ⟨e', rest⟩⟩
  · exact Nat.zero_le 1
  · exact Nat.le_refl 1
  · have heq := hsame e (List.mem_cons_self ..) e' (List.mem_cons_of_mem _ (List.mem_cons_self ..))
    simp only [List.map_cons, heq, List.nodup_cons] at hnodup
    exact absurd (List.mem_cons_self ..) hnodup.1

theorem known_or_unknown {e : String × Value} (he : e ∈ overrides) :
    (∃ f ∈ k.fields, e ∈ f.only overrides) ∨ e ∈ Field.unknown k.fields overrides := by
  by_cases hknown : ∃ f ∈ k.fields, e.1 ∈ f.keys
  · obtain ⟨f, hf, hkey⟩ := hknown
    exact .inl ⟨f, hf, Field.mem_only.mpr ⟨he, hkey⟩⟩
  · exact .inr (Field.mem_unknown.mpr ⟨he, fun f hf hkey => hknown ⟨f, hf, hkey⟩⟩)

end Overrides

/-! ## Independence -/

/-- The payload of a kind that has every default has a document. -/
theorem document_default (k : Kind) : ∃ j, document (.record (.payload k)
    (k.fields.map fun f => (f.name, f.default?.getD .null))) = .ok j := by
  cases k <;> exact ⟨_, rfl⟩

section Independence

variable {k : Kind} {h : Host} {overrides : List (String × Value)}
  (hkind : ∀ e ∈ overrides, e.1 ≠ "source_kind")
include hkind

theorem kind_only (f : Field Shape) : ∀ e ∈ f.only overrides, e.1 ≠ "source_kind" :=
  fun e he => hkind e (Field.mem_only.mp he).1

theorem kind_singleton {e : String × Value} (he : e ∈ overrides) :
    ∀ e' ∈ [e], e'.1 ≠ "source_kind" :=
  fun _ he' => List.mem_singleton.mp he' ▸ hkind e he

variable {c : Config} (hc : h.configuration = .ok c)
include hc

/-- A key that no field has is refused as such. -/
theorem built_unknown {e : String × Value} (he : e ∈ Field.unknown k.fields overrides) :
    built k h [e] = .error (.invalid k.modelName [strayIssue e]) := by
  obtain ⟨hmem, hnone⟩ := Field.mem_unknown.mp he
  simp only [built_eq hc (kind_singleton hkind hmem), (defaulted_fields k).readAll_unknown hnone]
  rfl

/-- The override of a field can be used alone exactly if the field can be read. -/
theorem built_only_ok_iff {f : Field Shape} (hf : f ∈ k.fields)
    (hone : (f.only overrides).length ≤ 1) :
    (∃ q, built k h (f.only overrides) = .ok q) ↔ ∃ v, f.read Shape.check overrides = .ok v := by
  simp only [← (defaulted_fields k).readAll_only_ok_iff hf hone]
  simp only [built_ok_iff hc (kind_only hkind f)]
  constructor
  · rintro ⟨_, attributes, hread, _⟩
    exact ⟨attributes, hread⟩
  · rintro ⟨attributes, hread⟩
    exact ⟨_, attributes, hread, rfl⟩

/-- A built payload holds what was read for each of its fields. -/
theorem eq_record_of_built {p : Value} (hp : built k h overrides = .ok p) :
    ∃ val : Field Shape → Value,
      (∀ f ∈ k.fields, f.read Shape.check overrides = .ok (val f)) ∧
      p = .record (.payload k) (k.fields.map fun f => (f.name, val f)) := by
  simp only [built_eq hc hkind] at hp
  exact eq_record_of_read (Outcome.mapError_eq_ok hp)

variable (hsingle : Field.Single k.fields overrides)
include hsingle

theorem built_ok_iff_each :
    (∃ p, built k h overrides = .ok p) ↔ ∀ e ∈ overrides, ∃ q, built k h [e] = .ok q := by
  constructor
  · rintro ⟨p, hp⟩ e he
    obtain ⟨attributes, hread, _⟩ := (built_ok_iff hc hkind).mp hp
    obtain ⟨hextra, val, hval, _⟩ := Field.readAll_ok_iff.mp hread
    rcases known_or_unknown (k := k) he with ⟨f, hf, hown⟩ | hunknown
    · simp only [← hsingle.only_eq hf hown]
      exact (built_only_ok_iff hkind hc hf (hsingle f hf)).mpr ⟨val f, hval f hf⟩
    · simp only [Field.extraIssues_eq hsingle, List.map_eq_nil_iff] at hextra
      simp only [hextra] at hunknown
      cases hunknown
  · intro heach
    have hread : ∀ f ∈ k.fields, ∃ v, f.read Shape.check overrides = .ok v := by
      intro f hf
      rcases hsingle.only_cases hf with hnone | ⟨e, he, hown⟩
      · obtain ⟨v, hv⟩ := Option.isSome_iff_exists.mp ((defaulted_fields k).defaults f hf)
        exact ⟨v, Field.read_of_only_nil hnone hv⟩
      · simp only [← built_only_ok_iff hkind hc hf (hsingle f hf), hown]
        exact heach e he
    have hextra : Field.extraIssues k.fields overrides = [] := by
      simp only [Field.extraIssues_eq hsingle, List.map_eq_nil_iff]
      refine List.eq_nil_iff_forall_not_mem.mpr fun e he => ?_
      obtain ⟨q, hq⟩ := heach e (Field.mem_unknown.mp he).1
      simp only [built_unknown hkind hc he] at hq
      cases hq
    choose! val hval using hread
    exact ⟨_, (built_ok_iff hc hkind).mpr
      ⟨_, Field.readAll_ok_iff.mpr ⟨hextra, val, hval, rfl⟩, rfl⟩⟩

/-- A field holds what its own override gives it, or its default. -/
theorem built_holds {p : Value} (hp : built k h overrides = .ok p) {f : Field Shape}
    (hf : f ∈ k.fields) :
    (∀ e ∈ f.only overrides, ∀ q, built k h [e] = .ok q →
      p.attribute? f.name = q.attribute? f.name ∧ (p.attribute? f.name).isSome) ∧
    (f.only overrides = [] → p.attribute? f.name = f.default?) := by
  have hdef := defaulted_fields k
  obtain ⟨val, hval, rfl⟩ := eq_record_of_built hkind hc hp
  have hattribute : (Value.record (.payload k) (k.fields.map fun f => (f.name, val f))).attribute?
      f.name = some (val f) := hdef.lookup_name val hf
  constructor
  · intro e he q hq
    simp only [← hsingle.only_eq hf he] at hq
    obtain ⟨val', hval', rfl⟩ := eq_record_of_built (kind_only hkind f) hc hq
    have hsame : val' f = val f :=
      Except.ok.inj ((hval' f hf).symm.trans ((Field.read_only _ f _).trans (hval f hf)))
    rw [hattribute, Value.attribute?, hdef.lookup_name val' hf, hsame]
    exact ⟨rfl, rfl⟩
  · intro hnone
    obtain ⟨v, hv⟩ := Option.isSome_iff_exists.mp (hdef.defaults f hf)
    rw [hattribute, hv, Except.ok.inj ((hval f hf).symm.trans (Field.read_of_only_nil hnone hv))]

/-- Each field has its document by itself: with its own override, or with none. -/
theorem built_only_document
    (heach : ∀ e ∈ overrides, ∃ q j, built k h [e] = .ok q ∧ document q = .ok j)
    {f : Field Shape} (hf : f ∈ k.fields) :
    ∃ q j, built k h (f.only overrides) = .ok q ∧ document q = .ok j := by
  rcases hsingle.only_cases hf with hnone | ⟨e, he, hown⟩
  · have hdefault : ∀ g ∈ k.fields, g.read Shape.check [] = .ok (g.default?.getD .null) := by
      intro g hg
      obtain ⟨v, hv⟩ := Option.isSome_iff_exists.mp ((defaulted_fields k).defaults g hg)
      rw [hv, Field.read_of_only_nil rfl hv]
      rfl
    obtain ⟨j, hj⟩ := document_default k
    refine ⟨_, j, (built_ok_iff hc (kind_only hkind f)).mpr ⟨_, ?_, rfl⟩, hj⟩
    simp only [hnone]
    exact Field.readAll_ok_iff.mpr ⟨rfl, _, hdefault, rfl⟩
  · simp only [hown]
    exact heach e he

/-- The document of a payload is put together from those of its fields. -/
theorem built_document {p : Value} (hp : built k h overrides = .ok p)
    (heach : ∀ e ∈ overrides, ∃ q j, built k h [e] = .ok q ∧ document q = .ok j) :
    ∃ entries, document p = .ok (.object entries) ∧
      entries.map (·.1) = k.wires ++ p.cropKeysWithin ∧
      ∀ f ∈ k.fields, ∃ q alone, built k h (f.only overrides) = .ok q ∧
        document q = .ok (.object alone) ∧
        ∀ key, f.Carries key → entries.lookup key = alone.lookup key := by
  obtain ⟨val, hval, rfl⟩ := eq_record_of_built hkind hc hp
  have halone : ∀ f ∈ k.fields, ∃ (q : Value) (segment : Field Shape → List (String × Json))
      (val' : Field Shape → Value), built k h (f.only overrides) = .ok q ∧
      document q = .ok (.object (k.fields.flatMap segment)) ∧
      (∀ g ∈ k.fields, k.segment g (val' g) = .ok (segment g)) ∧ val' f = val f := by
    intro f hf
    obtain ⟨q, j, hq, hj⟩ := built_only_document hkind hc hsingle heach hf
    obtain ⟨val', hval', rfl⟩ := eq_record_of_built (kind_only hkind f) hc hq
    obtain ⟨segment, hsegment, rfl⟩ := document_ok_iff.mp hj
    refine ⟨_, segment, val', hq, hj, hsegment, ?_⟩
    exact Except.ok.inj ((hval' f hf).symm.trans ((Field.read_only _ f _).trans (hval f hf)))
  choose! q segment val' hq hj hsegment hsame using halone
  have hown : ∀ f ∈ k.fields, k.segment f (val f) = .ok (segment f f) := by
    intro f hf
    simp only [← hsame f hf]
    exact hsegment f hf f hf
  refine ⟨_, document_ok_iff.mpr ⟨fun f => segment f f, hown, rfl⟩, ?_, ?_⟩
  · exact keys_segments hown
  · intro f hf
    refine ⟨q f, _, hq f hf, hj f hf, fun key hkey => ?_⟩
    simp only [lookup_segments hown hf hkey, lookup_segments (hsegment f hf) hf hkey]

variable (hfault : ∀ e ∈ overrides, ∀ f, built k h [e] ≠ .error (.fault f))
include hfault

theorem read_noFault {f : Field Shape} (hf : f ∈ k.fields) :
    Refusal.NoFault (f.read Shape.check overrides) := by
  have hdef := defaulted_fields k
  rcases hsingle.only_cases hf with hnone | ⟨e, he, hown⟩
  · obtain ⟨v, hv⟩ := Option.isSome_iff_exists.mp (hdef.defaults f hf)
    simp only [Field.read_of_only_nil hnone hv]
    exact fun _ h => nomatch h
  · simp only [← hdef.readAll_only_noFault_iff hf, hown,
      ← built_noFault_iff hc (kind_singleton hkind he)]
    exact hfault e he

/-- What is wrong with a field is what is wrong with its own override. -/
theorem found_read {f : Field Shape} (hf : f ∈ k.fields) :
    Refusal.found (f.read Shape.check overrides) =
      (f.only overrides).flatMap fun e => issuesOf (built k h [e]) := by
  have hdef := defaulted_fields k
  rcases hsingle.only_cases hf with hnone | ⟨e, he, hown⟩
  · obtain ⟨v, hv⟩ := Option.isSome_iff_exists.mp (hdef.defaults f hf)
    simp only [hnone, Field.read_of_only_nil hnone hv]
    rfl
  · simp only [← hdef.found_only hf (hsingle f hf) (read_noFault hkind hc hsingle hfault hf), hown,
      ← issuesOf_built hc (kind_singleton hkind he)]
    exact (List.flatMap_singleton ..).symm

/-- The issues of overrides are those of each of them. -/
theorem issuesOf_built_overrides :
    issuesOf (built k h overrides) = combinedIssues k h overrides := by
  have hextra : Field.extraIssues k.fields overrides =
      (Field.unknown k.fields overrides).flatMap fun e => issuesOf (built k h [e]) := by
    simp only [Field.extraIssues_eq hsingle, List.map_eq_flatMap]
    refine List.flatMap_congr fun e he => ?_
    simp only [built_unknown hkind hc he]
    rfl
  simp only [issuesOf_built hc hkind,
    Field.found_readAll fun f hf => read_noFault hkind hc hsingle hfault hf, hextra,
    combinedIssues,
    List.flatMap_congr fun f hf => found_read hkind hc hsingle hfault hf]

theorem built_refused (hsome : ∃ e ∈ overrides, ¬ ∃ q, built k h [e] = .ok q) :
    built k h overrides = .error (.invalid k.modelName (combinedIssues k h overrides)) := by
  have hno : ¬ ∃ p, built k h overrides = .ok p := by
    simp only [built_ok_iff_each hkind hc hsingle]
    obtain ⟨e, he, hrefused⟩ := hsome
    exact fun heach => hrefused (heach e he)
  have hnoFault : ∀ f, built k h overrides ≠ .error (.fault f) := by
    simp only [built_noFault_iff hc hkind, Field.readAll_noFault_iff]
    exact fun f hf => read_noFault hkind hc hsingle hfault hf
  simp only [← issuesOf_built_overrides hkind hc hsingle hfault]
  exact built_error hc hkind hnoFault hno

end Independence

/-- The overrides of a payload are independent of each other, as long as no field is given
    twice, the kind is not among them, and no check of any of them ends in a fault. -/
theorem build_independent (k : Kind) (h : Host) (c : Config) (hc : h.configuration = .ok c)
    (overrides : List (String × Value)) (hkeys : (overrides.map (·.1)).Nodup)
    (hkind : ∀ e ∈ overrides, e.1 ≠ "source_kind")
    (hloop : k = .vlcSource → ¬ ("loop" ∈ overrides.map (·.1) ∧ "bool" ∈ overrides.map (·.1)))
    (hfault : ∀ e ∈ overrides, ∀ f, built k h [e] ≠ .error (.fault f)) :
    Independent k h overrides :=
  have hsingle := single_of_nodup hkeys hloop
  { succeeds_iff := built_ok_iff_each hkind hc hsingle
    holds := fun _ hp _ hf => built_holds hkind hc hsingle hp hf
    document := fun _ hp heach => built_document hkind hc hsingle hp heach
    crop := fun p variant attributes _ hp hcomplete => by
      simp only [Value.cropKeysWithin, hp]
      exact Value.cropKeys_complete hcomplete
    refused := built_refused hkind hc hsingle hfault
    unknown := fun _ he => built_unknown hkind hc he }

/-- A width that a browser source takes, and a key that it does not have. -/
theorem build_independent_browser :
    ({ config? := some {} } : Host).configuration = .ok {} ∧
    ([("width", Value.int 1024), ("depth", .int 3)].map (·.1)).Nodup ∧
    Independent .browserSource { config? := some {} }
      [("width", .int 1024), ("depth", .int 3)] := by
  refine ⟨rfl, by decide, build_independent .browserSource _ {} rfl _ (by decide) ?_ ?_ ?_⟩
  · intro e he
    rcases List.mem_pair.mp he with rfl | rfl <;> decide
  · exact fun h => nomatch h
  · intro e he f hf
    rcases List.mem_pair.mp he with rfl | rfl <;> cases hf

end SceneSource
