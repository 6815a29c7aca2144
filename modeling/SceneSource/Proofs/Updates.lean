-- SUMMARY: Updates fail as their serialization fails, or else over the name of the source only.
import SceneSource.Proofs.Serialization
import SceneSource.Proofs.Documents

/-!
# Updates

An update is a serialization and then a construction. The document is always a mapping and
the kind always a text, so only the name of the source can be refused.
-/

namespace SceneSource

/-! ## Names -/

namespace Leaf

theorem spelled?_error {reason : Reason} {v : Value} {r : Refusal}
    (h : spelled? reason v = some (.error r)) : r = .because reason := by
  unfold spelled? at h
  split at h
  · split at h
    · cases h
    · cases h
      rfl
  · obtain ⟨s, _, hs⟩ := Option.map_eq_some_iff.mp h
    cases hs

/-- A text is refused for one reason. -/
theorem textOf_error {v : Value} {r : Refusal} (h : textOf v = .error r) :
    ∃ reason, r = .because reason := by
  unfold textOf at h
  split at h
  · rename_i hs
    simp only [h] at hs
    exact ⟨_, spelled?_error hs⟩
  · split at h
    · cases h
    · cases h
    · cases h
      exact ⟨_, rfl⟩

/-- A name is refused for one reason. -/
theorem nameOf_error {v : Value} {r : Refusal} (h : nameOf v = .error r) :
    ∃ reason, r = .because reason := by
  unfold nameOf at h
  cases ht : textOf v with
  | error e =>
    simp only [ht] at h
    cases h
    exact textOf_error ht
  | ok s =>
    simp only [ht] at h
    change (if s.isEmpty then _ else _) = _ at h
    split at h
    · cases h
      exact ⟨_, rfl⟩
    · cases h

end Leaf

/-- An update is read from its name only: a document is always a mapping. -/
theorem Model.read_update (name : Value) (entries : List (String × Json)) {kind : Value}
    (hkind : kind = .null ∨ ∃ s, kind = .text s) :
    Model.update.read [("source_name", name), ("source_settings", (Json.object entries).toValue),
        ("source_type", kind)] =
      ((Leaf.nameOf name).mapError (·.under (.key "source_name"))).map fun v =>
        .record .update [("source_name", v), ("source_type", kind),
          ("source_settings", (Json.object entries).toValue)] := by
  have htype : Leaf.check .optionalText kind = .ok kind := by
    rcases hkind with rfl | ⟨s, rfl⟩
    · rfl
    · rfl
  have hread : ∀ t : Except Refusal Value, t = Leaf.check .optionalText kind →
    Model.update.read [("source_name", name), ("source_settings", (Json.object entries).toValue),
        ("source_type", kind)] =
      ((Refusal.all [
        (((Leaf.nameOf name).mapError (·.under (.key "source_name"))).map fun v =>
          ("source_name", v)),
        ((t.mapError (·.under (.key "source_type"))).map fun v => ("source_type", v)),
        (.ok ("source_settings", (Json.object entries).toValue))]) |>
          (Refusal.join (fun a _ => a) · (.ok ()))).map
        (.record .update) := by
    rintro t rfl
    rfl
  simp only [hread _ rfl, htype]
  cases hn : Leaf.nameOf name with
  | ok v => rfl
  | error r =>
    obtain ⟨reason, rfl⟩ := Leaf.nameOf_error hn
    rfl

/-! ## Updates -/

namespace Action

variable {h : Host}

theorem eq_record_of_payloadKind? {payload : Value} {k : Kind}
    (hp : payloadKind? payload = some k) :
    ∃ attributes, payload = .record (.payload k) attributes := by
  unfold payloadKind? at hp
  split at hp
  · cases hp
    exact ⟨_, rfl⟩
  · cases hp

/-- Nothing but a payload has a kind. -/
theorem run_updateFrom_none {payload : Value} (hp : payloadKind? payload = none) (elapsed : Nat)
    (name : Value) (withKind : Bool) :
    (updateFrom elapsed name payload withKind).run h =
      (.error (.fault (.noAttribute payload.fullTypeName "source_kind")), h) := by
  unfold updateFrom
  simp only [hp]
  rfl

/-- An update whose serialization fails fails with it. -/
theorem run_updateFrom_error {k : Kind} {payload : Value} (hp : payloadKind? payload = some k)
    {elapsed : Nat} {f : Failure} {h' : Host}
    (hs : (serialize elapsed (.text k.tag) payload).run h = (.error f, h')) (name : Value)
    (withKind : Bool) : (updateFrom elapsed name payload withKind).run h = (.error f, h') := by
  unfold updateFrom
  simp only [hp]
  exact run_bind_error hs _

/-- A serialization that succeeds gives the document. -/
theorem serialize_ok {k : Kind} {payload : Value} (hp : payloadKind? payload = some k)
    {elapsed : Nat} {j : Json} {h' : Host}
    (hs : (serialize elapsed (.text k.tag) payload).run h = (.ok j, h')) :
    (∃ c, h.configuration = .ok c) ∧ document payload = .ok j := by
  obtain ⟨f, _, _, he⟩ | ⟨r, _, _, he⟩ | ⟨c, j', hc, hd, he⟩ | ⟨c, f, _, _, _, he⟩ :=
    run_serialize_cases h hp elapsed
  · cases he.symm.trans hs
  · cases he.symm.trans hs
  · cases he.symm.trans hs
    exact ⟨⟨c, hc⟩, hd⟩
  · cases he.symm.trans hs

/-- An update whose serialization succeeds depends on the name of the source only. -/
theorem run_updateFrom_ok {k : Kind} {payload : Value} (hp : payloadKind? payload = some k)
    {elapsed : Nat} {j : Json} {h' : Host}
    (hs : (serialize elapsed (.text k.tag) payload).run h = (.ok j, h')) (name : Value)
    (withKind : Bool) :
    (updateFrom elapsed name payload withKind).run h =
      match Leaf.nameOf name with
      | .ok v => (.ok (.record .update [("source_name", v),
          ("source_type", if withKind then .text k.tag else .null),
          ("source_settings", j.toValue)]), h')
      | .error r => (.error (.ofRefusal Model.update.name (r.under (.key "source_name"))), h') := by
  have hobject : ∃ entries, j = .object entries := by
    obtain ⟨attributes, rfl⟩ := eq_record_of_payloadKind? hp
    exact document_object (serialize_ok hp hs).2
  obtain ⟨entries, rfl⟩ := hobject
  have hkind : (if withKind then Value.text k.tag else .null) = .null ∨
      ∃ s, (if withKind then Value.text k.tag else .null) = .text s := by
    cases withKind with
    | true => exact .inr ⟨_, rfl⟩
    | false => exact .inl rfl
  unfold updateFrom
  simp only [hp]
  refine (run_bind_ok hs _).trans ?_
  unfold construct
  simp only [Model.read_update name entries hkind]
  cases Leaf.nameOf name with
  | ok v => rfl
  | error r => rfl

/-- An update that is refused as an update has made its document: only the name of the
    source is wrong with it. -/
theorem updateFrom_invalid {elapsed : Nat} {name payload : Value} {withKind : Bool}
    {issues : List Issue}
    (hout : ((updateFrom elapsed name payload withKind).run h).1 =
      .error (.invalid Model.update.name issues)) :
    ∃ k j reason, payloadKind? payload = some k ∧ document payload = .ok j ∧
      issues = [⟨reason, [.key "source_name"]⟩] := by
  cases hp : payloadKind? payload with
  | none =>
    simp only [run_updateFrom_none hp] at hout
    cases hout
  | some k =>
    have hfails : ∀ f h', (serialize elapsed (.text k.tag) payload).run h = (.error f, h') →
        f = .invalid Model.update.name issues := by
      intro f h' hs
      simp only [run_updateFrom_error hp hs] at hout
      exact Except.error.inj hout
    obtain ⟨f, _, _, hs⟩ | ⟨r, _, _, hs⟩ | ⟨c, j, _, hd, hs⟩ | ⟨c, f, _, _, _, hs⟩ :=
      run_serialize_cases h hp elapsed
    · cases hfails _ _ hs
    · have htitle : Config.title ≠ Model.update.name := by decide
      cases r with
      | issues found => exact absurd (Failure.invalid.inj (hfails _ _ hs)).1 htitle
      | fault f => cases hfails _ _ hs
    · simp only [run_updateFrom_ok hp hs] at hout
      cases hn : Leaf.nameOf name with
      | ok v =>
        simp only [hn] at hout
        cases hout
      | error r =>
        obtain ⟨reason, rfl⟩ := Leaf.nameOf_error hn
        simp only [hn] at hout
        exact ⟨k, j, reason, rfl, hd, (Failure.invalid.inj (Except.error.inj hout)).2.symm⟩
    · cases hfails _ _ hs

end Action

end SceneSource
