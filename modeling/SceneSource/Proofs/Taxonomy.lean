-- SUMMARY: How building a payload from plain data can end, and exactly which data escapes.
import SceneSource.Proofs.Conversions
import SceneSource.Proofs.ReadBack
import SceneSource.Proofs.Updates

/-!
# The taxonomy of constructions

Building a payload is to end in the payload, in an unknown kind or in issues. Checks of plain
data keep to that, with two exceptions: a color with an infinite channel, and a duration that
is infinite or too long. Both end the construction in an overflow. Besides, the kind itself
cannot be given a second time.
-/

namespace SceneSource

/-! ## Outcomes of checks -/

/-- A harmless conversion is an issue at worst. -/
theorem Refusal.noFault_converted {x : Except Fault Value} (hx : Harmless x) :
    NoFault (Leaf.converted x) := by
  cases x with
  | ok a => exact noFault_ok _
  | error f =>
    have hissue : ofFault f = because (.fault f) := if_pos (hx f rfl)
    change NoFault (.error (ofFault f))
    rw [hissue]
    exact noFault_because _

/-- That a check overflows under a condition and ends in no fault otherwise. -/
structure Refusal.OverflowsIff {α : Type} (condition : Prop) (outcome : Except Refusal α) :
    Prop where
  overflow : condition → ∃ f, outcome = .error (.fault f) ∧ f.category = .overflow
  noFault : ¬ condition → NoFault outcome

section Overflows

variable {α : Type} {condition : Prop}

namespace Refusal

theorem NoFault.overflowsIff {x : Except Refusal α} (hx : NoFault x) (hnot : ¬ condition) :
    OverflowsIff condition x := ⟨fun h => absurd h hnot, fun _ => hx⟩

theorem overflowsIff_converted {x : Except Fault Value} (hx : Fault.OverflowsIff condition x) :
    OverflowsIff condition (Leaf.converted x) where
  overflow h := by
    obtain ⟨f, rfl, hf⟩ := hx.overflow h
    have hvalue : f.category ≠ .value := by
      rw [hf]
      decide
    exact ⟨f, congrArg Except.error (if_neg hvalue), hf⟩
  noFault h := noFault_converted (hx.harmless h)

theorem OverflowsIff.under {x : Except Refusal α} (hx : OverflowsIff condition x) (s : Step) :
    OverflowsIff condition (x.mapError (·.under s)) where
  overflow h := by
    obtain ⟨f, rfl, hf⟩ := hx.overflow h
    exact ⟨f, rfl, hf⟩
  noFault h := (hx.noFault h).under s

/-- The fault of such a check is an overflow. -/
theorem OverflowsIff.category {x : Except Refusal α} (hx : OverflowsIff condition x) {f : Fault}
    (hf : x = .error (.fault f)) : f.category = .overflow := by
  by_cases h : condition
  · obtain ⟨f', hf', hcategory⟩ := hx.overflow h
    cases hf.symm.trans hf'
    exact hcategory
  · exact absurd hf (hx.noFault h f)

end Refusal

end Overflows

/-! ## Leaves that nothing escapes from -/

namespace Leaf

open Refusal

theorem noFault_spelled {reason : Reason} {v : Value} {s : Except Refusal String}
    (h : spelled? reason v = some s) : NoFault s := by
  cases s with
  | ok t => exact noFault_ok t
  | error r =>
    rw [spelled?_error h]
    exact noFault_because reason

theorem noFault_textOf (v : Value) : NoFault (textOf v) := by
  intro f hf
  obtain ⟨reason, hr⟩ := textOf_error hf
  cases hr

theorem noFault_boolOfInt (n : Int) : NoFault (boolOfInt n) := by
  unfold boolOfInt
  split
  · exact noFault_ok _
  · split
    · exact noFault_ok _
    · exact noFault_because _

theorem noFault_booleanOf (v : Value) : NoFault (booleanOf v) := by
  unfold booleanOf
  split
  · exact noFault_ok _
  · split
    · exact noFault_boolOfInt _
    · exact noFault_because _
  · split
    · rename_i hs
      refine (noFault_spelled hs).bind fun s _ => ?_
      split
      · exact noFault_ok _
      · exact noFault_because _
    · exact noFault_boolOfInt _
    · exact noFault_because _

theorem noFault_integerOf (v : Value) : NoFault (integerOf v) := by
  unfold integerOf
  split
  · unfold integerOfReal
    split
    · exact noFault_because _
    · split
      · exact noFault_because _
      · exact noFault_because _
      · exact noFault_ok _
  · split
    · rename_i hs
      refine (noFault_spelled hs).bind fun s _ => ?_
      split
      · exact noFault_ok _
      · exact noFault_because _
      · exact noFault_because _
    · exact noFault_ok _
    · exact noFault_because _

theorem noFault_realOf (v : Value) : NoFault (realOf v) := by
  unfold realOf
  split
  · rename_i hs
    refine (noFault_spelled hs).bind fun s _ => ?_
    split
    · exact noFault_ok _
    · exact noFault_because _
  · split
    · exact noFault_ok _
    · exact noFault_because _
  · exact noFault_because _

theorem noFault_memberOf (e : Enumeration) (v : Value) : NoFault (memberOf e v) := by
  have hscalar : NoFault (scalarOf e v) := by
    unfold scalarOf
    simp only
    split
    · split
      · split
        · exact noFault_ok _
        · exact noFault_because _
      · exact noFault_because _
    · split
      · exact noFault_ok _
      · exact noFault_because _
  unfold memberOf
  simp only
  split
  -- a member of the enumeration stays what it is, everything else is looked up
  on_goal 1 => split
  · exact noFault_ok _
  all_goals
    refine hscalar.bind fun s _ => ?_
    split
    · exact noFault_ok _
    · exact noFault_because _

theorem noFault_tagOf (variant : CropVariant) (v : Value) : NoFault (tagOf variant v) := by
  unfold tagOf
  split
  · exact noFault_ok _
  · exact noFault_because _

end Leaf

/-! ## What escapes -/

/-- The plain data that a leaf overflows on. -/
inductive Leaf.Escapes : Leaf → Value → Prop where
  | color {v : Value} {channels : List Value} (given : Color.channels? v = some channels)
      (infinite : Color.StartsInfinite channels) : Escapes .color v
  | infiniteDuration {d : Double} (infinite : d.isInfinite = true) : Escapes .duration (.real d)
  | realDuration {d : Double} (finite : d.isFinite = true)
      (far : ¬ Duration.InRange (Duration.microsOf d)) : Escapes .duration (.real d)
  | wholeDuration {n : Int} (far : ¬ Duration.InRange (n * 1000)) : Escapes .duration (.int n)

namespace Leaf

open Refusal

theorem overflowsIff_colorOf {v : Value} (hv : v.isData = true) :
    Fault.OverflowsIff (Escapes .color v) (Color.ofValue v) := by
  cases hgiven : Color.channels? v with
  | none =>
    refine (Color.harmless_of_no_channels hv hgiven).overflowsIff ?_
    rintro ⟨hchannels, _⟩
    cases hgiven.symm.trans hchannels
  | some channels =>
    obtain ⟨whole, hwhole⟩ := Color.ofValue_of_channels hgiven
    have hiff : Escapes .color v ↔ Color.StartsInfinite channels := by
      constructor
      · rintro ⟨hchannels, hinfinite⟩
        cases hgiven.symm.trans hchannels
        exact hinfinite
      · exact .color hgiven
    rw [hwhole, hiff]
    exact Color.overflowsIff_ofChannels whole channels

theorem overflowsIff_ofMillisReal (d : Double) :
    Fault.OverflowsIff (Escapes .duration (.real d)) (Duration.ofMillisReal d) := by
  unfold Duration.ofMillisReal
  split
  · rename_i hnan
    refine (Harmless.error rfl).overflowsIff ?_
    obtain ⟨hfinite, hinfinite⟩ := Double.not_finite_of_isNaN hnan
    intro h
    cases h with
    | infiniteDuration h => exact Bool.false_ne_true (hinfinite.symm.trans h)
    | realDuration h => exact Bool.false_ne_true (hfinite.symm.trans h)
  · rename_i hnan
    split
    · rename_i hinfinite
      exact ⟨fun _ => ⟨_, rfl, rfl⟩, fun h => absurd (.infiniteDuration hinfinite) h⟩
    · rename_i hinfinite
      have hiff : Escapes .duration (.real d) ↔ ¬ Duration.InRange (Duration.microsOf d) := by
        constructor
        · intro h
          cases h with
          | infiniteDuration h => exact absurd h hinfinite
          | realDuration _ hfar => exact hfar
        · exact .realDuration (Double.isFinite_of_not hnan hinfinite)
      rw [hiff]
      exact Duration.overflowsIff_ofMicros _

theorem overflowsIff_durationOf {v : Value} (hv : v.isData = true) :
    Fault.OverflowsIff (Escapes .duration v) (durationOf v) := by
  cases v with
  | duration d => exact (Harmless.ok _).overflowsIff (nomatch ·)
  | bool b => exact (Harmless.error rfl).overflowsIff (nomatch ·)
  | real d => exact (overflowsIff_ofMillisReal d).map _
  | int n =>
    have hiff : Escapes .duration (.int n) ↔ ¬ Duration.InRange (n * 1000) :=
      ⟨fun | .wholeDuration far => far, .wholeDuration⟩
    rw [hiff]
    exact (Duration.overflowsIff_ofMicros (n * 1000)).map _
  | color | flags | choice | pathLike | ratio | size | record | object => cases hv
  | _ => exact (Harmless.error rfl).overflowsIff (nomatch ·)

/-- What a leaf does with plain data: it overflows on what escapes, and only on that. -/
theorem overflowsIff_check (l : Leaf) {v : Value} (hv : v.isData = true) :
    Refusal.OverflowsIff (l.Escapes v) (l.check v) := by
  cases l with
  | color => exact overflowsIff_converted (overflowsIff_colorOf hv)
  | duration => exact overflowsIff_converted (overflowsIff_durationOf hv)
  | boolean => exact (noFault_booleanOf v).overflowsIff (nomatch ·)
  | integer => exact ((noFault_integerOf v).map _).overflowsIff (nomatch ·)
  | real => exact (noFault_realOf v).overflowsIff (nomatch ·)
  | text => exact ((noFault_textOf v).map _).overflowsIff (nomatch ·)
  | name =>
    refine NoFault.overflowsIff ?_ (nomatch ·)
    intro f hf
    obtain ⟨reason, hr⟩ := nameOf_error hf
    cases hr
  | optionalText =>
    refine NoFault.overflowsIff ?_ (nomatch ·)
    cases v with
    | null => exact noFault_ok _
    | _ =>
      simp only [check]
      exact (noFault_textOf _).map _
  | mapping =>
    refine NoFault.overflowsIff ?_ (nomatch ·)
    cases v with
    | mapping entries => exact noFault_ok _
    | _ => exact noFault_because _
  | flags =>
    exact (noFault_converted ((FontFlags.harmless_ofValue v).map _)).overflowsIff (nomatch ·)
  | path => exact (noFault_converted (PathText.harmless_ofValue hv)).overflowsIff (nomatch ·)
  | boundingSize =>
    exact (noFault_converted (BoundingSize.harmless_ofValue v)).overflowsIff (nomatch ·)
  | choice e => exact (noFault_memberOf e v).overflowsIff (nomatch ·)
  | tag variant => exact (noFault_tagOf variant v).overflowsIff (nomatch ·)

end Leaf

/-- The plain data that a field overflows on: parts hold nothing that could overflow. -/
def Shape.Escapes : Shape → Value → Prop
  | .leaf l, v => l.Escapes v
  | .part _, _ | .parts _, _ | .embedded _, _ | .crop, _ => False

/-- That some override is plain data that its field overflows on. -/
def Kind.Escapes (k : Kind) (overrides : List (String × Value)) : Prop :=
  ∃ f ∈ k.fields, ∃ key v, f.given? overrides = some (key, v) ∧ f.shape.Escapes v

/-! ## Fields of plain data -/

section Fields

variable {σ : Type} {check : σ → Value → Except Refusal Value} {escapes : σ → Value → Prop}
  {entries : List (String × Value)} (hdata : ∀ e ∈ entries, e.2.isData = true)
include hdata

/-- A field overflows if its check overflows on what the field is given. -/
theorem Field.overflowsIff_read {f : Field σ} (hcheck : ∀ v : Value, v.isData = true →
    Refusal.OverflowsIff (escapes f.shape v) (check f.shape v)) :
    Refusal.OverflowsIff (∃ key v, f.given? entries = some (key, v) ∧ escapes f.shape v)
      (f.read check entries) := by
  unfold read
  cases hgiven : f.given? entries with
  | some e =>
    obtain ⟨key, v⟩ := e
    have hiff : (∃ key' v', some (key, v) = some (key', v') ∧ escapes f.shape v') ↔
        escapes f.shape v := by
      constructor
      · rintro ⟨_, _, ⟨⟩, h⟩
        exact h
      · exact fun h => ⟨key, v, rfl, h⟩
    rw [hiff]
    exact (hcheck v (hdata _ (Field.given?_eq_some hgiven).1)).under _
  | none =>
    refine Refusal.NoFault.overflowsIff ?_ (fun ⟨_, _, h, _⟩ => nomatch h)
    cases f.default? with
    | some v => exact Refusal.noFault_ok v
    | none => exact fun _ h => nomatch h

/-- An instance overflows if one of its fields does. -/
theorem Field.overflowsIff_readAll {fields : List (Field σ)} (closed : Bool)
    (hcheck : ∀ f ∈ fields, ∀ v : Value, v.isData = true →
      Refusal.OverflowsIff (escapes f.shape v) (check f.shape v)) :
    Refusal.OverflowsIff
      (∃ f ∈ fields, ∃ key v, f.given? entries = some (key, v) ∧ escapes f.shape v)
      (readAll check closed fields entries) := by
  have hread := fun f hf => Field.overflowsIff_read hdata (hcheck f hf)
  refine ⟨fun ⟨f, hf, hescapes⟩ => ?_, fun hnone => ?_⟩
  · obtain ⟨e, he, _⟩ := (hread f hf).overflow hescapes
    have hfault : ¬ Refusal.NoFault (readAll check closed fields entries) :=
      fun h => (readAll_noFault_iff closed).mp h f hf e he
    obtain ⟨e', he'⟩ := not_forall_not.mp hfault
    -- whichever field the fault is of, it is an overflow
    obtain ⟨g, hg, hge⟩ := readAll_fault he'
    exact ⟨e', he', (hread g hg).category hge⟩
  · exact (readAll_noFault_iff closed).mpr fun f hf =>
      (hread f hf).noFault fun h => hnone ⟨f, hf, h⟩

end Fields

/-! ## Parts of plain data -/

namespace Part

/-- The leaves of parts are neither colors nor durations. -/
theorem not_escapes {p : Part} {f : Field Leaf} (hf : f ∈ p.fields) (v : Value) :
    ¬ f.shape.Escapes v := by
  have hshape : f.shape ≠ .color ∧ f.shape ≠ .duration := by
    revert f
    cases p with
    | crop variant => cases variant <;> decide
    | _ => decide
  intro h
  generalize f.shape = l at h hshape
  cases h with
  | color => exact hshape.1 rfl
  | infiniteDuration | realDuration | wholeDuration => exact hshape.2 rfl

/-- Parts are read without faults. -/
theorem noFault_check (p : Part) {v : Value} (hv : v.isData = true) :
    Refusal.NoFault (p.check v) := by
  cases v with
  | mapping entries =>
    have hread := Field.overflowsIff_readAll (Value.areDataEntries_iff.mp hv)
      (Model.part p).isClosed fun f (_ : f ∈ p.fields) _ hw => f.shape.overflowsIff_check hw
    refine (hread.noFault ?_).map _
    rintro ⟨f, hf, _, w, _, hescapes⟩
    exact not_escapes hf w hescapes
  | record => cases hv
  | _ => exact Refusal.noFault_because _

end Part

namespace CropVariant

theorem noFault_check {v : Value} (hv : v.isData = true) : Refusal.NoFault (check v) := by
  cases v with
  | mapping entries =>
    simp only [check]
    split
    · unfold checkTagged
      split
      · exact ((Part.crop _).noFault_check hv).under _
      · exact Refusal.noFault_because _
    · exact Refusal.noFault_because _
  | record => cases hv
  | _ => exact Refusal.noFault_because _

end CropVariant

namespace Shape

open Refusal

theorem isData_of_items? {v : Value} (hv : v.isData = true) {xs : List Value}
    (h : items? v = some xs) : ∀ x ∈ xs, x.isData = true := by
  cases v with
  | list ys | tuple ys | set ys =>
    cases h
    exact Value.areData_iff.mp hv
  | color | flags | choice | pathLike | ratio | size | record | object => cases hv
  | _ => cases h

theorem noFault_checkParts (p : Part) {v : Value} (hv : v.isData = true) :
    NoFault (checkParts p v) := by
  unfold checkParts
  split
  · rename_i xs hxs
    refine NoFault.map (all_noFault_iff.mpr fun x hx => ?_) _
    obtain ⟨y, hy, i, rfl⟩ := mem_checkItems hx
    exact (p.noFault_check (isData_of_items? hv hxs y hy)).under _
  · exact noFault_because _

/-- Embedded text gives plain data, as far as it gives anything. -/
theorem unembedded_spec {v : Value} (hv : v.isData = true) :
    Harmless (unembedded v) ∧ ∀ w, unembedded v = .ok w → w.isData = true := by
  have hdocument : ∀ read : Except Fault Json, Harmless read →
      Harmless (read.map Json.toValue) ∧
        ∀ w, read.map Json.toValue = .ok w → w.isData = true := by
    intro read hread
    refine ⟨hread.map _, fun w hw => ?_⟩
    obtain ⟨j, _, rfl⟩ := Outcome.map_eq_ok hw
    exact j.isData_toValue
  unfold unembedded
  split
  · exact hdocument _ (Json.harmless_ofSymbols _)
  · split
    · exact hdocument _ (Json.harmless_ofSymbols _)
    · exact ⟨.ok v, fun w hw => Except.ok.inj hw ▸ hv⟩

/-- What a field does with plain data. -/
theorem overflowsIff_check (shape : Shape) {v : Value} (hv : v.isData = true) :
    OverflowsIff (shape.Escapes v) (shape.check v) := by
  cases shape with
  | leaf l => exact l.overflowsIff_check hv
  | part p => exact (p.noFault_check hv).overflowsIff id
  | parts p => exact (noFault_checkParts p hv).overflowsIff id
  | embedded p =>
    obtain ⟨hharmless, hplain⟩ := unembedded_spec hv
    refine NoFault.overflowsIff ((noFault_converted hharmless).bind fun w hw => ?_) id
    exact p.noFault_check (hplain w (Outcome.mapError_eq_ok hw))
  | crop => exact (CropVariant.noFault_check hv).overflowsIff id

end Shape

/-! ## Constructions -/

/-- The ways in which building a payload under a text is to end: with the payload or with
    issues if a kind has the text, and otherwise as an unknown kind. -/
inductive Classified (s : String) : Except Failure Value → Prop
  | payload {k : Kind} {p : Value} (known : Kind.ofTag? s = some k)
      (kind : Action.payloadKind? p = some k) : Classified s (.ok p)
  | invalid {k : Kind} (known : Kind.ofTag? s = some k) (issues : List Issue) :
      Classified s (.error (.invalid k.modelName issues))
  | unknownKind (unknown : Kind.ofTag? s = none) : Classified s (.error (.unknownKind (.text s)))

/-- Whether the kind is given a second time. -/
def RepeatsKind (overrides : List (String × Value)) : Prop :=
  ∃ e ∈ overrides, e.1 = "source_kind"

/-- How building a payload under a text ends. -/
structure Ends (s : String) (overrides : List (String × Value))
    (outcome : Except Failure Value) : Prop where
  /-- It ends as it is to, unless the kind is repeated or a value escapes its field. -/
  classified_iff : Classified s outcome ↔ ¬ RepeatsKind overrides ∧
    ∀ k, Kind.ofTag? s = some k → ¬ k.Escapes overrides
  /-- A repeated kind comes before everything else. -/
  repeated : RepeatsKind overrides → outcome = .error (.fault .repeatedKind)
  /-- A value that escapes does so by an overflow. -/
  overflow : ¬ RepeatsKind overrides → ∀ k, Kind.ofTag? s = some k → k.Escapes overrides →
    ∃ f, outcome = .error (.fault f) ∧ f.category = .overflow

namespace Action

variable {h : Host} {s : String} {overrides : List (String × Value)}

theorem run_build_repeated (kind : Value) (hrepeats : RepeatsKind overrides) :
    ((build kind overrides).run h).1 = .error (.fault .repeatedKind) := by
  have hany : overrides.any (·.1 == "source_kind") = true := by
    simpa [RepeatsKind] using hrepeats
  unfold build
  simp only [hany]
  rfl

theorem run_build_unknown (hs : Kind.ofTag? s = none)
    (hkind : ∀ e ∈ overrides, e.1 ≠ "source_kind") :
    ((build (.text s) overrides).run h).1 = .error (.unknownKind (.text s)) := by
  have hany : overrides.any (·.1 == "source_kind") = false := by simpa using hkind
  have hunknown : kindOf (.text s) = .error (.unknownKind (.text s)) := by
    simp only [kindOf, Value.unhashable?, Value.text?, Option.bind_some, hs]
    rfl
  unfold build
  simp only [hany, hunknown]
  rfl

end Action

/-- Plain data is built for a kind as it is to be, unless some of it escapes. -/
theorem built_plain {h : Host} {c : Config} (hc : h.configuration = .ok c) (k : Kind)
    {overrides : List (String × Value)} (hdata : ∀ e ∈ overrides, e.2.isData = true)
    (hkind : ∀ e ∈ overrides, e.1 ≠ "source_kind") :
    (k.Escapes overrides →
      ∃ f, built k h overrides = .error (.fault f) ∧ f.category = .overflow) ∧
    (¬ k.Escapes overrides → Classified k.tag (built k h overrides)) := by
  have hread : Refusal.OverflowsIff (k.Escapes overrides)
      (Field.readAll Shape.check true k.fields overrides) :=
    Field.overflowsIff_readAll hdata true fun f _ _ hv => f.shape.overflowsIff_check hv
  rw [built_eq hc hkind]
  constructor
  · intro hescapes
    obtain ⟨f, hf, hcategory⟩ := hread.overflow hescapes
    rw [hf]
    exact ⟨f, rfl, hcategory⟩
  · intro hnone
    rcases hresult : Field.readAll Shape.check true k.fields overrides with r | attributes
    · cases r with
      | issues found => exact .invalid (Kind.ofTag?_tag k) found
      | fault f => exact absurd hresult (hread.noFault hnone f)
    · exact .payload (Kind.ofTag?_tag k) rfl

/-- Under a valid configuration, building from plain data ends as it is to, but for a repeated
    kind and for what escapes color and duration fields. -/
theorem build_ends (h : Host) (c : Config) (hc : h.configuration = .ok c) (s : String)
    (overrides : List (String × Value)) (hdata : ∀ e ∈ overrides, e.2.isData = true) :
    Ends s overrides ((Action.build (.text s) overrides).run h).1 := by
  by_cases hrepeats : RepeatsKind overrides
  · have hout := Action.run_build_repeated (h := h) (.text s) hrepeats
    rw [hout]
    exact ⟨⟨fun hc => (nomatch hc), fun hnone => absurd hrepeats hnone.1⟩, fun _ => rfl,
      fun hno => absurd hrepeats hno⟩
  have hkind : ∀ e ∈ overrides, e.1 ≠ "source_kind" := fun e he hkey => hrepeats ⟨e, he, hkey⟩
  cases hs : Kind.ofTag? s with
  | none =>
    rw [Action.run_build_unknown hs hkind]
    refine ⟨⟨fun _ => ⟨hrepeats, fun k hk => ?_⟩, fun _ => .unknownKind hs⟩,
      fun hyes => absurd hyes hrepeats, fun _ k hk => ?_⟩
    · cases hs.symm.trans hk
    · cases hs.symm.trans hk
  | some k =>
    obtain rfl := Kind.tag_of_ofTag? hs
    obtain ⟨hescapes, hnone⟩ := built_plain hc k hdata hkind
    have hsame : ∀ l, Kind.ofTag? k.tag = some l → l = k :=
      fun l hl => Option.some.inj (hl.symm.trans hs)
    refine ⟨⟨fun hclassified => ⟨hrepeats, fun l hl hl' => ?_⟩, fun h => hnone (h.2 k hs)⟩,
      fun hyes => absurd hyes hrepeats, fun _ l hl hl' => ?_⟩
    · obtain ⟨f, hf, _⟩ := hescapes (hsame l hl ▸ hl')
      unfold built at hf
      rw [hf] at hclassified
      cases hclassified
    · exact hescapes (hsame l hl ▸ hl')

/-- Channels of which the first is no number are an issue, although an infinity follows. -/
theorem build_ends_nan :
    ({ config? := some {} } : Host).configuration = .ok {} ∧
    (∀ e ∈ [("color", Value.list [.real .nan, .real (.infinity false), .int 0])],
      e.2.isData = true) ∧
    Ends "color_source_v3" [("color", .list [.real .nan, .real (.infinity false), .int 0])]
      ((Action.build (.text "color_source_v3")
        [("color", .list [.real .nan, .real (.infinity false), .int 0])]).run
          { config? := some {} }).1 :=
  ⟨rfl, by decide, build_ends _ {} rfl _ _ (by decide)⟩

/-- An infinite channel, a duration beyond all durations, and the kind among the overrides:
    none of them ends as it is to. -/
theorem build_unclassified :
    ((Value.list [.real (.infinity false), .int 0, .int 0]).isData = true ∧
      ¬ Classified "color_source_v3" ((Action.build (.text "color_source_v3")
        [("color", .list [.real (.infinity false), .int 0, .int 0])]).run
          { config? := some {} }).1) ∧
    ((Value.int 1000000000000000000).isData = true ∧
      ¬ Classified "slideshow" ((Action.build (.text "slideshow")
        [("slide_time", .int 1000000000000000000)]).run { config? := some {} }).1) ∧
    ((Value.text "slideshow").isData = true ∧
      ¬ Classified "image_source" ((Action.build (.text "image_source")
        [("source_kind", .text "slideshow")]).run { config? := some {} }).1) := by
  refine ⟨⟨rfl, fun h => ?_⟩, ⟨rfl, fun h => ?_⟩, ⟨rfl, fun h => ?_⟩⟩
  -- the outcome is a fault each time, and no fault is classified
  · cases h
  · cases h
  · cases h

end SceneSource
