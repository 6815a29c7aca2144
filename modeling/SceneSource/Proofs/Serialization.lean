-- SUMMARY: What a serialization gives and leaves behind, and when it is all or nothing.
import SceneSource.Proofs.Host
import SceneSource.Proofs.Metrics

/-!
# Serialization

A serialization makes the document first and then records it, so four things can happen:
the kind or the payload is refused, the document overflows, the configuration cannot be
read, or the outcome of the document becomes the outcome of the call. Only the last is
what callers are promised.
-/

namespace SceneSource

/-- The host once a serialization was recorded under some labels, if metrics are on. -/
def Host.recorded (c : Config) (kind status : String) (latency : Number) (asReal : Double)
    (h : Host) : Host :=
  if c.metricsEnabled then
    { h.configured with metrics := h.metrics.recorded kind status latency asReal }
  else h.configured

namespace Action

variable {h : Host}

/-! ## Recording -/

theorem run_record_error {r : Refusal} (hc : h.configuration = .error r)
    (kind status duration : Value) :
    (record kind status duration).run h = (.error (.ofRefusal Config.title r), h) :=
  run_bind_error (run_config_error hc) _

theorem run_record_off {c : Config} (hc : h.configuration = .ok c)
    (hoff : c.metricsEnabled = false) (kind status duration : Value) :
    (record kind status duration).run h = (.ok (), h.configured) := by
  refine (run_bind_ok (run_config_ok hc) _).trans ?_
  simp only [hoff]
  rfl

/-- Labels that have no text are refused before anything is counted. -/
theorem run_record_labels {c : Config} (hc : h.configuration = .ok c)
    (hon : c.metricsEnabled = true) {kind status : Value} (duration : Value) {f : Fault}
    (hlabels : kind.display? = .error f ∨ ∃ k, kind.display? = .ok k ∧ status.display? = .error f) :
    (record kind status duration).run h = (.error (.fault f), h.configured) := by
  refine (run_bind_ok (run_config_ok hc) _).trans ?_
  rw [hon]
  rcases hlabels with hkind | ⟨k, hkind, hstatus⟩
  · rw [if_pos rfl, hkind]
    rfl
  · rw [if_pos rfl, hkind, hstatus]
    rfl

theorem run_record_ok {c : Config} (hc : h.configuration = .ok c)
    {kind status duration : Value} {k s : String} {n : Number} {d : Double}
    (hkind : kind.display? = .ok k) (hstatus : status.display? = .ok s)
    (hlatency : latency duration = .ok (n, d)) :
    (record kind status duration).run h = (.ok (), h.recorded c k s n d) := by
  unfold Host.recorded
  cases hon : c.metricsEnabled with
  | false => exact run_record_off hc hon kind status duration
  | true =>
    have htwice : ∀ m : Metrics, (m.updateHistogram k id).updateHistogram k (·.observe n d) =
        m.updateHistogram k (·.observe n d) := by
      intro m
      unfold Metrics.updateHistogram
      simp only [Metrics.update_update]
      rfl
    refine (run_bind_ok (run_config_ok hc) _).trans ?_
    rw [hon, if_pos rfl, hkind, hstatus, hlatency, if_pos rfl, Metrics.recorded, ← htwice,
      ← h.configured_metrics]
    rfl

/-! ## Serializing -/

/-- The time that making a document took, in milliseconds. -/
def tookMillis (elapsed : Nat) : Double := .ofRatio false elapsed 1000000

theorem run_serialize_kind {kind : Value} {f : Failure} (hk : kindOf kind = .error f)
    (elapsed : Nat) (payload : Value) :
    (serialize elapsed kind payload).run h = (.error f, h) := by
  unfold serialize
  simp only [hk]
  rfl

theorem run_serialize_mismatch {kind : Value} {k : Kind} (hk : kindOf kind = .ok k)
    {payload : Value} (hp : payloadKind? payload ≠ some k) (elapsed : Nat) :
    (serialize elapsed kind payload).run h =
      (.error (.mismatch kind k payload.typeName), h) := by
  unfold serialize
  simp only [hk]
  refine (run_bind_ok (run_pure k) _).trans ?_
  simp only [if_pos hp]
  rfl

section Matching

variable {k : Kind} {payload : Value} (hp : payloadKind? payload = some k) (elapsed : Nat)
include hp

/-- For a payload of the kind the document decides what is run. -/
theorem run_serialize_matching :
    (serialize elapsed (.text k.tag) payload).run h = match document payload with
      | .ok settings => (do
          record (.text k.tag) (.text "ok") (milliseconds elapsed)
          log (finished k.tag settings (← get))
          return settings : Action Json).run h
      | .error cause =>
        if cause.category = .overflow then (.error (.fault cause), h)
        else (do
          record (.text k.tag) (.text "error") (milliseconds elapsed)
          log (failed k.tag cause)
          throw (.serialization (.text k.tag) cause) : Action Json).run h := by
  unfold serialize
  simp only [kindOf_tag]
  refine (run_bind_ok (run_pure k) _).trans ?_
  simp only [if_neg (not_not.mpr hp)]
  cases document payload with
  | ok settings => rfl
  | error cause =>
    by_cases hf : cause.category = .overflow
    · simp only [hf, if_true]
      rfl
    · simp only [hf, if_false]
      rfl

/-- A document overflows before anything is asked or recorded. -/
theorem run_serialize_overflow {f : Fault} (hd : document payload = .error f)
    (hf : f.category = .overflow) :
    (serialize elapsed (.text k.tag) payload).run h = (.error (.fault f), h) := by
  simp only [run_serialize_matching hp, hd]
  exact if_pos hf

/-- A configuration that cannot be read hides what became of the document. -/
theorem run_serialize_unreadable {r : Refusal} (hc : h.configuration = .error r)
    (hd : ∀ f, document payload = .error f → f.category ≠ .overflow) :
    (serialize elapsed (.text k.tag) payload).run h = (.error (.ofRefusal Config.title r), h) := by
  simp only [run_serialize_matching hp]
  cases hdoc : document payload with
  | ok settings => exact run_bind_error (run_record_error hc _ _ _) _
  | error cause =>
    exact (if_neg (hd cause hdoc)).trans (run_bind_error (run_record_error hc _ _ _) _)

variable {c : Config} (hc : h.configuration = .ok c)
include hc

/-- A finished document is recorded, logged and given. -/
theorem run_serialize_ok {j : Json} (hd : document payload = .ok j) :
    let h' := h.recorded c k.tag "ok" (.real (tookMillis elapsed)) (tookMillis elapsed)
    (serialize elapsed (.text k.tag) payload).run h =
      (.ok j, h'.logged (finished k.tag j h')) := by
  simp only [run_serialize_matching hp, hd]
  exact run_bind_ok (run_record_ok hc rfl rfl rfl) _

/-- A document that could not be made is recorded and logged, and its fault is the cause. -/
theorem run_serialize_error {f : Fault} (hd : document payload = .error f)
    (hf : f.category ≠ .overflow) :
    let h' := h.recorded c k.tag "error" (.real (tookMillis elapsed)) (tookMillis elapsed)
    (serialize elapsed (.text k.tag) payload).run h =
      (.error (.serialization (.text k.tag) f), h'.logged (failed k.tag f)) := by
  simp only [run_serialize_matching hp, hd]
  exact (if_neg hf).trans (run_bind_ok (run_record_ok hc rfl rfl rfl) _)

end Matching

section Cases

variable (h : Host) {k : Kind} {payload : Value} (hp : payloadKind? payload = some k)
  (elapsed : Nat)
include hp

/-- The four ways in which a serialization of a payload of the kind ends. -/
theorem run_serialize_cases :
    (∃ f, document payload = .error f ∧ f.category = .overflow ∧
      (serialize elapsed (.text k.tag) payload).run h = (.error (.fault f), h)) ∨
    (∃ r, h.configuration = .error r ∧
      (∀ f, document payload = .error f → f.category ≠ .overflow) ∧
      (serialize elapsed (.text k.tag) payload).run h = (.error (.ofRefusal Config.title r), h)) ∨
    (∃ c j, h.configuration = .ok c ∧ document payload = .ok j ∧
      let h' := h.recorded c k.tag "ok" (.real (tookMillis elapsed)) (tookMillis elapsed)
      (serialize elapsed (.text k.tag) payload).run h =
        (.ok j, h'.logged (finished k.tag j h'))) ∨
    (∃ c f, h.configuration = .ok c ∧ document payload = .error f ∧ f.category ≠ .overflow ∧
      let h' := h.recorded c k.tag "error" (.real (tookMillis elapsed)) (tookMillis elapsed)
      (serialize elapsed (.text k.tag) payload).run h =
        (.error (.serialization (.text k.tag) f), h'.logged (failed k.tag f))) := by
  by_cases hoverflow : ∃ f, document payload = .error f ∧ f.category = .overflow
  · obtain ⟨f, hd, hf⟩ := hoverflow
    exact .inl ⟨f, hd, hf, run_serialize_overflow hp elapsed hd hf⟩
  · have hnone : ∀ f, document payload = .error f → f.category ≠ .overflow :=
      fun f hd hf => hoverflow ⟨f, hd, hf⟩
    cases hc : h.configuration with
    | error r => exact .inr (.inl ⟨r, rfl, hnone, run_serialize_unreadable hp elapsed hc hnone⟩)
    | ok c => cases hd : document payload with
      | ok j => exact .inr (.inr (.inl ⟨c, j, rfl, rfl, run_serialize_ok hp elapsed hc hd⟩))
      | error f =>
        have hf := hnone f hd
        exact .inr (.inr (.inr ⟨c, f, rfl, rfl, hf, run_serialize_error hp elapsed hc hd hf⟩))

end Cases

/-! ## All or nothing -/

/-- What callers are promised of a serialization: the document, or the failure of the kind
    with the fault for which there is none. -/
def promised (k : Kind) (made : Except Fault Json) : Except Failure Json :=
  made.mapError (.serialization (.text k.tag))

/-- A serialization is all or nothing exactly when the document does not overflow and the
    configuration is kept or can be read. Else the overflow, or the failure of the
    configuration, is the outcome, whatever became of the document. -/
theorem serialize_promised_iff (h : Host) (elapsed : Nat) (k : Kind)
    (attributes : List (String × Value)) :
    let payload := Value.record (.payload k) attributes
    let outcome := ((serialize elapsed (.text k.tag) payload).run h).1
    let overflows := ∃ f, document payload = .error f ∧ f.category = .overflow
    (outcome = promised k (document payload) ↔
      ¬ overflows ∧ ∃ c, h.configuration = .ok c) ∧
    (∀ f, document payload = .error f → f.category = .overflow → outcome = .error (.fault f)) ∧
    (∀ r, h.configuration = .error r → ¬ overflows →
      outcome = .error (.ofRefusal Config.title r)) := by
  intro payload outcome overflows
  have hp : payloadKind? payload = some k := rfl
  have hoverflow : ∀ f, document payload = .error f → f.category = .overflow →
      outcome = .error (.fault f) := fun f hd hf =>
    congrArg Prod.fst (run_serialize_overflow hp elapsed hd hf)
  have hunreadable : ∀ r, h.configuration = .error r → ¬ overflows →
      outcome = .error (.ofRefusal Config.title r) := fun r hc hno =>
    congrArg Prod.fst (run_serialize_unreadable hp elapsed hc fun f hd hf => hno ⟨f, hd, hf⟩)
  have hkept : ∀ c, h.configuration = .ok c → ¬ overflows →
      outcome = promised k (document payload) := by
    intro c hc hno
    cases hd : document payload with
    | ok j => exact congrArg Prod.fst (run_serialize_ok hp elapsed hc hd)
    | error f =>
      exact congrArg Prod.fst (run_serialize_error hp elapsed hc hd fun hf => hno ⟨f, hd, hf⟩)
  refine ⟨⟨fun hout => ?_, fun ⟨hno, c, hc⟩ => hkept c hc hno⟩, hoverflow, hunreadable⟩
  -- neither a bare fault nor a refused configuration is ever promised
  have hno : ¬ overflows := by
    rintro ⟨f, hd, hf⟩
    simp only [hoverflow f hd hf, hd] at hout
    cases hout
  refine ⟨hno, ?_⟩
  cases hc : h.configuration with
  | ok c => exact ⟨c, rfl⟩
  | error r =>
    simp only [hunreadable r hc hno] at hout
    cases hd : document payload with
    | ok j =>
      simp only [hd] at hout
      cases hout
    | error f =>
      simp only [hd] at hout
      cases r <;> cases hout

/-- The promise is broken for the payload of an image that has every default, if a switch
    holds a word for no truth value. -/
theorem serialize_unreadable_switch :
    ¬ ∀ (h : Host) (k : Kind) (attributes : List (String × Value)),
    ((serialize 0 (.text k.tag) (.record (.payload k) attributes)).run h).1 =
      promised k (document (.record (.payload k) attributes)) := by
  intro hall
  have := hall { environment := [(Config.metricsVariable, "maybe")] } .imageSource
    [("file", .text ""), ("unload", .bool false)]
  cases this

end Action

end SceneSource
