-- SUMMARY: What running an action gives and what it leaves of the host, operation by operation.
import SceneSource.Session

/-!
# Running actions

An action takes a host to an outcome and a host. The equations here say for every
primitive, and then for every operation that is made of them, what both are, so that
statements about operations never look into the monad.
-/

namespace SceneSource

namespace Host

/-- The configuration in effect: the one that is kept, else the one that can be read now. -/
def configuration (h : Host) : Except Refusal Config :=
  match h.config? with
  | some c => .ok c
  | none => Config.read h.environment h.dotenv?

/-- The host once it has been asked for its configuration. -/
def configured (h : Host) : Host :=
  match h.configuration with
  | .ok c => { h with config? := some c }
  | .error _ => h

/-- The host with one more record in its log, if the record is grave enough. -/
def logged (r : LogRecord) (h : Host) : Host :=
  if r.level.passes h.threshold then { h with log := h.log ++ [r] } else h

/-- The host with a warning for each of some shortfalls in its log. -/
def warned (found : List Shortfall) (h : Host) : Host :=
  found.foldl (fun h s => h.logged
    { level := .warning, logger := Action.payloadLogger, message := s.message }) h

@[simp] theorem configured_metrics (h : Host) : h.configured.metrics = h.metrics := by
  unfold configured
  split <;> rfl

@[simp] theorem logged_metrics (r : LogRecord) (h : Host) : (h.logged r).metrics = h.metrics := by
  unfold logged
  split <;> rfl

end Host

theorem Kind.tag_of_ofTag? {s : String} {k : Kind} (hk : ofTag? s = some k) : k.tag = s := by
  simpa using List.find?_some hk

namespace Action

variable {α β : Type} {h : Host}

/-! ## Monad -/

@[simp] theorem run_pure (x : α) : (pure x : Action α).run h = (.ok x, h) := rfl

@[simp] theorem run_throw (f : Failure) : (throw f : Action α).run h = (.error f, h) := rfl

@[simp] theorem run_get : (get : Action Host).run h = (.ok h, h) := rfl

@[simp] theorem run_set (h' : Host) : (set h' : Action Unit).run h = (.ok (), h') := rfl

@[simp] theorem run_modify (f : Host → Host) :
    (modify f : Action Unit).run h = (.ok (), f h) := rfl

theorem run_bind (a : Action α) (f : α → Action β) :
    (a >>= f).run h = match a.run h with
      | (.ok x, h') => (f x).run h'
      | (.error e, h') => (.error e, h') := by
  have hrun : (a >>= f).run h = ExceptT.bindCont f (a.run h).1 (a.run h).2 := rfl
  simp only [hrun]
  rcases a.run h with ⟨_ | _, _⟩ <;> rfl

theorem run_bind_ok {a : Action α} {x : α} {h' : Host} (ha : a.run h = (.ok x, h'))
    (f : α → Action β) : (a >>= f).run h = (f x).run h' := by
  simp only [run_bind, ha]

theorem run_bind_error {a : Action α} {e : Failure} {h' : Host} (ha : a.run h = (.error e, h'))
    (f : α → Action β) : (a >>= f).run h = (.error e, h') := by
  simp only [run_bind, ha]

theorem run_map (f : α → β) (a : Action α) :
    (f <$> a).run h = ((a.run h).1.map f, (a.run h).2) := by
  change (a >>= fun x => pure (f x)).run h = _
  simp only [run_bind]
  rcases a.run h with ⟨_ | _, _⟩ <;> rfl

/-! ## Environment, configuration and log -/

theorem run_log (r : LogRecord) : (log r).run h = (.ok (), h.logged r) := rfl

theorem run_config :
    config.run h =
      (h.configuration.mapError (Failure.ofRefusal Config.title), h.configured) := by
  unfold config Host.configured Host.configuration
  simp only [run_bind_ok run_get]
  cases hc : h.config? with
  | some c =>
    have hkept : { h with config? := some c } = h := by simp only [← hc]
    change (Except.ok c, h) = (Except.ok c, { h with config? := some c })
    simp only [hkept]
  | none =>
    cases Config.read h.environment h.dotenv? with
    | ok c => rfl
    | error r => rfl

theorem run_config_ok {c : Config} (hc : h.configuration = .ok c) :
    config.run h = (.ok c, h.configured) := by
  simp only [run_config, hc]
  rfl

theorem run_config_error {r : Refusal} (hc : h.configuration = .error r) :
    config.run h = (.error (.ofRefusal Config.title r), h) := by
  simp only [run_config, Host.configured, hc]
  rfl

/-! ## Operations that count nothing -/

/-- An operation that leaves the metrics as they are. -/
def Uncounted (a : Action α) : Prop := ∀ h, (a.run h).2.metrics = h.metrics

theorem uncounted_pure (x : α) : Uncounted (pure x : Action α) := fun _ => rfl

theorem uncounted_throw (f : Failure) : Uncounted (throw f : Action α) := fun _ => rfl

theorem uncounted_ofFault (r : Except Fault α) : Uncounted (ofFault r) := by
  cases r <;> exact fun _ => rfl

theorem uncounted_setVariable (name : String) (value? : Option String) :
    Uncounted (setVariable name value?) := fun _ => rfl

theorem uncounted_resetConfig : Uncounted resetConfig := fun _ => rfl

theorem uncounted_log (r : LogRecord) : Uncounted (log r) := fun h => by
  simp only [run_log, Host.logged_metrics]

theorem uncounted_config : Uncounted config := fun h => by
  simp only [run_config, Host.configured_metrics]

/-- What goes on behind an operation only adds to the metrics what it adds itself. -/
theorem run_bind_metrics (a : Action α) {f : α → Action β} (hf : ∀ x, Uncounted (f x)) (h : Host) :
    ((a >>= f).run h).2.metrics = (a.run h).2.metrics := by
  simp only [run_bind]
  rcases a.run h with ⟨e | x, h'⟩
  · rfl
  · exact hf x h'

theorem Uncounted.bind {a : Action α} (ha : Uncounted a) {f : α → Action β}
    (hf : ∀ x, Uncounted (f x)) : Uncounted (a >>= f) := fun h => by
  simp only [run_bind_metrics a hf, ha h]

theorem Uncounted.forM {f : α → Action Unit} (hf : ∀ x, Uncounted (f x)) (xs : List α) :
    Uncounted (xs.forM f) := by
  induction xs with
  | nil => exact uncounted_pure ()
  | cons x rest ih => exact (hf x).bind fun _ => ih

theorem Uncounted.adapt {a : Action α} (ha : Uncounted a) (f : Failure → Failure) :
    Uncounted (a.adapt f) := ha

/-! ## Kinds -/

theorem kindOf_tag (k : Kind) : kindOf (.text k.tag) = .ok k := by
  simp [kindOf, Value.unhashable?, Value.text?]

/-- No member of an enumeration has the text of a tag. -/
theorem value_ne_tag (c : Choice) (k : Kind) : c.value ≠ .text k.tag := by
  cases c with
  | playback b => cases b <;> cases k <;> decide
  | slideMode m => cases m <;> cases k <;> decide
  | transition t => cases t <;> cases k <;> decide
  | colorRange r => cases r <;> cases k <;> decide
  | colorSpace s => cases s <;> cases k <;> decide
  | videoRange r => cases r <;> cases k <;> decide
  | aspect p => cases p <;> cases k <;> decide

/-- Only its tag names a kind. -/
theorem eq_tag_of_kindOf {kind : Value} {k : Kind} (hk : kindOf kind = .ok k) :
    kind = .text k.tag := by
  have htext : kind.text? = some k.tag := by
    unfold kindOf at hk
    split at hk
    · cases hk
    · split at hk
      · rename_i hfound
        cases hk
        obtain ⟨s, hs, hfound⟩ := Option.bind_eq_some_iff.mp hfound
        simp only [hs, Kind.tag_of_ofTag? hfound]
      · unfold Failure.noKind at hk
        split at hk <;> cases hk
  cases kind with
  | text s => simpa [Value.text?] using htext
  | choice c =>
    exfalso
    cases hc : c.value with
    | text s =>
      have hs : s = k.tag := by simpa [Value.text?, hc] using htext
      exact value_ne_tag c k (by simp only [hc, hs])
    | number n => simp [Value.text?, hc] at htext
  | _ => cases htext

/-! ## Construction -/

theorem run_warnings (found : List Shortfall) :
    (found.forM warn).run h = (.ok (), h.warned found) := by
  induction found generalizing h with
  | nil => rfl
  | cons s rest ih =>
    exact (run_bind_ok (run_log _) _).trans ih

/-- Without documented minimums nothing is asked or logged. -/
theorem run_warnBelowMinimums_of_isEmpty {k : Kind} (hk : k.minimums.isEmpty = true)
    (payload : Value) : (warnBelowMinimums k payload).run h = (.ok (), h) := by
  unfold warnBelowMinimums
  simp only [hk]
  rfl

/-- With documented minimums the configuration decides about the warnings. -/
theorem run_warnBelowMinimums_ok {k : Kind} (hk : k.minimums.isEmpty = false) {c : Config}
    (hc : h.configuration = .ok c) (payload : Value) :
    (warnBelowMinimums k payload).run h =
      (.ok (), if c.warnBelowMinimum then h.configured.warned (k.shortfalls payload)
        else h.configured) := by
  have hadapt : (config.adapt (·.retitle k.modelName)).run h = (.ok c, h.configured) := by
    change Prod.map (Except.mapError _) id (config.run h) = _
    simp only [run_config_ok hc]
    rfl
  unfold warnBelowMinimums
  simp only [hk]
  refine (run_bind_ok hadapt _).trans ?_
  cases c.warnBelowMinimum with
  | true => exact run_warnings _
  | false => rfl

/-- With documented minimums a configuration that cannot be read is a failure. -/
theorem run_warnBelowMinimums_error {k : Kind} (hk : k.minimums.isEmpty = false) {r : Refusal}
    (hc : h.configuration = .error r) (payload : Value) :
    (warnBelowMinimums k payload).run h =
      (.error ((Failure.ofRefusal Config.title r).retitle k.modelName), h) := by
  have hadapt : (config.adapt (·.retitle k.modelName)).run h =
      (.error ((Failure.ofRefusal Config.title r).retitle k.modelName), h) := by
    change Prod.map (Except.mapError _) id (config.run h) = _
    simp only [run_config_error hc]
    rfl
  unfold warnBelowMinimums
  simp only [hk]
  exact run_bind_error hadapt _

theorem uncounted_warnBelowMinimums (k : Kind) (payload : Value) :
    Uncounted (warnBelowMinimums k payload) := by
  unfold warnBelowMinimums
  cases k.minimums.isEmpty with
  | true => exact uncounted_pure ()
  | false =>
    refine (uncounted_config.adapt _).bind fun c => ?_
    cases c.warnBelowMinimum with
    | true => exact .forM (fun s => uncounted_log _) _
    | false => exact uncounted_pure ()

theorem uncounted_construct (m : Model) (entries : List (String × Value)) :
    Uncounted (construct m entries) := by
  unfold construct
  cases m.read entries with
  | error r => exact uncounted_throw _
  | ok v => cases m with
    | payload k => exact (uncounted_warnBelowMinimums k v).bind fun _ => uncounted_pure v
    | part p => exact uncounted_pure v
    | update => exact uncounted_pure v

theorem uncounted_build (kind : Value) (overrides : List (String × Value)) :
    Uncounted (build kind overrides) := by
  have hrest : Uncounted (do construct (.payload (← kindOf kind)) overrides) := by
    cases kindOf kind with
    | error f => exact uncounted_throw f
    | ok k => exact uncounted_construct (.payload k) overrides
  unfold build
  split
  · exact (uncounted_throw (.fault .repeatedKind)).bind fun _ : PUnit => hrest
  · exact hrest

theorem uncounted_rebuild (kind overrides : Value) : Uncounted (rebuild kind overrides) := by
  unfold rebuild
  split
  · exact uncounted_build _ _
  · exact uncounted_throw _

end Action

end SceneSource
