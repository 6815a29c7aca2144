-- SUMMARY: Which calls of a session ask for the configuration, and which reading of it they see.
import SceneSource.Proofs.Accounting

/-!
# The configuration of a session

An operation either asks for the configuration or has nothing to do with it. One that asks
fails where it cannot be read, and else keeps it and goes on with it alone, whatever the
variables say later. So a session works with the first reading that succeeds after a reset.
A serialization is to ask for it as soon as the payload is of its kind, but if the document
overflows, it ends before that and nothing is read or kept.
-/

namespace SceneSource

namespace Host

/-- The host with something else in its cache and other variables around it. -/
def around (kept? : Option Config) (environment : List (String × String))
    (dotenv? : Option String) (h : Host) : Host :=
  { h with config? := kept?, environment, dotenv? }

/-- What the environment says about the build that is running. -/
def build (h : Host) : String × String :=
  (LogPayload.buildVariable LogPayload.versionVariable h,
    LogPayload.buildVariable LogPayload.revisionVariable h)

/-- The configuration that can be read from the variables. -/
def reading? (h : Host) : Option Config := (Config.read h.environment h.dotenv?).toOption

/-- The configuration in effect is the one that is kept, else the one that can be read. -/
theorem toOption_configuration (h : Host) :
    h.configuration.toOption = (h.config? <|> h.reading?) := by
  unfold configuration reading?
  cases h.config? <;> rfl

/-- One that is kept is never refused. -/
theorem config?_of_configuration_error {h : Host} {r : Refusal}
    (hr : h.configuration = .error r) : h.config? = none := by
  unfold configuration at hr
  cases hkept : h.config? with
  | none => rfl
  | some c => simp only [hkept, reduceCtorEq] at hr

end Host

namespace Action

variable {α β : Type}

/-! ## Operations without the configuration -/

/-- An operation that runs the same whatever is in the cache and whatever the variables say,
    those of the build apart, and that leaves both as they are. -/
def Unconfigured (a : Action α) : Prop :=
  ∀ (h : Host) kept? environment dotenv?,
    (h.around kept? environment dotenv?).build = h.build →
    a.run (h.around kept? environment dotenv?) =
      ((a.run h).1, (a.run h).2.around kept? environment dotenv?)

/-- It leaves the cache and the variables as they are. -/
theorem Unconfigured.frame {a : Action α} (ha : Unconfigured a) (h : Host) :
    (a.run h).2 = (a.run h).2.around h.config? h.environment h.dotenv? :=
  congrArg Prod.snd (ha h h.config? h.environment h.dotenv? rfl)

theorem unconfigured_pure (x : α) : Unconfigured (pure x : Action α) := fun _ _ _ _ _ => rfl

theorem unconfigured_throw (f : Failure) : Unconfigured (throw f : Action α) :=
  fun _ _ _ _ _ => rfl

theorem unconfigured_ofFault (r : Except Fault α) : Unconfigured (ofFault r) := by
  cases r with
  | ok x => exact unconfigured_pure x
  | error f => exact unconfigured_throw (.fault f)

theorem unconfigured_modifyMetrics (f : Metrics → Metrics) : Unconfigured (modifyMetrics f) :=
  fun _ _ _ _ _ => rfl

theorem unconfigured_log (r : LogRecord) : Unconfigured (log r) := by
  intro h kept? environment dotenv? _
  simp only [run_log, Host.logged, Host.around]
  split <;> rfl

theorem Unconfigured.bind {a : Action α} (ha : Unconfigured a) {f : α → Action β}
    (hf : ∀ x, Unconfigured (f x)) : Unconfigured (a >>= f) := by
  intro h kept? environment dotenv? hbuild
  have hframe := ha.frame h
  have haround := ha h kept? environment dotenv? hbuild
  rcases hrun : a.run h with ⟨e | x, h'⟩
  · simp only [hrun] at haround
    simp only [run_bind_error haround, run_bind_error hrun]
  · simp only [hrun] at haround hframe
    -- the build is still the same, since `a` has left the variables as they are
    have hbuild' : (h'.around kept? environment dotenv?).build = h'.build := by
      rw [hframe]
      exact hbuild
    simp only [run_bind_ok haround, run_bind_ok hrun]
    exact hf x h' kept? environment dotenv? hbuild'

theorem Unconfigured.map {a : Action α} (ha : Unconfigured a) (f : α → β) :
    Unconfigured (f <$> a) := ha.bind fun x => unconfigured_pure (f x)

theorem Unconfigured.forM {f : α → Action Unit} (hf : ∀ x, Unconfigured (f x)) (xs : List α) :
    Unconfigured (xs.forM f) := by
  induction xs with
  | nil => exact unconfigured_pure ()
  | cons x rest ih => exact (hf x).bind fun _ => ih

/-- An operation may look at the build that is running. -/
theorem Unconfigured.get_bind {f : Host → Action α} (hf : ∀ h, Unconfigured (f h))
    (hbuild : ∀ h g : Host, g.build = h.build → f g = f h) : Unconfigured (get >>= f) := by
  intro h kept? environment dotenv? hsame
  simp only [run_bind_ok run_get, hbuild h _ hsame]
  exact hf h h kept? environment dotenv? hsame

/-! ## Operations with the configuration -/

/-- An operation that asks for the configuration before it does anything. -/
structure Consults (a : Action α) : Prop where
  /-- It fails with a configuration that cannot be read, and nothing has happened. -/
  refused : ∀ {h : Host} {r : Refusal}, h.configuration = .error r →
    ∃ title found, r = .issues found ∧ a.run h = (.error (.invalid title found), h)
  /-- It keeps one that is kept or can be read, and leaves the variables as they are. -/
  kept : ∀ {h : Host} {c : Config}, h.configuration = .ok c →
    (a.run h).2 = (a.run h).2.around (some c) h.environment h.dotenv?
  /-- It goes on with that one, whatever the variables say. -/
  given : ∀ {h : Host} {c : Config}, h.configuration = .ok c → ∀ environment dotenv?,
    (h.around (some c) environment dotenv?).build = h.build →
    a.run (h.around (some c) environment dotenv?) =
      ((a.run h).1, (a.run h).2.around (some c) environment dotenv?)

theorem Consults.bind {a : Action α} (ha : Consults a) {f : α → Action β}
    (hf : ∀ x, Unconfigured (f x)) : Consults (a >>= f) where
  refused hr := by
    obtain ⟨title, found, hfound, hrun⟩ := ha.refused hr
    exact ⟨title, found, hfound, run_bind_error hrun f⟩
  kept {h c} hc := by
    have hkept := ha.kept hc
    rcases hrun : a.run h with ⟨e | x, h'⟩
    · simp only [hrun] at hkept
      simp only [run_bind_error hrun]
      exact hkept
    · simp only [hrun] at hkept
      simp only [run_bind_ok hrun]
      rw [(hf x).frame h', hkept]
      rfl
  given {h c} hc environment dotenv? hbuild := by
    have hkept := ha.kept hc
    have hgiven := ha.given hc environment dotenv? hbuild
    rcases hrun : a.run h with ⟨e | x, h'⟩
    · simp only [hrun] at hgiven
      simp only [run_bind_error hgiven, run_bind_error hrun]
    · simp only [hrun] at hkept hgiven
      have hbuild' : (h'.around (some c) environment dotenv?).build = h'.build := by
        rw [hkept]
        exact hbuild
      simp only [run_bind_ok hgiven, run_bind_ok hrun]
      exact hf x h' (some c) environment dotenv? hbuild'

theorem Consults.map {a : Action α} (ha : Consults a) (f : α → β) : Consults (f <$> a) :=
  ha.bind fun x => unconfigured_pure (f x)

end Action

/-- A configuration is refused for what its switches hold. -/
theorem Config.read_error {environment : List (String × String)} {dotenv? : Option String}
    {r : Refusal} (hr : read environment dotenv? = .error r) : ∃ found, r = .issues found := by
  have hswitch : ∀ name text?, Refusal.NoFault (switch name text?) := by
    intro name text? f hf
    unfold switch at hf
    split at hf
    · cases hf
    · split at hf <;> cases hf
  have hread : Refusal.NoFault (read environment dotenv?) :=
    Refusal.join_noFault_iff.mpr ⟨hswitch _ _, hswitch _ _⟩
  cases r with
  | issues found => exact ⟨found, rfl⟩
  | fault f => exact absurd hr (hread f)

theorem Host.configuration_error {h : Host} {r : Refusal} (hr : h.configuration = .error r) :
    ∃ found, r = .issues found := by
  unfold configuration at hr
  split at hr
  · cases hr
  · exact Config.read_error hr

namespace Action

variable {α : Type}

theorem consults_config : Consults config where
  refused {h r} hr := by
    obtain ⟨found, rfl⟩ := h.configuration_error hr
    exact ⟨Config.title, found, rfl, run_config_error hr⟩
  kept {h c} hc := by
    simp only [run_config, Host.configured, hc]
    rfl
  given {h c} hc environment dotenv? _ := by
    simp only [run_config, Host.configured, hc]
    rfl

/-- What is asked for on behalf of a construction fails under the title of that. -/
theorem Consults.retitled {a : Action α} (ha : Consults a) (title : String) :
    Consults (a.adapt (·.retitle title)) where
  refused {h r} hr := by
    obtain ⟨_, found, rfl, hrun⟩ := ha.refused hr
    refine ⟨title, found, rfl, ?_⟩
    change Prod.map (Except.mapError _) id (a.run h) = _
    simp only [hrun]
    rfl
  kept hc := ha.kept hc
  given {h c} hc environment dotenv? hbuild := by
    change Prod.map (Except.mapError _) id (a.run _) = _
    simp only [ha.given hc environment dotenv? hbuild]
    rfl

/-- A failure that is certain from the start does without the configuration. -/
theorem Unconfigured.of_fails {a : Action α} {f : Failure} (ha : ∀ h, a.run h = (.error f, h)) :
    Unconfigured a := by
  intro h kept? environment dotenv? _
  simp only [ha]

/-! ## Constructions -/

/-- Whether settings make a payload that is then compared with documented minimums. -/
def comparesMinimums (k : Kind) (entries : List (String × Value)) : Bool :=
  !k.minimums.isEmpty && ((Model.payload k).read entries).isOk

theorem consults_warnBelowMinimums {k : Kind} (hk : k.minimums.isEmpty = false) (payload : Value) :
    Consults (warnBelowMinimums k payload) := by
  unfold warnBelowMinimums
  simp only [hk]
  refine (consults_config.retitled k.modelName).bind fun c => ?_
  cases c.warnBelowMinimum with
  | true => exact .forM (fun s => unconfigured_log _) _
  | false => exact unconfigured_pure ()

theorem consults_construct {k : Kind} {entries : List (String × Value)}
    (h : comparesMinimums k entries = true) : Consults (construct (.payload k) entries) := by
  obtain ⟨hk, hread⟩ := Bool.and_eq_true_iff.mp h
  unfold construct
  cases hv : (Model.payload k).read entries with
  | error r => simp [hv, Except.isOk, Except.toBool] at hread
  | ok v =>
    exact (consults_warnBelowMinimums (by simpa using hk) v).bind fun _ => unconfigured_pure v

/-- Without such a payload a construction does without the configuration. -/
theorem unconfigured_construct {m : Model} {entries : List (String × Value)}
    (h : ∀ k, m = .payload k → comparesMinimums k entries = false) :
    Unconfigured (construct m entries) := by
  unfold construct
  cases hv : m.read entries with
  | error r => exact unconfigured_throw _
  | ok v => cases m with
    | part p => exact unconfigured_pure v
    | update => exact unconfigured_pure v
    | payload k =>
      have hk : k.minimums.isEmpty = true := by
        simpa [comparesMinimums, hv, Except.isOk, Except.toBool] using h k rfl
      have hwarn : Unconfigured (warnBelowMinimums k v) := by
        unfold warnBelowMinimums
        simp only [hk]
        exact unconfigured_pure ()
      exact hwarn.bind fun _ => unconfigured_pure v

/-- Whether overrides for a kind make a payload that is then compared with minimums. -/
def buildComparesMinimums (kind : Value) (overrides : List (String × Value)) : Bool :=
  !overrides.any (·.1 == "source_kind") && match kindOf kind with
    | .ok k => comparesMinimums k overrides
    | .error _ => false

theorem consults_build {kind : Value} {overrides : List (String × Value)}
    (h : buildComparesMinimums kind overrides = true) : Consults (build kind overrides) := by
  unfold buildComparesMinimums at h
  obtain ⟨hname, hcompares⟩ := Bool.and_eq_true_iff.mp h
  unfold build
  replace hname : overrides.any (·.1 == "source_kind") = false := by simpa using hname
  cases hk : kindOf kind with
  | error f => simp only [hk, Bool.false_eq_true] at hcompares
  | ok k =>
    simp only [hk] at hcompares
    simp only [hname]
    exact consults_construct hcompares

theorem unconfigured_build {kind : Value} {overrides : List (String × Value)}
    (h : buildComparesMinimums kind overrides = false) : Unconfigured (build kind overrides) := by
  unfold buildComparesMinimums at h
  unfold build
  cases hname : overrides.any (·.1 == "source_kind") with
  | true => exact .of_fails fun _ => rfl
  | false => cases hk : kindOf kind with
    | error f => exact .of_fails fun _ => rfl
    | ok k =>
      simp only [hname, hk, Bool.not_false, Bool.true_and] at h
      refine unconfigured_construct (m := .payload k) fun k' hk' => ?_
      cases hk'
      exact h

/-! ## Recording and serializing -/

theorem consults_record (kind status duration : Value) :
    Consults (record kind status duration) := by
  refine consults_config.bind fun c => ?_
  cases c.metricsEnabled with
  | false => exact unconfigured_pure ()
  | true =>
    refine (unconfigured_ofFault _).bind fun k => (unconfigured_ofFault _).bind fun s => ?_
    refine (unconfigured_modifyMetrics _).bind fun _ => ?_
    refine (unconfigured_modifyMetrics _).bind fun _ => ?_
    exact (unconfigured_ofFault _).bind fun _ => unconfigured_modifyMetrics _

/-- The record of a finished document says of the host which build is running, and no more. -/
theorem finished_of_build {g h : Host} (hbuild : g.build = h.build) (kind : String) (j : Json) :
    finished kind j g = finished kind j h := by
  obtain ⟨hversion, hrevision⟩ := Prod.mk.inj hbuild
  simp only [finished, hversion, hrevision]

section Serialize

variable {k : Kind} {payload : Value} (hp : payloadKind? payload = some k) (elapsed : Nat)
include hp

theorem consults_serialize (hd : overflowed (document payload) = false) :
    Consults (serialize elapsed (.text k.tag) payload) := by
  have hrun := fun h => run_serialize_matching (h := h) hp elapsed
  cases hdoc : document payload with
  | ok j =>
    simp only [hdoc] at hrun
    rw [show serialize elapsed (.text k.tag) payload = _ from funext hrun]
    refine (consults_record _ _ _).bind fun _ => ?_
    refine Unconfigured.get_bind (fun h => ?_) fun h g hbuild => ?_
    · exact (unconfigured_log _).bind fun _ => unconfigured_pure j
    · simp only [finished_of_build hbuild]
  | error f =>
    have hf : f.category ≠ .overflow := by simpa [hdoc, overflowed] using hd
    simp only [hdoc, if_neg hf] at hrun
    rw [show serialize elapsed (.text k.tag) payload = _ from funext hrun]
    refine (consults_record _ _ _).bind fun _ => ?_
    exact (unconfigured_log _).bind fun _ => unconfigured_throw _

/-- One whose document overflows comes to an end there, whatever the configuration is. -/
theorem serialize_overflow (hd : overflowed (document payload) = true) :
    ∃ f, f.category = .overflow ∧
      ∀ h, (serialize elapsed (.text k.tag) payload).run h = (.error (.fault f), h) := by
  cases hdoc : document payload with
  | ok j => simp [hdoc, overflowed] at hd
  | error f =>
    have hf : f.category = .overflow := by simpa [hdoc, overflowed] using hd
    exact ⟨f, hf, fun h => run_serialize_overflow hp elapsed hdoc hf⟩

end Serialize

/-! ## Environment and cache -/

/-- An operation that neither looks at the cache nor changes it. -/
def IgnoresCache (a : Action α) : Prop := ∀ (h : Host) kept?,
  a.run { h with config? := kept? } = ((a.run h).1, { (a.run h).2 with config? := kept? })

theorem Unconfigured.ignoresCache {a : Action α} (ha : Unconfigured a) : IgnoresCache a := by
  intro h kept?
  refine (ha h kept? h.environment h.dotenv? rfl).trans (Prod.ext rfl ?_)
  rw [ha.frame h]
  rfl

/-- Setting variables changes the environment and nothing else. -/
theorem run_setVariables (changes : List (String × Option String)) (h : Host) :
    ∃ environment, ∀ kept?,
      (changes.forM fun (name, value?) => setVariable name value?).run
          { h with config? := kept? } =
        (.ok (), { h with environment, config? := kept? }) := by
  induction changes generalizing h with
  | nil => exact ⟨h.environment, fun kept? => rfl⟩
  | cons change rest ih =>
    obtain ⟨environment, hrest⟩ := ih ((setVariable change.1 change.2).run h).2
    exact ⟨environment, fun kept? => hrest kept?⟩

end Action

namespace Call

/-! ## Calls -/

/-- Whether a call is to ask for the configuration. A construction is to do so once it has made
    a payload of a kind with documented minimums, and a serialization, on its own or for an
    update, once it knows the kind and the type of the payload. -/
def asks : Call → Bool
  | config | record .. => true
  | construct (.payload k) entries => Action.comparesMinimums k entries
  | build kind overrides | rebuild kind (.mapping overrides) =>
      Action.buildComparesMinimums kind overrides
  | serialize _ kind payload => match Action.kindOf kind with
      | .ok k => Action.payloadKind? payload = some k
      | .error _ => false
  | update _ _ payload _ => (Action.payloadKind? payload).isSome
  | construct .. | rebuild .. | logPayload .. | setVariables _ | reset => false

/-- Whether a call comes to ask for the configuration: it is to do so, and no document that
    overflows ends it before. -/
def consults (c : Call) : Bool := c.asks && !c.overflows

theorem consults_iff {c : Call} : c.consults = true ↔ c.asks = true ∧ c.overflows = false := by
  rw [consults, Bool.and_eq_true_iff, Bool.not_eq_true']

/-- Whether a call forgets the configuration. -/
def isReset : Call → Bool
  | reset => true
  | construct .. | build .. | rebuild .. | serialize .. | update .. | record .. | logPayload .. |
      config | setVariables _ => false

/-- Whether a call changes the environment. -/
def isSetting : Call → Bool
  | setVariables _ => true
  | construct .. | build .. | rebuild .. | serialize .. | update .. | record .. | logPayload .. |
      config | reset => false

/-- A serialization that is to ask for the configuration is one of a kind and its payload. -/
theorem exists_kind_of_asks {elapsed : Nat} {kind payload : Value}
    (h : (serialize elapsed kind payload).asks = true) :
    ∃ k : Kind, kind = .text k.tag ∧ Action.payloadKind? payload = some k := by
  unfold asks at h
  cases hk : Action.kindOf kind with
  | error f => simp only [hk, Bool.false_eq_true] at h
  | ok k =>
    simp only [hk, decide_eq_true_eq] at h
    exact ⟨k, Action.eq_tag_of_kindOf hk, h⟩

theorem consults_run {c : Call} (hc : c.consults = true) : Action.Consults c.run := by
  obtain ⟨hasks, hfits⟩ := consults_iff.mp hc
  cases c with
  | construct m entries => cases m with
    | payload k => exact (Action.consults_construct hasks).map _
    | part p => cases hasks
    | update => cases hasks
  | build kind overrides =>
    exact (Action.consults_build hasks).map _
  | rebuild kind overrides => cases overrides with
    | mapping entries =>
      have hbuild : Action.Consults (Action.build kind entries) := Action.consults_build hasks
      exact hbuild.map _
    | _ => cases hasks
  | serialize elapsed kind payload =>
    obtain ⟨k, rfl, hp⟩ := exists_kind_of_asks hasks
    exact (Action.consults_serialize hp elapsed hfits).map _
  | update elapsed name payload withKind =>
    obtain ⟨k, hp⟩ := Option.isSome_iff_exists.mp hasks
    have hupdate : Action.Consults (Action.updateFrom elapsed name payload withKind) := by
      unfold Action.updateFrom
      simp only [hp]
      refine (Action.consults_serialize hp elapsed hfits).bind fun j => ?_
      exact Action.unconfigured_construct nofun
    exact hupdate.map _
  | record kind status duration =>
    exact (Action.consults_record kind status duration).map _
  | config => exact Action.consults_config.map _
  | logPayload | setVariables | reset => cases hasks

/-- A call that is to ask for the configuration does not come to it if its document overflows:
    it fails with that, and nothing has happened. -/
theorem run_overflow {c : Call} (hasks : c.asks = true) (hover : c.overflows = true) :
    ∃ f, f.category = .overflow ∧ ∀ h, c.run.run h = (.error (.fault f), h) := by
  cases c with
  | serialize elapsed kind payload =>
    obtain ⟨k, rfl, hp⟩ := exists_kind_of_asks hasks
    obtain ⟨f, hf, hrun⟩ := Action.serialize_overflow hp elapsed hover
    refine ⟨f, hf, fun h => ?_⟩
    simp only [run, Action.run_map, hrun h]
    rfl
  | update elapsed name payload withKind =>
    obtain ⟨k, hp⟩ := Option.isSome_iff_exists.mp hasks
    obtain ⟨f, hf, hrun⟩ := Action.serialize_overflow hp elapsed hover
    refine ⟨f, hf, fun h => ?_⟩
    simp only [run, Action.run_map, Action.run_updateFrom_error hp (hrun h)]
    rfl
  | _ => cases hover

/-- A call that is neither to ask for the configuration nor changes the cache or the environment
    has nothing to do with them. -/
theorem unconfigured_of_not_asks {c : Call} (hc : c.asks = false) (hreset : c.isReset = false)
    (hset : c.isSetting = false) : Action.Unconfigured c.run := by
  cases c with
  | construct m entries =>
    refine Action.Unconfigured.map ?_ _
    refine Action.unconfigured_construct fun k hk => ?_
    cases hk
    exact hc
  | build kind overrides =>
    exact (Action.unconfigured_build hc).map _
  | rebuild kind overrides =>
    refine Action.Unconfigured.map ?_ _
    cases overrides with
    | mapping entries => exact Action.unconfigured_build hc
    | _ => exact .of_fails fun _ => rfl
  | serialize elapsed kind payload =>
    refine Action.Unconfigured.map ?_ _
    unfold asks at hc
    cases hk : Action.kindOf kind with
    | error f => exact .of_fails fun h => Action.run_serialize_kind hk elapsed payload
    | ok k =>
      simp only [hk, decide_eq_false_iff_not] at hc
      exact .of_fails fun h => Action.run_serialize_mismatch hk hc elapsed
  | update elapsed name payload withKind =>
    refine Action.Unconfigured.map ?_ _
    have hp : Action.payloadKind? payload = none := by simpa [asks] using hc
    exact .of_fails fun h => Action.run_updateFrom_none hp elapsed name withKind
  | logPayload kind settings duration =>
    refine Action.Unconfigured.get_bind (fun h => ?_) fun h g hbuild => ?_
    · exact (Action.unconfigured_ofFault _).map _
    · obtain ⟨hversion, hrevision⟩ := Prod.mk.inj hbuild
      simp only [LogPayload.make, hversion, hrevision]
  | record | config => cases hc
  | reset => cases hreset
  | setVariables => cases hset

/-- The same of a call that does not come to ask for it. -/
theorem unconfigured_run {c : Call} (hc : c.consults = false) (hreset : c.isReset = false)
    (hset : c.isSetting = false) : Action.Unconfigured c.run := by
  cases hasks : c.asks with
  | false => exact unconfigured_of_not_asks hasks hreset hset
  | true =>
    have hover : c.overflows = true := by simpa [consults, hasks] using hc
    obtain ⟨f, _, hrun⟩ := run_overflow hasks hover
    exact .of_fails hrun

/-- A call that does not ask for the configuration leaves the cache as it is, unless it is
    there to clear it. -/
theorem ignoresCache_run {c : Call} (hc : c.consults = false) (hreset : c.isReset = false) :
    Action.IgnoresCache c.run := by
  cases hset : c.isSetting with
  | false => exact (unconfigured_run hc hreset hset).ignoresCache
  | true => cases c with
    | setVariables changes =>
      intro h kept?
      obtain ⟨environment, hrun⟩ := Action.run_setVariables changes h
      have hkept := hrun h.config?
      unfold run
      simp only [Action.run_bind_ok (hrun kept?), Action.run_bind_ok hkept]
      rfl
    | _ => cases hset

/-- Once a configuration is kept, what a call does has nothing to do with the variables, except
    that it may change them or clear the cache. -/
theorem run_around {c : Call} (hreset : c.isReset = false) (hset : c.isSetting = false)
    {h : Host} {config : Config} (hkept : h.config? = some config)
    (environment : List (String × String)) (dotenv? : Option String)
    (hbuild : (h.around (some config) environment dotenv?).build = h.build) :
    c.run.run (h.around (some config) environment dotenv?) =
      ((c.run.run h).1, (c.run.run h).2.around (some config) environment dotenv?) := by
  cases hc : c.consults with
  | false => exact unconfigured_run hc hreset hset h _ environment dotenv? hbuild
  | true =>
    have hconf : h.configuration = .ok config := by
      unfold Host.configuration
      simp only [hkept]
    exact (consults_run hc).given hconf environment dotenv? hbuild

/-- What is in the cache after a call. -/
theorem run_config? (c : Call) (h : Host) :
    (c.run.run h).2.config? =
      if c.isReset then none
      else h.config? <|> if c.consults then h.reading? else none := by
  cases hreset : c.isReset with
  | true => cases c with
    | reset => rfl
    | _ => cases hreset
  | false => cases hc : c.consults with
    | false =>
      have hkept := congrArg (fun x => x.2.config?) (ignoresCache_run hc hreset h h.config?)
      simpa using hkept
    | true =>
      have hasked := h.toOption_configuration
      simp only [Bool.false_eq_true, if_false, if_true, ← hasked]
      cases hconf : h.configuration with
      | error r =>
        obtain ⟨title, found, _, hrun⟩ := (consults_run hc).refused hconf
        simp only [hrun, Host.config?_of_configuration_error hconf]
        rfl
      | ok config =>
        rw [(consults_run hc).kept hconf]
        rfl

end Call

/-! ## Sessions -/

/-- The steps of a session behind its last reset. -/
def sinceReset (past : List (Call × Host)) : List (Call × Host) :=
  (past.reverse.takeWhile fun s => !s.1.isReset).reverse

/-- The first configuration that could be read at one of certain calls since the last reset. -/
def firstReading? (reads : Call → Bool) (past : List (Call × Host)) : Option Config :=
  (sinceReset past).findSome? fun s => if reads s.1 then s.2.reading? else none

theorem firstReading?_append (reads : Call → Bool) (past : List (Call × Host))
    (s : Call × Host) : firstReading? reads (past ++ [s]) =
      if s.1.isReset then none
      else firstReading? reads past <|> if reads s.1 then s.2.reading? else none := by
  unfold firstReading? sinceReset
  cases hreset : s.1.isReset with
  | true => simp [hreset]
  | false => simp [hreset, List.findSome?_append]

/-- Every step of a session finds the host as the step before has left it. -/
theorem steps_succ {calls : List Call} {h : Host} {before after : List (Call × Host)}
    {s t : Call × Host} (hsteps : steps calls h = before ++ s :: t :: after) :
    t.2 = (s.1.run.run s.2).2 := by
  induction before generalizing calls h with
  | nil => cases calls with
    | nil => cases hsteps
    | cons c rest => cases rest with
      | nil => cases hsteps
      | cons c' rest =>
        cases hsteps
        rfl
  | cons b earlier ih => cases calls with
    | nil => cases hsteps
    | cons c rest => exact ih (List.cons.inj hsteps).2

theorem steps_zero {calls : List Call} {h : Host} {after : List (Call × Host)}
    {s : Call × Host} (hsteps : steps calls h = s :: after) : s.2 = h := by
  cases calls with
  | nil => cases hsteps
  | cons c rest =>
    cases hsteps
    rfl

/-- What the cache of a session holds is the first reading since the last reset. -/
theorem steps_config? {calls : List Call} {h : Host} (hempty : h.config? = none)
    {before after : List (Call × Host)} {s : Call × Host}
    (hsteps : steps calls h = before ++ s :: after) :
    s.2.config? = firstReading? Call.consults before := by
  -- by induction on the steps before, from the last one of them to the first
  induction before using List.reverseRecOn generalizing s after with
  | nil =>
    rw [steps_zero hsteps, hempty]
    rfl
  | append_singleton earlier t ih =>
    simp only [List.append_assoc, List.singleton_append] at hsteps
    rw [steps_succ hsteps, Call.run_config?, firstReading?_append, ih hsteps]

/-- How a session deals with the configuration. -/
structure ReadsOnce (calls : List Call) (h : Host) : Prop where
  /-- What is in the cache before a step is the first reading since the last reset. -/
  kept : ∀ {before s after}, steps calls h = before ++ s :: after →
    s.2.config? = firstReading? Call.consults before
  /-- The configuration in effect is that one; as long as there is none, it is read anew. -/
  seen : ∀ {before s after}, steps calls h = before ++ s :: after →
    s.2.configuration = match firstReading? Call.consults before with
      | some c => .ok c
      | none => Config.read s.2.environment s.2.dotenv?
  /-- From that reading on the variables do not matter to any step, those of the build apart,
      until a reset. -/
  settled : ∀ {before s after config}, steps calls h = before ++ s :: after →
    firstReading? Call.consults before = some config → s.1.isReset = false → s.1.isSetting = false →
    ∀ environment dotenv?, (s.2.around (some config) environment dotenv?).build = s.2.build →
      s.1.run.run (s.2.around (some config) environment dotenv?) =
        ((s.1.run.run s.2).1, (s.1.run.run s.2).2.around (some config) environment dotenv?)
  /-- A call that is to ask for the configuration is given the one in effect, which is then in
      the cache. If there is none, the call fails and leaves everything as it is. -/
  consulting : ∀ c ∈ calls, c.asks = true → c.overflows = false → Action.Consults c.run
  /-- The only such calls that do not come to ask are those whose document overflows: they fail
      with that, whatever the configuration is, and leave everything as it is. -/
  overflowing : ∀ c ∈ calls, c.asks = true → c.overflows = true →
    ∃ f, f.category = .overflow ∧ ∀ g : Host, c.run.run g = (.error (.fault f), g)
  /-- Every other call but a reset takes no notice of the cache. -/
  ignoring : ∀ c ∈ calls, c.asks = false → c.isReset = false → Action.IgnoresCache c.run
  /-- A reset clears the cache. -/
  clearing : ∀ c ∈ calls, c.isReset = true → ∀ g : Host,
    c.run.run g = (.ok .done, { g with config? := none })
  /-- A call for the configuration shows the one in effect. -/
  shown : ∀ c ∈ calls, c = .config → ∀ g : Host,
    (c.run.run g).1 =
      (g.configuration.mapError (Failure.ofRefusal Config.title)).map Reply.config

/-- Every session from an empty cache works with the first configuration that it could read
    since its last reset. -/
theorem runSession_readsOnce (calls : List Call) (h : Host) (hempty : h.config? = none) :
    ReadsOnce calls h where
  kept hsteps := steps_config? hempty hsteps
  seen hsteps := by
    simp only [← steps_config? hempty hsteps]
    rfl
  settled hsteps hfirst hreset hset :=
    Call.run_around hreset hset ((steps_config? hempty hsteps).trans hfirst)
  consulting _ _ hasks hfits := Call.consults_run (Call.consults_iff.mpr ⟨hasks, hfits⟩)
  overflowing _ _ hasks hover := Call.run_overflow hasks hover
  ignoring c _ hasks hreset := Call.ignoresCache_run (by rw [Call.consults, hasks]; rfl) hreset
  clearing c _ hreset g := by
    cases c with
    | reset => rfl
    | _ => cases hreset
  shown c _ hconfig g := by
    subst hconfig
    unfold Call.run
    simp only [Action.run_map, Action.run_config]

/-- A switch holds a word for no truth value, then is off when a slideshow is built, then is on
    again: the slideshow decides, until a reset. -/
def switching : List Call := [
  .setVariables [(Config.metricsVariable, some "maybe")],
  .config,
  .setVariables [(Config.metricsVariable, some "off")],
  .build (.text "slideshow") [],
  .setVariables [(Config.metricsVariable, some "on")],
  .config,
  .reset,
  .config]

theorem runSession_readsOnce_switching :
    ({} : Host).config? = none ∧ ReadsOnce switching {} ∧
    firstReading? Call.consults ((steps switching {}).take 3) = none ∧
    firstReading? Call.consults ((steps switching {}).take 6) = some { metricsEnabled := false } ∧
    firstReading? Call.consults ((steps switching {}).take 7) = none ∧
    firstReading? Call.consults (steps switching {}) = some {} :=
  ⟨rfl, runSession_readsOnce switching {} rfl, by decide +kernel, by decide +kernel,
    by decide +kernel, by decide +kernel⟩

/-- A page address that is a crop cannot be written if a side of it is 10⁴⁰⁰, and the switch that
    is set then is still read, although the configuration was to be read before. -/
theorem runSession_overflow_unread : ¬ ∀ (calls : List Call) (h : Host), h.config? = none →
    (runSession calls h).2.config? = firstReading? Call.asks (steps calls h) := by
  intro hall
  have := hall [
    .serialize 0 (.text "browser_source") (.record (.payload .browserSource)
      [("url", .record (.part (.crop .manual)) [("left", .int (10 ^ 400))])]),
    .setVariables [(Config.metricsVariable, some "false")],
    .config] {} rfl
  revert this
  decide +kernel

end SceneSource
