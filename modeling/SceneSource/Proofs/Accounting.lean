-- SUMMARY: What the metrics of a session count: which calls reach the counters, and how often.
import SceneSource.Proofs.Updates

/-!
# Accounting

A call adds to the metrics what it records, and no call records more than once. Which pair
of a kind and a status that is depends on the call alone; whether it is recorded depends on
the configuration in effect and on whether a document overflows. The metrics of a session
are what its calls record, one after the other.
-/

namespace SceneSource

/-- Whether serializations are counted on a host: its configuration can be told and says so. -/
def Host.isCounting (h : Host) : Bool :=
  match h.configuration with
  | .ok c => c.metricsEnabled
  | .error _ => false

/-- The status of an attempt at a document. -/
def statusOf : Except Fault Json → String
  | .ok _ => "ok"
  | .error _ => "error"

/-- Whether a document could not be made because a number in it is too large for a double. -/
def overflowed : Except Fault Json → Bool
  | .ok _ => false
  | .error f => f.category = .overflow

theorem Action.latency_ok_iff {duration : Value} {n : Number} {d : Double} :
    latency duration = .ok (n, d) ↔ duration.number? = some n ∧ n.toDouble = .ok d := by
  constructor
  · intro h
    unfold latency at h
    split at h
    · cases h
    · rename_i hnumber
      split at h
      · rename_i hdouble
        cases h
        exact ⟨hnumber, hdouble⟩
      · cases h
  · rintro ⟨hnumber, hdouble⟩
    unfold latency
    simp only [hnumber, hdouble]

/-- A serialization that is recorded: its labels and its latency. -/
structure Recording where
  kind : String
  status : String
  latency : Number
deriving DecidableEq, Repr

/-- The labels of the counter that counts it. -/
def Recording.labels (r : Recording) : String × String := (r.kind, r.status)

namespace Call

/-- The labels under which a call is to be counted: those that it is told to record, or the
    kind and the status of the document that it asks for. -/
def attempt? : Call → Option (String × String)
  | serialize _ kind payload => match Action.kindOf kind with
    | .ok k => if Action.payloadKind? payload = some k then
        some (k.tag, statusOf (document payload)) else none
    | .error _ => none
  | update _ _ payload _ =>
      (Action.payloadKind? payload).map fun k => (k.tag, statusOf (document payload))
  | record kind status _ => match kind.display?, status.display? with
    | .ok k, .ok s => some (k, s)
    | _, _ => none
  | construct .. | build .. | rebuild .. | logPayload .. | config | setVariables _ | reset => none

/-- The latency of a call that can record something: the one that it is told to record, or the
    time that its document takes. -/
def latency? : Call → Option Number
  | serialize elapsed _ _ | update elapsed _ _ _ => some (.real (Action.tookMillis elapsed))
  | record _ _ duration => duration.number?
  | construct .. | build .. | rebuild .. | logPayload .. | config | setVariables _ | reset => none

/-- What a call is to record. -/
def recording? (c : Call) : Option Recording :=
  c.attempt?.bind fun labels => c.latency?.map fun n => ⟨labels.1, labels.2, n⟩

/-- Whether the document that a call asks for overflows. -/
def overflows : Call → Bool
  | serialize _ _ payload | update _ _ payload _ => overflowed (document payload)
  | construct .. | build .. | rebuild .. | record .. | logPayload .. | config | setVariables _ |
      reset => false

/-- Whether a latency that a call is told to record is a number that fits a double. -/
def IsTimed : Call → Prop
  | record _ _ duration => ∃ n d, Action.latency duration = .ok (n, d) ∧ n.isOrdered = true
  | _ => True

/-- The latency is to be a number other than NaN, and not too large for a double. -/
theorem isTimed_record (kind status duration : Value) :
    (record kind status duration).IsTimed ↔
      (duration.number?.any fun n => n.isOrdered && n.toDouble.isOk) = true := by
  simp only [IsTimed, Action.latency_ok_iff, Option.any_eq_true, Bool.and_eq_true]
  constructor
  · rintro ⟨n, d, ⟨hnumber, hdouble⟩, hordered⟩
    refine ⟨n, hnumber, hordered, ?_⟩
    rw [hdouble]
    rfl
  · rintro ⟨n, hnumber, hordered, hfits⟩
    cases hdouble : n.toDouble with
    | error => cases hdouble ▸ hfits
    | ok d => exact ⟨n, d, ⟨hnumber, hdouble⟩, hordered⟩

instance : DecidablePred IsTimed
  | record kind status duration => decidable_of_iff _ (isTimed_record kind status duration).symm
  | construct .. | build .. | rebuild .. | serialize .. | update .. | logPayload .. | config |
      setVariables _ | reset => isTrue trivial

/-- Whether a call can record something. -/
def canRecord : Call → Bool
  | serialize .. | update .. | record .. => true
  | construct .. | build .. | rebuild .. | logPayload .. | config | setVariables _ | reset => false

/-- Whether a call only constructs an instance. -/
def isConstruction : Call → Bool
  | construct .. | build .. | rebuild .. => true
  | serialize .. | update .. | record .. | logPayload .. | config | setVariables _ | reset => false

/-- Whether a call on a host is to be counted under some labels. -/
def isAttempt (kind status : String) (c : Call) (h : Host) : Bool :=
  h.isCounting && decide (c.attempt? = some (kind, status))

/-- What a call on a host records. -/
def recorded? (c : Call) (h : Host) : Option Recording :=
  if h.isCounting && !c.overflows then c.recording? else none

end Call

/-- Every call of a session with the host that it finds. -/
def steps : List Call → Host → List (Call × Host)
  | [], _ => []
  | c :: rest, h => (c, h) :: steps rest (c.run.run h).2

/-! ## One call -/

namespace Metrics

/-- The metrics `m'` come out of `m` by recording one latency under some labels, or nothing. -/
def Advances (m m' : Metrics) : Option (String × String) → Prop
  | none => m' = m
  | some (kind, status) => ∃ n d, n.isOrdered = true ∧ m' = m.recorded kind status n d

theorem Advances.counter {m m' : Metrics} {labels? : Option (String × String)}
    (h : m.Advances m' labels?) (kind status : String) :
    m'.counter kind status =
      m.counter kind status + if labels? = some (kind, status) then 1 else 0 := by
  cases labels? with
  | none =>
    have hsame : m' = m := h
    rw [hsame, if_neg nofun, Nat.add_zero]
  | some labels =>
    obtain ⟨n, d, _, rfl⟩ := h
    simp only [counter_recorded]
    by_cases hlabels : labels = (kind, status)
    · simp only [if_pos hlabels.symm, if_pos (congrArg some hlabels)]
    · simp only [if_neg (Ne.symm hlabels), if_neg fun hsome => hlabels (Option.some_inj.mp hsome)]

theorem Advances.balanced {m m' : Metrics} {labels? : Option (String × String)}
    (h : m.Advances m' labels?) (hm : m.Balanced) : m'.Balanced := by
  cases labels? with
  | none =>
    have hsame : m' = m := h
    simp only [hsame]
    exact hm
  | some labels =>
    obtain ⟨n, d, hn, rfl⟩ := h
    exact hm.recorded hn _ _ d

/-- The metrics `m'` come out of `m` by recording one serialization, or nothing. -/
def Gains (m m' : Metrics) : Option Recording → Prop
  | none => m' = m
  | some r => ∃ d, r.latency.isOrdered = true ∧ m' = m.recorded r.kind r.status r.latency d

theorem Gains.advances {m m' : Metrics} {r? : Option Recording} (h : m.Gains m' r?) :
    m.Advances m' (r?.map Recording.labels) := by
  cases r? with
  | none => exact h
  | some r =>
    obtain ⟨d, hn, hm⟩ := h
    exact ⟨r.latency, d, hn, hm⟩

end Metrics

namespace Host

theorem isCounting_ok {h : Host} {c : Config} (hc : h.configuration = .ok c) :
    h.isCounting = c.metricsEnabled := by
  simp only [isCounting, hc]

theorem isCounting_error {h : Host} {r : Refusal} (hc : h.configuration = .error r) :
    h.isCounting = false := by
  simp only [isCounting, hc]

/-- The metrics gain what is recorded if they are counted at all. -/
theorem gains_recorded {h : Host} {c : Config} (hc : h.configuration = .ok c) {n : Number}
    (hn : n.isOrdered = true) (kind status : String) (d : Double) :
    h.metrics.Gains (h.recorded c kind status n d).metrics
      (if h.isCounting then some ⟨kind, status, n⟩ else none) := by
  simp only [isCounting_ok hc]
  unfold recorded
  cases c.metricsEnabled with
  | true => exact ⟨d, hn, rfl⟩
  | false => exact h.configured_metrics

end Host

namespace Action

variable (h : Host)

/-- The three ways in which recording a latency ends once the configuration is known: a label
    has no text, metrics are off, or the latency is recorded. -/
theorem run_record_cases {h : Host} {c : Config} (hc : h.configuration = .ok c)
    (kind status : Value) {duration : Value} {n : Number} {d : Double}
    (hlatency : latency duration = .ok (n, d)) :
    (∃ f, (Call.record kind status duration).attempt? = none ∧
      (record kind status duration).run h = (.error (.fault f), h.configured)) ∨
    (c.metricsEnabled = false ∧
      (record kind status duration).run h = (.ok (), h.configured)) ∨
    (∃ k s, (Call.record kind status duration).attempt? = some (k, s) ∧
      (record kind status duration).run h = (.ok (), h.recorded c k s n d)) := by
  cases hon : c.metricsEnabled with
  | false => exact .inr (.inl ⟨rfl, run_record_off hc hon _ _ _⟩)
  | true => cases hkind : kind.display? with
    | error f =>
      refine .inl ⟨f, ?_, run_record_labels hc hon _ (.inl hkind)⟩
      simp only [Call.attempt?, hkind]
    | ok k => cases hstatus : status.display? with
      | error f =>
        refine .inl ⟨f, ?_, run_record_labels hc hon _ (.inr ⟨k, hkind, hstatus⟩)⟩
        simp only [Call.attempt?, hkind, hstatus]
      | ok s =>
        refine .inr (.inr ⟨k, s, ?_, run_record_ok hc hkind hstatus hlatency⟩)
        simp only [Call.attempt?, hkind, hstatus]

/-- What recording adds to the metrics, whether or not it succeeds. -/
theorem record_gains (kind status : Value) {duration : Value} {n : Number} {d : Double}
    (hlatency : latency duration = .ok (n, d)) (hn : n.isOrdered = true) :
    h.metrics.Gains ((record kind status duration).run h).2.metrics
      (if h.isCounting then (Call.record kind status duration).recording? else none) := by
  cases hc : h.configuration with
  | error r =>
    simp only [run_record_error hc, Host.isCounting_error hc]
    rfl
  | ok c =>
    unfold Call.recording?
    obtain ⟨f, hnone, hrun⟩ | ⟨hoff, hrun⟩ | ⟨k, s, hsome, hrun⟩ :=
      run_record_cases hc kind status hlatency
    · simp only [hrun, hnone, Option.bind_none, ite_self]
      exact h.configured_metrics
    · simp only [hrun, Host.isCounting_ok hc, hoff]
      exact h.configured_metrics
    · simp only [hrun, hsome, Call.latency?, (latency_ok_iff.mp hlatency).1]
      exact Host.gains_recorded hc hn k s d

/-- What a serialization of a payload of the kind adds to the metrics. -/
theorem serialize_matching_gains {k : Kind} {payload : Value}
    (hp : payloadKind? payload = some k) (elapsed : Nat) :
    h.metrics.Gains ((serialize elapsed (.text k.tag) payload).run h).2.metrics
      (if h.isCounting && !overflowed (document payload) then
        some ⟨k.tag, statusOf (document payload), .real (tookMillis elapsed)⟩ else none) := by
  have hnumber : (Number.real (tookMillis elapsed)).isOrdered = true := by
    have hnan : (tookMillis elapsed).isNaN = false := Double.isNaN_ofRatio _ _ _
    simp only [Number.isOrdered, hnan]
    rfl
  obtain ⟨f, hd, hf, hs⟩ | ⟨r, hc, _, hs⟩ | ⟨c, j, hc, hd, hs⟩ | ⟨c, f, hc, hd, hf, hs⟩ :=
    run_serialize_cases h hp elapsed
  · simp only [hs, hd]
    simp only [overflowed, hf, decide_true, Bool.not_true, Bool.and_false]
    rfl
  · simp only [hs, Host.isCounting_error hc]
    rfl
  · simp only [hs, hd, Host.logged_metrics]
    simp only [overflowed, Bool.not_false, Bool.and_true]
    exact Host.gains_recorded hc hnumber _ _ _
  · simp only [hs, hd, Host.logged_metrics]
    simp only [overflowed, hf, decide_false, Bool.not_false, Bool.and_true]
    exact Host.gains_recorded hc hnumber _ _ _

/-- An update adds to the metrics what its serialization adds. -/
theorem updateFrom_metrics {k : Kind} {payload : Value} (hp : payloadKind? payload = some k)
    (elapsed : Nat) (name : Value) (withKind : Bool) :
    ((updateFrom elapsed name payload withKind).run h).2.metrics =
      ((serialize elapsed (.text k.tag) payload).run h).2.metrics := by
  unfold updateFrom
  simp only [hp]
  exact run_bind_metrics _ (fun _ => uncounted_construct _ _) h

end Action

namespace Call

theorem attempt?_of_not_canRecord {c : Call} (hc : c.canRecord = false) : c.attempt? = none := by
  cases c with
  | serialize | update | record => cases hc
  | _ => rfl

/-- A call that can record nothing leaves the metrics as they are. -/
theorem uncounted_run {c : Call} (hc : c.canRecord = false) : Action.Uncounted c.run := by
  intro h
  cases c with
  | construct m entries =>
    simp only [run, Action.run_map]
    exact Action.uncounted_construct m entries h
  | build kind overrides =>
    simp only [run, Action.run_map]
    exact Action.uncounted_build kind overrides h
  | rebuild kind overrides =>
    simp only [run, Action.run_map]
    exact Action.uncounted_rebuild kind overrides h
  | logPayload kind settings duration =>
    refine (Action.run_bind_metrics _ (fun g => ?_) h).trans rfl
    exact (Action.uncounted_ofFault _).bind fun _ => Action.uncounted_pure _
  | config =>
    simp only [run, Action.run_map]
    exact Action.uncounted_config h
  | setVariables changes =>
    exact (Action.Uncounted.forM (fun _ => Action.uncounted_setVariable _ _) changes).bind
      (fun _ => Action.uncounted_pure _) h
  | reset => exact Action.uncounted_resetConfig.bind (fun _ => Action.uncounted_pure _) h
  | serialize | update | record => cases hc

/-- A call adds to the metrics what it records. -/
theorem run_gains (c : Call) (hc : c.IsTimed) (h : Host) :
    h.metrics.Gains (c.run.run h).2.metrics (c.recorded? h) := by
  unfold recorded? recording?
  cases hcan : c.canRecord with
  | false =>
    simp only [attempt?_of_not_canRecord hcan, Option.bind_none, ite_self]
    exact uncounted_run hcan h
  | true => cases c with
    | serialize elapsed kind payload =>
      simp only [run, Action.run_map]
      cases hk : Action.kindOf kind with
      | error f =>
        simp only [Action.run_serialize_kind hk, attempt?, hk, Option.bind_none, ite_self]
        rfl
      | ok k =>
        by_cases hp : Action.payloadKind? payload = some k
        · simp only [Action.eq_tag_of_kindOf hk, attempt?, Action.kindOf_tag]
          simp only [hp, if_true]
          exact Action.serialize_matching_gains h hp elapsed
        · simp only [Action.run_serialize_mismatch hk hp, attempt?, hk]
          simp only [hp, if_false, Option.bind_none, ite_self]
          rfl
    | update elapsed name payload withKind =>
      simp only [run, Action.run_map]
      cases hp : Action.payloadKind? payload with
      | none =>
        simp only [Action.run_updateFrom_none hp, attempt?, hp, Option.map_none, Option.bind_none,
          ite_self]
        rfl
      | some k =>
        simp only [attempt?, hp, Action.updateFrom_metrics h hp]
        exact Action.serialize_matching_gains h hp elapsed
    | record kind status duration =>
      obtain ⟨n, d, hlatency, hn⟩ := hc
      simp only [run, Action.run_bind_metrics _ fun _ => Action.uncounted_pure _]
      simp only [overflows, Bool.not_false, Bool.and_true]
      exact Action.record_gains h kind status hlatency hn
    | _ => cases hcan

/-- What a call is to record stands under the labels under which the call is to be counted. -/
theorem labels_recording? {c : Call} (hc : c.IsTimed) :
    c.recording?.map Recording.labels = c.attempt? := by
  have hlatency : c.canRecord = true → ∃ n, c.latency? = some n := by
    intro hcan
    cases c with
    | serialize | update => exact ⟨_, rfl⟩
    | record kind status duration =>
      obtain ⟨n, d, hlatency, -⟩ := hc
      exact ⟨n, (Action.latency_ok_iff.mp hlatency).1⟩
    | _ => cases hcan
  unfold recording?
  cases hcan : c.canRecord with
  | false => simp only [attempt?_of_not_canRecord hcan, Option.bind_none, Option.map_none]
  | true =>
    obtain ⟨n, hn⟩ := hlatency hcan
    cases c.attempt? with
    | none => rfl
    | some labels => simp only [hn, Option.bind_some, Option.map_some, Recording.labels]

/-- What a call adds to the metrics: it is counted once if it is to be counted, unless the
    document that it asks for overflows. -/
theorem run_advances (c : Call) (hc : c.IsTimed) (h : Host) :
    h.metrics.Advances (c.run.run h).2.metrics
      (if h.isCounting && !c.overflows then c.attempt? else none) := by
  have hgains := (c.run_gains hc h).advances
  unfold recorded? at hgains
  simpa only [apply_ite (Option.map Recording.labels), Option.map_none, labels_recording? hc]
    using hgains

end Call

/-! ## Refused calls -/

namespace Failure

/-- Whether a failure says that the kind is unknown, that the payload is of another kind, or
    that the configuration cannot be read. -/
def isEarly : Failure → Bool
  | unknownKind _ | mismatch .. => true
  | invalid title _ => title = Config.title
  | fault _ | serialization .. => false

end Failure

namespace Action

/-- Nothing is recorded before a serialization that fails early. -/
theorem serialize_early {k : Kind} {payload : Value} (hp : payloadKind? payload = some k)
    (elapsed : Nat) (h : Host) {f : Failure}
    (hout : ((serialize elapsed (.text k.tag) payload).run h).1 = .error f)
    (hf : f.isEarly = true) :
    ((serialize elapsed (.text k.tag) payload).run h).2 = h := by
  obtain ⟨g, _, _, hs⟩ | ⟨r, _, _, hs⟩ | ⟨c, j, _, _, hs⟩ | ⟨c, g, _, _, _, hs⟩ :=
    run_serialize_cases h hp elapsed
  · simp only [hs]
  · simp only [hs]
  · simp only [hs] at hout
    cases hout
  · simp only [hs] at hout
    cases hout
    cases hf

/-- Nothing is recorded before an update that fails early. -/
theorem updateFrom_early {k : Kind} {payload : Value} (hp : payloadKind? payload = some k)
    {elapsed : Nat} {name : Value} {withKind : Bool} {h : Host} {f : Failure}
    (hout : ((updateFrom elapsed name payload withKind).run h).1 = .error f)
    (hf : f.isEarly = true) :
    ((updateFrom elapsed name payload withKind).run h).2 = h := by
  cases hs : (serialize elapsed (.text k.tag) payload).run h with
  | mk outcome h' => cases outcome with
    | error g =>
      simp only [run_updateFrom_error hp hs] at hout ⊢
      cases hout
      have := serialize_early hp elapsed h (congrArg Prod.fst hs) hf
      rwa [hs] at this
    | ok j =>
      exfalso
      simp only [run_updateFrom_ok hp hs] at hout
      cases hn : Leaf.nameOf name with
      | ok v =>
        simp only [hn] at hout
        cases hout
      | error r =>
        obtain ⟨reason, rfl⟩ := Leaf.nameOf_error hn
        simp only [hn] at hout
        cases hout
        cases hf

end Action

namespace Call

/-- A call that fails early leaves the metrics as they are. -/
theorem run_early (c : Call) (hc : c.IsTimed) (h : Host) {f : Failure}
    (hout : (c.run.run h).1 = .error f) (hf : f.isEarly = true) :
    (c.run.run h).2.metrics = h.metrics := by
  cases hcan : c.canRecord with
  | false => exact uncounted_run hcan h
  | true => cases c with
    | serialize elapsed kind payload =>
      simp only [run, Action.run_map] at hout ⊢
      replace hout := Outcome.map_eq_error hout
      cases hk : Action.kindOf kind with
      | error g => simp only [Action.run_serialize_kind hk]
      | ok k =>
        by_cases hp : Action.payloadKind? payload = some k
        · simp only [Action.eq_tag_of_kindOf hk] at hout ⊢
          simp only [Action.serialize_early hp elapsed h hout hf]
        · simp only [Action.run_serialize_mismatch hk hp]
    | update elapsed name payload withKind =>
      simp only [run, Action.run_map] at hout ⊢
      replace hout := Outcome.map_eq_error hout
      cases hp : Action.payloadKind? payload with
      | none => simp only [Action.run_updateFrom_none hp]
      | some k => simp only [Action.updateFrom_early hp hout hf]
    | record kind status duration =>
      obtain ⟨n, d, hlatency, hn⟩ := hc
      simp only [run, Action.run_bind] at hout ⊢
      cases hconf : h.configuration with
      | error r => simp only [Action.run_record_error hconf]
      | ok c =>
        exfalso
        obtain ⟨g, _, hg⟩ | ⟨_, hg⟩ | ⟨_, _, _, hg⟩ :=
          Action.run_record_cases hconf kind status hlatency
        · simp only [hg] at hout
          cases hout
          cases hf
        · simp only [hg] at hout
          cases hout
        · simp only [hg] at hout
          cases hout
    | _ => cases hcan

end Call

/-! ## Sessions -/

/-- Whether a call on a host is to be counted under some labels but asks for a document that
    overflows. -/
def Call.isLost (kind status : String) (c : Call) (h : Host) : Bool :=
  c.isAttempt kind status h && c.overflows

/-- Over a session, counters grow by the attempts that are not lost. -/
theorem runSession_counter (calls : List Call) (htimed : ∀ c ∈ calls, c.IsTimed) (h : Host)
    (kind status : String) :
    (runSession calls h).2.metrics.counter kind status +
        (steps calls h).countP (fun s => s.1.isLost kind status s.2) =
      h.metrics.counter kind status +
        (steps calls h).countP (fun s => s.1.isAttempt kind status s.2) := by
  induction calls generalizing h with
  | nil => rfl
  | cons c rest ih =>
    have hstep := (c.run_advances (htimed c (List.mem_cons_self ..)) h).counter kind status
    have hrest := ih (fun c hc => htimed c (List.mem_cons_of_mem _ hc)) (c.run.run h).2
    have hrun : (runSession (c :: rest) h).2 = (runSession rest (c.run.run h).2).2 := rfl
    simp only [hrun, steps, List.countP_cons]
    unfold Call.isLost Call.isAttempt at *
    cases hcounting : h.isCounting with
    | false =>
      simp only [hcounting, Bool.false_and, Bool.false_eq_true, if_false, reduceCtorEq] at hstep ⊢
      omega
    | true => cases hoverflows : c.overflows with
      | true =>
        simp only [hcounting, hoverflows, Bool.not_true, Bool.and_false, Bool.and_true,
          Bool.true_and, Bool.false_eq_true, if_false, reduceCtorEq] at hstep ⊢
        omega
      | false =>
        simp only [hcounting, hoverflows, Bool.not_false, Bool.and_true, Bool.and_false,
          Bool.true_and, Bool.false_eq_true, if_false, if_true, decide_eq_true_eq] at hstep ⊢
        omega

/-- Over a session, latencies stay in step with counters. -/
theorem runSession_balanced (calls : List Call) (htimed : ∀ c ∈ calls, c.IsTimed) (h : Host)
    (hm : h.metrics.Balanced) : (runSession calls h).2.metrics.Balanced := by
  induction calls generalizing h with
  | nil => exact hm
  | cons c rest ih =>
    have hstep := c.run_advances (htimed c (List.mem_cons_self ..)) h
    exact ih (fun c hc => htimed c (List.mem_cons_of_mem _ hc)) _ (hstep.balanced hm)

theorem mem_of_mem_steps {calls : List Call} {h : Host} {s : Call × Host}
    (hs : s ∈ steps calls h) : s.1 ∈ calls := by
  induction calls generalizing h with
  | nil => cases hs
  | cons c rest ih =>
    rcases List.mem_cons.mp hs with rfl | hs
    · exact List.mem_cons_self ..
    · exact List.mem_cons_of_mem _ (ih hs)

/-- The books of a session: what its metrics say, and which of its calls changed them. -/
structure Accounts (calls : List Call) (h : Host) : Prop where
  /-- Every counter is the number of attempts under its labels, less those that are lost. -/
  counter : ∀ kind status,
    (runSession calls h).2.metrics.counter kind status +
        (steps calls h).countP (fun s => s.1.isLost kind status s.2) =
      (steps calls h).countP (fun s => s.1.isAttempt kind status s.2)
  /-- A counter is the number of all attempts exactly when no document among them overflows. -/
  exact_iff : ∀ kind status,
    ((runSession calls h).2.metrics.counter kind status =
        (steps calls h).countP (fun s => s.1.isAttempt kind status s.2)) ↔
      ∀ s ∈ steps calls h, s.1.isAttempt kind status s.2 → s.1.overflows = false
  /-- A kind has as many latencies as its counters say, over all statuses. -/
  latencies : ∀ kind,
    (runSession calls h).2.metrics.latencies kind =
      ∑ status ∈ (runSession calls h).2.metrics.statuses kind,
        (runSession calls h).2.metrics.counter kind status
  /-- An unknown kind, a payload of another kind, a configuration that cannot be read and a
      construction that fails change no metric. -/
  refused : ∀ s ∈ steps calls h, ∀ f, (s.1.run.run s.2).1 = .error f →
    f.isEarly = true ∨ s.1.isConstruction = true → (s.1.run.run s.2).2.metrics = s.2.metrics
  /-- An update that is refused as an update is refused for the name of its source only, and
      its serialization counts. -/
  renamed : ∀ elapsed name payload withKind g issues,
    (Call.update elapsed name payload withKind, g) ∈ steps calls h →
    ((Call.update elapsed name payload withKind).run.run g).1 =
      .error (.invalid Model.update.name issues) →
    ∃ k reason, Action.payloadKind? payload = some k ∧
      issues = [⟨reason, [.key "source_name"]⟩] ∧
      g.metrics.Advances ((Call.update elapsed name payload withKind).run.run g).2.metrics
        (if g.isCounting then some (k.tag, "ok") else none)

/-- From cleared metrics, every session that records only latencies that are numbers keeps
    its books. As every beginning of a session is a session, it does so at every point. -/
theorem runSession_accounts (calls : List Call) (h : Host) (hempty : h.metrics = {})
    (htimed : ∀ c ∈ calls, c.IsTimed) : Accounts calls h := by
  have hcounter : ∀ kind status,
      (runSession calls h).2.metrics.counter kind status +
          (steps calls h).countP (fun s => s.1.isLost kind status s.2) =
        (steps calls h).countP (fun s => s.1.isAttempt kind status s.2) := by
    intro kind status
    have hzero : h.metrics.counter kind status = 0 := by
      simp only [hempty]
      rfl
    simp only [runSession_counter calls htimed h, hzero, Nat.zero_add]
  have hbalanced : (runSession calls h).2.metrics.Balanced :=
    runSession_balanced calls htimed h (hempty ▸ Metrics.balanced_empty)
  refine ⟨hcounter, fun kind status => ?_, hbalanced.latencies_eq_sum, ?_, ?_⟩
  · have hnone : (steps calls h).countP (fun s => s.1.isLost kind status s.2) = 0 ↔
        ∀ s ∈ steps calls h, s.1.isAttempt kind status s.2 → s.1.overflows = false := by
      simp only [List.countP_eq_zero]
      simp only [Call.isLost, Bool.and_eq_true, not_and, Bool.not_eq_true]
    simp only [← hnone, ← hcounter kind status]
    omega
  · intro s hs f hout hf
    rcases hf with hearly | hconstruction
    · exact s.1.run_early (htimed _ (mem_of_mem_steps hs)) s.2 hout hearly
    · refine Call.uncounted_run ?_ s.2
      obtain ⟨c, g⟩ := s
      cases c with
      | construct | build | rebuild => rfl
      | _ => cases hconstruction
  · intro elapsed name payload withKind g issues hs hout
    have hupdate := hout
    simp only [Call.run, Action.run_map] at hupdate
    obtain ⟨k, j, reason, hp, hd, hissues⟩ :=
      Action.updateFrom_invalid (Outcome.map_eq_error hupdate)
    refine ⟨k, reason, hp, hissues, ?_⟩
    have hadvances := (Call.update elapsed name payload withKind).run_advances trivial g
    simp only [Call.overflows, Call.attempt?, hp, hd, overflowed, statusOf, Option.map_some,
      Bool.not_false, Bool.and_true] at hadvances
    exact hadvances

/-- A session that serializes an image with every default and then records one more
    serialization of its kind. -/
theorem runSession_accounts_twice :
    ({} : Host).metrics = {} ∧
    (∀ c ∈ [Call.serialize 1500000 (.text "image_source")
        (.record (.payload .imageSource) [("file", .text ""), ("unload", .bool false)]),
      .record (.text "image_source") (.text "ok") (.real .zero)], c.IsTimed) ∧
    Accounts [.serialize 1500000 (.text "image_source")
        (.record (.payload .imageSource) [("file", .text ""), ("unload", .bool false)]),
      .record (.text "image_source") (.text "ok") (.real .zero)] {} := by
  have htimed : ∀ c ∈ [Call.serialize 1500000 (.text "image_source")
        (.record (.payload .imageSource) [("file", .text ""), ("unload", .bool false)]),
      .record (.text "image_source") (.text "ok") (.real .zero)], c.IsTimed := by
    intro c hc
    rcases List.mem_pair.mp hc with rfl | rfl
    · trivial
    · exact ⟨.real .zero, .zero, rfl, rfl⟩
  exact ⟨rfl, htimed, runSession_accounts _ _ rfl htimed⟩

/-- A page address that is a crop cannot be written if a side of it is 10⁴⁰⁰, and nothing says
    in the metrics that it was tried. -/
theorem runSession_overflow_lost : ¬ ∀ (calls : List Call) (h : Host), h.metrics = {} →
    (∀ c ∈ calls, c.IsTimed) → ∀ kind status,
      (runSession calls h).2.metrics.counter kind status =
        (steps calls h).countP (fun s => s.1.isAttempt kind status s.2) := by
  intro hall
  have := hall [.serialize 0 (.text "browser_source") (.record (.payload .browserSource)
    [("url", .record (.part (.crop .manual)) [("left", .int (10 ^ 400))])])] {} rfl
    (fun c hc => by cases List.mem_singleton.mp hc; trivial) "browser_source" "error"
  revert this
  decide +kernel

end SceneSource
