-- SUMMARY: Which warnings the construction of a payload logs, and what they say about its document.
import SceneSource.Proofs.Durations

/-!
# Warnings about documented minimums

A payload is compared with the documented minimums of its kind as it is constructed: durations by
the microsecond, while its document has truncated milliseconds. So a value below its minimum in the
document is warned about, and what is warned about lies below its minimum in the document too,
except for a passage backwards that is shorter than a millisecond. Nothing but the log depends on
the warnings.
-/

namespace SceneSource

/-! ## Values below minimums -/

namespace Value

/-- That a stored value lies below a minimum. -/
inductive LiesBelow : Value → Value → Prop
  | duration {d least : Duration} (hshorter : ¬ least.Precedes d) :
      LiesBelow (.duration d) (.duration least)
  | int {n least : Int} (hless : n < least) : LiesBelow (.int n) (.int least)

/-- The number that documents have for a duration or a count. -/
def documented? : Value → Option Int
  | .duration d => some d.millis
  | .int n => some n
  | _ => none

theorem isBelow_iff (v least : Value) : v.isBelow least = true ↔ v.LiesBelow least := by
  constructor
  · intro h
    unfold isBelow at h
    split at h
    · exact .duration (by simpa [Duration.precedes_iff] using h)
    · exact .int (of_decide_eq_true h)
    · cases h
  · rintro (⟨hshorter⟩ | ⟨hless⟩)
    · simpa [isBelow, Duration.precedes_iff] using hshorter
    · exact decide_eq_true hless

end Value

namespace Duration

variable {d least : Duration}

/-- What comes before another duration in milliseconds does so in microseconds. -/
theorem not_precedes_of_millis_lt (h : d.millis < least.millis) : ¬ least.Precedes d :=
  fun hprecedes => absurd (millis_mono hprecedes) (by omega)

/-- Below a minimum of whole milliseconds but not in milliseconds are only negative durations
    shorter than one, if the minimum is none. -/
theorem short_of_millis_le (hwhole : least.millis * 1000 = least.micros)
    (hpositive : 0 ≤ least.micros) (hshorter : ¬ least.Precedes d) (h : least.millis ≤ d.millis) :
    least.micros = 0 ∧ -1000 < d.micros ∧ d.micros < 0 := by
  rw [precedes_iff] at hshorter
  obtain ⟨⟨_, _⟩, _⟩ := truncates_millis d
  omega

end Duration

/-! ## Fields with minimums -/

namespace Leaf

variable {v : Value}

theorem eq_duration_of_stores (h : duration.stores v = true) : ∃ d, v = .duration d := by
  cases v with
  | duration d => exact ⟨d, rfl⟩
  | _ => cases h

theorem eq_int_of_stores (h : integer.stores v = true) : ∃ n, v = .int n := by
  cases v with
  | int n => exact ⟨n, rfl⟩
  | _ => cases h

end Leaf

/-- How minimums are documented: as whole milliseconds, positive unless the field is for the speed
    of a transition, or as a count. -/
inductive Field.Bounded (f : Field Shape) : String × Value → Prop
  | duration {least : Duration} (hshape : f.shape = .leaf .duration)
      (hwhole : least.millis * 1000 = least.micros) (hpositive : 0 ≤ least.micros)
      (hspeed : least.micros = 0 → f.name = "transition_speed") :
      Bounded f (f.name, .duration least)
  | count {least : Int} (hshape : f.shape = .leaf .integer) : Bounded f (f.name, .int least)

namespace Field.Bounded

variable {f : Field Shape} {m : String × Value} (hbounded : f.Bounded m)
include hbounded

theorem name : f.name = m.1 := by
  cases hbounded <;> rfl

/-- What is written for a value with a minimum, and how it compares with the minimum. -/
theorem exists_written {v : Value}
    (hstores : ∀ {l : Leaf}, f.shape = .leaf l → l.stores v = true) : ∃ n least,
      f.write .settings 0 v = .ok (.int n) ∧ m.2.documented? = some least ∧
      (n < least → v.LiesBelow m.2) ∧
      (v.LiesBelow m.2 → least ≤ n → f.name = "transition_speed" ∧
        ∃ d, v = .duration d ∧ -1000 < d.micros ∧ d.micros < 0) := by
  cases hbounded with
  | @duration least hshape hwhole hpositive hspeed =>
    obtain ⟨d, rfl⟩ := Leaf.eq_duration_of_stores (hstores hshape)
    refine ⟨d.millis, least.millis, ?_, rfl, fun h => ?_, ?_⟩
    · simp only [Field.write, hshape]
      exact (Leaf.settles_duration .settings 0 d).written
    · exact .duration (Duration.not_precedes_of_millis_lt h)
    · rintro ⟨hshorter⟩ hle
      obtain ⟨hnone, hshort⟩ := Duration.short_of_millis_le hwhole hpositive hshorter hle
      exact ⟨hspeed hnone, d, rfl, hshort⟩
  | @count least hshape =>
    obtain ⟨n, rfl⟩ := Leaf.eq_int_of_stores (hstores hshape)
    refine ⟨n, least, ?_, rfl, .int, ?_⟩
    · simp only [Field.write, hshape]
      exact (Leaf.settles_integer (Nat.zero_lt_succ 254) .settings n).written
    · rintro ⟨hless⟩ hle
      exact absurd hle (by omega)

end Field.Bounded

namespace Kind

theorem exists_bounded (k : Kind) : ∀ m ∈ k.minimums, ∃ f ∈ k.fields, f.Bounded m := by
  cases k with
  | slideshow =>
    refine List.forall_mem_cons.mpr ⟨⟨_, List.mem_of_getElem? (i := 3) rfl, ?_⟩,
      List.forall_mem_singleton.mpr ⟨_, List.mem_of_getElem? (i := 4) rfl, ?_⟩⟩
    · exact .duration rfl rfl (by decide) (by decide)
    · exact .duration rfl rfl (by decide) fun _ => rfl
  | textFt2Source =>
    exact List.forall_mem_singleton.mpr ⟨_, List.mem_of_getElem? (i := 7) rfl, .count rfl⟩
  | vlcSource =>
    refine List.forall_mem_cons.mpr ⟨⟨_, List.mem_of_getElem? (i := 4) rfl, ?_⟩,
      List.forall_mem_cons.mpr ⟨⟨_, List.mem_of_getElem? (i := 5) rfl, .count rfl⟩,
        List.forall_mem_singleton.mpr ⟨_, List.mem_of_getElem? (i := 7) rfl, .count rfl⟩⟩⟩
    exact .duration rfl rfl (by decide) (by decide)
  | _ => exact List.forall_mem_nil _

theorem nodup_minimums (k : Kind) : (k.minimums.map Prod.fst).Nodup := by
  cases k <;> decide

theorem ne_displayCapture_of_minimum {k : Kind} {m : String × Value} (hm : m ∈ k.minimums) :
    k ≠ .displayCapture := by
  rintro rfl
  cases hm

end Kind

/-! ## Shortfalls -/

namespace Shortfall

/-- The minimum that a value falls short of. -/
def minimum (s : Shortfall) : String × Value := (s.field, s.least)

/-- The record of a warning. -/
def record (s : Shortfall) : LogRecord where
  level := .warning
  logger := Action.payloadLogger
  message := s.message

end Shortfall

/-- That these are the values of a payload below documented minimums, each of them once and in the
    order of the minimums. -/
structure Value.FallsShort (k : Kind) (payload : Value) (found : List Shortfall) : Prop where
  ordered : (found.map Shortfall.minimum).Sublist k.minimums
  once : (found.map Shortfall.field).Nodup
  exact : ∀ s, s ∈ found ↔ s.kind = k ∧ (s.field, s.least) ∈ k.minimums ∧
    payload.attribute? s.field = some s.value ∧ s.value.LiesBelow s.least

namespace Kind

variable (k : Kind) (payload : Value)

theorem shortfalls_minimum : (k.shortfalls payload).map Shortfall.minimum =
    k.minimums.filter fun m => (payload.attribute? m.1).any (·.isBelow m.2) := by
  unfold shortfalls
  rw [List.map_filterMap, ← List.filterMap_eq_filter]
  congr 1
  funext ⟨field, least⟩
  simp only [Option.guard]
  rcases Option.eq_none_or_eq_some (payload.attribute? field) with hnone | ⟨v, hv⟩
  · simp [hnone]
  · cases hbelow : v.isBelow least <;> simp [hv, hbelow, Shortfall.minimum]

theorem mem_shortfalls {s : Shortfall} : s ∈ k.shortfalls payload ↔
    s.kind = k ∧ (s.field, s.least) ∈ k.minimums ∧
    payload.attribute? s.field = some s.value ∧ s.value.LiesBelow s.least := by
  unfold shortfalls
  simp only [List.mem_filterMap, Option.map_eq_some_iff, Option.filter_eq_some_iff,
    Value.isBelow_iff]
  constructor
  · rintro ⟨⟨field, least⟩, hmem, v, ⟨hv, hbelow⟩, rfl⟩
    exact ⟨rfl, hmem, hv, hbelow⟩
  · rcases s with ⟨kind, field, v, least⟩
    rintro ⟨rfl, hmem, hv, hbelow⟩
    exact ⟨(field, least), hmem, v, ⟨hv, hbelow⟩, rfl⟩

theorem fallsShort_shortfalls : payload.FallsShort k (k.shortfalls payload) where
  ordered := shortfalls_minimum k payload ▸ List.filter_sublist
  once := by
    have hfields : (k.shortfalls payload).map Shortfall.field =
        ((k.shortfalls payload).map Shortfall.minimum).map Prod.fst := by
      rw [List.map_map]
      rfl
    rw [hfields, shortfalls_minimum]
    exact (nodup_minimums k).sublist (List.filter_sublist.map _)
  exact := fun _ => mem_shortfalls k payload

end Kind

/-! ## The log -/

namespace Host

variable (h : Host)

@[simp] theorem configured_log : h.configured.log = h.log := by
  unfold configured
  split <;> rfl

@[simp] theorem configured_threshold : h.configured.threshold = h.threshold := by
  unfold configured
  split <;> rfl

theorem logged_log (r : LogRecord) :
    (h.logged r).log = h.log ++ if r.level.passes h.threshold then [r] else [] := by
  unfold logged
  split
  · rfl
  · rw [List.append_nil]

@[simp] theorem logged_threshold (r : LogRecord) : (h.logged r).threshold = h.threshold := by
  unfold logged
  split <;> rfl

/-- A warning is logged for each shortfall if warnings are logged at all. -/
theorem warned_log (found : List Shortfall) : (h.warned found).log =
    h.log ++ if Level.warning.passes h.threshold then found.map Shortfall.record else [] := by
  induction found generalizing h with
  | nil => simp [warned]
  | cons s rest ih =>
    have hstep : h.warned (s :: rest) = (h.logged s.record).warned rest := rfl
    rw [hstep, ih, logged_threshold, logged_log, List.append_assoc]
    cases hpasses : Level.warning.passes h.threshold <;> simp [Shortfall.record, hpasses]

end Host

namespace Kind

variable {k : Kind} {entries : List (String × Value)}

/-- What a construction that is accepted gives, and what it adds to the log. -/
theorem run_construct_log {payload : Value} (hread : (Model.payload k).read entries = .ok payload)
    {h : Host} {c : Config} (hc : h.configuration = .ok c) : ∃ h',
      (Action.construct (.payload k) entries).run h = (.ok payload, h') ∧
      h'.log = h.log ++ if c.warnBelowMinimum ∧ Level.warning.passes h.threshold then
        (k.shortfalls payload).map Shortfall.record else [] := by
  unfold Action.construct
  simp only [hread]
  cases hk : k.minimums.isEmpty with
  | true =>
    refine ⟨h, Action.run_bind_ok (Action.run_warnBelowMinimums_of_isEmpty hk payload) _, ?_⟩
    simp [shortfalls, List.isEmpty_iff.mp hk]
  | false =>
    refine ⟨_, Action.run_bind_ok (Action.run_warnBelowMinimums_ok hk hc payload) _, ?_⟩
    cases c.warnBelowMinimum with
    | true => simp [Host.warned_log]
    | false => simp

/-- A construction that fails leaves the log as it is. -/
theorem run_construct_error_log {h h' : Host} {failure : Failure}
    (hrun : (Action.construct (.payload k) entries).run h = (.error failure, h')) :
    h'.log = h.log := by
  unfold Action.construct at hrun
  cases hread : (Model.payload k).read entries with
  | error r =>
    simp only [hread] at hrun
    cases hrun
    rfl
  | ok payload =>
    simp only [hread] at hrun
    -- only a configuration that cannot be read is left to fail
    cases hk : k.minimums.isEmpty with
    | true =>
      have hok := Action.run_bind_ok (h := h) (Action.run_warnBelowMinimums_of_isEmpty hk payload)
        fun _ => pure payload
      cases hok.symm.trans hrun
    | false =>
      cases hc : h.configuration with
      | ok c =>
        have hok := Action.run_bind_ok (Action.run_warnBelowMinimums_ok hk hc payload)
          fun _ => pure payload
        cases hok.symm.trans hrun
      | error r =>
        have hfailed := Action.run_bind_error (Action.run_warnBelowMinimums_error hk hc payload)
          fun _ => pure payload
        cases hfailed.symm.trans hrun
        rfl

end Kind

/-! ## Minimums and documents -/

namespace Kind

/-- A document has a number for each field with a minimum. If it is below the minimum, so is what
    the field holds. What a field holds is below its minimum while the number is not only if a
    passage of less than a millisecond goes backwards. -/
theorem exists_sent {k : Kind} {entries : List (String × Value)} {payload : Value}
    (hread : (Model.payload k).read entries = .ok payload) {sent : List (String × Json)}
    (hsent : Action.settings payload = .ok (.object sent)) {m : String × Value}
    (hm : m ∈ k.minimums) : ∃ f ∈ k.fields, ∃ v n least, f.name = m.1 ∧
      payload.attribute? m.1 = some v ∧ sent.lookup f.wire = some (.int n) ∧
      m.2.documented? = some least ∧ (n < least → v.LiesBelow m.2) ∧
      (v.LiesBelow m.2 → least ≤ n → m.1 = "transition_speed" ∧
        ∃ d, v = .duration d ∧ -1000 < d.micros ∧ d.micros < 0) := by
  obtain ⟨val, hval, rfl⟩ := eq_record_of_read hread
  obtain ⟨f, hf, hbounded⟩ := exists_bounded k m hm
  obtain ⟨n, least, hwrite, hleast, hbelow, hshort⟩ :=
    hbounded.exists_written fun hl => stores_of_read hf (hval f hf) hl
  have hlookup := lookup_document hf (ne_displayCapture_of_minimum hm) hwrite rfl hsent
  rw [← hbounded.name]
  exact ⟨f, hf, val f, n, least, rfl, attribute?_record k val hf, hlookup, hleast, hbelow, hshort⟩

/-- A construction logs a warning for each value below its documented minimum, in the order of the
    minimums, if the configuration asks for warnings and the log takes them. What it gives does not
    depend on that, and a construction that fails logs nothing. A value that the document has below
    its minimum is warned about, and one that it has not below only if it is the negative speed of
    a transition, shorter than a millisecond. -/
theorem warnings_sent (k : Kind) (entries : List (String × Value)) :
    (∀ payload, (Model.payload k).read entries = .ok payload → ∃ found,
      payload.FallsShort k found ∧
      (∀ h c, h.configuration = .ok c → ∃ h',
        (Action.construct (.payload k) entries).run h = (.ok payload, h') ∧
        h'.log = h.log ++ if c.warnBelowMinimum ∧ Level.warning.passes h.threshold then
          found.map Shortfall.record else []) ∧
      ∀ sent, Action.settings payload = .ok (.object sent) → ∀ m ∈ k.minimums,
        ∃ f ∈ k.fields, ∃ n least, f.name = m.1 ∧ sent.lookup f.wire = some (.int n) ∧
          m.2.documented? = some least ∧ (n < least → ∃ s ∈ found, s.field = m.1) ∧
          ∀ s ∈ found, s.field = m.1 → least ≤ n → m.1 = "transition_speed" ∧
            ∃ d, s.value = .duration d ∧ -1000 < d.micros ∧ d.micros < 0) ∧
    ∀ h h' failure, (Action.construct (.payload k) entries).run h = (.error failure, h') →
      h'.log = h.log := by
  refine ⟨fun payload hread => ?_, fun _ _ _ => run_construct_error_log⟩
  have hfound := fallsShort_shortfalls k payload
  refine ⟨_, hfound, fun h c => run_construct_log hread, fun sent hsent m hm => ?_⟩
  obtain ⟨f, hf, v, n, least, hname, hv, hlookup, hleast, hbelow, hshort⟩ :=
    exists_sent hread hsent hm
  refine ⟨f, hf, n, least, hname, hlookup, hleast, fun hless => ?_, fun s hs hfield hle => ?_⟩
  · exact ⟨⟨k, m.1, v, m.2⟩, (hfound.exact _).mpr ⟨rfl, hm, hv, hbelow hless⟩, rfl⟩
  · obtain ⟨_, hminimum, hvalue, hlies⟩ := (hfound.exact s).mp hs
    have hsame : (s.field, s.least) = m :=
      List.inj_on_of_nodup_map (nodup_minimums k) hminimum hm hfield
    rw [hfield, hv] at hvalue
    cases hvalue
    exact hshort (hsame ▸ hlies) hle

/-- Pictures a microsecond too short for the minimum and a passage half a millisecond backwards
    are both warned about, though the document has the passage at its minimum. Without warnings
    the same payload is built. An integer for a truth value is refused without a warning. -/
theorem warnings_sent_backwards :
    ∃ payload found,
      payload.FallsShort .slideshow found ∧ (∃ s ∈ found, s.field = "slide_time") ∧
      (∃ s ∈ found, s.field = "transition_speed" ∧
        ∃ d, s.value = .duration d ∧ -1000 < d.micros ∧ d.micros < 0) ∧
      (∃ h', (Action.construct (.payload .slideshow) [
          ("slide_time", .duration ⟨49999, by decide, by decide⟩),
          ("transition_speed", .duration ⟨-500, by decide, by decide⟩)]).run
            { config? := some {} } = (.ok payload, h') ∧
        h'.log = found.map Shortfall.record) ∧
      (∃ h', (Action.construct (.payload .slideshow) [
          ("slide_time", .duration ⟨49999, by decide, by decide⟩),
          ("transition_speed", .duration ⟨-500, by decide, by decide⟩)]).run
            { config? := some { warnBelowMinimum := false } } = (.ok payload, h') ∧
        h'.log = []) ∧
      ∃ failure h', (Action.construct (.payload .slideshow) [("hide", .int 2)]).run
        { config? := some {} } = (.error failure, h') ∧ h'.log = [] := by
  obtain ⟨hread, -⟩ := warnings_sent .slideshow [
    ("slide_time", .duration ⟨49999, by decide, by decide⟩),
    ("transition_speed", .duration ⟨-500, by decide, by decide⟩)]
  obtain ⟨-, hfails⟩ := warnings_sent .slideshow [("hide", .int 2)]
  obtain ⟨found, hfound, hlog, hsent⟩ := hread _ rfl
  refine ⟨_, found, hfound, ?_, ?_, hlog { config? := some {} } {} rfl,
    hlog { config? := some { warnBelowMinimum := false } } { warnBelowMinimum := false } rfl,
    _, _, rfl, hfails _ _ _ rfl⟩
  · obtain ⟨f, hf, n, least, hname, hlookup, hleast, hbelow, -⟩ :=
      hsent _ rfl _ (List.mem_cons_self ..)
    cases (separate_fields .slideshow).eq_of_name hf (List.mem_of_getElem? (i := 3) rfl) hname
    have hn : n = 49 := (Json.int.inj (Option.some.inj hlookup)).symm
    have hminimum : least = 50 := (Option.some.inj hleast).symm
    exact hbelow (by omega)
  · obtain ⟨f, hf, n, least, hname, hlookup, hleast, -, hshort⟩ :=
      hsent _ rfl _ (List.mem_cons_of_mem _ (List.mem_cons_self ..))
    cases (separate_fields .slideshow).eq_of_name hf (List.mem_of_getElem? (i := 4) rfl) hname
    have hn : n = 0 := (Json.int.inj (Option.some.inj hlookup)).symm
    have hminimum : least = 0 := (Option.some.inj hleast).symm
    have hbackwards : (Value.duration ⟨-500, by decide, by decide⟩).LiesBelow
        (.duration ⟨0, by decide, by decide⟩) := .duration (by rw [Duration.precedes_iff]; decide)
    have hmem := (hfound.exact ⟨.slideshow, "transition_speed", _, _⟩).mpr
      ⟨rfl, List.mem_cons_of_mem _ (List.mem_cons_self ..), rfl, hbackwards⟩
    exact ⟨_, hmem, rfl, (hshort _ hmem rfl (by omega)).2⟩

end Kind

end SceneSource
