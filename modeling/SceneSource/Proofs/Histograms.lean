-- SUMMARY: What latency histograms show after a session: how many latencies lie within each bound.
import SceneSource.Proofs.Configuration

/-!
# Latency histograms

A latency is put into one bucket, the first one whose bound it does not exceed, and what is shown
are running sums. As bounds ascend, the sums from that bucket on grow by one and those before it
stay, so each bound shows how many latencies do not exceed it. A session adds what its calls
record, so it shows that tally for each kind, in whatever order and under whatever statuses the
latencies came, and no kind has a part in the tally of another.
-/

namespace SceneSource

/-! ## One histogram -/

namespace Histogram

theorem bounds_ascending : (bounds.map (·.2)).Pairwise fun a b => a.le b = true := by
  decide +kernel

theorem running_succ (before : Nat) (buckets : List Nat) :
    running (before + 1) buckets = (running before buckets).map (· + 1) := by
  induction buckets generalizing before with
  | nil => rfl
  | cons n rest ih =>
    have hbefore : before + 1 + n = before + n + 1 := by omega
    simp only [running, List.map_cons, hbefore, ih]

/-- A latency adds one to the running sums at the bounds that it does not exceed. -/
theorem running_tally (n : Number) {limits : List Double}
    (hascending : limits.Pairwise fun a b => a.le b = true) {counts : Double → Nat}
    {before : Nat} {buckets : List Nat} (h : running before buckets = limits.map counts) :
    running before (tally n limits buckets) =
      limits.map fun limit => counts limit + if n.le (.real limit) then 1 else 0 := by
  induction limits generalizing before buckets with
  | nil => exact h
  | cons limit limits ih =>
    cases buckets with
    | nil => cases h
    | cons b buckets =>
      obtain ⟨hfirst, hrest⟩ := List.cons.inj h
      obtain ⟨hgreater, hascending⟩ := List.pairwise_cons.mp hascending
      unfold tally
      by_cases hwithin : n.le (.real limit) = true
      · -- the bucket is found, and the latency is within all bounds that follow
        have hlater : (limits.map fun l => counts l + if n.le (.real l) then 1 else 0) =
            (limits.map counts).map (· + 1) := by
          rw [List.map_map]
          apply List.map_congr_left
          intro l hl
          have hl : n.le (.real l) = true := Number.le_trans hwithin (hgreater l hl)
          simp only [hl, if_true, Function.comp]
        have hsum : before + (b + 1) = before + b + 1 := by omega
        simp only [if_pos hwithin, running, hsum, running_succ, hrest, List.map_cons, hlater,
          ← hfirst]
      · simp only [if_neg hwithin, running, ih hascending hrest, List.map_cons, ← hfirst,
          Nat.add_zero]

/-- The running sums are those of some counts, one for each bound. -/
def Shows (h : Histogram) (counts : Double → Nat) : Prop :=
  running 0 h.buckets = (bounds.map (·.2)).map counts

theorem empty_shows : empty.Shows fun _ => 0 := rfl

theorem Shows.observe {h : Histogram} {counts : Double → Nat} (hshows : h.Shows counts)
    (n : Number) (d : Double) :
    (h.observe n d).Shows fun bound => counts bound + if n.le (.real bound) then 1 else 0 :=
  running_tally n bounds_ascending hshows

theorem Shows.cumulative_eq {h : Histogram} {counts : Double → Nat} (hshows : h.Shows counts) :
    h.cumulative = bounds.map fun b => (b.1, counts b.2) := by
  unfold cumulative
  rw [hshows, List.map_map, List.zip_map']
  rfl

end Histogram

/-! ## All histograms -/

namespace Recording

/-- How many recordings of a kind have a latency that does not exceed a bound. -/
def upTo (kind : String) (rs : List Recording) (bound : Double) : Nat :=
  rs.countP fun r => r.kind = kind && r.latency.le (.real bound)

/-- What a histogram is told of a recording. -/
def observation (r : Recording) : String × Number := (r.kind, r.latency)

/-- One more recording counts at the bounds that its latency does not exceed. -/
theorem upTo_append_self (rs : List Recording) (r : Recording) :
    upTo r.kind (rs ++ [r]) = fun bound =>
      upTo r.kind rs bound + if r.latency.le (.real bound) then 1 else 0 := by
  funext bound
  simp [upTo, List.countP_append, List.countP_singleton]

theorem upTo_append_of_ne {kind : String} {r : Recording} (hkind : r.kind ≠ kind)
    (rs : List Recording) : upTo kind (rs ++ [r]) = upTo kind rs := by
  funext bound
  simp [upTo, List.countP_append, hkind]

theorem upTo_mono (kind : String) (rs : List Recording) {a b : Double} (hab : a.le b = true) :
    upTo kind rs a ≤ upTo kind rs b := by
  apply List.countP_mono_left
  intro r _ hr
  obtain ⟨hkind, hle⟩ := Bool.and_eq_true_iff.mp hr
  exact Bool.and_eq_true_iff.mpr ⟨hkind, Number.le_trans hle hab⟩

/-- All numbers lie below the positive infinity. -/
theorem upTo_infinity (kind : String) {rs : List Recording}
    (hordered : ∀ r ∈ rs, r.latency.isOrdered = true) :
    upTo kind rs (.infinity false) = rs.countP fun r => r.kind = kind := by
  apply List.countP_congr
  intro r hr
  rw [Number.le_infinity (hordered r hr), Bool.and_true]

/-- Counts depend on what histograms are told, and not on its order. -/
theorem upTo_perm (kind : String) {rs rs' : List Recording}
    (hperm : (rs.map observation).Perm (rs'.map observation)) : upTo kind rs = upTo kind rs' := by
  funext bound
  have hobserved : ∀ rs : List Recording, upTo kind rs bound =
      (rs.map observation).countP fun o => o.1 = kind && o.2.le (.real bound) := by
    intro rs
    rw [List.countP_map]
    rfl
  rw [hobserved, hobserved, hperm.countP_eq]

end Recording

namespace Metrics

/-- The counts that are shown for a kind at each bound, unless nothing was recorded for it. -/
def shown? (m : Metrics) (kind : String) : Option (List (String × Nat)) :=
  (m.histogram? kind).map (·.cumulative)

/-- The histograms of some metrics are those of some recordings. -/
structure Tallies (m : Metrics) (rs : List Recording) : Prop where
  /-- All latencies are numbers. -/
  ordered : ∀ r ∈ rs, r.latency.isOrdered = true
  /-- A kind has a histogram once something was recorded for it. -/
  present : ∀ kind, (m.histogram? kind).isSome = rs.any (·.kind = kind)
  /-- It shows at each bound how many latencies do not exceed the bound. -/
  shows : ∀ kind, ((m.histogram? kind).getD .empty).Shows (Recording.upTo kind rs)

theorem tallies_empty : Tallies {} [] where
  ordered := by
    intro r hr
    cases hr
  present := fun _ => rfl
  shows := fun _ => Histogram.empty_shows

/-- One more recording is one more in the tally of its kind. -/
theorem Tallies.recorded {m : Metrics} {rs : List Recording} (hm : m.Tallies rs) {r : Recording}
    (hr : r.latency.isOrdered = true) (d : Double) :
    (m.recorded r.kind r.status r.latency d).Tallies (rs ++ [r]) where
  ordered := by
    intro r' hr'
    rcases List.mem_append.mp hr' with hr' | hr'
    · exact hm.ordered r' hr'
    · cases List.mem_singleton.mp hr'
      exact hr
  present kind := by
    rw [histogram?_recorded, List.any_append]
    by_cases hkind : kind = r.kind
    · simp [hkind]
    · simp [hkind, Ne.symm hkind, hm.present kind]
  shows kind := by
    rw [histogram?_recorded]
    by_cases hkind : kind = r.kind
    · subst hkind
      rw [if_pos rfl, Option.getD_some, Recording.upTo_append_self]
      exact (hm.shows r.kind).observe r.latency d
    · rw [if_neg hkind, Recording.upTo_append_of_ne (Ne.symm hkind)]
      exact hm.shows kind

theorem Tallies.gains {m m' : Metrics} {rs : List Recording} {r? : Option Recording}
    (hm : m.Tallies rs) (h : m.Gains m' r?) : m'.Tallies (rs ++ r?.toList) := by
  cases r? with
  | none =>
    have hsame : m' = m := h
    rw [hsame, Option.toList_none, List.append_nil]
    exact hm
  | some r =>
    obtain ⟨d, hr, rfl⟩ := h
    exact hm.recorded hr d

theorem Tallies.shown?_eq {m : Metrics} {rs : List Recording} (hm : m.Tallies rs)
    (kind : String) : m.shown? kind =
      if rs.any (·.kind = kind) then
        some (Histogram.bounds.map fun b => (b.1, Recording.upTo kind rs b.2))
      else none := by
  have hshows := hm.shows kind
  rw [← hm.present kind]
  unfold shown?
  cases hfound : m.histogram? kind with
  | none => rfl
  | some h =>
    rw [hfound, Option.getD_some] at hshows
    simp only [Option.map_some, Option.isSome_some, if_true, hshows.cumulative_eq]

/-- Histograms that are told the same show the same, whatever the order. -/
theorem Tallies.shown?_perm {m m' : Metrics} {rs rs' : List Recording} (hm : m.Tallies rs)
    (hm' : m'.Tallies rs')
    (hperm : (rs.map Recording.observation).Perm (rs'.map Recording.observation))
    (kind : String) : m.shown? kind = m'.shown? kind := by
  have hkinds : ∀ rs : List Recording, (rs.any fun r => r.kind = kind) =
      (rs.map Recording.observation).any fun o => o.1 = kind := by
    intro rs
    rw [List.any_map]
    rfl
  have hany : (rs.any fun r => r.kind = kind) = rs'.any fun r => r.kind = kind := by
    rw [hkinds, hkinds, hperm.any_eq]
  rw [hm.shown?_eq, hm'.shown?_eq, Recording.upTo_perm kind hperm, hany]

/-- A recording leaves the histogram and the counters of every other kind alone. -/
theorem Gains.apart {m m' : Metrics} {r? : Option Recording} (h : m.Gains m' r?) {kind : String}
    (hkind : ∀ r, r? = some r → r.kind ≠ kind) :
    m'.histogram? kind = m.histogram? kind ∧
      ∀ status, m'.counter kind status = m.counter kind status := by
  cases r? with
  | none =>
    have hsame : m' = m := h
    rw [hsame]
    exact ⟨rfl, fun _ => rfl⟩
  | some r =>
    obtain ⟨d, -, rfl⟩ := h
    have hother : kind ≠ r.kind := Ne.symm (hkind r rfl)
    refine ⟨?_, fun status => ?_⟩
    · rw [histogram?_recorded, if_neg hother]
    · rw [counter_recorded, if_neg fun hlabels => hother (Prod.mk.inj hlabels).1, Nat.add_zero]

end Metrics

/-! ## Sessions -/

/-- What the calls of a session record. -/
def recordings (calls : List Call) (h : Host) : List Recording :=
  (steps calls h).filterMap fun s => s.1.recorded? s.2

/-- What the calls of a session are to record. -/
def toRecord (calls : List Call) : List Recording := calls.filterMap Call.recording?

theorem recordings_cons (c : Call) (rest : List Call) (h : Host) :
    recordings (c :: rest) h = (c.recorded? h).toList ++ recordings rest (c.run.run h).2 := by
  have hsteps : steps (c :: rest) h = (c, h) :: steps rest (c.run.run h).2 := rfl
  unfold recordings
  rw [hsteps, List.filterMap_cons]
  cases c.recorded? h <;> rfl

/-- A session adds to the histograms what its calls record. -/
theorem runSession_tallies_recordings {calls : List Call} (htimed : ∀ c ∈ calls, c.IsTimed)
    {h : Host} {rs : List Recording} (hm : h.metrics.Tallies rs) :
    (runSession calls h).2.metrics.Tallies (rs ++ recordings calls h) := by
  induction calls generalizing h rs with
  | nil =>
    have hnone : recordings [] h = [] := rfl
    rw [hnone, List.append_nil]
    exact hm
  | cons c rest ih =>
    have hstep := hm.gains (c.run_gains (htimed c (List.mem_cons_self ..)) h)
    rw [recordings_cons, ← List.append_assoc]
    exact ih (fun c hc => htimed c (List.mem_cons_of_mem _ hc)) hstep

/-- Whether a call is there to record something. -/
def Call.isRecord : Call → Bool
  | record .. => true
  | construct .. | build .. | rebuild .. | serialize .. | update .. | logPayload .. | config |
      setVariables _ | reset => false

/-- A session that does nothing but record, from cleared metrics and with metrics on, and only
    latencies that are numbers and fit a double. -/
structure RecordsOnly (calls : List Call) (h : Host) : Prop where
  cleared : h.metrics = {}
  counting : h.isCounting = true
  records : ∀ c ∈ calls, c.isRecord = true
  timed : ∀ c ∈ calls, c.IsTimed

/-- Recording leaves metrics on. -/
theorem Call.isCounting_run {c : Call} (hc : c.isRecord = true) {h : Host}
    (hcounting : h.isCounting = true) : (c.run.run h).2.isCounting = true := by
  have hconsults : c.consults = true := by
    cases c with
    | record => rfl
    | _ => cases hc
  cases hconf : h.configuration with
  | error r => simp [Host.isCounting_error hconf] at hcounting
  | ok config =>
    have hkept : (c.run.run h).2.configuration = .ok config := by
      rw [(consults_run hconsults).kept hconf]
      rfl
    rw [Host.isCounting_ok hkept, ← Host.isCounting_ok hconf, hcounting]

/-- With metrics on, everything that is to be recorded is. -/
theorem recordings_eq_toRecord {calls : List Call} (hrecords : ∀ c ∈ calls, c.isRecord = true)
    {h : Host} (hcounting : h.isCounting = true) : recordings calls h = toRecord calls := by
  induction calls generalizing h with
  | nil => rfl
  | cons c rest ih =>
    have hc := hrecords c (List.mem_cons_self ..)
    have hrest := ih (fun c hc => hrecords c (List.mem_cons_of_mem _ hc))
      (Call.isCounting_run hc hcounting)
    have hoverflows : c.overflows = false := by
      cases c with
      | record => rfl
      | _ => cases hc
    have hstep : c.recorded? h = c.recording? := by
      simp [Call.recorded?, hcounting, hoverflows]
    rw [recordings_cons, hrest, hstep, toRecord, toRecord, List.filterMap_cons]
    cases c.recording? <;> rfl

theorem RecordsOnly.tallies {calls : List Call} {h : Host} (hsession : RecordsOnly calls h) :
    (runSession calls h).2.metrics.Tallies (toRecord calls) := by
  have hm := runSession_tallies_recordings hsession.timed
    (hsession.cleared ▸ Metrics.tallies_empty : h.metrics.Tallies [])
  rwa [List.nil_append, recordings_eq_toRecord hsession.records hsession.counting] at hm

/-- The histograms of a session are the tally of what its calls are to record. -/
structure LatencyTally (calls : List Call) (h : Host) : Prop where
  /-- A kind shows counts once something was recorded for it: at each bound, how many of its
      latencies do not exceed the bound. -/
  shown : ∀ kind, (runSession calls h).2.metrics.shown? kind =
    if (toRecord calls).any (·.kind = kind) then
      some (Histogram.bounds.map fun b => (b.1, Recording.upTo kind (toRecord calls) b.2))
    else none
  /-- The last bound is infinite and shows all latencies of the kind. -/
  unbounded : ∀ kind counts, (runSession calls h).2.metrics.shown? kind = some counts →
    counts.getLast? = some ("+Inf", (toRecord calls).countP fun r => r.kind = kind)
  /-- From bound to bound the counts do not decrease. -/
  ascending : ∀ kind counts, (runSession calls h).2.metrics.shown? kind = some counts →
    (counts.map (·.2)).Pairwise (· ≤ ·)
  /-- The same latencies of the same kinds show the same counts, in whatever order and under
      whatever statuses they were recorded. -/
  regardless : ∀ calls' h', RecordsOnly calls' h' →
    ((toRecord calls').map Recording.observation).Perm
      ((toRecord calls).map Recording.observation) →
    ∀ kind, (runSession calls' h').2.metrics.shown? kind =
      (runSession calls h).2.metrics.shown? kind
  /-- Recording for one kind leaves the histogram and the counters of every other kind alone. -/
  apart : ∀ c ∈ calls, ∀ kind, (∀ r, c.recording? = some r → r.kind ≠ kind) → ∀ g : Host,
    (c.run.run g).2.metrics.histogram? kind = g.metrics.histogram? kind ∧
    ∀ status, (c.run.run g).2.metrics.counter kind status = g.metrics.counter kind status

theorem runSession_tallies {calls : List Call} {h : Host} (hsession : RecordsOnly calls h) :
    LatencyTally calls h := by
  have hm := hsession.tallies
  have hshown : ∀ kind counts, (runSession calls h).2.metrics.shown? kind = some counts →
      counts = Histogram.bounds.map fun b => (b.1, Recording.upTo kind (toRecord calls) b.2) := by
    intro kind counts hcounts
    rw [hm.shown?_eq kind] at hcounts
    split at hcounts
    · exact (Option.some.inj hcounts).symm
    · cases hcounts
  refine ⟨hm.shown?_eq, ?_, ?_, ?_, ?_⟩
  · intro kind counts hcounts
    rw [hshown kind counts hcounts, ← Recording.upTo_infinity kind hm.ordered]
    rfl
  · intro kind counts hcounts
    rw [hshown kind counts hcounts, List.map_map]
    have hbounds := List.pairwise_map.mp Histogram.bounds_ascending
    exact List.pairwise_map.mpr (hbounds.imp (Recording.upTo_mono kind _))
  · intro calls' h' hsession' hperm kind
    exact hsession'.tallies.shown?_perm hm hperm kind
  · intro c hc kind hkind g
    apply (c.run_gains (hsession.timed c hc) g).apart
    intro r hr
    unfold Call.recorded? at hr
    split at hr
    · exact hkind r hr
    · cases hr

/-- Latencies of a slideshow on bounds, between two and beyond all finite ones, and latencies of an
    image that no clock shows. -/
def timings : List Call := [
  .record (.text "slideshow") (.text "ok") (.int 1),
  .record (.text "image_source") (.text "ok") (.int (-3)),
  .record (.text "slideshow") (.text "error") (.real (.ofDecimal false 5 (-2))),
  .record (.text "slideshow") (.text "ok") (.real (.ofDecimal false 51 (-3))),
  .record (.text "image_source") (.text "error") (.real (.infinity true)),
  .record (.text "slideshow") (.text "ok") (.real (.infinity false))]

theorem runSession_tallies_timings :
    RecordsOnly timings {} ∧ LatencyTally timings {} ∧
    (runSession timings {}).2.metrics.shown? "slideshow" = some [("0.05", 1), ("0.1", 2),
      ("0.25", 2), ("0.5", 2), ("1.0", 3), ("2.5", 3), ("5.0", 3), ("10.0", 3), ("25.0", 3),
      ("+Inf", 4)] ∧
    (runSession timings {}).2.metrics.shown? "image_source" = some [("0.05", 2), ("0.1", 2),
      ("0.25", 2), ("0.5", 2), ("1.0", 2), ("2.5", 2), ("5.0", 2), ("10.0", 2), ("25.0", 2),
      ("+Inf", 2)] ∧
    (runSession timings {}).2.metrics.shown? "vlc_source" = none := by
  have hsession : RecordsOnly timings {} :=
    ⟨rfl, by decide +kernel, by decide +kernel, by decide +kernel⟩
  exact ⟨hsession, runSession_tallies hsession, by decide +kernel, by decide +kernel,
    by decide +kernel⟩

end SceneSource
