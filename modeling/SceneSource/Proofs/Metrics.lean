-- SUMMARY: What recording one serialization does to counters and histograms.
import Mathlib.Algebra.BigOperators.Group.Finset.Piecewise
import SceneSource.Metrics
import SceneSource.Proofs.Numbers

/-!
# Metrics as tallies

Recording adds one to one counter and one to one bucket of one histogram. Every latency
that is a number has a bucket, because the last bound is infinite, so the number of
latencies of a kind keeps up with its counters: `Metrics.Balanced` says so, and recording
preserves it.
-/

namespace SceneSource

/-! ## Histograms -/

namespace Histogram

/-- A histogram has one bucket for each bound. -/
def WellFormed (h : Histogram) : Prop := h.buckets.length = bounds.length

theorem empty_wellFormed : empty.WellFormed := rfl

theorem length_tally (n : Number) (limits : List Double) (buckets : List Nat) :
    (tally n limits buckets).length = buckets.length := by
  induction limits generalizing buckets with
  | nil => rfl
  | cons limit limits ih =>
    cases buckets with
    | nil => rfl
    | cons b buckets =>
      unfold tally
      split
      · rfl
      · simp only [List.length_cons, ih]

/-- A latency within some bound goes into exactly one bucket. -/
theorem total_tally {n : Number} {limits : List Double} {buckets : List Nat}
    (hlength : buckets.length = limits.length)
    (hwithin : ∃ limit ∈ limits, n.le (.real limit) = true) :
    (tally n limits buckets).foldr (· + ·) 0 = buckets.foldr (· + ·) 0 + 1 := by
  induction limits generalizing buckets with
  | nil => obtain ⟨_, hmem, _⟩ := hwithin; cases hmem
  | cons limit limits ih =>
    cases buckets with
    | nil => cases hlength
    | cons b buckets =>
      unfold tally
      split
      · simp only [List.foldr_cons]
        omega
      · rename_i habove
        have hrest : ∃ limit ∈ limits, n.le (.real limit) = true := by
          obtain ⟨l, hmem, hle⟩ := hwithin
          rcases List.mem_cons.mp hmem with rfl | hmem
          · exact absurd hle habove
          · exact ⟨l, hmem, hle⟩
        simp only [List.foldr_cons, ih (by simpa using hlength) hrest]
        omega

theorem WellFormed.observe {h : Histogram} (hwf : h.WellFormed) (n : Number) (d : Double) :
    (h.observe n d).WellFormed := by
  unfold WellFormed Histogram.observe at *
  simp only [length_tally, hwf]

/-- A latency that is a number adds one to the number of latencies. -/
theorem count_observe {h : Histogram} (hwf : h.WellFormed) {n : Number}
    (hn : n.isOrdered = true) (d : Double) : (h.observe n d).count = h.count + 1 := by
  unfold count Histogram.observe
  refine total_tally (by rw [hwf, List.length_map]) ?_
  exact ⟨.infinity false, by simp [bounds], Number.le_infinity hn⟩

end Histogram

/-! ## Counters and histograms by their labels -/

namespace Metrics

section Update

variable {κ α : Type} [DecidableEq κ]

/-- Two changes of one entry are one change. -/
theorem update_update (key : κ) (start : α) (f g : α → α) (entries : List (κ × α)) :
    update key start g (update key start f entries) = update key start (g ∘ f) entries := by
  induction entries with
  | nil => simp [update]
  | cons e rest ih =>
    by_cases hfound : e.1 = key
    · simp [update, hfound]
    · simp [update, hfound, ih]

variable [BEq κ] [LawfulBEq κ]

theorem lookup_update (key key' : κ) (start : α) (f : α → α) (entries : List (κ × α)) :
    (update key start f entries).lookup key' =
      if key' = key then some (f ((entries.lookup key).getD start)) else entries.lookup key' := by
  induction entries with
  | nil =>
    by_cases hkey : key' = key
    · simp [update, hkey]
    · have hne : (key' == key) = false := by simpa using hkey
      simp [update, List.lookup_cons, hkey, hne]
  | cons e rest ih =>
    obtain ⟨k, v⟩ := e
    unfold update
    by_cases hfound : k = key
    · subst hfound
      by_cases hkey : key' = k
      · subst hkey
        simp
      · have hne : (key' == k) = false := by simpa using hkey
        simp [List.lookup_cons, hkey, hne]
    · simp only [if_neg hfound]
      by_cases hkey : key' = k
      · subst hkey
        simp [hfound]
      · have hne : (key' == k) = false := by simpa using hkey
        have hne' : (key == k) = false := by simpa using Ne.symm hfound
        rw [List.lookup_cons, hne, ih, List.lookup_cons, hne', List.lookup_cons, hne]

end Update

/-- The number of recorded latencies of a kind. -/
def latencies (m : Metrics) (kind : String) : Nat := ((m.histogram? kind).map (·.count)).getD 0

/-- The statuses with which a kind was ever counted. -/
def statuses (m : Metrics) (kind : String) : Finset String :=
  ((m.counters.filter (·.1.1 = kind)).map (·.1.2)).toFinset

/-- The metrics once a serialization with its latency was recorded. -/
def recorded (m : Metrics) (kind status : String) (latency : Number) (asReal : Double) : Metrics :=
  (m.count kind status).updateHistogram kind (·.observe latency asReal)

theorem counter_recorded (m : Metrics) (kind status : String) (n : Number) (d : Double)
    (kind' status' : String) :
    (m.recorded kind status n d).counter kind' status' =
      m.counter kind' status' + if (kind', status') = (kind, status) then 1 else 0 := by
  have hcounters : (m.recorded kind status n d).counters =
      update (kind, status) 0 (· + 1) m.counters := rfl
  unfold counter
  simp only [hcounters, lookup_update]
  by_cases hlabels : (kind', status') = (kind, status)
  · rw [if_pos hlabels, if_pos hlabels, hlabels]
    rfl
  · rw [if_neg hlabels, if_neg hlabels]
    rfl

theorem histogram?_recorded (m : Metrics) (kind status : String) (n : Number) (d : Double)
    (kind' : String) :
    (m.recorded kind status n d).histogram? kind' =
      if kind' = kind then some (((m.histogram? kind).getD .empty).observe n d)
      else m.histogram? kind' :=
  lookup_update kind kind' Histogram.empty (fun h => h.observe n d) m.histograms

/-- Every kind has as many latencies as counted serializations. -/
structure Balanced (m : Metrics) : Prop where
  /-- Every histogram has a bucket for each bound. -/
  wellFormed : ∀ kind h, m.histogram? kind = some h → h.WellFormed
  /-- The counters add up, over any statuses that leave none out. -/
  total : ∀ kind (all : Finset String), (∀ status ∉ all, m.counter kind status = 0) →
    m.latencies kind = ∑ status ∈ all, m.counter kind status

theorem balanced_empty : Balanced {} where
  wellFormed := by
    intro kind h hfound
    cases hfound
  total := by
    intro kind all _
    exact (Finset.sum_eq_zero fun _ _ => rfl).symm

theorem Balanced.getD_wellFormed {m : Metrics} (hm : m.Balanced) (kind : String) :
    ((m.histogram? kind).getD .empty).WellFormed := by
  cases hfound : m.histogram? kind with
  | none => exact Histogram.empty_wellFormed
  | some h => exact hm.wellFormed kind h hfound

theorem Balanced.latencies_recorded {m : Metrics} (hm : m.Balanced) {n : Number}
    (hn : n.isOrdered = true) (kind status : String) (d : Double) (kind' : String) :
    (m.recorded kind status n d).latencies kind' =
      m.latencies kind' + if kind' = kind then 1 else 0 := by
  unfold latencies
  simp only [histogram?_recorded]
  by_cases hkind : kind' = kind
  · subst hkind
    rw [if_pos rfl, if_pos rfl, Option.map_some, Option.getD_some,
      Histogram.count_observe (hm.getD_wellFormed kind') hn]
    cases m.histogram? kind' <;> rfl
  · rw [if_neg hkind, if_neg hkind, Nat.add_zero]

/-- Recording keeps latencies and counters in step. -/
theorem Balanced.recorded {m : Metrics} (hm : m.Balanced) {n : Number}
    (hn : n.isOrdered = true) (kind status : String) (d : Double) :
    (m.recorded kind status n d).Balanced where
  wellFormed := by
    intro kind' h hfound
    simp only [histogram?_recorded] at hfound
    split at hfound
    · cases hfound
      exact (hm.getD_wellFormed kind).observe n d
    · exact hm.wellFormed kind' h hfound
  total := by
    intro kind' all hall
    have hbefore : ∀ s ∉ all, m.counter kind' s = 0 := by
      intro s hs
      have := hall s hs
      simp only [counter_recorded] at this
      omega
    simp only [hm.latencies_recorded hn, hm.total kind' all hbefore]
    simp only [counter_recorded, Prod.mk.injEq, Finset.sum_add_distrib, Nat.add_left_cancel_iff]
    by_cases hkind : kind' = kind
    · -- the status just counted is among those given, as its counter is not zero
      have hmem : status ∈ all := by
        by_contra hs
        have := hall status hs
        rw [counter_recorded, if_pos (by simp only [hkind])] at this
        omega
      simp [hkind, hmem]
    · simp [hkind]

theorem counter_eq_zero {m : Metrics} {kind status : String} (h : status ∉ m.statuses kind) :
    m.counter kind status = 0 := by
  unfold counter
  cases hfound : m.counters.lookup (kind, status) with
  | none => rfl
  | some n =>
    exfalso
    apply h
    obtain ⟨before, after, hsplit, _⟩ := List.lookup_eq_some_iff.mp hfound
    simp [statuses, hsplit]

theorem Balanced.latencies_eq_sum {m : Metrics} (hm : m.Balanced) (kind : String) :
    m.latencies kind = ∑ status ∈ m.statuses kind, m.counter kind status :=
  hm.total kind _ fun _ => counter_eq_zero

end Metrics

end SceneSource
