-- SUMMARY: Counters of serializations and histograms of their latency.
import SceneSource.Number.Basic

/-!
# Metrics

One counter for each kind and status, one latency histogram for each kind. A bucket of a
histogram counts the latencies up to its bound that no bucket before it counts; what is
shown are running sums. A latency that is no number is in no bucket.
-/

namespace SceneSource

/-- A latency histogram. -/
structure Histogram where
  /-- The counts of the buckets, one for each bound. -/
  buckets : List Nat
  /-- The sum of all latencies. -/
  sum : Double
deriving DecidableEq, Repr

namespace Histogram

/-- The bounds of the buckets in milliseconds, ascending, with the text of each. -/
def bounds : List (String × Double) := [
  ("0.05", .ofDecimal false 5 (-2)),
  ("0.1", .ofDecimal false 1 (-1)),
  ("0.25", .ofDecimal false 25 (-2)),
  ("0.5", .ofDecimal false 5 (-1)),
  ("1.0", .ofDecimal false 1 0),
  ("2.5", .ofDecimal false 25 (-1)),
  ("5.0", .ofDecimal false 5 0),
  ("10.0", .ofDecimal false 10 0),
  ("25.0", .ofDecimal false 25 0),
  ("+Inf", .infinity false)]

/-- A histogram without latencies. -/
def empty : Histogram := ⟨bounds.map fun _ => 0, .zero⟩

/-- Counts a latency in the first bucket whose bound it does not exceed. -/
def tally (latency : Number) : List Double → List Nat → List Nat
  | bound :: bounds, n :: buckets =>
    if latency.le (.real bound) then (n + 1) :: buckets else n :: tally latency bounds buckets
  | _, buckets => buckets

/-- Adds a latency; `asReal` is the double that goes into the sum. -/
def observe (h : Histogram) (latency : Number) (asReal : Double) : Histogram :=
  ⟨tally latency (bounds.map (·.2)) h.buckets, h.sum.add asReal⟩

/-- Running sums. -/
def running : (before : Nat) → List Nat → List Nat
  | _, [] => []
  | before, n :: rest => (before + n) :: running (before + n) rest

/-- The counts of latencies up to each bound. -/
def cumulative (h : Histogram) : List (String × Nat) :=
  (bounds.map (·.1)).zip (running 0 h.buckets)

/-- The number of latencies. -/
def count (h : Histogram) : Nat := h.buckets.foldr (· + ·) 0

end Histogram

/-- All metrics, each in the order in which it came up. -/
structure Metrics where
  /-- The counts by kind and status. -/
  counters : List ((String × String) × Nat) := []
  /-- The histograms by kind. -/
  histograms : List (String × Histogram) := []
deriving DecidableEq, Repr

namespace Metrics

/-- Changes the entry of a key, which starts from a default if there is none. -/
def update [DecidableEq κ] (key : κ) (start : α) (f : α → α) : List (κ × α) → List (κ × α)
  | [] => [(key, f start)]
  | e :: rest => if e.1 = key then (key, f e.2) :: rest else e :: update key start f rest

/-- Adds one to the counter of a kind and a status. -/
def count (m : Metrics) (kind status : String) : Metrics :=
  { m with counters := update (kind, status) 0 (· + 1) m.counters }

/-- Changes the histogram of a kind. -/
def updateHistogram (m : Metrics) (kind : String) (f : Histogram → Histogram) : Metrics :=
  { m with histograms := update kind .empty f m.histograms }

/-- The counter of a kind and a status. -/
def counter (m : Metrics) (kind status : String) : Nat := (m.counters.lookup (kind, status)).getD 0

/-- The histogram of a kind, unless nothing was ever recorded for it. -/
def histogram? (m : Metrics) (kind : String) : Option Histogram := m.histograms.lookup kind

/-- A metric with its labels and its value. -/
structure Sample where
  name : String
  labels : List (String × String)
  value : Nat
deriving DecidableEq, Repr

/-- The counter of a kind and a status as a sample. -/
def counterSample (c : (String × String) × Nat) : Sample :=
  ⟨"obs_settings_serializations_total", [("source_kind", c.1.1), ("status", c.1.2)], c.2⟩

/-- The number of latencies of a kind as a sample. -/
def latencySample (h : String × Histogram) : Sample :=
  ⟨"obs_settings_serialize_latency_ms_count", [("source_kind", h.1)], h.2.count⟩

/-- Whether the first sample does not come after the second one by the values of its labels. -/
def labelsBefore (a b : Sample) : Bool :=
  !(b.labels.map (·.2)).lex (a.labels.map (·.2)) fun s t => decide (s < t)

/-- All metrics: the counters, then the numbers of latencies, both by their labels. -/
def samples (m : Metrics) : List Sample :=
  (m.counters.map counterSample).mergeSort labelsBefore ++
    (m.histograms.map latencySample).mergeSort labelsBefore

end Metrics

end SceneSource
