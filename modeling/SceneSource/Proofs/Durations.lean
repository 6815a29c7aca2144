-- SUMMARY: Durations by their parts, and their milliseconds: exact, in order and symmetric.
import SceneSource.Proofs.Conversions
import SceneSource.Proofs.FieldEntries

/-!
# Durations

A duration is known by its days, seconds and microseconds, of which only the days may be
negative, and durations compare by these parts, the days first. The milliseconds are the count of
all microseconds without what is behind the point, so they keep the order and change their sign
with the duration. A field for a duration sends them, and takes them back for the same.
-/

namespace SceneSource

namespace Duration

/-! ## Parts -/

/-- That days, seconds and microseconds are the parts of a duration. -/
structure Normalized (days seconds microseconds : Int) : Prop where
  days : -999999999 ≤ days ∧ days ≤ 999999999
  seconds : 0 ≤ seconds ∧ seconds < 86400
  microseconds : 0 ≤ microseconds ∧ microseconds < 1000000

/-- The microseconds of days, seconds and microseconds together. -/
def total (days seconds microseconds : Int) : Int :=
  (days * 86400 + seconds) * 1000000 + microseconds

/-- That a duration comes before another one or is the same, by days, seconds and microseconds. -/
def Precedes (d e : Duration) : Prop :=
  d.days < e.days ∨ d.days = e.days ∧
    (d.seconds < e.seconds ∨ d.seconds = e.seconds ∧ d.microseconds ≤ e.microseconds)

theorem normalized_parts (d : Duration) : Normalized d.days d.seconds d.microseconds := by
  have hleast := d.least
  have hgreatest := d.greatest
  unfold days seconds microseconds microsPerDay microsPerSecond
  constructor <;> constructor <;> omega

theorem total_parts (d : Duration) : total d.days d.seconds d.microseconds = d.micros := by
  unfold total days seconds microseconds microsPerDay microsPerSecond
  omega

section OfParts

variable {days seconds microseconds : Int}

theorem ofParts_eq (days seconds microseconds : Int) :
    ofParts days seconds microseconds = ofMicros (total days seconds microseconds) := by
  unfold ofParts total microsPerDay microsPerSecond
  congr 1
  omega

theorem micros_of_ofMicros {n : Int} {d : Duration} (h : ofMicros n = .ok d) : d.micros = n := by
  unfold ofMicros at h
  simp only at h
  split at h
  · cases h
  · split at h <;> cases h
    rfl

/-- Parts in their form are those of the duration that is made of them. -/
theorem ofParts_normalized (h : Normalized days seconds microseconds) : ∃ d,
    ofParts days seconds microseconds = .ok d ∧
    d.days = days ∧ d.seconds = seconds ∧ d.microseconds = microseconds := by
  obtain ⟨hdays, hseconds, hmicroseconds⟩ := h
  have hrange : InRange (total days seconds microseconds) := by
    unfold InRange total
    omega
  refine ⟨⟨_, hrange.1, hrange.2⟩, ?_, ?_⟩
  · rw [ofParts_eq]
    exact ofMicros_micros ⟨_, hrange.1, hrange.2⟩
  · unfold Duration.days Duration.seconds Duration.microseconds microsPerDay microsPerSecond total
    simp only
    omega

end OfParts

/-- Durations are in the order of their microseconds. -/
theorem precedes_iff (d e : Duration) : d.Precedes e ↔ d.micros ≤ e.micros := by
  have hd := normalized_parts d
  have he := normalized_parts e
  rw [← total_parts d, ← total_parts e]
  obtain ⟨_, hdseconds, hdmicroseconds⟩ := hd
  obtain ⟨_, heseconds, hemicroseconds⟩ := he
  unfold Precedes total
  omega

/-! ## Milliseconds -/

/-- That a number of milliseconds is a number of microseconds without what is behind the point. -/
structure Truncates (micros millis : Int) : Prop where
  toward_zero : (0 ≤ micros → 0 ≤ millis * 1000 ∧ millis * 1000 ≤ micros) ∧
    (micros ≤ 0 → micros ≤ millis * 1000 ∧ millis * 1000 ≤ 0)
  near : micros - millis * 1000 < 1000 ∧ millis * 1000 - micros < 1000

theorem Truncates.unique {micros m n : Int} (hm : Truncates micros m) (hn : Truncates micros n) :
    m = n := by
  obtain ⟨⟨_, _⟩, _⟩ := hm
  obtain ⟨⟨_, _⟩, _⟩ := hn
  omega

theorem truncates_millis (d : Duration) : Truncates d.micros d.millis := by
  have hsign : Int.sign 1000 = 1 := rfl
  unfold millis
  rw [Int.tdiv_eq_ediv, hsign]
  -- below zero, the floor is one too low unless nothing is left behind the point
  split
  · constructor <;> omega
  · constructor <;> omega

/-- Milliseconds are in the order of the durations. -/
theorem millis_mono {d e : Duration} (h : d.Precedes e) : d.millis ≤ e.millis := by
  have hmicros := (precedes_iff d e).mp h
  obtain ⟨⟨_, _⟩, _⟩ := truncates_millis d
  obtain ⟨⟨_, _⟩, _⟩ := truncates_millis e
  omega

/-- The milliseconds of the opposite duration are the opposite ones. -/
theorem millis_neg {d e : Duration}
    (h : ofParts (-d.days) (-d.seconds) (-d.microseconds) = .ok e) : e.millis = -d.millis := by
  rw [ofParts_eq] at h
  have hmicros : e.micros = -d.micros := by
    rw [micros_of_ofMicros h, ← total_parts d]
    unfold total
    omega
  rw [millis, hmicros, Int.neg_tdiv, millis]

/-- A number of milliseconds is read as the duration that has it. -/
theorem ofMillis_ok {n : Int} (h : InRange (n * 1000)) : ∃ d,
    ofMillis n = .ok d ∧ d.millis = n :=
  ⟨⟨_, h.1, h.2⟩, ofMicros_micros ⟨_, h.1, h.2⟩, Int.mul_tdiv_cancel n (by decide)⟩

end Duration

/-! ## Fields for durations -/

namespace Leaf

/-- What a field for a duration stores for an integral value. -/
theorem durationOf_integral {v : Value} {n : Int} (hn : v.int? = some n)
    (hbool : ∀ b, v ≠ .bool b) : durationOf v = (Duration.ofMillis n).map .duration := by
  cases v with
  | bool b => exact absurd rfl (hbool b)
  | int | flags | choice => simp only [durationOf, hn]
  | _ => cases hn

end Leaf

namespace Kind

section Durations

variable {k : Kind} {f : Field Shape} (hf : f ∈ k.fields) (hshape : f.shape = .leaf .duration)
include hf hshape

/-- A field that stores a duration sends its milliseconds. -/
theorem sends_millis {v : Value} {d : Duration} (h : Leaf.durationOf v = .ok (.duration d)) :
    k.Sends f v (.int d.millis) := by
  have hk : k ≠ .displayCapture := ne_displayCapture hf hshape (by decide)
  refine (sends_iff hf hk).mpr ⟨.duration d, ?_, ?_⟩
  · simp only [hshape, Shape.check, Leaf.check, h]
    rfl
  · simp only [Field.write, hshape]
    exact (Leaf.settles_duration .settings 0 d).written

/-- Milliseconds within the range of durations are sent as they are given. -/
theorem sends_integral {v : Value} {n : Int} (hn : v.int? = some n) (hbool : ∀ b, v ≠ .bool b)
    (hrange : Duration.InRange (n * 1000)) : k.Sends f v (.int n) := by
  obtain ⟨d, hd, rfl⟩ := Duration.ofMillis_ok hrange
  refine sends_millis hf hshape ?_
  rw [Leaf.durationOf_integral hn hbool, hd]
  rfl

end Durations

end Kind

namespace Duration

/-- Milliseconds are the exact count of microseconds truncated toward zero, in the order of the
    durations, and opposite for opposite durations. A field for a duration sends the whole
    milliseconds that it is given, and those of a duration, which it takes back. -/
theorem millis_exact :
    (∀ days seconds microseconds, Normalized days seconds microseconds → ∃ d : Duration,
      ofParts days seconds microseconds = .ok d ∧
      d.days = days ∧ d.seconds = seconds ∧ d.microseconds = microseconds) ∧
    (∀ d : Duration, Normalized d.days d.seconds d.microseconds ∧
      Truncates (total d.days d.seconds d.microseconds) d.millis) ∧
    (∀ d e : Duration, d.Precedes e → d.millis ≤ e.millis) ∧
    (∀ d e : Duration, ofParts (-d.days) (-d.seconds) (-d.microseconds) = .ok e →
      e.millis = -d.millis) ∧
    ∀ (k : Kind) (f : Field Shape), f ∈ k.fields → f.shape = .leaf .duration →
      (∀ v n, v.int? = some n → (∀ b, v ≠ .bool b) →
        -86399999913600000 ≤ n → n ≤ 86399999999999999 → k.Sends f v (.int n)) ∧
      ∀ d : Duration, k.Sends f (.duration d) (.int d.millis) ∧
        k.Sends f (.int d.millis) (.int d.millis) := by
  refine ⟨fun _ _ _ => ofParts_normalized, fun d => ⟨normalized_parts d, ?_⟩,
    fun _ _ => millis_mono, fun _ _ => millis_neg,
    fun k f hf hshape => ⟨?_, fun d => ⟨Kind.sends_millis hf hshape rfl, ?_⟩⟩⟩
  · rw [total_parts]
    exact truncates_millis d
  · intro v n hn hbool hleast hgreatest
    have hrange : InRange (n * 1000) := by
      unfold InRange
      omega
    exact Kind.sends_integral hf hshape hn hbool hrange
  · have hrange : InRange (d.millis * 1000) := ⟨d.settled.least, d.settled.greatest⟩
    exact Kind.sends_integral hf hshape rfl (fun _ h => nomatch h) hrange

/-- The least duration, the opposite of a second and a half millisecond, and the greatest number
    of milliseconds. -/
theorem millis_exact_ends :
    (∃ d : Duration, ofParts (-999999999) 0 0 = .ok d ∧
      d.days = -999999999 ∧ d.seconds = 0 ∧ d.microseconds = 0) ∧
    millis ⟨-1500, by decide, by decide⟩ ≤ millis ⟨-999, by decide, by decide⟩ ∧
    millis ⟨1500, by decide, by decide⟩ = -millis ⟨-1500, by decide, by decide⟩ ∧
    Kind.slideshow.Sends (.duration "slide_time" ⟨8000000, by decide, by decide⟩)
      (.int 86399999999999999) (.int 86399999999999999) := by
  obtain ⟨hparts, _, hmono, hneg, hfield⟩ := millis_exact
  refine ⟨hparts (-999999999) 0 0 ⟨by decide, by decide, by decide⟩, hmono _ _ ?_, hneg _ _ rfl, ?_⟩
  · unfold Precedes
    decide
  · obtain ⟨hwhole, -⟩ := hfield .slideshow _ (List.mem_of_getElem? (i := 3) rfl) rfl
    exact hwhole _ _ rfl (fun _ h => nomatch h) (by decide) (by decide)

end Duration

end SceneSource
