-- SUMMARY: Durations in whole microseconds, their milliseconds, and the texts that show them.
import SceneSource.Fault
import SceneSource.Number.Double

/-!
# Durations

A duration is a whole number of microseconds within ±10⁹ days. It is shown as days,
seconds and microseconds, of which only the days may be negative, and it travels as
milliseconds truncated toward zero.
-/

namespace SceneSource

/-- A duration. -/
structure Duration where
  /-- The duration in microseconds. -/
  micros : Int
  least : -86399999913600000000 ≤ micros := by omega
  greatest : micros ≤ 86399999999999999999 := by omega
deriving DecidableEq, Repr

namespace Duration

@[ext] theorem ext {d e : Duration} (h : d.micros = e.micros) : d = e := by
  cases d; cases e; simp_all

/-- The microseconds of a second. -/
def microsPerSecond : Int := 1000000
/-- The microseconds of a day. -/
def microsPerDay : Int := 86400000000

/-- The whole days, rounded down. -/
def days (d : Duration) : Int := d.micros / microsPerDay

/-- The whole seconds within the day. -/
def seconds (d : Duration) : Int := d.micros % microsPerDay / microsPerSecond

/-- The microseconds within the second. -/
def microseconds (d : Duration) : Int := d.micros % microsPerSecond

/-- The duration of a number of microseconds, if it lies in the range of durations. -/
def ofMicros (n : Int) : Except Fault Duration :=
  let days := n / microsPerDay
  if days < -2147483648 ∨ 2147483647 < days then .error .durationWord
  else if h : -86399999913600000000 ≤ n ∧ n ≤ 86399999999999999999 then .ok ⟨n, h.1, h.2⟩
  else .error (.durationDays days)

/-- The duration of days, seconds and microseconds, each of any size and sign. -/
def ofParts (days seconds microseconds : Int) : Except Fault Duration :=
  ofMicros (days * microsPerDay + seconds * microsPerSecond + microseconds)

/-- The duration of a whole number of milliseconds. -/
def ofMillis (n : Int) : Except Fault Duration := ofMicros (n * 1000)

/-- The integer nearest to a quotient, a half going to the even one. -/
def roundHalfEven (num : Int) (den : Nat) : Int :=
  if num < 0 then -(Double.roundEven num.natAbs den : Int) else Double.roundEven num.natAbs den

/-- The duration of a number of milliseconds. The part behind the point is multiplied as
    a double; what is left below a microsecond is rounded, a half to the even count. -/
def ofMillisReal (d : Double) : Except Fault Duration :=
  if d.isNaN then .error .nanToInteger
  else if d.isInfinite then .error .infinityToInteger
  else
    let back := Double.ofRatio d.negative (1000 * d.remainder.natAbs) Double.one
    ofMicros (roundHalfEven (d.truncate * 1000 * Double.one + back.units) Double.one)

/-- Whole milliseconds, truncated toward zero. -/
def millis (d : Duration) : Int := d.micros.tdiv 1000

-- ---------------------------------------------------------------------------
-- Texts
-- ---------------------------------------------------------------------------

/-- The duration as messages show it: the parts that are not zero. -/
def shown (d : Duration) : String :=
  let part (name : String) (n : Int) : List String := if n = 0 then [] else [s!"{name}={n}"]
  let parts := part "days" d.days ++ part "seconds" d.seconds ++ part "microseconds" d.microseconds
  "datetime.timedelta(" ++ (if parts.isEmpty then "0" else ", ".intercalate parts) ++ ")"

/-- The six places of a number of microseconds. -/
def sixPlaces (micros : Nat) : List Char :=
  let ds := Nat.toDigits 10 micros
  List.replicate (6 - ds.length) '0' ++ ds

/-- A fraction of a second: six places without zeros at the end. -/
def secondFraction (micros : Nat) : List Char :=
  ((sixPlaces micros).reverse.dropWhile (· == '0')).reverse

/-- The days of a duration, if it has any, and the time of day behind them. -/
def clock (d : Duration) : String :=
  let two (n : Int) : String := if n < 10 then s!"0{n}" else toString n
  let micro := d.microseconds.toNat
  let days :=
    if d.days = 0 then ""
    else s!"{d.days} day" ++ (if d.days.natAbs = 1 then "" else "s") ++ ", "
  days ++ s!"{d.seconds / 3600}:" ++ two (d.seconds % 3600 / 60) ++ ":" ++ two (d.seconds % 60) ++
    if micro = 0 then "" else "." ++ String.ofList (sixPlaces micro)

/-- The duration in ISO 8601, with years of 365 days. -/
def iso (d : Duration) : String :=
  let n := d.micros.natAbs
  let days := n / 86400000000
  let second := n % 86400000000 / 1000000
  let micro := n % 1000000
  let part (n : Nat) (unit : String) : String := if n = 0 then "" else s!"{n}{unit}"
  let clock :=
    if second = 0 ∧ micro = 0 then ""
    else
      "T" ++ part (second / 3600) "H" ++ part (second % 3600 / 60) "M" ++
        (if second % 60 = 0 ∧ micro = 0 then ""
         else toString (second % 60) ++
          (if micro = 0 then "" else "." ++ String.ofList (secondFraction micro)) ++ "S")
  (if d.micros < 0 then "-" else "") ++ "P" ++ part (days / 365) "Y" ++ part (days % 365) "D" ++
    clock ++ (if n = 0 then "T0S" else "")

-- ---------------------------------------------------------------------------
-- Laws
-- ---------------------------------------------------------------------------

theorem ofMicros_micros (d : Duration) : ofMicros d.micros = .ok d := by
  have := d.least
  have := d.greatest
  unfold ofMicros microsPerDay
  simp only
  rw [if_neg (by omega), dif_pos (by omega)]

end Duration

end SceneSource
