-- SUMMARY: The order of values, and sorting by it.
import SceneSource.Fault
import SceneSource.PathText
import SceneSource.Sorting
import SceneSource.Value.Equality

/-!
# The order of values

Numbers, texts, byte strings, durations and paths are ordered, and so are lists and tuples
of what is ordered: by their first items that do not agree. A set comes before the sets
that hold all of its items and more. No other values are ordered.

A tuple is compared with a color by the color, which asks whether it comes behind. A
refusal names the values in that order, and so does one for items of the two.

`sorted` fails on the first two values that it compares and that are not ordered.
-/

namespace SceneSource.Value

/-- That two values are not ordered. If `turned`, it was the second one that asked. -/
def unordered (turned : Bool) (v w : Value) : Fault :=
  if turned then .unordered ">" w.fullTypeName v.fullTypeName
  else .unordered "<" v.fullTypeName w.fullTypeName

/-- Whether the first value comes before the second one, both without parts. -/
def atomBefore (turned : Bool) (v w : Value) : Except Fault Bool :=
  match v.number?, w.number?, v.text?, w.text? with
  | some m, some n, _, _ => .ok (m.le n && !m.equal n)
  | _, _, some s, some t => .ok (s < t)
  | _, _, _, _ => match v, w with
    | bytes bs, bytes cs => .ok (bs < cs)
    | duration d, duration e => .ok (d.micros < e.micros)
    | path s, path t => .ok (PathText.parts s < PathText.parts t)
    | set xs, set ys => .ok (xs.length < ys.length && allAmong xs ys)
    | _, _ => .error (unordered turned v w)

/-- Whether a sequence comes before another one, given for each of its items whether it
    agrees with a value and whether it comes before one. -/
def sequenceBefore : List ((Value → Bool) × (Value → Except Fault Bool)) → List Value →
    Except Fault Bool
  | [], ys => .ok !ys.isEmpty
  | _ :: _, [] => .ok false
  | (agrees, before) :: rest, y :: ys => if agrees y then sequenceBefore rest ys else before y

mutual

/-- Whether the first value comes before the second one. -/
def isBefore (turned : Bool) : Value → Value → Except Fault Bool
  | list xs, w => match w with
    | list ys => itemsBefore turned xs ys
    | w => .error (unordered turned (list xs) w)
  | tuple xs, w => match w with
    | tuple ys => itemsBefore turned xs ys
    | color r g b a => itemsBefore true xs [r, g, b, a]
    | w => .error (unordered turned (tuple xs) w)
  | color r g b a, w =>
    let channelsBefore (turned : Bool) := sequenceBefore [
      (r.agrees, fun w => r.isBefore turned w), (g.agrees, fun w => g.isBefore turned w),
      (b.agrees, fun w => b.isBefore turned w), (a.agrees, fun w => a.isBefore turned w)]
    match w with
    | tuple ys => channelsBefore false ys
    | color r g b a => channelsBefore turned [r, g, b, a]
    | w => .error (unordered turned (color r g b a) w)
  | v, w => atomBefore turned v w

/-- Whether the first sequence of values comes before the second one. -/
def itemsBefore (turned : Bool) : List Value → List Value → Except Fault Bool
  | [], ys => .ok !ys.isEmpty
  | x :: xs, ys => match ys with
    | [] => .ok false
    | y :: ys => if x.agrees y then itemsBefore turned xs ys else x.isBefore turned y

end

/-- Whether a value comes before another one. -/
def before (v w : Value) : Except Fault Bool := v.isBefore false w

/-- Values in ascending order. -/
def sorted (xs : List Value) : Except Fault (List Value) := Sorting.sort before xs

end SceneSource.Value
