-- SUMMARY: When two values are equal, and sets of values.
import SceneSource.Value.Basic

/-!
# Equality of values

Numeric values are equal by value, textual ones by text, whatever they are stored as; a
path equals those of its own notation only, by its text or by its parts without capitals;
a color equals the tuple of its channels; collections compare item by item, mappings and
the attributes of instances of one model entry by entry. An object without content equals
itself only, and a NaN equals nothing. Inside of a collection it is enough for two items to
be the same, so there a NaN agrees with itself.
-/

namespace SceneSource.Value

/-- The items of a tuple or of a color. -/
def tuple? : Value → Option (List Value)
  | tuple xs => some xs
  | color r g b a => some [r, g, b, a]
  | _ => none

/-- Whether two values without parts are the same or equal. -/
def agreeAtoms (v w : Value) : Bool :=
  match v.number?, w.number? with
  | some m, some n => m.same n || m.equal n
  | none, none => match v.text?, w.text? with
    | some s, some t => s == t
    | _, _ => false
  | _, _ => false

mutual

/-- Whether two values are the same or equal. -/
def agrees : Value → Value → Bool
  | null, w => match w with
    | null => true
    | _ => false
  | bytes bs, w => match w with
    | bytes cs => bs == cs
    | _ => false
  | list xs, w => match w with
    | list ys => agreeItems xs ys
    | _ => false
  | tuple xs, w => match w.tuple? with
    | some ys => agreeItems xs ys
    | none => false
  | color r g b a, w => match w.tuple? with
    | some [r', g', b', a'] => r.agrees r' && g.agrees g' && b.agrees b' && a.agrees a'
    | _ => false
  | set xs, w => match w with
    | set ys => xs.length == ys.length && allAmong xs ys
    | _ => false
  | mapping es, w => match w with
    | mapping fs => es.length == fs.length && agreeEntries es fs
    | _ => false
  | duration d, w => match w with
    | duration e => d == e
    | _ => false
  | path s, w => match w with
    | path t => s == t
    | _ => false
  | caselessPath _ parts, w => match w with
    | caselessPath _ parts' => parts == parts'
    | _ => false
  | ratio u v, w => match w with
    | ratio u' v' => u.agrees u' && v.agrees v'
    | _ => false
  | size u v, w => match w with
    | size u' v' => u.agrees u' && v.agrees v'
    | _ => false
  | record m es, w => match w with
    | record n fs => m == n && es.length == fs.length && agreeEntries es fs
    | _ => false
  | pathLike i _, w => match w with
    | pathLike j _ => i == j
    | _ => false
  | object i, w => match w with
    | object j => i == j
    | _ => false
  | bool b, w => agreeAtoms (bool b) w
  | int n, w => agreeAtoms (int n) w
  | real d, w => agreeAtoms (real d) w
  | text s, w => agreeAtoms (text s) w
  | flags n, w => agreeAtoms (flags n) w
  | choice c, w => agreeAtoms (choice c) w

/-- Whether two sequences agree item by item. -/
def agreeItems : List Value → List Value → Bool
  | [], ys => ys.isEmpty
  | x :: xs, ys => match ys with
    | [] => false
    | y :: ys => x.agrees y && agreeItems xs ys

/-- Whether every item agrees with one of the other list. -/
def allAmong : List Value → List Value → Bool
  | [], _ => true
  | x :: xs, ys => ys.any (fun y => x.agrees y) && allAmong xs ys

/-- Whether every entry agrees with the one of its key in the other mapping. -/
def agreeEntries : List (String × Value) → List (String × Value) → Bool
  | [], _ => true
  | (k, v) :: es, fs => match fs.lookup k with
    | some w => v.agrees w && agreeEntries es fs
    | none => false

end

/-- Equality of values. -/
def equal (v w : Value) : Bool :=
  match v, w with
  | real d, real e => d.equal e
  | v, w => v.agrees w

-- ---------------------------------------------------------------------------
-- Sets
-- ---------------------------------------------------------------------------

/-- Keeps the first of the values that agree with each other. -/
def distinct : List Value → List Value
  | [] => []
  | x :: xs => x :: (distinct xs).filter fun y => !x.agrees y

/-- The order in which a set lists its members: integers ascending, and anything else
    as it was given. -/
def setBefore (v w : Value) : Bool :=
  match v.int?, w.int? with
  | some m, some n => m ≤ n
  | _, _ => true

/-- The set of some values, or the type of the first that no set can hold. -/
def ofSet (xs : List Value) : Except Fault Value :=
  match unhashableItem? xs with
  | some type => .error (.unhashable type)
  | none => .ok (set ((distinct xs).mergeSort setBefore))

end SceneSource.Value
