-- SUMMARY: Stable sorting by an order that may refuse to compare two items.

/-!
# Sorting

Items are sorted by a test whether one of them comes before another. The test may refuse,
and then sorting fails; it may also hold in neither direction of items that others come
between. The outcome then depends on which items are compared, so all of these comparisons
are fixed here.

The items are cut into runs that ascend already, or descend and are turned around. A run
that is too short takes further items in, each inserted by halving. Neighboring runs are
merged in an order that keeps the merges balanced. A merge first sets aside what stays in
place at both ends, then takes items one by one. When one side has won often enough in a
row, it leaps: it looks for the end of the winning streak in steps that double.
-/

namespace SceneSource.Sorting

variable {α ε : Type}

-- ---------------------------------------------------------------------------
-- Searching
-- ---------------------------------------------------------------------------

/-- The number of items at the front of which a property holds, known to lie between `low`
    and `low + width`, by halving. The middle of an even width lies above or below. -/
def halve (above : Bool) (holds : α → Except ε Bool) (xs : List α) :
    (fuel low width : Nat) → Except ε Nat
  | 0, low, _ => .ok low
  | _, low, 0 => .ok low
  | fuel + 1, low, width + 1 =>
    let half := if above then (width + 1) / 2 else width / 2
    match xs[low + half]? with
    | none => .ok low
    | some x => do
      if ← holds x then halve above holds xs fuel (low + half + 1) (width - half)
      else halve above holds xs fuel low half

/-- Goes on from a place in steps that double while the property holds: the last place
    where it held, and the one that ended the search. -/
def stride (holds : α → Except ε Bool) (xs : List α) :
    (fuel last next : Nat) → Except ε (Nat × Nat)
  | 0, last, next => .ok (last, next)
  | fuel + 1, last, next =>
    match xs[next]? with
    | none => .ok (last, xs.length)
    | some x => do
      if ← holds x then stride holds xs fuel next (2 * next + 1) else return (last, next)

/-- The number of items at the front of which a property holds, sought near the front. -/
def leap (above : Bool) (holds : α → Except ε Bool) : List α → Except ε Nat
  | [] => .ok 0
  | x :: xs => do
    if ← holds x then
      let (last, next) ← stride holds (x :: xs) (xs.length + 1) 0 1
      halve above holds (x :: xs) (next - last) (last + 1) (next - last - 1)
    else return 0

-- ---------------------------------------------------------------------------
-- Runs
-- ---------------------------------------------------------------------------

/-- Items that go on a run behind its last item, each of which comes before the one in
    front of it or none of which does, and the items behind them. -/
def run (before : α → α → Except ε Bool) (descending : Bool) (last : α) :
    List α → Except ε (List α × List α)
  | [] => .ok ([], [])
  | x :: xs => do
    if (← before x last) = descending then
      let (more, rest) ← run before descending x xs
      return (x :: more, rest)
    else return ([], x :: xs)

/-- The run at the front in ascending order, and the items behind it. -/
def firstRun (before : α → α → Except ε Bool) : List α → Except ε (List α × List α)
  | x :: y :: rest => do
    let descending ← before y x
    let (more, rest) ← run before descending y rest
    let found := x :: y :: more
    return (if descending then found.reverse else found, rest)
  | xs => .ok (xs, [])

/-- Inserts items into ordered ones, behind those that they do not come before. -/
def insertAll (before : α → α → Except ε Bool) (ordered : List α) : List α → Except ε (List α)
  | [] => .ok ordered
  | x :: xs => do
    let behind (y : α) : Except ε Bool := (before x y).map not
    let i ← halve true behind ordered (ordered.length + 1) 0 ordered.length
    insertAll before (ordered.take i ++ x :: ordered.drop i) xs

/-- The least length of a run among `n` items, such that the number of runs is a power of
    two or a little less: `n` is halved until less than 64 is left, and rounded up. -/
def leastRun : (fuel up n : Nat) → Nat
  | 0, up, n => n + up
  | fuel + 1, up, n => if n < 64 then n + up else leastRun fuel (max up (n % 2)) (n / 2)

-- ---------------------------------------------------------------------------
-- Merging
-- ---------------------------------------------------------------------------

/-- A merge under way. The left side is the one that ends last; what is merged so far is
    there in reverse. -/
structure Merge (α : Type) where
  left : List α
  right : List α
  merged : List α := []

namespace Merge

/-- What is merged when it is known how the merge ends, which it is as soon as one side is
    used up or one item is left on the left side. -/
def result? (m : Merge α) : Option (List α) :=
  match m.left, m.right with
  | xs, [] => some (m.merged.reverse ++ xs)
  | [], ys => some (m.merged.reverse ++ ys)
  | [x], ys => some (m.merged.reverse ++ ys ++ [x])
  | _, _ => none

/-- The merge with some items taken from the left side. -/
def takeLeft (n : Nat) (m : Merge α) : Merge α :=
  { m with left := m.left.drop n, merged := (m.left.take n).reverse ++ m.merged }

/-- The merge with some items taken from the right side. -/
def takeRight (n : Nat) (m : Merge α) : Merge α :=
  { m with right := m.right.drop n, merged := (m.right.take n).reverse ++ m.merged }

/-- Takes all items from the left side that go in front of the first one on the right side,
    and then that one. Says how many there were. -/
def leapLeft (above : Bool) (rightFirst : α → α → Except ε Bool) (m : Merge α) :
    Except ε (Nat × Merge α) :=
  match m.right with
  | [] => .ok (0, m)
  | y :: _ => do
    let n ← leap above (fun x => (rightFirst x y).map not) m.left
    let m := m.takeLeft n
    return (n, if m.result?.isSome then m else m.takeRight 1)

/-- Takes all items from the right side that go in front of the first one on the left side,
    and then that one. Says how many there were. -/
def leapRight (above : Bool) (rightFirst : α → α → Except ε Bool) (m : Merge α) :
    Except ε (Nat × Merge α) :=
  match m.left with
  | [] => .ok (0, m)
  | x :: _ => do
    let n ← leap above (fun y => rightFirst x y) m.right
    let m := m.takeRight n
    return (n, if m.result?.isSome then m else m.takeLeft 1)

/-- Leaps on either side once; a merge from the front starts on the left. -/
def leaps (front : Bool) (rightFirst : α → α → Except ε Bool) (m : Merge α) :
    Except ε (Nat × Merge α) := do
  let (first, second) := if front then (leapLeft, leapRight) else (leapRight, leapLeft)
  let (j, m) ← first front rightFirst m
  if m.result?.isSome then return (j, m)
  let (k, m) ← second front rightFirst m
  return (max j k, m)

end Merge

/-- How many times in a row a side wins before it leaps, at the start. A leap is worth it if
    it takes as many items. -/
def patience : Nat := 7

/-- How items are taken: one by one, after so many wins of the left and the right side in a
    row, or in leaps. -/
inductive Pace where
  | steps (leftWins rightWins : Nat)
  | leaps

/-- Finishes a merge: the items and the patience that is left. Leaps that are worth it lower
    the patience. -/
def finish (front : Bool) (rightFirst : α → α → Except ε Bool) :
    (fuel patience : Nat) → Pace → Merge α → Except ε (List α × Nat)
  | 0, p, _, m => .ok (m.merged.reverse ++ m.left ++ m.right, p)
  | fuel + 1, p, pace, m =>
    match m.result?, pace, m.left, m.right with
    | some items, _, _, _ => .ok (items, p)
    | none, .steps i j, x :: _, y :: _ => do
      if ← rightFirst x y then
        let m := m.takeRight 1
        if p ≤ j + 1 && m.result?.isNone then finish front rightFirst fuel (p + 1) .leaps m
        else finish front rightFirst fuel p (.steps 0 (j + 1)) m
      else
        let m := m.takeLeft 1
        if p ≤ i + 1 && m.result?.isNone then finish front rightFirst fuel (p + 1) .leaps m
        else finish front rightFirst fuel p (.steps (i + 1) 0) m
    | none, .leaps, _, _ => do
      let p := max 1 (p - 1)
      let (n, m) ← m.leaps front rightFirst
      if m.result?.isSome || patience ≤ n then finish front rightFirst fuel p .leaps m
      else finish front rightFirst fuel (p + 1) (.steps 0 0) m
    | none, _, _, _ => .ok (m.merged.reverse ++ m.left ++ m.right, p)

/-- Merges two runs of which the first item of the second one comes before all of the first
    one, and the last item of the first one goes behind all of the second one. The longer
    run is gone through from the end that it has in common with the merged items. -/
def interleave (before : α → α → Except ε Bool) (p : Nat) (xs ys : List α) :
    Except ε (List α × Nat) := do
  let fuel := 2 * (xs.length + ys.length) + 2
  if xs.length ≤ ys.length then
    finish true (fun x y => before y x) fuel p (.steps 0 0)
      (Merge.takeRight 1 { left := xs, right := ys })
  else
    let (items, p) ← finish false (fun y x => before y x) fuel p (.steps 0 0)
      (Merge.takeRight 1 { left := ys.reverse, right := xs.reverse })
    return (items.reverse, p)

/-- Merges two neighboring runs. -/
def merge (before : α → α → Except ε Bool) (p : Nat) (xs ys : List α) :
    Except ε (List α × Nat) :=
  match ys, xs.getLast? with
  | y :: _, some x => do
    let i ← leap true (fun x => (before y x).map not) xs
    if i = xs.length then return (xs ++ ys, p)
    let j ← leap false (fun y => (before y x).map not) ys.reverse
    let (front, xs) := xs.splitAt i
    let (ys, back) := ys.splitAt (ys.length - j)
    if ys.isEmpty then return (front ++ xs ++ back, p)
    let (items, p) ← interleave before p xs ys
    return (front ++ items ++ back, p)
  | _, _ => .ok (xs ++ ys, p)

-- ---------------------------------------------------------------------------
-- The order of merges
-- ---------------------------------------------------------------------------

/-- A run that waits to be merged. -/
structure Waiting (α : Type) where
  /-- The number of items in front of it. -/
  start : Nat
  items : List α
  /-- The depth of the cut between it and the run behind it. -/
  depth : Nat := 0

/-- The depth of the cut between two runs among `n` items: the number of binary digits that
    tell the middle of the first one from the middle of the second one. Both are given as
    fractions of `n`. -/
def cutDepth (n : Nat) : (fuel a b : Nat) → Nat
  | 0, _, _ => 1
  | fuel + 1, a, b =>
    if n ≤ a then cutDepth n fuel (2 * (a - n)) (2 * (b - n)) + 1
    else if n ≤ b then 1
    else cutDepth n fuel (2 * a) (2 * b) + 1

/-- Merges the last runs, the last of them first in the list, while the cut between them is
    deeper than some depth, which is the one that the last run has from then on. -/
def settle (before : α → α → Except ε Bool) (depth : Nat) :
    (fuel patience : Nat) → List (Waiting α) → Except ε (List (Waiting α) × Nat)
  | 0, p, waiting => .ok (waiting, p)
  | fuel + 1, p, last :: previous :: rest => do
    if depth < previous.depth then
      let (items, p) ← merge before p previous.items last.items
      settle before depth fuel p ({ previous with items } :: rest)
    else return ({ last with depth } :: previous :: rest, p)
  | _, p, [last] => .ok ([{ last with depth }], p)
  | _, p, [] => .ok ([], p)

/-- Merges all runs, the last of them first in the list: the two last ones, unless the run
    in front of them is shorter than the last one. -/
def mergeAll (before : α → α → Except ε Bool) :
    (fuel patience : Nat) → List (Waiting α) → Except ε (List α)
  | 0, _, waiting => .ok (waiting.reverse.flatMap (·.items))
  | fuel + 1, p, last :: middle :: first :: rest => do
    if first.items.length < last.items.length then
      let (items, p) ← merge before p first.items middle.items
      mergeAll before fuel p (last :: { first with items } :: rest)
    else
      let (items, p) ← merge before p middle.items last.items
      mergeAll before fuel p ({ middle with items } :: first :: rest)
  | _, p, [last, previous] => do return (← merge before p previous.items last.items).1
  | _, _, [last] => .ok last.items
  | _, _, [] => .ok []

/-- Cuts the remaining items of `n` into runs, and merges these. -/
def sortRuns (before : α → α → Except ε Bool) (n least : Nat) :
    (fuel patience : Nat) → List (Waiting α) → List α → Except ε (List α)
  | 0, _, waiting, xs => .ok (waiting.reverse.flatMap (·.items) ++ xs)
  | _, p, waiting, [] => mergeAll before waiting.length p waiting
  | fuel + 1, p, waiting, x :: xs => do
    let (found, rest) ← firstRun before (x :: xs)
    let missing := least - found.length
    let items ← insertAll before found (rest.take missing)
    let rest := rest.drop missing
    match waiting with
    | [] => sortRuns before n least fuel p [{ start := 0, items }] rest
    | last :: _ =>
      let a := 2 * last.start + last.items.length
      let start := last.start + last.items.length
      let depth := cutDepth n (2 * n) a (a + last.items.length + items.length)
      let (waiting, p) ← settle before depth waiting.length p waiting
      sortRuns before n least fuel p ({ start, items } :: waiting) rest

/-- The items in ascending order; those of which neither comes before the other keep their
    places. -/
def sort (before : α → α → Except ε Bool) (xs : List α) : Except ε (List α) :=
  sortRuns before xs.length (leastRun xs.length 0 xs.length) xs.length patience [] xs

end SceneSource.Sorting
