-- SUMMARY: When two values spell their paths alike, place by place.
import SceneSource.Proofs.Leaves

/-!
# The spelling of paths

Paths that take no notice of capitals can be equal and have different texts. Two values are
spelled alike if such paths have the same text in both wherever both have one. A payload has paths
in its fields and in the files that it lists, so instances are compared field by field and tuples
item by item. What a leaf other than one for a path stores holds none.
-/

namespace SceneSource

namespace Value

mutual

/-- Whether paths that take no notice of capitals have one text in both values, place by place. -/
def spelledAlike : Value → Value → Bool
  | caselessPath s _, w => match w with
    | caselessPath t _ => s == t
    | _ => true
  | tuple xs, w => match w with
    | tuple ys => itemsSpelledAlike xs ys
    | _ => true
  | record _ es, w => match w with
    | record _ fs => entriesSpelledAlike es fs
    | _ => true
  | _, _ => true

/-- `spelledAlike` for the items of two tuples. -/
def itemsSpelledAlike : List Value → List Value → Bool
  | [], _ => true
  | x :: xs, ys => match ys with
    | [] => true
    | y :: ys => x.spelledAlike y && itemsSpelledAlike xs ys

/-- `spelledAlike` for the attributes of two instances, name by name. -/
def entriesSpelledAlike : List (String × Value) → List (String × Value) → Bool
  | [], _ => true
  | (name, v) :: es, fs => match fs.lookup name with
    | some w => v.spelledAlike w && entriesSpelledAlike es fs
    | none => entriesSpelledAlike es fs

end

theorem entriesSpelledAlike_iff {es fs : List (String × Value)} :
    entriesSpelledAlike es fs = true ↔
      ∀ e ∈ es, ∀ w, fs.lookup e.1 = some w → e.2.spelledAlike w = true := by
  induction es with
  | nil => simp only [entriesSpelledAlike, List.not_mem_nil, false_implies, implies_true]
  | cons e es ih =>
    obtain ⟨name, v⟩ := e
    rw [entriesSpelledAlike, List.forall_mem_cons]
    cases fs.lookup name with
    | none => simp [ih]
    | some w => simp [ih]

/-- Tuples of one length are spelled alike if their items are. -/
theorem spelledAlike_tuple_iff {xs ys : List Value} (hlength : xs.length = ys.length) :
    (tuple xs).spelledAlike (tuple ys) = true ↔
      List.Forall₂ (fun x y => x.spelledAlike y = true) xs ys := by
  rw [spelledAlike]
  induction xs generalizing ys with
  | nil => cases ys with
    | nil => simp [itemsSpelledAlike]
    | cons => cases hlength
  | cons x xs ih => cases ys with
    | nil => cases hlength
    | cons y ys =>
      rw [itemsSpelledAlike, Bool.and_eq_true_iff, List.forall₂_cons, ih (Nat.succ.inj hlength)]

/-- An instance has no spelling if none of its attributes has one. -/
theorem spelledAlike_record {m : Model} {es : List (String × Value)}
    (h : ∀ e ∈ es, ∀ w, e.2.spelledAlike w = true) (w : Value) :
    (record m es).spelledAlike w = true := by
  cases w with
  | record n fs =>
    rw [spelledAlike, entriesSpelledAlike_iff]
    exact fun e he w _ => h e he w
  | _ => simp only [spelledAlike]

end Value

/-- Instances with the same fields are spelled alike if their attributes are. -/
theorem Field.Separate.spelledAlike_record_iff {σ : Type} {fields : List (Field σ)}
    (hsep : Field.Separate fields) {m n : Model} {val val' : Field σ → Value} :
    (Value.record m (fields.map fun f => (f.name, val f))).spelledAlike
        (.record n (fields.map fun f => (f.name, val' f))) = true ↔
      ∀ f ∈ fields, (val f).spelledAlike (val' f) = true := by
  rw [Value.spelledAlike, Value.entriesSpelledAlike_iff, List.forall_mem_map]
  refine forall₂_congr fun f hf => ?_
  simp only [hsep.lookup_name val' hf, Option.some.injEq, forall_eq']

/-- What a leaf stores for anything but a path has no spelling. -/
theorem Leaf.spelledAlike_of_ne_path {l : Leaf} (hl : l ≠ path) {v : Value}
    (hv : l.stores v = true) (w : Value) : v.spelledAlike w = true := by
  cases v with
  | caselessPath => cases l <;> first | exact absurd rfl hl | cases hv
  | tuple | record => cases l <;> cases hv
  | _ => simp only [Value.spelledAlike]

end SceneSource
