-- SUMMARY: Taking apart outcomes that were mapped, came one after the other or are many.
import Mathlib.Data.List.Forall2
import Mathlib.Tactic.Choose

/-!
# Outcomes

What it says about the parts of an outcome that the whole is a result or a failure, and about
each of some outcomes that all of them are results.
-/

namespace SceneSource.Outcome

variable {ε ε' α β : Type}

theorem ok_bind (a : α) (f : α → Except ε β) : (Except.ok a >>= f) = f a := rfl

theorem map_eq_ok {f : α → β} {x : Except ε α} {b : β} (h : x.map f = .ok b) :
    ∃ a, x = .ok a ∧ f a = b := by
  cases x with
  | error e => cases h
  | ok a => exact ⟨a, rfl, Except.ok.inj h⟩

theorem map_eq_error {f : α → β} {x : Except ε α} {e : ε} (h : x.map f = .error e) :
    x = .error e := by
  cases x with
  | error e' => exact congrArg _ (Except.error.inj h)
  | ok a => cases h

theorem mapError_eq_ok {f : ε → ε'} {x : Except ε α} {a : α} (h : x.mapError f = .ok a) :
    x = .ok a := by
  cases x with
  | error e => cases h
  | ok b => exact congrArg Except.ok (Except.ok.inj h)

theorem mapError_ok_iff {f : ε → ε'} {x : Except ε α} {a : α} :
    x.mapError f = .ok a ↔ x = .ok a := by
  refine ⟨mapError_eq_ok, ?_⟩
  rintro rfl
  rfl

theorem bind_eq_ok {x : Except ε α} {f : α → Except ε β} {b : β} (h : x >>= f = .ok b) :
    ∃ a, x = .ok a ∧ f a = .ok b := by
  cases x with
  | error e => cases h
  | ok a => exact ⟨a, rfl, h⟩

theorem bind_ok_iff {x : Except ε α} {f : α → Except ε β} {b : β} :
    x.bind f = .ok b ↔ ∃ a, x = .ok a ∧ f a = .ok b := by
  constructor
  · exact bind_eq_ok
  · rintro ⟨a, rfl, hb⟩
    exact hb

/-- Results that are put under names all come about exactly if each of them does. -/
theorem map_named_ok_iff {κ : Type} [Nonempty β] {name : α → κ} {f : α → Except ε β}
    {as : List α} {bs : List (κ × β)} :
    as.map (fun a => (f a).map fun b => (name a, b)) = bs.map .ok ↔
      ∃ val : α → β, (∀ a ∈ as, f a = .ok (val a)) ∧ bs = as.map fun a => (name a, val a) := by
  constructor
  · intro h
    have heach : ∀ a ∈ as, ∃ b, f a = .ok b := by
      intro a ha
      have hmem : (f a).map (fun b => (name a, b)) ∈ bs.map .ok :=
        h ▸ List.mem_map_of_mem (f := fun a => (f a).map fun b => (name a, b)) ha
      obtain ⟨pair, _, hpair⟩ := List.mem_map.mp hmem
      obtain ⟨b, hb, _⟩ := map_eq_ok hpair.symm
      exact ⟨b, hb⟩
    choose! val hval using heach
    refine ⟨val, hval, ?_⟩
    have hok : as.map (fun a => (f a).map fun b => (name a, b)) =
        (as.map fun a => (name a, val a)).map .ok := by
      simp only [List.map_map]
      refine List.map_congr_left fun a ha => ?_
      simp only [hval a ha]
      rfl
    exact (List.map_inj_right fun _ _ => Except.ok.inj).mp (h.symm.trans hok)
  · rintro ⟨val, hval, rfl⟩
    simp only [List.map_map]
    refine List.map_congr_left fun a ha => ?_
    simp only [hval a ha]
    rfl

theorem mapM_ok_iff {f : α → Except ε β} {as : List α} {bs : List β} :
    as.mapM f = .ok bs ↔ as.map f = bs.map .ok := by
  induction as generalizing bs with
  | nil =>
    simp only [List.mapM_nil]
    cases bs <;> simp [pure, Except.pure]
  | cons a rest ih =>
    simp only [List.mapM_cons]
    constructor
    · intro h
      obtain ⟨b, hb, h⟩ := bind_eq_ok h
      obtain ⟨more, hmore, h⟩ := bind_eq_ok h
      cases h
      simp only [List.map_cons, hb, ih.mp hmore]
    · intro h
      cases bs with
      | nil => cases h
      | cons b more =>
        obtain ⟨hb, hmore⟩ := List.cons.inj h
        simp only [hb, ih.mpr hmore]
        rfl

theorem mapM_ok_iff_forall₂ {f : α → Except ε β} {as : List α} {bs : List β} :
    as.mapM f = .ok bs ↔ List.Forall₂ (fun a b => f a = .ok b) as bs := by
  rw [mapM_ok_iff, ← List.forall₂_eq_eq_eq, List.forall₂_map_left_iff, List.forall₂_map_right_iff]

/-- The failure of many is that of the first of them that fails. -/
theorem mapM_error_iff {f : α → Except ε β} {as : List α} {e : ε} :
    as.mapM f = .error e ↔ ∃ before a after, as = before ++ a :: after ∧
      (∀ x ∈ before, ∃ b, f x = .ok b) ∧ f a = .error e := by
  constructor
  · intro h
    induction as with
    | nil => cases h
    | cons a rest ih =>
      simp only [List.mapM_cons] at h
      cases ha : f a with
      | error e' =>
        simp only [ha] at h
        cases h
        exact ⟨[], a, rest, rfl, List.forall_mem_nil _, ha⟩
      | ok b =>
        cases hrest : rest.mapM f with
        | error e' =>
          simp only [ha, hrest] at h
          cases h
          obtain ⟨before, x, after, rfl, hbefore, hx⟩ := ih hrest
          exact ⟨a :: before, x, after, rfl, List.forall_mem_cons.mpr ⟨⟨b, ha⟩, hbefore⟩, hx⟩
        | ok bs =>
          simp only [ha, hrest] at h
          cases h
  · rintro ⟨before, a, after, rfl, hbefore, ha⟩
    induction before with
    | nil =>
      simp only [List.nil_append, List.mapM_cons, ha]
      rfl
    | cons x before ih =>
      obtain ⟨⟨b, hx⟩, hbefore⟩ := List.forall_mem_cons.mp hbefore
      simp only [List.cons_append, List.mapM_cons, hx, ih hbefore]
      rfl

end SceneSource.Outcome
