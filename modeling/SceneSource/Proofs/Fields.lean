-- SUMMARY: Reading fields one by one: each from its own entries, with issues that add up.
import Mathlib.Data.List.Nodup
import Mathlib.Data.List.Pairwise
import SceneSource.Proofs.Outcomes
import SceneSource.Validation.Fields

/-!
# Reading field by field

A field is read from the entries under its keys and from no others, so that what is read
for one field does not depend on what is given for another one. All checks are made unless
one ends in a fault, and what they find is put together in order.
-/

namespace SceneSource

namespace Refusal

variable {α β γ : Type}

/-- The issues of an outcome. -/
def found : Except Refusal α → List Issue
  | .error (.issues found) => found
  | .error (.fault _) | .ok _ => []

/-- Whether an outcome is not a fault. -/
def NoFault (outcome : Except Refusal α) : Prop := ∀ f, outcome ≠ .error (.fault f)

theorem noFault_ok (a : α) : NoFault (.ok a : Except Refusal α) := fun _ h => nomatch h

theorem noFault_issues (found : List Issue) :
    NoFault (.error (.issues found) : Except Refusal α) := fun _ h => nomatch h

theorem noFault_because (reason : Reason) :
    NoFault (.error (.because reason) : Except Refusal α) := noFault_issues _

theorem NoFault.cases {x : Except Refusal α} (hx : NoFault x) :
    (∃ a, x = .ok a) ∨ ∃ found, x = .error (.issues found) := by
  rcases x with (found | f) | a
  · exact .inr ⟨found, rfl⟩
  · exact absurd rfl (hx f)
  · exact .inl ⟨a, rfl⟩

theorem NoFault.bind {x : Except Refusal α} (hx : NoFault x) {f : α → Except Refusal β}
    (hf : ∀ a, x = .ok a → NoFault (f a)) : NoFault (x >>= f) := by
  obtain ⟨a, rfl⟩ | ⟨found, rfl⟩ := hx.cases
  · exact hf a rfl
  · exact noFault_issues found

theorem NoFault.map {x : Except Refusal α} (hx : NoFault x) (f : α → β) : NoFault (x.map f) := by
  obtain ⟨a, rfl⟩ | ⟨found, rfl⟩ := hx.cases
  · exact noFault_ok _
  · exact noFault_issues found

theorem NoFault.under {x : Except Refusal α} (hx : NoFault x) (s : Step) :
    NoFault (x.mapError (·.under s)) := by
  obtain ⟨a, rfl⟩ | ⟨found, rfl⟩ := hx.cases
  · exact noFault_ok a
  · exact noFault_issues _

theorem join_ok_iff {f : α → β → γ} {x : Except Refusal α} {y : Except Refusal β} {c : γ} :
    join f x y = .ok c ↔ ∃ a b, x = .ok a ∧ y = .ok b ∧ f a b = c := by
  rcases x with r | a
  · rcases r with found | e
    · rcases y with r | b
      · cases r <;> simp [join]
      · simp [join]
    · simp [join]
  · cases y <;> simp [join]

/-- Two checks end in a fault exactly if one of them does. -/
theorem join_noFault_iff {f : α → β → γ} {x : Except Refusal α} {y : Except Refusal β} :
    NoFault (join f x y) ↔ NoFault x ∧ NoFault y := by
  unfold NoFault
  rcases x with r | a
  · rcases r with found | e
    · rcases y with r | b
      · cases r <;> simp [join]
      · simp [join]
    · simp [join]
  · cases y <;> simp [join]

/-- The fault of two checks is the fault of one of them. -/
theorem join_fault {f : α → β → γ} {x : Except Refusal α} {y : Except Refusal β} {e : Fault}
    (h : join f x y = .error (.fault e)) : x = .error (.fault e) ∨ y = .error (.fault e) := by
  rcases x with r | a
  · rcases r with found | e'
    · rcases y with r | b
      · cases r with
        | issues more => cases h
        | fault e' =>
          cases h
          exact .inr rfl
      · cases h
    · cases h
      exact .inl rfl
  · cases y with
    | error r =>
      cases h
      exact .inr rfl
    | ok b => cases h

/-- Without faults, two checks find together what each of them finds. -/
theorem found_join {f : α → β → γ} {x : Except Refusal α} {y : Except Refusal β}
    (hx : NoFault x) (hy : NoFault y) : found (join f x y) = found x ++ found y := by
  rcases x with (more | e) | a
  · rcases y with (more' | e) | b
    · rfl
    · exact absurd rfl (hy e)
    · exact (List.append_nil more).symm
  · exact absurd rfl (hx e)
  · rcases y with (more' | e) | b
    · rfl
    · exact absurd rfl (hy e)
    · rfl

/-- Checks succeed together exactly if each of them does. -/
theorem all_ok_iff {outcomes : List (Except Refusal α)} {results : List α} :
    all outcomes = .ok results ↔ outcomes = results.map .ok := by
  induction outcomes generalizing results with
  | nil => cases results <;> simp [all]
  | cons outcome rest ih =>
    simp only [all, join_ok_iff]
    constructor
    · rintro ⟨a, more, rfl, hmore, rfl⟩
      simp only [ih.mp hmore, List.map_cons]
    · intro h
      cases results with
      | nil => cases h
      | cons a more =>
        obtain ⟨rfl, hmore⟩ := List.cons.inj h
        exact ⟨a, more, rfl, ih.mpr hmore, rfl⟩

theorem all_noFault_iff {outcomes : List (Except Refusal α)} :
    NoFault (all outcomes) ↔ ∀ x ∈ outcomes, NoFault x := by
  induction outcomes with
  | nil => exact ⟨fun _ => List.forall_mem_nil _, fun _ _ hf => nomatch hf⟩
  | cons outcome rest ih => simp only [all, join_noFault_iff, ih, List.forall_mem_cons]

/-- The fault of some checks is the fault of one of them. -/
theorem all_fault {outcomes : List (Except Refusal α)} {e : Fault}
    (h : all outcomes = .error (.fault e)) : .error (.fault e) ∈ outcomes := by
  induction outcomes with
  | nil => cases h
  | cons outcome rest ih =>
    rcases join_fault h with rfl | hrest
    · exact List.mem_cons_self ..
    · exact List.mem_cons_of_mem _ (ih hrest)

/-- Without faults, what checks find together is what each of them finds, in order. -/
theorem found_all {outcomes : List (Except Refusal α)} (h : ∀ x ∈ outcomes, NoFault x) :
    found (all outcomes) = outcomes.flatMap found := by
  induction outcomes with
  | nil => rfl
  | cons outcome rest ih =>
    have hrest := fun x hx => h x (List.mem_cons_of_mem outcome hx)
    simp only [List.flatMap_cons, ← ih hrest, all,
      found_join (h _ (List.mem_cons_self ..)) (all_noFault_iff.mpr hrest)]

end Refusal

namespace Field

variable {σ : Type}

/-- The entries that a field can be read from. -/
def only (field : Field σ) (entries : List (String × Value)) : List (String × Value) :=
  entries.filter fun e => field.keys.contains e.1

/-- The entries that no field can be read from. -/
def unknown (fields : List (Field σ)) (entries : List (String × Value)) :
    List (String × Value) :=
  entries.filter fun e => fields.all fun f => !f.keys.contains e.1

/-- Fields that share neither names nor keys. -/
structure Separate (fields : List (Field σ)) : Prop where
  names : (fields.map (·.name)).Nodup
  keys : (fields.flatMap (·.keys)).Nodup

/-- Fields that have defaults besides. -/
structure Defaulted (fields : List (Field σ)) : Prop extends Separate fields where
  defaults : ∀ f ∈ fields, f.default?.isSome

/-- Entries that hold at most one value for each field. -/
def Single (fields : List (Field σ)) (entries : List (String × Value)) : Prop :=
  ∀ f ∈ fields, (f.only entries).length ≤ 1

/-! ## What a field is given -/

theorem mem_only {field : Field σ} {entries : List (String × Value)} {e : String × Value} :
    e ∈ field.only entries ↔ e ∈ entries ∧ e.1 ∈ field.keys := by
  simp only [only, List.mem_filter, List.contains_iff_mem]

theorem mem_unknown {fields : List (Field σ)} {entries : List (String × Value)}
    {e : String × Value} :
    e ∈ unknown fields entries ↔ e ∈ entries ∧ ∀ f ∈ fields, e.1 ∉ f.keys := by
  simp [unknown]

theorem lookup_filter {p : String × Value → Bool} {key : String} (hp : ∀ v, p (key, v) = true)
    (entries : List (String × Value)) : (entries.filter p).lookup key = entries.lookup key := by
  induction entries with
  | nil => rfl
  | cons e rest ih =>
    obtain ⟨k, v⟩ := e
    by_cases hk : key = k
    · subst hk
      simp only [List.filter_cons_of_pos (hp v), List.lookup_cons_self]
    · have hne : (key == k) = false := by simpa using hk
      simp only [List.lookup_cons, hne, ← ih]
      by_cases hkeep : p (k, v) = true
      · simp only [List.filter_cons_of_pos hkeep, List.lookup_cons, hne]
      · simp only [List.filter_cons_of_neg hkeep]

theorem findSome?_congr {α β : Type} {f g : α → Option β} {xs : List α}
    (h : ∀ x ∈ xs, f x = g x) : xs.findSome? f = xs.findSome? g := by
  induction xs with
  | nil => rfl
  | cons x rest ih =>
    simp only [List.findSome?_cons, h x (List.mem_cons_self ..),
      ih fun y hy => h y (List.mem_cons_of_mem _ hy)]

/-- What a field is given does not depend on entries under other keys. -/
theorem given?_only (field : Field σ) (entries : List (String × Value)) :
    field.given? (field.only entries) = field.given? entries := by
  unfold given?
  refine findSome?_congr fun key hkey => ?_
  have hkept : ∀ v, (fun e : String × Value => field.keys.contains e.1) (key, v) = true :=
    fun v => List.contains_iff_mem.mpr hkey
  rw [only, lookup_filter hkept]

theorem given?_of_only_nil {field : Field σ} {entries : List (String × Value)}
    (h : field.only entries = []) : field.given? entries = none := by
  rw [← given?_only, h]
  exact List.findSome?_eq_none_iff.mpr fun _ _ => rfl

theorem given?_of_only_singleton {field : Field σ} {entries : List (String × Value)}
    {e : String × Value} (h : field.only entries = [e]) : field.given? entries = some e := by
  have hmem : e.1 ∈ field.keys := (mem_only.mp (h ▸ List.mem_singleton_self e)).2
  rw [← given?_only, h, given?]
  -- the first key that is not passed over is the one of the only entry
  clear h
  generalize field.keys = keys at hmem
  induction keys with
  | nil => cases hmem
  | cons key keys ih =>
    simp only [List.findSome?_cons]
    by_cases hkey : key = e.1
    · rw [hkey, List.lookup_cons_self]
      rfl
    · have hne : (key == e.1) = false := by simpa using hkey
      rw [List.lookup_cons, hne]
      exact ih ((List.mem_cons.mp hmem).resolve_left fun h => hkey h.symm)

/-- What a field is given is there, under a key of the field. -/
theorem given?_eq_some {field : Field σ} {entries : List (String × Value)} {e : String × Value}
    (h : field.given? entries = some e) : e ∈ entries ∧ e.1 ∈ field.keys := by
  obtain ⟨key, hkey, hfound⟩ := List.exists_of_findSome?_eq_some h
  obtain ⟨v, hv, rfl⟩ := Option.map_eq_some_iff.mp hfound
  obtain ⟨before, after, hsplit, _⟩ := List.lookup_eq_some_iff.mp hv
  exact ⟨hsplit ▸ List.mem_append_right _ (List.mem_cons_self ..), hkey⟩

theorem Single.only_eq {fields : List (Field σ)} {entries : List (String × Value)}
    (h : Single fields entries) {f : Field σ} (hf : f ∈ fields) {e : String × Value}
    (he : e ∈ f.only entries) : f.only entries = [e] := by
  have hlength := h f hf
  cases hentries : f.only entries with
  | nil =>
    simp only [hentries] at he
    cases he
  | cons e' rest =>
    simp only [hentries] at he hlength
    have hrest : rest = [] := List.eq_nil_of_length_eq_zero (by simpa using hlength)
    simp only [hrest] at he ⊢
    simp only [List.mem_singleton.mp he]

/-- A field has an entry to itself, or none. -/
theorem Single.only_cases {fields : List (Field σ)} {entries : List (String × Value)}
    (h : Single fields entries) {f : Field σ} (hf : f ∈ fields) :
    f.only entries = [] ∨ ∃ e ∈ entries, f.only entries = [e] := by
  rcases hentries : f.only entries with _ | ⟨e, rest⟩
  · exact .inl rfl
  · have hmem : e ∈ f.only entries := hentries ▸ List.mem_cons_self ..
    exact .inr ⟨e, (mem_only.mp hmem).1, hentries ▸ h.only_eq hf hmem⟩

theorem read_only (check : σ → Value → Except Refusal Value) (field : Field σ)
    (entries : List (String × Value)) :
    field.read check (field.only entries) = field.read check entries := by
  simp only [read, given?_only]

theorem read_of_only_nil {check : σ → Value → Except Refusal Value} {field : Field σ}
    {entries : List (String × Value)} (h : field.only entries = []) {v : Value}
    (hv : field.default? = some v) : field.read check entries = .ok v := by
  simp only [read, given?_of_only_nil h, hv]

/-- What is read for a field was accepted, or is its default. -/
theorem read_eq_ok {check : σ → Value → Except Refusal Value} {field : Field σ}
    {entries : List (String × Value)} {v : Value} (h : field.read check entries = .ok v) :
    (∃ w, check field.shape w = .ok v) ∨ field.default? = some v := by
  unfold read at h
  split at h
  · rename_i key w _
    exact .inl ⟨w, Outcome.mapError_eq_ok h⟩
  · split at h
    · cases h
      exact .inr ‹_›
    · cases h

/-! ## Fields beside each other -/

theorem Separate.eq_of_key {fields : List (Field σ)} (hsep : Separate fields) {f g : Field σ}
    (hf : f ∈ fields) (hg : g ∈ fields) {key : String} (hkf : key ∈ f.keys) (hkg : key ∈ g.keys) :
    f = g := by
  by_contra hne
  have : Std.Symm (Function.onFun List.Disjoint fun f : Field σ => f.keys) :=
    ⟨fun _ _ h _ ha hb => h hb ha⟩
  exact (List.nodup_flatMap.mp hsep.keys).2.forall hf hg hne hkf hkg

theorem Separate.eq_of_name {fields : List (Field σ)} (hsep : Separate fields) {f g : Field σ}
    (hf : f ∈ fields) (hg : g ∈ fields) (hname : f.name = g.name) : f = g :=
  List.inj_on_of_nodup_map hsep.names hf hg hname

/-- A field has a place among the others where it stands once. -/
theorem Separate.append_of_mem {fields : List (Field σ)} (hsep : Separate fields) {f : Field σ}
    (hf : f ∈ fields) : ∃ before after, fields = before ++ f :: after ∧
      (∀ g ∈ before, g ∈ fields ∧ g ≠ f) ∧ ∀ g ∈ after, g ∈ fields ∧ g ≠ f := by
  have hnodup := List.Nodup.of_map _ hsep.names
  obtain ⟨before, after, rfl⟩ := List.append_of_mem hf
  simp only [List.nodup_append, List.nodup_cons] at hnodup
  obtain ⟨_, ⟨hafter, _⟩, hbefore⟩ := hnodup
  refine ⟨before, after, rfl, fun g hg => ⟨?_, ?_⟩, fun g hg => ⟨?_, ?_⟩⟩
  · exact List.mem_append_left _ hg
  · exact hbefore g hg f (List.mem_cons_self ..)
  · exact List.mem_append_right _ (List.mem_cons_of_mem _ hg)
  · exact fun heq => hafter (heq ▸ hg)

/-- The shapes of fields do not matter to how they stand beside each other. -/
theorem Separate.map {τ : Type} {fields : List (Field σ)} (hsep : Separate fields) (g : σ → τ) :
    Separate (fields.map (·.map g)) where
  names := by
    simp only [List.map_map]
    exact hsep.names
  keys := by
    simp only [List.flatMap_map]
    exact hsep.keys

section Only

variable {fields : List (Field σ)} (hsep : Separate fields) {f : Field σ} (hf : f ∈ fields)
  (entries : List (String × Value))
include hsep hf

/-- The entries of one field are no entries of another one. -/
theorem Separate.only_only {g : Field σ} (hg : g ∈ fields) (hne : g ≠ f) :
    g.only (f.only entries) = [] := by
  refine List.filter_eq_nil_iff.mpr fun e he hkey => hne ?_
  exact hsep.eq_of_key hg hf (List.contains_iff_mem.mp hkey) (mem_only.mp he).2

omit hsep in
theorem unknown_only : unknown fields (f.only entries) = [] := by
  refine List.eq_nil_iff_forall_not_mem.mpr fun e he => ?_
  obtain ⟨hmem, hnone⟩ := mem_unknown.mp he
  exact hnone f hf (mem_only.mp hmem).2

theorem Separate.single_only (hone : (f.only entries).length ≤ 1) :
    Single fields (f.only entries) := by
  intro g hg
  by_cases hne : g = f
  · simp only [hne]
    exact Nat.le_trans (List.length_filter_le _ _) hone
  · simp only [hsep.only_only hf entries hg hne]
    exact Nat.zero_le 1

end Only

/-- What nothing asks for is what no field can be read from, as long as nothing is given
    twice. -/
theorem extraIssues_eq {fields : List (Field σ)} {entries : List (String × Value)}
    (hsingle : Single fields entries) :
    extraIssues fields entries =
      (unknown fields entries).map fun e => ⟨.extra, [.key e.1]⟩ := by
  unfold extraIssues unknown
  congr 1
  refine List.filter_congr fun e he => ?_
  have hused : e.1 ∈ usedKeys fields entries ↔ ∃ f ∈ fields, e.1 ∈ f.keys := by
    unfold usedKeys
    simp only [List.mem_filterMap]
    refine exists_congr fun f => and_congr_right fun hf => ?_
    simp only [Option.map_eq_some_iff]
    constructor
    · rintro ⟨e', hgiven, hkey⟩
      simp only [← hkey]
      exact (given?_eq_some hgiven).2
    · intro hkey
      have hmem : e ∈ f.only entries := mem_only.mpr ⟨he, hkey⟩
      exact ⟨e, given?_of_only_singleton (hsingle.only_eq hf hmem), rfl⟩
  rw [Bool.eq_iff_iff]
  simp [hused]

/-! ## All fields -/

section ReadAll

variable {check : σ → Value → Except Refusal Value} {fields : List (Field σ)}
  {entries : List (String × Value)}

theorem found_readAttribute (field : Field σ) :
    Refusal.found (readAttribute check entries field) =
      Refusal.found (field.read check entries) := by
  unfold readAttribute
  rcases field.read check entries with (_ | _) | _ <;> rfl

theorem readAttribute_noFault_iff {field : Field σ} :
    Refusal.NoFault (readAttribute check entries field) ↔
      Refusal.NoFault (field.read check entries) := by
  unfold readAttribute Refusal.NoFault
  rcases field.read check entries with (_ | _) | _ <;> simp [Except.map]

/-- The attributes that are read are what is read for each field. -/
theorem all_readAttribute_ok_iff {attributes : List (String × Value)} :
    Refusal.all (fields.map (readAttribute check entries)) = .ok attributes ↔
      ∃ val : Field σ → Value, (∀ f ∈ fields, f.read check entries = .ok (val f)) ∧
        attributes = fields.map fun f => (f.name, val f) := by
  unfold readAttribute
  simp only [Refusal.all_ok_iff, Outcome.map_named_ok_iff]

theorem refuseAny_ok_iff {issues : List Issue} : refuseAny issues = .ok () ↔ issues = [] := by
  cases issues <;> simp [refuseAny]

theorem refuseAny_noFault (issues : List Issue) : Refusal.NoFault (refuseAny issues) := by
  intro f hf
  cases issues <;> cases hf

theorem found_refuseAny (issues : List Issue) : Refusal.found (refuseAny issues) = issues := by
  cases issues <;> rfl

/-- An instance can be read exactly if every field can and nothing is given that the model
    minds. -/
theorem readAll_eq_ok_iff {closed : Bool} {attributes : List (String × Value)} :
    readAll check closed fields entries = .ok attributes ↔
      (closed = true → extraIssues fields entries = []) ∧
      ∃ val : Field σ → Value, (∀ f ∈ fields, f.read check entries = .ok (val f)) ∧
        attributes = fields.map fun f => (f.name, val f) := by
  have hminds : (if closed = true then extraIssues fields entries else []) = [] ↔
      (closed = true → extraIssues fields entries = []) := by
    cases closed <;> simp
  simp only [readAll, Refusal.join_ok_iff, ← hminds]
  constructor
  · rintro ⟨a, ⟨⟩, hall, hnone, rfl⟩
    exact ⟨refuseAny_ok_iff.mp hnone, all_readAttribute_ok_iff.mp hall⟩
  · rintro ⟨hnone, hval⟩
    exact ⟨attributes, (), all_readAttribute_ok_iff.mpr hval, refuseAny_ok_iff.mpr hnone, rfl⟩

theorem readAll_ok_iff {attributes : List (String × Value)} :
    readAll check true fields entries = .ok attributes ↔
      extraIssues fields entries = [] ∧
      ∃ val : Field σ → Value, (∀ f ∈ fields, f.read check entries = .ok (val f)) ∧
        attributes = fields.map fun f => (f.name, val f) := by
  rw [readAll_eq_ok_iff, forall_prop_of_true rfl]

theorem readAll_noFault_iff (closed : Bool) :
    Refusal.NoFault (readAll check closed fields entries) ↔
      ∀ f ∈ fields, Refusal.NoFault (f.read check entries) := by
  simp only [readAll, Refusal.join_noFault_iff, Refusal.all_noFault_iff,
    and_iff_left (refuseAny_noFault _), List.forall_mem_map]
  simp only [readAttribute_noFault_iff]

/-- The fault of an instance is the fault of one of its fields. -/
theorem readAll_fault {closed : Bool} {e : Fault}
    (h : readAll check closed fields entries = .error (.fault e)) :
    ∃ f ∈ fields, f.read check entries = .error (.fault e) := by
  rcases Refusal.join_fault h with hall | hextra
  · obtain ⟨f, hf, hread⟩ := List.mem_map.mp (Refusal.all_fault hall)
    exact ⟨f, hf, Outcome.map_eq_error hread⟩
  · exact absurd hextra (refuseAny_noFault _ e)

/-- Without faults, one field that cannot be read is enough for the whole to be refused. -/
theorem readAll_refused (closed : Bool)
    (hfault : ∀ f ∈ fields, Refusal.NoFault (f.read check entries)) {f : Field σ} (hf : f ∈ fields)
    (hread : ∀ v, f.read check entries ≠ .ok v) :
    ∃ issues, readAll check closed fields entries = .error (.issues issues) := by
  have hnoFault := (readAll_noFault_iff closed).mpr hfault
  rcases hresult : readAll check closed fields entries with (issues | e) | attributes
  · exact ⟨issues, rfl⟩
  · exact absurd hresult (hnoFault e)
  · obtain ⟨_, val, hval, _⟩ := readAll_eq_ok_iff.mp hresult
    exact absurd (hval f hf) (hread _)

/-- What is found wrong with all fields is what is found wrong with each, then what nothing
    asks for. -/
theorem found_readAll (h : ∀ f ∈ fields, Refusal.NoFault (f.read check entries)) :
    Refusal.found (readAll check true fields entries) =
      fields.flatMap (fun f => Refusal.found (f.read check entries)) ++
        extraIssues fields entries := by
  have hall : ∀ x ∈ fields.map (readAttribute check entries), Refusal.NoFault x := by
    simp only [List.forall_mem_map]
    exact fun f hf => readAttribute_noFault_iff.mpr (h f hf)
  have hfound : (fields.map (readAttribute check entries)).flatMap Refusal.found =
      fields.flatMap fun f => Refusal.found (f.read check entries) := by
    simp only [List.flatMap_map]
    simp only [found_readAttribute]
  rw [readAll, if_pos rfl,
    Refusal.found_join (Refusal.all_noFault_iff.mpr hall) (refuseAny_noFault _),
    Refusal.found_all hall, hfound, found_refuseAny]

end ReadAll

/-- Attributes in the order of the fields are found under the names of the fields. -/
theorem Separate.lookup_name {α : Type} {fields : List (Field σ)} (hsep : Separate fields)
    (val : Field σ → α) {f : Field σ} (hf : f ∈ fields) :
    (fields.map fun f => (f.name, val f)).lookup f.name = some (val f) := by
  obtain ⟨before, after, hfields, hbefore, _⟩ := hsep.append_of_mem hf
  refine List.lookup_eq_some_iff.mpr ⟨before.map fun f => (f.name, val f),
    after.map fun f => (f.name, val f), ?_, ?_⟩
  · simp only [hfields, List.map_append, List.map_cons]
  · intro a ha
    obtain ⟨g, hg, rfl⟩ := List.mem_map.mp ha
    obtain ⟨hfield, hne⟩ := hbefore g hg
    have hname : f.name ≠ g.name := fun heq => hne (hsep.eq_of_name hfield hf heq.symm)
    simpa using hname

/-! ## Entries under wire names -/

section Wires

variable {fields : List (Field σ)} (hsep : Separate fields)
  (hwires : ∀ f ∈ fields, f.wire ∈ f.keys) (wired : Field σ → Value)
include hsep hwires

/-- Each field has one of the entries under wire names to itself. -/
theorem Separate.only_wires {f : Field σ} (hf : f ∈ fields) :
    f.only (fields.map fun g => (g.wire, wired g)) = [(f.wire, wired f)] := by
  have hother : ∀ gs : List (Field σ), (∀ g ∈ gs, g ∈ fields ∧ g ≠ f) →
      f.only (gs.map fun g => (g.wire, wired g)) = [] := by
    intro gs hgs
    refine List.eq_nil_iff_forall_not_mem.mpr fun e he => ?_
    obtain ⟨hmem, hkey⟩ := mem_only.mp he
    obtain ⟨g, hg, rfl⟩ := List.mem_map.mp hmem
    obtain ⟨hfield, hne⟩ := hgs g hg
    exact hne (hsep.eq_of_key hfield hf (hwires g hfield) hkey)
  obtain ⟨before, after, hfields, hbefore, hafter⟩ := hsep.append_of_mem hf
  have hbefore := hother before hbefore
  have hafter := hother after hafter
  have hkept : f.keys.contains f.wire = true := List.contains_iff_mem.mpr (hwires f hf)
  unfold only at hbefore hafter ⊢
  simp only [hfields, List.map_append, List.map_cons, List.filter_append, hbefore, List.nil_append,
    List.filter_cons, if_pos hkept, hafter]

omit hsep in
theorem unknown_wires : unknown fields (fields.map fun g => (g.wire, wired g)) = [] := by
  refine List.eq_nil_iff_forall_not_mem.mpr fun e he => ?_
  obtain ⟨hmem, hnone⟩ := mem_unknown.mp he
  obtain ⟨g, hg, rfl⟩ := List.mem_map.mp hmem
  exact hnone g hg (hwires g hg)

/-- Fields are read from the entries under their wire names. -/
theorem Separate.readAll_wires {check : σ → Value → Except Refusal Value} {val : Field σ → Value}
    (hcheck : ∀ f ∈ fields, check f.shape (wired f) = .ok (val f)) (closed : Bool) :
    readAll check closed fields (fields.map fun g => (g.wire, wired g)) =
      .ok (fields.map fun f => (f.name, val f)) := by
  have honly := fun f hf => hsep.only_wires hwires wired (f := f) hf
  refine readAll_eq_ok_iff.mpr ⟨fun _ => ?_, val, fun f hf => ?_, rfl⟩
  · simp only [extraIssues_eq fun f hf => by rw [honly f hf]; exact Nat.le_refl 1,
      unknown_wires hwires wired]
    rfl
  · simp only [read, given?_of_only_singleton (honly f hf)]
    simp only [hcheck f hf]
    rfl

end Wires

/-! ## One field by itself -/

section Alone

variable {check : σ → Value → Except Refusal Value} {fields : List (Field σ)}
  (hdef : Defaulted fields) {entries : List (String × Value)}
include hdef

/-- What is given for one field leaves every other one at its default. -/
theorem Defaulted.read_other (check : σ → Value → Except Refusal Value) {f g : Field σ}
    (hf : f ∈ fields) (hg : g ∈ fields) (hne : g ≠ f) :
    ∃ v, g.default? = some v ∧ g.read check (f.only entries) = .ok v := by
  obtain ⟨v, hv⟩ := Option.isSome_iff_exists.mp (hdef.defaults g hg)
  exact ⟨v, hv, read_of_only_nil (hdef.only_only hf entries hg hne) hv⟩

variable {f : Field σ} (hf : f ∈ fields) (hone : (f.only entries).length ≤ 1)
include hf hone

theorem Defaulted.extraIssues_only : extraIssues fields (f.only entries) = [] := by
  simp only [extraIssues_eq (hdef.single_only hf entries hone), unknown_only hf]
  rfl

/-- From the entries of one field an instance can be read exactly if the field can. -/
theorem Defaulted.readAll_only_ok_iff :
    (∃ attributes, readAll check true fields (f.only entries) = .ok attributes) ↔
      ∃ v, f.read check entries = .ok v := by
  constructor
  · rintro ⟨attributes, h⟩
    obtain ⟨_, val, hval, _⟩ := readAll_ok_iff.mp h
    exact ⟨val f, (read_only check f entries).symm.trans (hval f hf)⟩
  · rintro ⟨v, hv⟩
    have hread : ∀ g ∈ fields, ∃ v, g.read check (f.only entries) = .ok v := by
      intro g hg
      by_cases hne : g = f
      · exact ⟨v, by simp only [hne, read_only, hv]⟩
      · obtain ⟨w, _, hw⟩ := hdef.read_other check hf hg hne
        exact ⟨w, hw⟩
    choose! val hval using hread
    exact ⟨_, readAll_ok_iff.mpr ⟨hdef.extraIssues_only hf hone, val, hval, rfl⟩⟩

omit hone in
theorem Defaulted.readAll_only_noFault_iff :
    Refusal.NoFault (readAll check true fields (f.only entries)) ↔
      Refusal.NoFault (f.read check entries) := by
  simp only [readAll_noFault_iff]
  constructor
  · intro h
    rw [← read_only]
    exact h f hf
  · intro h g hg
    by_cases hne : g = f
    · simp only [hne, read_only]
      exact h
    · obtain ⟨v, _, hread⟩ := hdef.read_other check hf hg hne
      rw [hread]
      exact fun _ hfault => nomatch hfault

/-- What is found wrong with the entries of one field is what is found wrong with it. -/
theorem Defaulted.found_only (h : Refusal.NoFault (f.read check entries)) :
    Refusal.found (readAll check true fields (f.only entries)) =
      Refusal.found (f.read check entries) := by
  have hnoFault := readAll_noFault_iff true |>.mp ((hdef.readAll_only_noFault_iff hf).mpr h)
  simp only [found_readAll hnoFault, hdef.extraIssues_only hf hone, List.append_nil]
  have hothers : ∀ gs : List (Field σ), (∀ g ∈ gs, g ∈ fields ∧ g ≠ f) →
      gs.flatMap (fun g => Refusal.found (g.read check (f.only entries))) = [] := by
    intro gs hgs
    refine List.flatMap_eq_nil_iff.mpr fun g hg => ?_
    obtain ⟨hfield, hne⟩ := hgs g hg
    obtain ⟨v, _, hread⟩ := hdef.read_other check hf hfield hne
    rw [hread]
    rfl
  obtain ⟨before, after, hfields, hbefore, hafter⟩ := hdef.append_of_mem hf
  simp only [hfields, List.flatMap_append, List.flatMap_cons, read_only, hothers before hbefore,
    hothers after hafter, List.nil_append, List.append_nil]

end Alone

/-- A key that no field has is refused as such. -/
theorem Defaulted.readAll_unknown {check : σ → Value → Except Refusal Value}
    {fields : List (Field σ)} (hdef : Defaulted fields) {e : String × Value}
    (he : ∀ f ∈ fields, e.1 ∉ f.keys) :
    readAll check true fields [e] = .error (.issues [⟨.extra, [.key e.1]⟩]) := by
  have honly : ∀ f ∈ fields, f.only [e] = [] := by
    intro f hf
    refine List.eq_nil_iff_forall_not_mem.mpr fun e' he' => ?_
    obtain ⟨hmem, hkey⟩ := mem_only.mp he'
    simp only [List.mem_singleton.mp hmem] at hkey
    exact he f hf hkey
  have hread : ∀ f ∈ fields, ∃ v, f.read check [e] = .ok v := by
    intro f hf
    obtain ⟨v, hv⟩ := Option.isSome_iff_exists.mp (hdef.defaults f hf)
    exact ⟨v, read_of_only_nil (honly f hf) hv⟩
  choose! val hval using hread
  have hextra : extraIssues fields [e] = [⟨.extra, [.key e.1]⟩] := by
    have hunknown : unknown fields [e] = [e] :=
      List.filter_eq_self.mpr fun e' he' => by
        simp only [List.mem_singleton.mp he']
        simpa using he
    simp only [extraIssues_eq fun f hf => by rw [honly f hf]; exact Nat.zero_le 1, hunknown]
    rfl
  rw [readAll, all_readAttribute_ok_iff.mpr ⟨val, hval, rfl⟩, if_pos rfl, hextra]
  rfl

end Field

end SceneSource
