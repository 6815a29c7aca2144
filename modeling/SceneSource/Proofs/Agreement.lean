-- SUMMARY: Stored values that are equal are written alike, and what is written equals itself.
import SceneSource.Proofs.Channels
import SceneSource.Proofs.CropEntries
import SceneSource.Proofs.Spelling

/-!
# Agreement

Two values that a field stores can be equal without being the same only if they are paths, one of
them given as a member of an enumeration or both with different capitals, or colors with members
or truth values for channels, or doubles. Colors are written alike all the same, and so are paths
that are spelled alike; doubles are finite together. Equality of documents is decided entry by
entry, so a document in which no key stands twice equals itself.
-/

namespace SceneSource

/-! ## Numbers -/

/-- Whether a number is finite. -/
def Number.isFinite : Number → Bool
  | int _ => true
  | real d => d.isFinite

/-- Numbers that are the same or equal are finite together. -/
theorem Number.isFinite_of_agree {m n : Number} (h : (m.same n || m.equal n) = true) :
    m.isFinite = n.isFinite := by
  cases m with
  | int m => cases n with
    | int n => rfl
    | real e => exact (Bool.and_eq_true_iff.mp h).1.symm
  | real d => cases n with
    | int n => exact (Bool.and_eq_true_iff.mp h).1
    | real e =>
      rcases Bool.or_eq_true_iff.mp h with hsame | hequal
      · have hbits : d.bits = e.bits := by simpa [same] using hsame
        simp only [isFinite, Double.isFinite, Double.exponent, hbits]
      · have hunits : d.units = e.units := by
          simp only [equal, Double.equal, Bool.and_eq_true, beq_iff_eq] at hequal
          exact hequal.2
        exact Double.isFinite_of_units hunits

/-! ## Values -/

namespace Value

variable {v w : Value}

theorem agreeAtoms_of_agrees (hv : v.number?.isSome ∨ v.text?.isSome) (h : v.agrees w = true) :
    agreeAtoms v w = true := by
  cases v with
  | bool | int | real | text | flags | choice => simpa only [agrees] using h
  | _ => simp [number?, int?, text?] at hv

theorem number?_of_agrees {m : Number} (hv : v.number? = some m) (h : v.agrees w = true) :
    ∃ n, w.number? = some n ∧ (m.same n || m.equal n) = true := by
  have hatoms := agreeAtoms_of_agrees (.inl (Option.isSome_of_eq_some hv)) h
  unfold agreeAtoms at hatoms
  simp only [hv] at hatoms
  cases hw : w.number? with
  | some n => exact ⟨n, rfl, by simpa only [hw] using hatoms⟩
  | none => simp [hw] at hatoms

theorem int?_of_agrees {m n : Int} (hv : v.int? = some m) (hw : w.int? = some n)
    (h : v.agrees w = true) : m = n := by
  obtain ⟨n', hn', hagree⟩ := number?_of_agrees (number?_eq_some_iff.mpr (.inr ⟨m, hv, rfl⟩)) h
  have hn := number?_eq_some_iff.mpr (.inr ⟨n, hw, rfl⟩)
  obtain rfl := Option.some.inj (hn'.symm.trans hn)
  simpa [Number.same, Number.equal] using hagree

theorem number?_eq_none {s : String} (hv : v.text? = some s) : v.number? = none := by
  cases v with
  | text => rfl
  | choice c =>
    cases hc : c.value with
    | text => simp only [number?, int?, hc, Option.map_none]
    | number => simp [text?, hc] at hv
  | _ => cases hv

theorem text?_of_agrees {s : String} (hv : v.text? = some s) (h : v.agrees w = true) :
    w.text? = some s := by
  have hatoms := agreeAtoms_of_agrees (.inr (Option.isSome_of_eq_some hv)) h
  unfold agreeAtoms at hatoms
  simp only [number?_eq_none hv, hv] at hatoms
  cases hnumber : w.number? with
  | some n => simp [hnumber] at hatoms
  | none => cases hw : w.text? with
    | some t =>
      simp only [hnumber, hw, beq_iff_eq] at hatoms
      rw [hatoms]
    | none => simp [hnumber, hw] at hatoms

end Value

/-- Members of one enumeration that are equal are the same. -/
theorem Choice.eq_of_agrees {c d : Choice} (hsame : c.enumeration = d.enumeration)
    (h : (Value.choice c).agrees (.choice d) = true) : c = d := by
  have hvalue : c.value = d.value := by
    cases hc : c.value with
    | text s =>
      have htext := Value.text?_of_agrees (v := .choice c) (s := s)
        (by simp only [Value.text?, hc]) h
      cases hd : d.value <;> simp [Value.text?, hd] at htext
      rw [htext]
    | number n =>
      obtain ⟨m, hm, hagree⟩ := Value.number?_of_agrees (v := .choice c) (m := .int n)
        (by simp only [Value.number?, Value.int?, hc, Option.map_some]) h
      cases hd : d.value <;> simp [Value.number?, Value.int?, hd] at hm
      subst hm
      simpa [Number.same, Number.equal] using hagree
  have hmember := Leaf.memberOf_value c
  rw [hsame, hvalue, Leaf.memberOf_value d] at hmember
  exact (Value.choice.inj (Except.ok.inj hmember)).symm

/-! ## Leaves -/

/-- That the entries of a bounding size are plain integers that are not too long. -/
def BoundingSize.IsPlain : Value → Prop
  | .ratio w h | .size w h => ∃ m n, w = .int m ∧ h = .int n ∧
      Integer.fits m = true ∧ Integer.fits n = true
  | _ => True

namespace BoundingSize

variable {v w : Value} (hv : Leaf.boundingSize.stores v = true) (hplain : IsPlain v)
include hv hplain

theorem isOversize_of_isPlain : v.isOversize = false := by
  cases v with
  | choice => rfl
  | ratio | size =>
    obtain ⟨m, n, rfl, rfl, hm, hn⟩ := hplain
    simp only [Value.isOversize, hm, hn, Bool.not_true, Bool.or_self]
  | _ => cases hv

theorem eq_of_agrees (hw : Leaf.boundingSize.stores w = true) (hplain' : IsPlain w)
    (hagree : v.agrees w = true) : v = w := by
  cases v with
  | choice c => cases c with
    | aspect p =>
      have htext := Value.text?_of_agrees (s := p.text) rfl hagree
      cases w with
      | choice d => cases d with
        | aspect q => exact congrArg Value.choice (Choice.eq_of_agrees rfl hagree)
        | _ => cases hw
      | text => cases hw
      | _ => cases htext
    | _ => cases hv
  | ratio => cases w with
    | ratio =>
      obtain ⟨m, n, rfl, rfl, _⟩ := hplain
      obtain ⟨m', n', rfl, rfl, _⟩ := hplain'
      rw [Value.agrees, Bool.and_eq_true_iff, Value.agrees_int, Value.agrees_int] at hagree
      rw [hagree.1, hagree.2]
    | _ => simp [Value.agrees] at hagree
  | size => cases w with
    | size =>
      obtain ⟨m, n, rfl, rfl, _⟩ := hplain
      obtain ⟨m', n', rfl, rfl, _⟩ := hplain'
      rw [Value.agrees, Bool.and_eq_true_iff, Value.agrees_int, Value.agrees_int] at hagree
      rw [hagree.1, hagree.2]
    | _ => simp [Value.agrees] at hagree
  | _ => cases hv

end BoundingSize

namespace Leaf

section Agree

variable {l : Leaf} (hl : l.isPlain = true) {v w : Value} (hv : l.stores v = true)
  (hw : l.stores w = true) (hagree : v.agrees w = true)
include hl hv hw hagree

/-- What a leaf stores is equal only to itself, unless it is a path or a color. -/
theorem eq_of_agrees (hpath : l ≠ path) (hcolor : l ≠ color) (hsize : BoundingSize.IsPlain v)
    (hsize' : BoundingSize.IsPlain w) : v = w := by
  cases l with
  | boolean => cases v with
    | bool b => cases w with
      | bool c =>
        have hint := Value.int?_of_agrees rfl rfl hagree
        cases b <;> cases c <;> first | rfl | cases hint
      | _ => cases hw
    | _ => cases hv
  | integer => cases v with
    | int m => cases w with
      | int n => rw [Value.int?_of_agrees rfl rfl hagree]
      | _ => cases hw
    | _ => cases hv
  | text => cases v with
    | text s => cases w with
      | text t =>
        have htext := Option.some.inj (Value.text?_of_agrees rfl hagree)
        exact congrArg Value.text htext.symm
      | _ => cases hw
    | _ => cases hv
  | duration => cases v with
    | duration d => cases w with
      | duration e => exact congrArg Value.duration (by simpa [Value.agrees] using hagree)
      | _ => cases hw
    | _ => cases hv
  | flags => cases v with
    | flags m => cases w with
      | flags n =>
        have hint := Value.int?_of_agrees rfl rfl hagree
        exact congrArg Value.flags (Int.ofNat.inj hint)
      | _ => cases hw
    | _ => cases hv
  | boundingSize => exact BoundingSize.eq_of_agrees hv hsize hw hsize' hagree
  | choice e => cases v with
    | choice c => cases w with
      | choice d =>
        have hsame : c.enumeration = d.enumeration :=
          (of_decide_eq_true hv).trans (of_decide_eq_true hw).symm
        exact congrArg Value.choice (Choice.eq_of_agrees hsame hagree)
      | _ => cases hw
    | _ => cases hv
  | path => exact absurd rfl hpath
  | color => exact absurd rfl hcolor
  | _ => cases hl

end Agree

theorem path_or_text {v : Value} (hv : path.stores v = true) :
    (∃ s, v = .path s) ∨ (∃ s parts, v = .caselessPath s parts) ∨ ∃ s, v.text? = some s := by
  cases v with
  | path s => exact .inl ⟨s, rfl⟩
  | caselessPath s parts => exact .inr (.inl ⟨s, parts, rfl⟩)
  | text s => exact .inr (.inr ⟨s, rfl⟩)
  | choice c => exact .inr (.inr (Option.isSome_iff_exists.mp hv))
  | _ => cases hv

/-- Paths that are equal and spelled alike have one text. -/
theorem settled_of_agrees {v w : Value} (hv : path.stores v = true) (hagree : v.agrees w = true)
    (hspelled : v.spelledAlike w = true) : PathText.settled v = PathText.settled w := by
  rcases path_or_text hv with ⟨s, rfl⟩ | ⟨s, parts, rfl⟩ | ⟨s, hs⟩
  · cases w with
    | path t => rw [show s = t by simpa [Value.agrees] using hagree]
    | _ => simp [Value.agrees] at hagree
  · cases w with
    | caselessPath t => exact congrArg Value.text (by simpa [Value.spelledAlike] using hspelled)
    | _ => simp [Value.agrees] at hagree
  · have hsettled : ∀ {x : Value}, x.text? = some s → PathText.settled x = .text s := by
      intro x hx
      cases x with
      | text | choice => simp only [PathText.settled, hx]
      | _ => cases hx
    rw [hsettled hs, hsettled (Value.text?_of_agrees hs hagree)]

/-- What a leaf stores is written alike if it is equal and spelled alike. -/
theorem write_of_agrees {l : Leaf} (hl : l.isPlain = true) {v w : Value} (hv : l.stores v = true)
    (hw : l.stores w = true) (hcolor : Color.IsIntegral v) (hcolor' : Color.IsIntegral w)
    (hsize : BoundingSize.IsPlain v) (hsize' : BoundingSize.IsPlain w)
    (hagree : v.agrees w = true) (hspelled : v.spelledAlike w = true) (s : Style) (outer : Nat) :
    (Shape.leaf l).write s outer v = (Shape.leaf l).write s outer w := by
  by_cases hpath : l = path
  · subst hpath
    -- both settle in the text that they are written as
    obtain ⟨t, hwrite, ht⟩ := settles_path s outer hv
    obtain ⟨t', hwrite', ht'⟩ := settles_path s outer hw
    have hsame := ht.symm.trans ((settled_of_agrees hv hagree hspelled).trans ht')
    rw [hwrite.written, hwrite'.written, Value.text.inj hsame]
  by_cases hisColor : l = color
  · subst hisColor
    cases v with
    | color r g b a => cases w with
      | color r' g' b' a' =>
        -- a channel may be a member here and its number there, but the integers are the same
        obtain ⟨rn, gn, bn, an, hr, hg, hb, ha⟩ := Color.exists_ints hcolor
        obtain ⟨rn', gn', bn', an', hr', hg', hb', ha'⟩ := Color.exists_ints hcolor'
        simp only [Value.agrees, Value.tuple?, Bool.and_eq_true] at hagree
        obtain ⟨⟨⟨hred, hgreen⟩, hblue⟩, halpha⟩ := hagree
        rw [write_color s outer hr hg hb ha, write_color s outer hr' hg' hb' ha',
          Value.int?_of_agrees hr hr' hred, Value.int?_of_agrees hg hg' hgreen,
          Value.int?_of_agrees hb hb' hblue, Value.int?_of_agrees ha ha' halpha]
      | _ => cases hw
    | _ => cases hv
  · rw [eq_of_agrees hl hv hw hagree hpath hisColor hsize hsize']

end Leaf

/-! ## Documents -/

namespace Value

theorem agreeItems_iff {xs ys : List Value} :
    agreeItems xs ys = true ↔ List.Forall₂ (fun x y => x.agrees y = true) xs ys := by
  induction xs generalizing ys with
  | nil => cases ys <;> simp [agreeItems]
  | cons x xs ih => cases ys with
    | nil => simp [agreeItems]
    | cons y ys => rw [agreeItems, Bool.and_eq_true_iff, ih, List.forall₂_cons]

/-- Mappings with the same keys in the same order are equal exactly if their entries are. -/
theorem agrees_mapping_iff {es fs : List (String × Value)} (hnames : es.map (·.1) = fs.map (·.1))
    (hkeys : (fs.map (·.1)).Nodup) : (mapping es).agrees (mapping fs) = true ↔
      List.Forall₂ (fun e f => e.2.agrees f.2 = true) es fs := by
  have hlength : es.length = fs.length := by simpa using congrArg List.length hnames
  have hlookups : (mapping es).agrees (mapping fs) = true ↔
      ∀ e ∈ es, ∃ w, fs.lookup e.1 = some w ∧ e.2.agrees w = true :=
    equal_mapping.trans ((and_iff_right hlength).trans agreeEntries_iff)
  rw [hlookups]
  clear hlength hlookups
  induction es generalizing fs with
  | nil => cases fs with
    | nil => simp
    | cons => cases hnames
  | cons e es ih => cases fs with
    | nil => cases hnames
    | cons f fs =>
      obtain ⟨hname, hnames⟩ := List.cons.inj hnames
      obtain ⟨hnew, hkeys⟩ := List.nodup_cons.mp hkeys
      replace hname : e.1 = f.1 := hname
      rw [List.forall_mem_cons, List.forall₂_cons]
      refine and_congr ?_ ((forall₂_congr fun e' he' => ?_).trans (ih hnames hkeys))
      · rw [hname, List.lookup_cons_self]
        simp only [Option.some.injEq, exists_eq_left']
      · -- the key in front stands nowhere behind
        have hbehind : e'.1 ∈ fs.map (·.1) := hnames ▸ List.mem_map_of_mem he'
        have hne : e'.1 ≠ f.1 := by
          intro heq
          rw [heq] at hbehind
          exact hnew hbehind
        rw [List.lookup_cons, beq_eq_false_iff_ne.mpr hne]

end Value

namespace Json

/-- That documents are equal as values. -/
def Alike (i j : Json) : Prop := i.toValue.agrees j.toValue = true

theorem alike_array_iff {is js : List Json} :
    Alike (array is) (array js) ↔ List.Forall₂ Alike is js := by
  unfold Alike
  rw [toValue, toValue, Value.agrees]
  induction is generalizing js with
  | nil => cases js <;> simp [itemValues, Value.agreeItems]
  | cons i is ih => cases js with
    | nil => simp [itemValues, Value.agreeItems]
    | cons j js =>
      rw [itemValues, itemValues, Value.agreeItems, Bool.and_eq_true_iff, ih, List.forall₂_cons]

/-- Objects with the same keys in the same order are equal exactly if their entries are. -/
theorem alike_object_iff {entries entries' : List (String × Json)}
    (hnames : entries.map (·.1) = entries'.map (·.1)) (hkeys : (entries'.map (·.1)).Nodup) :
    Alike (object entries) (object entries') ↔
      List.Forall₂ (fun e f => Alike e.2 f.2) entries entries' := by
  unfold Alike
  rw [toValue, toValue, entryValues_eq_map, entryValues_eq_map, Value.agrees_mapping_iff,
    List.forall₂_map_left_iff, List.forall₂_map_right_iff]
  · rw [List.map_map, List.map_map]
    exact hnames
  · rw [List.map_map]
    exact hkeys

/-- Documents in which fields have one key each are equal exactly if they are field by field. -/
theorem alike_fields_iff {σ : Type} {fields : List (Field σ)}
    (hkeys : (fields.map (·.wire)).Nodup) {out out' : Field σ → Json} :
    Alike (object (fields.map fun f => (f.wire, out f)))
        (object (fields.map fun f => (f.wire, out' f))) ↔
      ∀ f ∈ fields, Alike (out f) (out' f) := by
  rw [alike_object_iff, List.forall₂_map_left_iff, List.forall₂_map_right_iff, List.forall₂_same]
  · rw [List.map_map, List.map_map]
    rfl
  · rwa [List.map_map]

theorem alike_bool (b : Bool) : Alike (bool b) (bool b) := by
  simp [Alike, toValue, Value.agrees, Value.agreeAtoms, Value.number?, Value.int?, Number.same]

theorem alike_int (n : Int) : Alike (int n) (int n) := Value.agrees_int.mpr rfl

theorem alike_text_iff {s t : String} : Alike (text s) (text t) ↔ s = t := by
  simp [Alike, toValue, Value.agrees, Value.agreeAtoms, Value.number?, Value.int?, Value.text?]

theorem alike_text (s : String) : Alike (text s) (text s) := alike_text_iff.mpr rfl

end Json

theorem Leaf.Wires.alike {l : Leaf} {j : Json} (h : l.Wires j) : j.Alike j := by
  cases h with
  | boolean b => exact Json.alike_bool b
  | integer n | duration n => exact Json.alike_int n
  | color | flags => exact Json.alike_int _
  | text s | path s | boundingSize s => exact Json.alike_text s
  | choice c => cases c.value with
    | text s => exact Json.alike_text s
    | number n => exact Json.alike_int n

theorem Part.Wires.alike {p : Part} {j : Json} (h : p.Wires j) : j.Alike j := by
  obtain ⟨out, hout, rfl⟩ := h
  exact (Json.alike_fields_iff p.nodup_wires).mpr fun f hf => (hout f hf).alike

/-- What has a wire type equals itself. -/
theorem Shape.Wires.alike {shape : Shape} {j : Json} (h : shape.Wires j) : j.Alike j := by
  cases h with
  | leaf h => exact h.alike
  | part h => exact h.alike
  | parts h => exact Json.alike_array_iff.mpr (List.forall₂_same.mpr fun j hj => (h j hj).alike)
  | embedded h => exact Json.alike_text _

/-! ## Values beside other fields -/

namespace Value

variable {v w : Value}

/-- A number that is not finite is a double. -/
theorem eq_real_of_number? {n : Number} (hv : v.number? = some n) (hn : n.isFinite = false) :
    ∃ d, v = .real d ∧ d.isFinite = false := by
  rcases number?_eq_some_iff.mp hv with ⟨d, rfl, rfl⟩ | ⟨m, _, rfl⟩
  · exact ⟨d, rfl, hn⟩
  · cases hn

/-- What equals a double that is not finite is such a double, too. -/
theorem eq_real_of_agrees {d : Double} (hd : d.isFinite = false)
    (h : (real d).agrees v = true) : ∃ e, v = .real e ∧ e.isFinite = false := by
  obtain ⟨n, hn, hagree⟩ := number?_of_agrees rfl h
  exact eq_real_of_number? hn ((Number.isFinite_of_agree hagree).symm.trans hd)

theorem eq_real_of_agrees_real {d : Double} (hd : d.isFinite = false)
    (hatom : v.number?.isSome ∨ v.text?.isSome) (h : v.agrees (real d) = true) :
    ∃ e, v = .real e ∧ e.isFinite = false := by
  cases hv : v.number? with
  | some m =>
    obtain ⟨n, hn, hagree⟩ := number?_of_agrees hv h
    obtain rfl := Option.some.inj (hn.symm.trans (rfl : (real d).number? = some (.real d)))
    exact eq_real_of_number? hv ((Number.isFinite_of_agree hagree).trans hd)
  | none =>
    obtain ⟨s, hs⟩ := Option.isSome_iff_exists.mp (hatom.resolve_left (by simp [hv]))
    cases text?_of_agrees hs h

theorem beside_eq_null {d : Double} (hd : d.isFinite = false) : (real d).beside = .null :=
  if_neg (Bool.eq_false_iff.mp hd)

/-- What leaves of crops store is written alike beside the other fields if it is equal. -/
theorem alike_beside {l l' : Leaf} (hl : l.isInCrop = true) (hv : l.stores v = true)
    (hl' : l'.isInCrop = true) (hw : l'.stores w = true) (h : v.agrees w = true) :
    v.beside.Alike w.beside := by
  have hnull : Json.Alike .null .null := by simp [Json.Alike, Json.toValue, agrees]
  rcases Leaf.beside_cases hl hv with ⟨_, hvalue⟩ | ⟨d, rfl, hd, _⟩
  · rcases Leaf.beside_cases hl' hw with ⟨_, hvalue'⟩ | ⟨e, rfl, he, _⟩
    · unfold Json.Alike
      rw [hvalue, hvalue']
      exact h
    · -- equality is decided from its left side, of which only the leaf is known here
      have hatom : v.number?.isSome ∨ v.text?.isSome := by
        cases v with
        | bool | int | real => exact .inl rfl
        | text => exact .inr rfl
        | _ => cases l <;> first | cases hl; done | cases hv
      obtain ⟨d, rfl, hd⟩ := eq_real_of_agrees_real he hatom h
      rw [beside_eq_null hd, beside_eq_null he]
      exact hnull
  · obtain ⟨e, rfl, he⟩ := eq_real_of_agrees hd h
    rw [beside_eq_null hd, beside_eq_null he]
    exact hnull

end Value

end SceneSource
