-- SUMMARY: Parts and payloads go through their documents, with their leaves settled.
import SceneSource.Proofs.JsonText
import SceneSource.Proofs.Leaves

/-!
# Parts and payloads in documents

A part is written as an object of its leaves, a number of parts as an array, an embedded part
as the text of its object. Each is read from that as it was, but for its leaves, which are
settled; so is a whole payload.
-/

namespace SceneSource

/-! ## Settled instances -/

/-- Attributes, each of them settled in the way of its field. -/
def settleAttributes {σ : Type} (settle : σ → Value → Value) (fields : List (Field σ))
    (attributes : List (String × Value)) : List (String × Value) :=
  attributes.map fun e => (e.1, match Field.find? fields e.1 with
    | some f => settle f.shape e.2
    | none => e.2)

/-- A part with its leaves settled. -/
def Part.settled (p : Part) : Value → Value
  | .record m attributes => .record m (settleAttributes Leaf.settled p.fields attributes)
  | v => v

/-- What becomes of a value that a field stores when it is written and read again. -/
def Shape.settled : Shape → Value → Value
  | leaf l, v => l.settled v
  | part p, v | embedded p, v => p.settled v
  | parts p, .tuple xs => .tuple (xs.map p.settled)
  | parts _, v | crop, v => v

/-- A payload with its fields settled. -/
def Kind.settled (k : Kind) : Value → Value
  | .record m attributes => .record m (settleAttributes Shape.settled k.fields attributes)
  | v => v

theorem settleAttributes_map {σ : Type} {settle : σ → Value → Value} {fields : List (Field σ)}
    (hsep : Field.Separate fields) (val : Field σ → Value) :
    settleAttributes settle fields (fields.map fun f => (f.name, val f)) =
      fields.map fun f => (f.name, settle f.shape (val f)) := by
  simp only [settleAttributes, List.map_map]
  refine List.map_congr_left fun f hf => ?_
  simp only [Function.comp_apply, hsep.find?_name hf]

/-! ## Values inside of values -/

theorem isOversize_of_mem_entries {entries : List (String × Value)}
    (h : Value.anyOversizeEntry entries = false) : ∀ e ∈ entries, e.2.isOversize = false := by
  induction entries with
  | nil => exact List.forall_mem_nil _
  | cons e rest ih =>
    obtain ⟨hfirst, hrest⟩ := Bool.or_eq_false_iff.mp h
    exact List.forall_mem_cons.mpr ⟨hfirst, ih hrest⟩

theorem isOversize_of_mem_items {xs : List Value} (h : Value.anyOversize xs = false) :
    ∀ x ∈ xs, x.isOversize = false := by
  induction xs with
  | nil => exact List.forall_mem_nil _
  | cons x rest ih =>
    obtain ⟨hfirst, hrest⟩ := Bool.or_eq_false_iff.mp h
    exact List.forall_mem_cons.mpr ⟨hfirst, ih hrest⟩

theorem itemValues_eq_map (js : List Json) : Json.itemValues js = js.map Json.toValue := by
  induction js with
  | nil => rfl
  | cons j rest ih => simp only [Json.itemValues, ih, List.map_cons]

theorem entryValues_eq_map (entries : List (String × Json)) :
    Json.entryValues entries = entries.map fun e => (e.1, e.2.toValue) := by
  induction entries with
  | nil => rfl
  | cons e rest ih => simp only [Json.entryValues, ih, List.map_cons]

/-! ## Parts -/

/-- Whether a leaf stores values without entries of their own. -/
def Leaf.isSimple : Leaf → Bool
  | boolean | integer | text | flags | path => true
  | _ => false

namespace Part

theorem separate_fields (p : Part) : Field.Separate p.fields where
  names := by
    cases p with
    | crop variant => cases variant <;> decide
    | _ => decide
  keys := by
    cases p with
    | crop variant => cases variant <;> decide
    | _ => decide

theorem wire_mem_keys (p : Part) : ∀ f ∈ p.fields, f.wire ∈ f.keys := by
  cases p with
  | crop variant => cases variant <;> decide
  | _ => decide

theorem nodup_wires (p : Part) : (p.fields.map (·.wire)).Nodup := by
  cases p with
  | crop variant => cases variant <;> decide
  | _ => decide

theorem stores_default (p : Part) : ∀ f ∈ p.fields, ∀ v, f.default? = some v →
    f.shape.stores v = true := by
  have hall : ∀ f ∈ p.fields, (f.default?.all fun v => f.shape.stores v) = true := by
    cases p with
    | crop variant => cases variant <;> decide
    | _ => decide
  intro f hf v hv
  have hstores := hall f hf
  simp only [hv] at hstores
  exact hstores

/-- A part that was read holds what its leaves store. -/
theorem eq_record_of_read {p : Part} {entries : List (String × Value)} {v : Value}
    (h : p.read entries = .ok v) : ∃ val : Field Leaf → Value,
      (∀ f ∈ p.fields, f.shape.stores (val f) = true) ∧
      v = p.record (p.fields.map fun f => (f.name, val f)) := by
  obtain ⟨attributes, hread, rfl⟩ := Outcome.map_eq_ok h
  obtain ⟨_, val, hval, rfl⟩ := Field.readAll_eq_ok_iff.mp hread
  refine ⟨val, fun f hf => ?_, rfl⟩
  rcases Field.read_eq_ok (hval f hf) with ⟨w, hw⟩ | hdefault
  · exact Leaf.stores_of_check hw
  · exact stores_default p f hf (val f) hdefault

theorem settled_record (p : Part) (val : Field Leaf → Value) :
    p.settled (p.record (p.fields.map fun f => (f.name, val f))) =
      p.record (p.fields.map fun f => (f.name, f.shape.settled (val f))) := by
  simp only [settled, record, settleAttributes_map p.separate_fields]

/-! ### Entries of parts -/

/-- A field of a part as a field of one leaf among others. -/
def lower (f : Field Shape) : Field Leaf :=
  f.map fun
    | .leaf l => l
    | _ => .text

/-- The entries of a part are what its leaves write. -/
theorem dumpFields_ok_iff {p : Part} {s : Style} {outer : Nat} {val : Field Leaf → Value}
    {entries : List (String × Json)} :
    dumpFields s outer (Model.part p).fields (p.fields.map fun f => (f.name, val f)) =
        .ok entries ↔
      ∃ out : Field Leaf → Json,
        (∀ f ∈ p.fields, (Shape.leaf f.shape).write s outer (val f) = .ok (out f)) ∧
        entries = p.fields.map fun f => (f.wire, out f) := by
  have hattributes : (p.fields.map fun f => (f.name, val f)) =
      (Model.part p).fields.map fun g => (g.name, val (lower g)) := by
    simp only [Model.fields, List.map_map]
    rfl
  have hsep : Field.Separate (Model.part p).fields := p.separate_fields.map Shape.leaf
  simp only [hattributes, SceneSource.dumpFields_ok_iff hsep]
  constructor
  · rintro ⟨out, hout, rfl⟩
    refine ⟨fun f => out (f.map .leaf), fun f hf => hout _ (List.mem_map_of_mem hf), ?_⟩
    simp only [Model.fields, List.map_map]
    rfl
  · rintro ⟨out, hout, rfl⟩
    refine ⟨fun g => out (lower g), List.forall_mem_map.mpr fun f hf => hout f hf, ?_⟩
    simp only [Model.fields, List.map_map]
    rfl

/-- That a part can go through a document: its entries are read as a part for which the same
    entries are written. -/
structure Settles (p : Part) (s : Style) (outer : Nat) (v : Value)
    (entries : List (String × Json)) : Prop where
  written : ∃ attributes, v = p.record attributes ∧
    dumpFields s outer (Model.part p).fields attributes = .ok entries
  read : p.read (Json.entryValues entries) = .ok (p.settled v)
  rewritten : ∃ attributes, p.settled v = p.record attributes ∧
    dumpFields s outer (Model.part p).fields attributes = .ok entries

/-- Whether a part has simple leaves only. -/
def isSimple (p : Part) : Bool := p.fields.all (·.shape.isSimple)

theorem isRegular_of_isSimple {l : Leaf} (hl : l.isSimple = true) {v : Value}
    (hstores : l.stores v = true) : v.IsRegular := by
  cases v with
  | color | ratio | size => cases l <;> first | cases hl; done | cases hstores
  | _ => exact ⟨trivial, trivial⟩

theorem exists_settles {p : Part} (hp : p.isSimple = true) {v : Value}
    (hv : ∃ entries, p.read entries = .ok v) (hsize : v.isOversize = false) (s : Style)
    {outer : Nat} (houter : outer < depthLimit) : ∃ out : Field Leaf → Json,
      p.Settles s outer v (p.fields.map fun f => (f.wire, out f)) ∧
      ∃ val : Field Leaf → Value, ∀ f ∈ p.fields,
        f.shape.stores (val f) = true ∧ (val f).isOversize = false ∧
        (Shape.leaf f.shape).write s outer (val f) = .ok (out f) := by
  obtain ⟨_, hread⟩ := hv
  obtain ⟨val, hstores, rfl⟩ := eq_record_of_read hread
  have hsizes : ∀ f ∈ p.fields, (val f).isOversize = false :=
    List.forall_mem_map.mp (isOversize_of_mem_entries hsize)
  have hleaf : ∀ f ∈ p.fields, ∃ j,
      (Shape.leaf f.shape).Settles s outer (val f) (f.shape.settled (val f)) j := by
    intro f hf
    have hsimple := List.all_eq_true.mp hp f hf
    have hplain : f.shape.isPlain = true := by
      cases hshape : f.shape <;> simp only [hshape] at hsimple <;> first | rfl | cases hsimple
    exact Leaf.exists_settles hplain (hstores f hf)
      (isRegular_of_isSimple hsimple (hstores f hf)) (hsizes f hf) houter s
  choose! out hout using hleaf
  refine ⟨out, ⟨⟨_, rfl, ?_⟩, ?_, ⟨_, settled_record p val, ?_⟩⟩, val, fun f hf =>
    ⟨hstores f hf, hsizes f hf, (hout f hf).written⟩⟩
  · exact dumpFields_ok_iff.mpr ⟨out, fun f hf => (hout f hf).written, rfl⟩
  · have hwired : Json.entryValues (p.fields.map fun f => (f.wire, out f)) =
        p.fields.map fun f => (f.wire, (out f).toValue) := by
      simp only [entryValues_eq_map, List.map_map, Function.comp_def]
    have hread : ∀ closed, Field.readAll Leaf.check closed p.fields
        (p.fields.map fun f => (f.wire, (out f).toValue)) =
          .ok (p.fields.map fun f => (f.name, f.shape.settled (val f))) :=
      p.separate_fields.readAll_wires p.wire_mem_keys _ fun f hf => (hout f hf).read
    simp only [hwired, read, hread, settled_record]
    rfl
  · exact dumpFields_ok_iff.mpr ⟨out, fun f hf => (hout f hf).rewritten, rfl⟩

end Part

/-! ## Shapes in documents -/

namespace Shape

/-- Whether a value is what a place stores; parts are ones that were read. -/
def Holds : Shape → Value → Prop
  | leaf l, v => l.stores v = true
  | part p, v | embedded p, v => ∃ entries, p.read entries = .ok v
  | parts p, .tuple xs => ∀ x ∈ xs, ∃ entries, p.read entries = .ok x
  | parts _, _ => False
  | crop, _ => True

/-- Whether a shape is one of those that payloads without a crop have. -/
def isPlain : Shape → Bool
  | leaf l => l.isPlain
  | part p | parts p => p.isSimple
  | embedded p => p.fields.all (·.shape = .integer)
  | crop => false

section Dump

variable {outer : Nat} (s : Style) (p : Part) (attributes : List (String × Value))

theorem dump_part (houter : outer ≤ depthLimit) : dump s (.part p) outer (p.record attributes) =
    (dumpFields s.inside outer (Model.part p).fields attributes).map .object := by
  simp only [Part.record, dump]
  exact if_neg (Nat.not_lt.mpr houter)

theorem dump_any (houter : outer < depthLimit) : dump s .any outer (p.record attributes) =
    (dumpFields s.inside (outer + 1) (Model.part p).fields attributes).map .object := by
  rw [Part.record, dump]
  · exact if_neg (Nat.not_lt.mpr houter)
  · rintro _ ⟨⟩
  · rintro ⟨⟩

theorem dumpItems_eq_mapM (slot : Slot) (outer : Nat) (xs : List Value) :
    dumpItems s slot outer xs = xs.mapM (dump s slot outer) := by
  induction xs with
  | nil =>
    simp only [dumpItems, List.mapM_nil]
    rfl
  | cons x rest ih => simp only [dumpItems, List.mapM_cons, ih]

theorem dump_tuple (houter : outer ≤ depthLimit) (xs : List Value) :
    dump s (.parts p) outer (.tuple xs) = (dumpItems s (.part p) outer xs).map .array := by
  simp only [dump]
  exact if_neg (Nat.not_lt.mpr houter)

end Dump

theorem all_checkItems {p : Part} {given stored : Value → Value} {xs : List Value}
    (h : ∀ x ∈ xs, p.check (given x) = .ok (stored x)) (i : Nat) :
    Refusal.all (checkItems p i (xs.map given)) = .ok (xs.map stored) := by
  induction xs generalizing i with
  | nil => rfl
  | cons x rest ih =>
    have hrest := ih (fun y hy => h y (List.mem_cons_of_mem _ hy)) (i + 1)
    simp only [List.map_cons, checkItems, h x (List.mem_cons_self ..), Refusal.all, hrest]
    rfl

section Parts

variable {p : Part} (hp : p.isSimple = true)
include hp

/-- A part is written as an object and read from it. -/
theorem exists_settles_part {v : Value} (hv : ∃ entries, p.read entries = .ok v)
    (hsize : v.isOversize = false) :
    ∃ j, (part p).Settles .settings 0 v (p.settled v) j := by
  obtain ⟨out, hsettles, _⟩ := Part.exists_settles hp hv hsize .settings (Nat.zero_lt_succ 254)
  obtain ⟨attributes, rfl, hwritten⟩ := hsettles.written
  obtain ⟨settled, hsettled, hrewritten⟩ := hsettles.rewritten
  have hwrite : ∀ es entries, dumpFields .settings 0 (Model.part p).fields es = .ok entries →
      (part p).write .settings 0 (p.record es) = .ok (.object entries) := by
    intro es entries hes
    refine (dump_part .settings p es (Nat.zero_le _)).trans ?_
    exact congrArg (Except.map Json.object) hes
  refine ⟨_, hwrite _ _ hwritten, hsettles.read, ?_⟩
  simp only [hsettled]
  exact hwrite _ _ hrewritten

/-- A number of parts is written as an array and read from it. -/
theorem exists_settles_parts {xs : List Value}
    (hxs : ∀ x ∈ xs, ∃ entries, p.read entries = .ok x)
    (hsize : (Value.tuple xs).isOversize = false) :
    ∃ j, (parts p).Settles .settings 0 (.tuple xs) (.tuple (xs.map p.settled)) j := by
  have hitem : ∀ x ∈ xs, ∃ j, (part p).Settles .settings 0 x (p.settled x) j := fun x hx =>
    exists_settles_part hp (hxs x hx) (isOversize_of_mem_items hsize x hx)
  choose! out hout using hitem
  have hwrite : ∀ ys, (ys.map fun y => dump .settings (.part p) 0 y) = (xs.map out).map .ok →
      (parts p).write .settings 0 (.tuple ys) = .ok (.array (xs.map out)) := by
    intro ys hys
    refine (dump_tuple .settings p (Nat.zero_le _) ys).trans ?_
    simp only [dumpItems_eq_mapM, Outcome.mapM_ok_iff.mpr hys]
    rfl
  refine ⟨.array (xs.map out), hwrite xs ?_, ?_, hwrite _ ?_⟩
  · simp only [List.map_map]
    exact List.map_congr_left fun x hx => (hout x hx).written
  · have hvalue : (Json.array (xs.map out)).toValue = .list (xs.map fun x => (out x).toValue) := by
      simp only [Json.toValue, itemValues_eq_map, List.map_map]
      rfl
    simp only [hvalue]
    change (Refusal.all (checkItems p 0 (xs.map fun x => (out x).toValue))).map Value.tuple = _
    simp only [all_checkItems fun x hx => (hout x hx).read]
    rfl
  · simp only [List.map_map]
    exact List.map_congr_left fun x hx => (hout x hx).rewritten

end Parts

/-- An integer is written to an exact number, and a flat one. -/
theorem written_integer_exact {v : Value} (hstores : Leaf.stores .integer v = true)
    (hsize : v.isOversize = false) {j : Json}
    (hwritten : (leaf .integer).write .textOfInstance 1 v = .ok j) :
    j.isExact = true ∧ j.depth ≤ 1 := by
  cases v with
  | int n =>
    rw [(Leaf.settles_integer (by decide : 1 < depthLimit) .textOfInstance n).written] at hwritten
    simp only [← Except.ok.inj hwritten]
    exact ⟨by simpa [Value.isOversize, Json.isExact] using hsize, Nat.le_refl 1⟩
  | _ => cases hstores

/-- An embedded part is written as the text of its object. -/
theorem write_embedded {p : Part} {es : List (String × Value)} {entries : List (String × Json)}
    (hes : dumpFields .textOfInstance 1 (Model.part p).fields es = .ok entries) :
    (embedded p).write .settings 0 (p.record es) = .ok (.text (Json.object entries).render) := by
  have hdump : dump .text .any 0 (p.record es) = .ok (.object entries) :=
    (dump_any .text p es (by decide)).trans (congrArg (Except.map Json.object) hes)
  unfold write close
  simp only [style, slot, outer, hdump]
  rfl

/-- The text of a flat object is read as the mapping of its entries. -/
theorem unembedded_render {entries : List (String × Json)} (hkeys : (entries.map (·.1)).Nodup)
    (hexact : ∀ e ∈ entries, e.2.isExact = true ∧ e.2.depth ≤ 1) :
    unembedded (.text (Json.object entries).render) =
      .ok (.mapping (Json.entryValues entries)) := by
  change (Json.ofText _).map Json.toValue = _
  simp only [Json.ofText_render_flat hkeys hexact]
  rfl

theorem isSimple_of_isPlain {p : Part} (hp : (embedded p).isPlain = true) :
    p.isSimple = true := by
  refine List.all_eq_true.mpr fun f hf => ?_
  have hinteger : f.shape = .integer := of_decide_eq_true (List.all_eq_true.mp hp f hf)
  simp only [hinteger]
  rfl

/-- A part of integers is written as JSON text and read from it. -/
theorem exists_settles_embedded {p : Part} (hp : (embedded p).isPlain = true) {v : Value}
    (hv : ∃ entries, p.read entries = .ok v) (hsize : v.isOversize = false) :
    ∃ j, (embedded p).Settles .settings 0 v (p.settled v) j := by
  have hinteger : ∀ f ∈ p.fields, f.shape = .integer := fun f hf =>
    of_decide_eq_true (List.all_eq_true.mp hp f hf)
  obtain ⟨out, hsettles, val, hval⟩ :=
    Part.exists_settles (isSimple_of_isPlain hp) hv hsize .textOfInstance
      (by decide : 1 < depthLimit)
  have hout : ∀ f ∈ p.fields, (out f).isExact = true ∧ (out f).depth ≤ 1 := by
    intro f hf
    obtain ⟨hstores, hfits, hwritten⟩ := hval f hf
    simp only [hinteger f hf] at hstores hwritten
    exact written_integer_exact hstores hfits hwritten
  have hkeys : ((p.fields.map fun f => (f.wire, out f)).map (·.1)).Nodup := by
    simp only [List.map_map]
    exact p.nodup_wires
  obtain ⟨attributes, rfl, hwritten⟩ := hsettles.written
  obtain ⟨settled, hsettled, hrewritten⟩ := hsettles.rewritten
  refine ⟨_, write_embedded hwritten, ?_, ?_⟩
  · simp only [Json.toValue, check, unembedded_render hkeys (List.forall_mem_map.mpr hout)]
    exact hsettles.read
  · simp only [hsettled]
    exact write_embedded hrewritten

/-- A value that a field of a payload stores goes through a document. -/
theorem exists_settles {shape : Shape} (hshape : shape.isPlain = true) {v : Value}
    (hv : shape.Holds v) (hregular : v.IsRegular) (hsize : v.isOversize = false) :
    ∃ j, shape.Settles .settings 0 v (shape.settled v) j := by
  cases shape with
  | leaf l => exact Leaf.exists_settles hshape hv hregular hsize (by decide) .settings
  | part p => exact exists_settles_part hshape hv hsize
  | parts p => cases v with
    | tuple xs => exact exists_settles_parts hshape hv hsize
    | _ => cases hv
  | embedded p => exact exists_settles_embedded hshape hv hsize
  | crop => cases hshape

end Shape

end SceneSource
