-- SUMMARY: A request carries the document that the payload itself gives, whichever way it goes.
import SceneSource.Proofs.Updates

/-!
# Requests

A document reaches a request by way of an update: it becomes a mapping, is validated as one and
is taken apart again. None of that changes it, since a document is plain data at every depth. So
the payload, its serialization and the request for a named source all give the same document.
-/

namespace SceneSource

/-! ## Documents taken apart -/

mutual

/-- A document that is taken apart stays what it is, however deep it is. -/
theorem plain_toValue (n : Naming) (slot : Slot) (outer : Nat) (j : Json) :
    plain n slot outer j.toValue = .ok j.toValue := by
  cases j with
  | array items =>
    simp only [Json.toValue, plain, plainItems_itemValues, Except.map, ite_self]
  | object entries =>
    simp only [Json.toValue, plain, plainEntries_entryValues, Except.map, ite_self]
  | _ => simp only [Json.toValue, plain, ite_self]

theorem plainItems_itemValues (n : Naming) (slot : Slot) (outer : Nat) (items : List Json) :
    plainItems n slot outer (Json.itemValues items) = .ok (Json.itemValues items) := by
  cases items with
  | nil => simp only [Json.itemValues, plainItems]
  | cons j rest =>
    simp only [Json.itemValues, plainItems, plain_toValue n slot outer j,
      plainItems_itemValues n slot outer rest]
    rfl

theorem plainEntries_entryValues (n : Naming) (outer : Nat) (entries : List (String × Json)) :
    plainEntries n outer (Json.entryValues entries) = .ok (Json.entryValues entries) := by
  cases entries with
  | nil => simp only [Json.entryValues, plainEntries]
  | cons e rest =>
    obtain ⟨key, j⟩ := e
    simp only [Json.entryValues, plainEntries, plain_toValue n .any outer j,
      plainEntries_entryValues n outer rest]
    rfl

end

/-! ## Updates taken apart -/

/-- Whether a field is taken apart without an encoder of its own. -/
def Shape.isUncoded : Shape → Bool
  | leaf .color | leaf .duration | leaf .flags | leaf .path | leaf .boundingSize => false
  | embedded _ => false
  | leaf _ | part _ | parts _ | crop => true

theorem Shape.closePlain_of_isUncoded {shape : Shape} (h : shape.isUncoded = true) (v : Value)
    (taken : Except Fault Value) : shape.closePlain v taken = taken := by
  cases shape with
  | leaf l => cases l <;> first | rfl | cases h
  | embedded p => cases h
  | _ => rfl

/-- Documents in fields without encoders only get other names. -/
theorem plainFields_documents {fields : List (Field Shape)} (hsep : Field.Separate fields)
    (n : Naming) (outer : Nat) (doc : Field Shape → Json) {fs : List (Field Shape)}
    (hfs : ∀ f ∈ fs, f ∈ fields ∧ f.shape.isUncoded = true) :
    plainFields n outer fields (fs.map fun f => (f.name, (doc f).toValue)) =
      .ok (fs.map fun f => (n.of f, (doc f).toValue)) := by
  induction fs with
  | nil => simp only [List.map_nil, plainFields]
  | cons f rest ih =>
    obtain ⟨hf, huncoded⟩ := hfs f (List.mem_cons_self ..)
    simp only [List.map_cons, plainFields, hsep.find?_name hf,
      Shape.closePlain_of_isUncoded huncoded, plain_toValue,
      ih fun g hg => hfs g (List.mem_cons_of_mem _ hg)]
    rfl

theorem separate_updateFields : Field.Separate Model.update.fields where
  names := by decide
  keys := by decide

/-- An update that holds documents is taken apart into them, under their wire names. -/
theorem plainWhole_update (name kind settings : Json) :
    plainWhole .wire (.record .update [("source_name", name.toValue),
        ("source_type", kind.toValue), ("source_settings", settings.toValue)]) =
      .ok (.mapping [("sourceName", name.toValue), ("sourceType", kind.toValue),
        ("sourceSettings", settings.toValue)]) := by
  have huncoded : ∀ f ∈ Model.update.fields, f.shape.isUncoded = true := by decide
  have hfields := plainFields_documents separate_updateFields .wire 0
    (fun f => if f.name = "source_name" then name
      else if f.name = "source_type" then kind else settings)
    fun f hf => ⟨hf, huncoded f hf⟩
  unfold plainWhole plain
  simp only [Slot.level, Slot.fits, if_true]
  rw [if_neg (by decide)]
  exact congrArg (Except.map Value.mapping) hfields

/-! ## Requests -/

/-- The request for an update with a kind has all three of its fields. -/
theorem request_kind (name kind : String) (settings : Json) :
    request (.record .update [("source_name", .text name), ("source_type", .text kind),
        ("source_settings", settings.toValue)]) =
      .ok (.mapping [("sourceName", .text name), ("sourceType", .text kind),
        ("sourceSettings", settings.toValue)]) :=
  congrArg (· >>= _) (plainWhole_update (.text name) (.text kind) settings)

/-- The request for an update without a kind has the other two. -/
theorem request_null (name : String) (settings : Json) :
    request (.record .update [("source_name", .text name), ("source_type", .null),
        ("source_settings", settings.toValue)]) =
      .ok (.mapping [("sourceName", .text name), ("sourceSettings", settings.toValue)]) :=
  congrArg (· >>= _) (plainWhole_update (.text name) .null settings)

namespace Action

/-- The ways on which a document of a payload leaves, all of them with the same document. -/
structure HandsOff (h : Host) (k : Kind) (payload : Value) (j : Json) : Prop where
  /-- It is what a serialization gives. -/
  serialized : ∀ elapsed, ((serialize elapsed (.text k.tag) payload).run h).1 = .ok j
  /-- It goes to a named source together with the kind, unless that is left out. -/
  sent : ∀ elapsed name, name ≠ "" → ∃ update,
    ((updateFrom elapsed (.text name) payload).run h).1 = .ok update ∧
    request update = .ok (.mapping [("sourceName", .text name), ("sourceType", .text k.tag),
      ("sourceSettings", j.toValue)])
  sentAlone : ∀ elapsed name, name ≠ "" → ∃ update,
    ((updateFrom elapsed (.text name) payload false).run h).1 = .ok update ∧
    request update = .ok (.mapping [("sourceName", .text name), ("sourceSettings", j.toValue)])
  /-- A source without a name is refused for that and nothing else. -/
  unnamed : ∀ elapsed withKind,
    ((updateFrom elapsed (.text "") payload withKind).run h).1 =
      .error (.invalid Model.update.name [⟨.textShort, [.key "source_name"]⟩])
  /-- Whoever watches metrics and log sees the one serialization of an update. -/
  watched : ∀ elapsed name withKind, ((updateFrom elapsed name payload withKind).run h).2 =
    ((serialize elapsed (.text k.tag) payload).run h).2

theorem nameOf_text {name : String} (hname : name ≠ "") :
    Leaf.nameOf (.text name) = .ok (.text name) := by
  have hfull : name.isEmpty = false := by simpa using hname
  change (if name.isEmpty then _ else _) = _
  simp only [hfull, Bool.false_eq_true, if_false]
  rfl

/-- With a configuration, every way on which the document of a payload leaves gives the
    document that the payload itself gives. -/
theorem handsOff_settings (h : Host) (c : Config) (k : Kind) (attributes : List (String × Value))
    (j : Json) (hc : h.configuration = .ok c)
    (hj : settings (.record (.payload k) attributes) = .ok j) :
    HandsOff h k (.record (.payload k) attributes) j := by
  have hp : payloadKind? (.record (.payload k) attributes) = some k := rfl
  have hs := fun elapsed => run_serialize_ok hp elapsed hc hj
  have hupdate := fun elapsed => run_updateFrom_ok hp (hs elapsed)
  refine ⟨fun elapsed => congrArg Prod.fst (hs elapsed), ?_, ?_, ?_, ?_⟩
  · intro elapsed name hname
    have hrun := hupdate elapsed (.text name) true
    simp only [nameOf_text hname] at hrun
    exact ⟨_, congrArg Prod.fst hrun, request_kind name k.tag j⟩
  · intro elapsed name hname
    have hrun := hupdate elapsed (.text name) false
    simp only [nameOf_text hname] at hrun
    exact ⟨_, congrArg Prod.fst hrun, request_null name j⟩
  · intro elapsed withKind
    exact congrArg Prod.fst (hupdate elapsed (.text "") withKind)
  · intro elapsed name withKind
    rw [hupdate elapsed name withKind, hs elapsed]
    cases Leaf.nameOf name with
    | ok v => rfl
    | error r => rfl

/-- A display capture that is cut by a rectangle without a left end. -/
def boundlessCapture : Value :=
  .record (.payload .displayCapture) [("display", .int 0), ("show_cursor", .bool true),
    ("crop_mode", .record (.part (.crop .manual)) [("left", .real (.infinity true)),
      ("top", .real .zero), ("right", .real .zero), ("bottom", .real .zero), ("mode", .int 1)])]

/-- The request of a display capture keeps what its document has in place of an infinity. -/
theorem handsOff_boundlessCapture :
    (Host.configuration {}) = .ok {} ∧
    ∃ entries, settings boundlessCapture = .ok (.object entries) ∧
      entries.lookup "manual.origin.x" = some .null ∧
      HandsOff {} .displayCapture boundlessCapture (.object entries) := by
  refine ⟨rfl, _, rfl, rfl, ?_⟩
  exact handsOff_settings {} {} .displayCapture _ _ rfl rfl

end Action

end SceneSource
