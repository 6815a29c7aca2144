-- SUMMARY: What leaves store, what they write for it, and what is read from that.
import SceneSource.Proofs.BoundingSizes
import SceneSource.Proofs.Colors
import SceneSource.Proofs.Documents
import SceneSource.Validation.Model

/-!
# Leaves in documents

A leaf stores values of its own form only. What it writes for one of them it also accepts, and
what it stores for that is the value in its settled form: a path as its text, a duration in
whole milliseconds, channels and flags cut down to a byte, a ratio that is a preset as the
preset.
-/

namespace SceneSource

/-! ## What leaves store -/

namespace Leaf

/-- Whether a value has the form of what a leaf stores. -/
def stores : Leaf → Value → Bool
  | boolean, .bool _ => true
  | integer, .int _ => true
  | real, .real _ => true
  | text, .text _ | name, .text _ => true
  | optionalText, .null | optionalText, .text _ => true
  | mapping, .mapping _ => true
  | color, .color .. => true
  | duration, .duration _ => true
  | flags, .flags _ => true
  | path, .path _ | path, .caselessPath .. => true
  | path, v => v.text?.isSome
  | boundingSize, .choice (.aspect _) | boundingSize, .ratio .. | boundingSize, .size .. => true
  | choice e, .choice c => c.enumeration = e
  | tag variant, .int n => n = variant.tag
  | _, _ => false

section Stores

variable {w v : Value}

theorem stores_boolOfInt {n : Int} (h : boolOfInt n = .ok v) : boolean.stores v = true := by
  unfold boolOfInt at h
  split at h
  · cases h
    rfl
  · split at h <;> cases h
    rfl

theorem stores_booleanOf (h : booleanOf w = .ok v) : boolean.stores v = true := by
  unfold booleanOf at h
  split at h
  · cases h
    rfl
  · split at h
    · exact stores_boolOfInt h
    · cases h
  · split at h
    · obtain ⟨s, _, h⟩ := Outcome.bind_eq_ok h
      split at h <;> cases h
      rfl
    · exact stores_boolOfInt h
    · cases h

theorem stores_realOf (h : realOf w = .ok v) : real.stores v = true := by
  unfold realOf at h
  split at h
  · obtain ⟨s, _, h⟩ := Outcome.bind_eq_ok h
    split at h <;> cases h
    rfl
  · split at h <;> cases h
    rfl
  · cases h

theorem stores_nameOf (h : nameOf w = .ok v) : name.stores v = true := by
  obtain ⟨s, _, h⟩ := Outcome.bind_eq_ok h
  split at h <;> cases h
  rfl

theorem stores_mappingOf (h : mappingOf w = .ok v) : mapping.stores v = true := by
  unfold mappingOf at h
  split at h <;> cases h
  rfl

theorem stores_ofChannels {whole : Value} {channels : List Value}
    (h : Color.ofChannels whole channels = .ok v) : color.stores v = true := by
  unfold Color.ofChannels at h
  split at h
  · split at h
    · obtain ⟨_, _, h⟩ := Outcome.bind_eq_ok h
      cases h
    · cases h
  · split at h
    · split at h <;> cases h <;> rfl
    · cases h

theorem stores_ofSequence {whole : Value} {channels : List Value}
    (h : Color.ofSequence whole channels = .ok v) : color.stores v = true := by
  unfold Color.ofSequence at h
  split at h
  · exact stores_ofChannels h
  · cases h

theorem stores_colorOf (h : Color.ofValue w = .ok v) : color.stores v = true := by
  unfold Color.ofValue at h
  split at h
  · cases h
    rfl
  · cases h
  · obtain ⟨_, _, h⟩ := Outcome.bind_eq_ok h
    obtain ⟨_, _, h⟩ := Outcome.bind_eq_ok h
    obtain ⟨_, _, h⟩ := Outcome.bind_eq_ok h
    exact stores_ofChannels h
  · exact stores_ofSequence h
  · exact stores_ofSequence h
  · split at h <;> cases h
    rfl

theorem stores_durationOf (h : durationOf w = .ok v) : duration.stores v = true := by
  unfold durationOf at h
  split at h
  · cases h
    rfl
  · cases h
  · obtain ⟨d, _, rfl⟩ := Outcome.map_eq_ok h
    rfl
  · split at h
    · obtain ⟨d, _, rfl⟩ := Outcome.map_eq_ok h
      rfl
    · cases h

theorem stores_path_of_text? {s : String} (h : v.text? = some s) : path.stores v = true := by
  cases v with
  | text t => rfl
  | choice c => exact Option.isSome_of_eq_some h
  | _ => cases h

theorem stores_pathOf (h : PathText.ofValue w = .ok v) : path.stores v = true := by
  unfold PathText.ofValue at h
  split at h
  · cases h
    rfl
  · cases h
    rfl
  · split at h
    · cases h
    · cases h
      rfl
    · cases h
  · split at h
    · rename_i hs
      cases h
      exact stores_path_of_text? hs
    · cases h

theorem stores_read {shown : Value} {s : String} (h : BoundingSize.read shown s = .ok v) :
    boundingSize.stores v = true := by
  unfold BoundingSize.read at h
  split at h
  · cases h
    rfl
  · split at h
    · rename_i sep _ _
      obtain ⟨_, _, h⟩ := Outcome.bind_eq_ok h
      obtain ⟨_, _, h⟩ := Outcome.bind_eq_ok h
      cases h
      cases sep <;> rfl
    · obtain ⟨_, _, h⟩ := Outcome.bind_eq_ok h
      cases h

theorem stores_boundingSizeOf (h : BoundingSize.ofValue w = .ok v) :
    boundingSize.stores v = true := by
  unfold BoundingSize.ofValue at h
  split at h
  · cases h
    rfl
  · cases h
    rfl
  · cases h
    rfl
  · split at h
    · exact stores_read h
    · obtain ⟨_, _, h⟩ := Outcome.bind_eq_ok h
      cases h

theorem enumeration_of_mem {e : Enumeration} : ∀ c ∈ e.members, c.enumeration = e := by
  cases e <;> decide

theorem stores_memberOf {e : Enumeration} (h : memberOf e w = .ok v) :
    (choice e).stores v = true := by
  unfold memberOf at h
  simp only at h
  split at h
  -- a member of the enumeration stays what it is, everything else is looked up
  on_goal 1 => split at h
  on_goal 1 =>
    rename_i hc
    cases h
    exact decide_eq_true hc
  all_goals
    obtain ⟨scalar, _, h⟩ := Outcome.bind_eq_ok h
    split at h
    · rename_i c hc
      cases h
      exact decide_eq_true (enumeration_of_mem c (List.mem_of_find?_eq_some hc))
    · cases h

theorem stores_tagOf {variant : CropVariant} (h : tagOf variant w = .ok v) :
    (tag variant).stores v = true := by
  unfold tagOf at h
  split at h <;> cases h
  exact decide_eq_true rfl

/-- What a leaf accepts it stores in its own form. -/
theorem stores_of_check {l : Leaf} (h : l.check w = .ok v) : l.stores v = true := by
  cases l with
  | boolean => exact stores_booleanOf h
  | integer =>
    obtain ⟨n, _, rfl⟩ := Outcome.map_eq_ok h
    rfl
  | real => exact stores_realOf h
  | text =>
    obtain ⟨s, _, rfl⟩ := Outcome.map_eq_ok h
    rfl
  | name => exact stores_nameOf h
  | optionalText =>
    by_cases hnull : w = .null
    · subst hnull
      cases h
      rfl
    · have htext : (textOf w).map .text = .ok v := by
        cases w <;> first | exact h | exact absurd rfl hnull
      obtain ⟨s, _, rfl⟩ := Outcome.map_eq_ok htext
      rfl
  | mapping => exact stores_mappingOf h
  | color => exact stores_colorOf (Outcome.mapError_eq_ok h)
  | duration => exact stores_durationOf (Outcome.mapError_eq_ok h)
  | flags =>
    obtain ⟨n, _, rfl⟩ := Outcome.map_eq_ok (Outcome.mapError_eq_ok h)
    rfl
  | path => exact stores_pathOf (Outcome.mapError_eq_ok h)
  | boundingSize => exact stores_boundingSizeOf (Outcome.mapError_eq_ok h)
  | choice e => exact stores_memberOf h
  | tag variant => exact stores_tagOf h

end Stores

end Leaf

/-! ## Settled values -/

namespace Duration

/-- A duration in whole milliseconds, truncated toward zero. -/
def settled (d : Duration) : Duration where
  micros := d.millis * 1000
  least := by
    have hleast := d.least
    rw [millis, Int.tdiv_eq_ediv, Int.sign_eq_one_of_pos (by decide)]
    split <;> omega
  greatest := by
    have hgreatest := d.greatest
    rw [millis, Int.tdiv_eq_ediv, Int.sign_eq_one_of_pos (by decide)]
    split <;> omega

theorem millis_settled (d : Duration) : d.settled.millis = d.millis :=
  Int.mul_tdiv_cancel d.millis (by decide)

theorem ofMillis_millis (d : Duration) : ofMillis d.millis = .ok d.settled :=
  ofMicros_micros d.settled

end Duration

namespace FontFlags

theorem pack_singleton (n : Int) : pack [n] = n % 256 := by
  simp only [← Color.toNat_byte]
  simp [pack]

theorem lowByte_emod (n : Int) : lowByte (n % 256) = lowByte n := by
  simp only [lowByte, Int.emod_emod_of_dvd n (Int.dvd_refl 256)]

end FontFlags

/-- A path as its text. -/
def PathText.settled (v : Value) : Value :=
  match v with
  | .path s | .caselessPath s _ => .text s
  | v => match v.text? with
    | some s => .text s
    | none => v

/-- What becomes of a value that a leaf stores when it is written and read again. -/
def Leaf.settled (l : Leaf) (v : Value) : Value :=
  match l, v with
  | path, v => PathText.settled v
  | duration, .duration d => .duration d.settled
  | color, v => Color.settled v
  | flags, .flags n => .flags (n % 256)
  | boundingSize, v => BoundingSize.settled v
  | _, v => v

/-- That the entries of a color are integral and those of a bounding size are counts. -/
def Value.IsRegular (v : Value) : Prop := Color.IsIntegral v ∧ BoundingSize.IsCounted v

/-! ## Values in documents -/

/-- That a value can go through a document: what is written for it is read as a value for which
    the same is written. -/
structure Shape.Settles (shape : Shape) (s : Style) (outer : Nat) (v settled : Value) (j : Json) :
    Prop where
  written : shape.write s outer v = .ok j
  read : shape.check j.toValue = .ok settled
  rewritten : shape.write s outer settled = .ok j

section Dump

variable {outer : Nat} (houter : outer < depthLimit) (s : Style) (slot : Slot)
include houter

theorem level_le (v : Value) : ¬ depthLimit < slot.level outer v := by
  unfold Slot.level
  split <;> omega

theorem dump_bool (b : Bool) : dump s slot outer (.bool b) = .ok (.bool b) := by
  simp only [dump, if_neg (level_le houter slot (.bool b))]

theorem dump_int (n : Int) : dump s slot outer (.int n) = .ok (.int n) := by
  simp only [dump, if_neg (level_le houter slot (.int n))]

theorem dump_text (t : String) : dump s slot outer (.text t) = .ok (.text t) := by
  simp only [dump, if_neg (level_le houter slot (.text t))]

theorem dump_choice (l : Leaf) (c : Choice) :
    dump s (.leaf l) outer (.choice c) = .ok c.value.toJson := by
  simp only [dump, if_neg (level_le houter (.leaf l) (.choice c))]
  rfl

end Dump

/-! ## Leaves in documents -/

namespace Leaf

/-- Whether a leaf is one that payloads have outside of a crop. -/
def isPlain : Leaf → Bool
  | boolean | integer | text | color | duration | flags | path | boundingSize | choice _ => true
  | real | name | optionalText | mapping | tag _ => false

section Settles

variable {outer : Nat} (houter : outer < depthLimit) (s : Style)
include houter

theorem settles_boolean (b : Bool) :
    (Shape.leaf boolean).Settles s outer (.bool b) (.bool b) (.bool b) :=
  ⟨dump_bool houter s _ b, rfl, dump_bool houter s _ b⟩

theorem settles_integer (n : Int) :
    (Shape.leaf integer).Settles s outer (.int n) (.int n) (.int n) :=
  ⟨dump_int houter s _ n, rfl, dump_int houter s _ n⟩

theorem settles_text (t : String) :
    (Shape.leaf text).Settles s outer (.text t) (.text t) (.text t) :=
  ⟨dump_text houter s _ t, rfl, dump_text houter s _ t⟩

omit houter in
/-- A member is found by what it is written as. -/
theorem memberOf_value (c : Choice) :
    memberOf c.enumeration c.value.toJson.toValue = .ok (.choice c) := by
  cases c with
  | playback b => cases b <;> rfl
  | slideMode m => cases m <;> rfl
  | transition t => cases t <;> rfl
  | colorRange r => cases r <;> rfl
  | colorSpace r => cases r <;> rfl
  | videoRange r => cases r <;> rfl
  | aspect p => cases p <;> rfl

theorem settles_choice (c : Choice) : (Shape.leaf (choice c.enumeration)).Settles s outer
    (.choice c) (.choice c) c.value.toJson :=
  ⟨dump_choice houter s _ c, memberOf_value c, dump_choice houter s _ c⟩

end Settles

section Encoded

variable (s : Style) (outer : Nat)

theorem atom_like (v : Value) {n : Int} (hn : 0 ≤ n) :
    Shape.atom s (Color.like v n) = .ok (.int n) := by
  cases v with
  | flags m =>
    simp only [Color.like, Value.ofFlags, if_pos hn, Shape.atom, Int.toNat_of_nonneg hn]
  | _ => rfl

/-- A color is written as its packed form. -/
theorem write_color {r g b a : Value} {rn gn bn an : Int} (hr : r.int? = some rn)
    (hg : g.int? = some gn) (hb : b.int? = some bn) (ha : a.int? = some an) :
    (Shape.leaf color).write s outer (.color r g b a) =
      .ok (.int (Color.packed rn gn bn an)) := by
  unfold Shape.write Shape.close
  simp only [encode?, Color.encode_color hr hg hb ha]
  exact atom_like s r (Color.packed_nonneg rn gn bn an)

theorem settles_color {r g b a : Value} (h : Color.IsIntegral (.color r g b a)) :
    ∃ j, (Shape.leaf color).Settles s outer (.color r g b a)
      (Color.settled (.color r g b a)) j := by
  obtain ⟨rn, gn, bn, an, hr, hg, hb, ha⟩ := Color.exists_ints h
  refine ⟨.int (Color.packed rn gn bn an), write_color s outer hr hg hb ha, ?_, ?_⟩
  · exact congrArg converted (Color.ofValue_packed hr hg hb ha)
  · unfold Shape.write Shape.close
    simp only [encode?, Color.encode_settled hr hg hb ha]
    rfl

theorem settles_duration (d : Duration) : (Shape.leaf duration).Settles s outer (.duration d)
    (.duration d.settled) (.int d.millis) where
  written := rfl
  read := by
    change converted ((Duration.ofMillis d.millis).map .duration) = _
    simp only [Duration.ofMillis_millis]
    rfl
  rewritten := by
    simp only [← Duration.millis_settled d]
    rfl

theorem settles_flags (n : Nat) : (Shape.leaf flags).Settles s outer (.flags n)
    (.flags (n % 256)) (.int (n % 256)) := by
  have hwrite : ∀ m : Nat,
      (Shape.leaf flags).write s outer (.flags m) = .ok (.int (m % 256)) := by
    intro m
    simp only [← FontFlags.pack_singleton]
    rfl
  refine ⟨hwrite n, ?_, ?_⟩
  · change Except.ok (Value.flags (FontFlags.lowByte (n % 256))) = _
    simp only [FontFlags.lowByte_emod]
    rfl
  · have hbyte : ((n % 256 : Nat) : Int) % 256 = (n : Int) % 256 := by omega
    simp only [hwrite, hbyte]

theorem settles_path {v : Value} (h : path.stores v = true) :
    ∃ t, (Shape.leaf path).Settles s outer v (.text t) (.text t) ∧
      PathText.settled v = .text t := by
  cases v with
  | path t | caselessPath t => exact ⟨t, ⟨rfl, rfl, rfl⟩, rfl⟩
  | text t => exact ⟨t, ⟨rfl, rfl, rfl⟩, rfl⟩
  | choice c =>
    obtain ⟨t, ht⟩ := Option.isSome_iff_exists.mp h
    have hvalue : c.value = .text t := by
      simp only [Value.text?] at ht
      split at ht
      · rename_i hc
        simp only [hc, Option.some.inj ht]
      · cases ht
    have hwrite : (Shape.leaf path).write s outer (.choice c) = .ok (.text t) := by
      unfold Shape.write Shape.close
      simp only [encode?, PathText.encode, ht]
      change Except.ok c.value.toJson = _
      simp only [hvalue]
      rfl
    refine ⟨t, ⟨hwrite, rfl, rfl⟩, ?_⟩
    simp only [PathText.settled, ht]
  | _ => cases h

/-- A bounding size is written as its text. -/
theorem write_boundingSize {v : Value} {t : String} (h : BoundingSize.format v = .ok t) :
    (Shape.leaf boundingSize).write s outer v = .ok (.text t) := by
  unfold Shape.write Shape.close
  simp only [encode?, h]
  rfl

theorem settles_boundingSize {v : Value} {t : String} (h : BoundingSize.Settles v t) :
    (Shape.leaf boundingSize).Settles s outer v (BoundingSize.settled v) (.text t) where
  written := write_boundingSize s outer h.format_eq
  read := congrArg converted h.read_eq
  rewritten := write_boundingSize s outer h.format_settled

end Encoded

/-- A value that a leaf stores goes through a document. -/
theorem exists_settles {l : Leaf} (hl : l.isPlain = true) {v : Value} (hstores : l.stores v = true)
    (hregular : v.IsRegular) (hsize : v.isOversize = false) {outer : Nat}
    (houter : outer < depthLimit) (s : Style) :
    ∃ j, (Shape.leaf l).Settles s outer v (l.settled v) j := by
  cases l with
  | boolean => cases v with
    | bool b => exact ⟨_, settles_boolean houter s b⟩
    | _ => cases hstores
  | integer => cases v with
    | int n => exact ⟨_, settles_integer houter s n⟩
    | _ => cases hstores
  | text => cases v with
    | text t => exact ⟨_, settles_text houter s t⟩
    | _ => cases hstores
  | color => cases v with
    | color r g b a => exact settles_color s outer hregular.1
    | _ => cases hstores
  | duration => cases v with
    | duration d => exact ⟨_, settles_duration s outer d⟩
    | _ => cases hstores
  | flags => cases v with
    | flags n => exact ⟨_, settles_flags s outer n⟩
    | _ => cases hstores
  | path =>
    obtain ⟨t, hsettles, ht⟩ := settles_path s outer hstores
    refine ⟨.text t, ?_⟩
    change (Shape.leaf path).Settles s outer v (PathText.settled v) (.text t)
    simp only [ht]
    exact hsettles
  | boundingSize =>
    have hstored : BoundingSize.IsStored v := by
      cases v with
      | choice c => cases c with
        | aspect p => trivial
        | _ => cases hstores
      | ratio w h => trivial
      | size w h => trivial
      | _ => cases hstores
    obtain ⟨t, ht⟩ := BoundingSize.exists_settles hstored hregular.2 hsize
    exact ⟨_, settles_boundingSize s outer ht⟩
  | choice e => cases v with
    | choice c =>
      have he : c.enumeration = e := of_decide_eq_true hstores
      subst he
      exact ⟨_, settles_choice houter s c⟩
    | _ => cases hstores
  | _ => cases hl

end Leaf

end SceneSource
