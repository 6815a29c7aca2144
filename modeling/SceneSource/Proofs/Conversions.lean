-- SUMMARY: Which conversions of plain data are harmless, and when the others overflow.
import SceneSource.BoundingSize
import SceneSource.Color
import SceneSource.FontFlags
import SceneSource.Json.Reader
import SceneSource.PathText
import SceneSource.Proofs.Numbers
import SceneSource.Proofs.Outcomes

/-!
# Conversions of plain data

A conversion that fails is harmless if what is wrong is an issue with the value. Flags, paths,
bounding sizes and JSON text are harmless throughout. A color overflows if the first of its
channels that is no integer is an infinity, a duration if it is out of range.
-/

namespace SceneSource

/-! ## Plain data -/

namespace Value

mutual

/-- Whether a value is built from nothing, truth values, numbers, texts, bytes, paths and
    durations by collections alone. -/
def isData : Value → Bool
  | null | bool _ | int _ | real _ | text _ | bytes _ | duration _ => true
  | path _ | caselessPath .. => true
  | list xs | tuple xs | set xs => areData xs
  | mapping entries => areDataEntries entries
  | color .. | flags _ | choice _ | pathLike .. | ratio .. | size .. | record .. | object _ => false

/-- `isData` for the items of a collection. -/
def areData : List Value → Bool
  | [] => true
  | x :: xs => x.isData && areData xs

/-- `isData` for the values of a mapping. -/
def areDataEntries : List (String × Value) → Bool
  | [] => true
  | (_, v) :: rest => v.isData && areDataEntries rest

end

theorem areData_iff {xs : List Value} : areData xs = true ↔ ∀ x ∈ xs, x.isData = true := by
  induction xs with
  | nil => exact ⟨fun _ => List.forall_mem_nil _, fun _ => rfl⟩
  | cons x rest ih => simp only [areData, Bool.and_eq_true, ih, List.forall_mem_cons]

theorem areDataEntries_iff {entries : List (String × Value)} :
    areDataEntries entries = true ↔ ∀ e ∈ entries, e.2.isData = true := by
  induction entries with
  | nil => exact ⟨fun _ => List.forall_mem_nil _, fun _ => rfl⟩
  | cons e rest ih => simp only [areDataEntries, Bool.and_eq_true, ih, List.forall_mem_cons]

end Value

namespace Json

mutual

/-- Documents are plain data. -/
theorem isData_toValue (j : Json) : j.toValue.isData = true := by
  cases j with
  | array items => exact areData_itemValues items
  | object entries => exact areDataEntries_entryValues entries
  | _ => rfl

theorem areData_itemValues (items : List Json) : Value.areData (itemValues items) = true := by
  cases items with
  | nil => rfl
  | cons j rest => exact Bool.and_eq_true_iff.mpr ⟨isData_toValue j, areData_itemValues rest⟩

theorem areDataEntries_entryValues (entries : List (String × Json)) :
    Value.areDataEntries (entryValues entries) = true := by
  cases entries with
  | nil => rfl
  | cons e rest =>
    exact Bool.and_eq_true_iff.mpr ⟨isData_toValue e.2, areDataEntries_entryValues rest⟩

end

end Json

/-! ## Harmless outcomes -/

/-- That a conversion fails only in a way that is an issue with the value. -/
def Harmless {α : Type} (outcome : Except Fault α) : Prop :=
  ∀ f, outcome = .error f → f.category = .value

namespace Harmless

variable {α β : Type}

theorem ok (a : α) : Harmless (.ok a : Except Fault α) := fun _ h => nomatch h

theorem error {f : Fault} (h : f.category = .value) : Harmless (.error f : Except Fault α) := by
  rintro _ ⟨⟩
  exact h

theorem bind {x : Except Fault α} (hx : Harmless x) {g : α → Except Fault β}
    (hg : ∀ a, Harmless (g a)) : Harmless (x >>= g) := by
  cases x with
  | ok a => exact hg a
  | error f => exact error (hx f rfl)

theorem map {x : Except Fault α} (hx : Harmless x) (g : α → β) : Harmless (x.map g) := by
  cases x with
  | ok a => exact ok _
  | error f => exact error (hx f rfl)

end Harmless

theorem Value.harmless_show? (v : Value) : Harmless v.show? := by
  unfold show?
  split
  · exact .error rfl
  · exact .ok _

/-! ## Overflows -/

/-- That a conversion overflows under a condition and is harmless otherwise. -/
structure Fault.OverflowsIff {α : Type} (condition : Prop) (outcome : Except Fault α) :
    Prop where
  overflow : condition → ∃ f, outcome = .error f ∧ f.category = .overflow
  harmless : ¬ condition → Harmless outcome

section Overflows

variable {α β : Type} {condition : Prop}

theorem Harmless.overflowsIff {x : Except Fault α} (hx : Harmless x) (hnot : ¬ condition) :
    Fault.OverflowsIff condition x := ⟨fun h => absurd h hnot, fun _ => hx⟩

theorem Fault.OverflowsIff.map {x : Except Fault α} (hx : OverflowsIff condition x)
    (g : α → β) : OverflowsIff condition (x.map g) where
  overflow h := by
    obtain ⟨f, rfl, hf⟩ := hx.overflow h
    exact ⟨f, rfl, hf⟩
  harmless h := (hx.harmless h).map g

end Overflows

/-! ## Harmless conversions -/

namespace FontFlags

theorem harmless_ofName (shown : Value) (s : String) : Harmless (ofName shown s) := by
  unfold ofName
  split
  · exact .ok _
  · exact shown.harmless_show?.bind fun t => .error rfl

theorem harmless_ofNames (names : List String) : Harmless (ofNames names) := by
  induction names with
  | nil => exact .ok 0
  | cons s rest ih =>
    exact (harmless_ofName _ s).bind fun bits => ih.bind fun more => .ok _

mutual

/-- Whatever is given for flags is accepted or an issue. -/
theorem harmless_ofValue (v : Value) : Harmless (ofValue v) := by
  cases v with
  | flags n => exact .ok n
  | int n => exact .ok _
  | text s => exact harmless_ofName _ s
  | choice c =>
    unfold ofValue
    split
    · exact .ok _
    · exact harmless_ofName _ _
  | list xs | tuple xs | set xs =>
    unfold ofValue
    exact harmless_ofItems xs
  | bytes bs => exact .ok _
  | mapping entries => exact harmless_ofNames _
  | color r g b a =>
    unfold ofValue
    exact (harmless_ofValue r).bind fun _ => (harmless_ofValue g).bind fun _ =>
      (harmless_ofValue b).bind fun _ => (harmless_ofValue a).bind fun _ => .ok _
  | record m attributes =>
    unfold ofValue
    exact harmless_ofEntries attributes
  | _ => exact .error rfl

theorem harmless_ofItems (xs : List Value) : Harmless (ofItems xs) := by
  cases xs with
  | nil => exact .ok 0
  | cons x rest =>
    unfold ofItems
    exact (harmless_ofValue x).bind fun _ => (harmless_ofItems rest).bind fun _ => .ok _

theorem harmless_ofEntries (attributes : List (String × Value)) :
    Harmless (ofEntries attributes) := by
  cases attributes with
  | nil => exact .ok 0
  | cons e rest =>
    obtain ⟨key, v⟩ := e
    unfold ofEntries
    exact (harmless_ofName _ key).bind fun _ => (harmless_ofValue v).bind fun _ =>
      (harmless_ofEntries rest).bind fun _ => .ok _

end

end FontFlags

namespace BoundingSize

theorem harmless_number (cs : List Char) : Harmless (number cs) := by
  unfold number
  split
  · exact .ok _
  · exact .error rfl
  · exact .error rfl

theorem harmless_read (shown : Value) (s : String) : Harmless (read shown s) := by
  unfold read
  split
  · exact .ok _
  · split
    · exact (harmless_number _).bind fun _ => (harmless_number _).bind fun _ => .ok _
    · exact shown.harmless_show?.bind fun t => .error rfl

theorem harmless_ofValue (v : Value) : Harmless (ofValue v) := by
  unfold ofValue
  split
  · exact .ok _
  · exact .ok _
  · exact .ok _
  · split
    · exact harmless_read _ _
    · exact v.harmless_show?.bind fun t => .error rfl

end BoundingSize

theorem Json.harmless_ofSymbols (symbols : List Text.Symbol) : Harmless (ofSymbols symbols) := by
  unfold ofSymbols
  split
  · exact .ok _
  · exact .error rfl

theorem PathText.harmless_ofValue {v : Value} (hv : v.isData = true) : Harmless (ofValue v) := by
  cases v with
  | pathLike => cases hv
  | path | caselessPath => exact .ok _
  | _ =>
    unfold ofValue
    simp only
    split
    · exact .ok _
    · exact .error rfl

/-! ## Conversions that overflow -/

namespace Duration

/-- Whether a number of microseconds lies in the range of durations. -/
def InRange (micros : Int) : Prop :=
  -86399999913600000000 ≤ micros ∧ micros ≤ 86399999999999999999

/-- Microseconds out of range overflow, in one way or the other. -/
theorem overflowsIff_ofMicros (n : Int) :
    Fault.OverflowsIff (¬ InRange n) (ofMicros n) where
  overflow h := by
    unfold ofMicros
    simp only
    split
    · exact ⟨_, rfl, rfl⟩
    · exact ⟨_, dif_neg h, rfl⟩
  harmless h := by
    have hrange : InRange n := not_not.mp h
    have hok : ofMicros n = .ok ⟨n, hrange.1, hrange.2⟩ := ofMicros_micros ⟨n, _, _⟩
    rw [hok]
    exact .ok _

/-- The microseconds nearest to a finite number of milliseconds. -/
def microsOf (d : Double) : Int :=
  let back := Double.ofRatio d.negative (1000 * d.remainder.natAbs) Double.one
  roundHalfEven (d.truncate * 1000 * Double.one + back.units) Double.one

end Duration

namespace Color

/-- The channels that plain data gives for a color, if it gives any. -/
def channels? : Value → Option (List Value)
  | .list xs | .tuple xs => if xs.length = 3 ∨ xs.length = 4 then some xs else none
  | .mapping entries => match entries.lookup "r", entries.lookup "g", entries.lookup "b" with
    | some r, some g, some b => some [r, g, b, (entries.lookup "a").getD opaqueAlpha]
    | _, _, _ => none
  | _ => none

theorem ofValue_of_channels {v : Value} {channels : List Value} (h : channels? v = some channels) :
    ∃ whole, ofValue v = ofChannels whole channels := by
  cases v with
  | list xs | tuple xs =>
    unfold channels? at h
    simp only [Option.ite_none_right_eq_some, Option.some.injEq] at h
    obtain ⟨hlength, rfl⟩ := h
    exact ⟨_, if_pos hlength⟩
  | mapping entries =>
    unfold channels? at h
    simp only at h
    split at h
    · rename_i r g b hr hg hb
      cases h
      refine ⟨.tuple [r, g, b, (entries.lookup "a").getD opaqueAlpha], ?_⟩
      simp only [ofValue, required, hr, hg, hb]
      rfl
    · cases h
  | _ => cases h

/-- That a value is a list, a tuple or a mapping, which are the ways to give channels. -/
def IsCollection : Value → Prop
  | .list _ | .tuple _ | .mapping _ => True
  | _ => False

/-- A collection that gives no channels is refused. -/
theorem refused_of_no_channels {v : Value} (hv : IsCollection v) (h : channels? v = none) :
    ∃ f, ofValue v = .error f ∧ f.category = .value := by
  cases v with
  | list xs | tuple xs =>
    unfold channels? at h
    have hlength : ¬ (xs.length = 3 ∨ xs.length = 4) := by simpa using h
    unfold ofValue ofSequence
    simp only [if_neg hlength]
    exact ⟨_, rfl, rfl⟩
  | mapping entries =>
    unfold channels? at h
    simp only [ofValue, required]
    -- the first of the channels that is missing is the issue
    cases hr : entries.lookup "r" with
    | none => exact ⟨_, rfl, rfl⟩
    | some r => cases hg : entries.lookup "g" with
      | none => exact ⟨_, rfl, rfl⟩
      | some g => cases hb : entries.lookup "b" with
        | none => exact ⟨_, rfl, rfl⟩
        | some b => simp only [hr, hg, hb, reduceCtorEq] at h
  | _ => cases hv

theorem harmless_of_no_channels {v : Value} (hv : v.isData = true) (h : channels? v = none) :
    Harmless (ofValue v) := by
  cases v with
  | list | tuple | mapping =>
    obtain ⟨f, hf, hcategory⟩ := refused_of_no_channels (by trivial) h
    rw [hf]
    exact .error hcategory
  | int n => exact .ok _
  | _ => first | exact .error rfl | cases hv

/-- What is wrong with a channel that is no integer. Only an infinity is more than an issue. -/
theorem toInteger_error {v : Value} {f : Fault} (h : v.toInteger = .error f) :
    (f.category = .value ∨ f.category = .type) ∨
      ∃ d, v = .real d ∧ d.isInfinite = true ∧ f = .infinityToInteger := by
  have hnumeral : ∀ shown read, Value.ofNumeral shown read = .error f → f.category = .value := by
    intro shown read hread
    rcases read with (_ | digits) | n
    · cases hread
      rfl
    · cases hread
      rfl
    · cases hread
  unfold Value.toInteger at h
  split at h
  · rename_i d
    unfold Value.integerPart at h
    split at h
    · cases h
      exact .inl (.inl rfl)
    · split at h
      · rename_i hd
        cases h
        exact .inr ⟨d, rfl, hd, rfl⟩
      · cases h
  · exact .inl (.inl (hnumeral _ _ h))
  · split at h
    · cases h
    · exact .inl (.inl (hnumeral _ _ h))
    · cases h
      exact .inl (.inr rfl)

theorem toInteger_infinite {d : Double} (hd : d.isInfinite = true) :
    (Value.real d).toInteger = .error .infinityToInteger := by
  have hnan : d.isNaN = false := Bool.eq_false_iff.mpr fun h =>
    Bool.false_ne_true ((Double.not_finite_of_isNaN h).2.symm.trans hd)
  simp only [Value.toInteger, Value.integerPart, hnan, hd]
  rfl

/-- Whether the first channel that is no integer is an infinity. -/
def StartsInfinite (channels : List Value) : Prop :=
  ∃ before d after, channels = before ++ .real d :: after ∧
    (∀ x ∈ before, ∃ n, x.toInteger = .ok n) ∧ d.isInfinite = true

theorem startsInfinite_iff {channels : List Value} :
    StartsInfinite channels ↔ channels.mapM Value.toInteger = .error .infinityToInteger := by
  rw [Outcome.mapM_error_iff]
  constructor
  · rintro ⟨before, d, after, hsplit, hbefore, hd⟩
    exact ⟨before, .real d, after, hsplit, hbefore, toInteger_infinite hd⟩
  · rintro ⟨before, x, after, hsplit, hbefore, hx⟩
    obtain (hvalue | htype) | ⟨d, rfl, hd, _⟩ := toInteger_error hx
    · cases hvalue
    · cases htype
    · exact ⟨before, d, after, hsplit, hbefore, hd⟩

theorem harmless_ofChannels (whole : Value) {channels : List Value}
    (h : ¬ StartsInfinite channels) : Harmless (ofChannels whole channels) := by
  unfold ofChannels
  cases hread : channels.mapM Value.toInteger with
  | error f =>
    have hcaught : f.category = .value ∨ f.category = .type := by
      obtain ⟨_, _, _, _, _, hx⟩ := Outcome.mapM_error_iff.mp hread
      obtain hcaught | ⟨_, _, _, rfl⟩ := toInteger_error hx
      · exact hcaught
      · exact absurd (startsInfinite_iff.mpr hread) h
    simp only [if_pos hcaught]
    exact whole.harmless_show?.bind fun t => .error rfl
  | ok ns =>
    simp only
    split
    · split
      · exact .ok _
      · exact .ok _
      · exact .error rfl
    · exact .error rfl

/-- Channels overflow exactly if the first that is no integer is an infinity. -/
theorem overflowsIff_ofChannels (whole : Value) (channels : List Value) :
    Fault.OverflowsIff (StartsInfinite channels) (ofChannels whole channels) where
  overflow h := by
    unfold ofChannels
    rw [startsInfinite_iff.mp h]
    exact ⟨_, rfl, rfl⟩
  harmless := harmless_ofChannels whole

end Color

end SceneSource
