-- SUMMARY: Which channels of a color are read as which integers, and which of them are exact.
import SceneSource.Proofs.Conversions
import SceneSource.Proofs.FieldEntries
import SceneSource.Proofs.SizeGrammar

/-!
# Channels of colors

A channel denotes an integer if it is a number that equals it, or a text or bytes with its numeral.
A color field that is given a list, a tuple or a mapping takes channels which denote integers in
0…255 as these integers. It does not mind a double between two integers though: such a double is
cut down to its integer part first, and is taken if that lies in the range.
-/

namespace SceneSource

namespace Double

theorem one_ne_zero : (one : Int) ≠ 0 := by
  -- the power itself is too large to be computed
  unfold one
  generalize 1074 = bits
  exact Int.natCast_ne_zero.mpr (Nat.ne_of_gt (Nat.two_pow_pos bits))

theorem toInt?_eq_some_iff {d : Double} {n : Int} :
    d.toInt? = some n ↔ d.isFinite = true ∧ d.units = n * one := by
  unfold toInt?
  constructor
  · intro h
    split at h
    · rename_i hwhole
      simp only [Bool.and_eq_true, beq_iff_eq] at hwhole
      cases h
      exact ⟨hwhole.1, (Int.ediv_mul_cancel (Int.dvd_of_emod_eq_zero hwhole.2)).symm⟩
    · cases h
  · rintro ⟨hfinite, hunits⟩
    have hwhole : d.units % one = 0 := by
      rw [hunits]
      exact Int.mul_emod_left _ _
    have hquotient : d.units / one = n := by
      rw [hunits]
      exact Int.mul_ediv_cancel _ one_ne_zero
    simp only [hfinite, hwhole, hquotient]
    rfl

theorem truncate_of_toInt? {d : Double} {n : Int} (h : d.toInt? = some n) : d.truncate = n := by
  rw [truncate, (toInt?_eq_some_iff.mp h).2]
  exact Int.mul_tdiv_cancel n one_ne_zero

/-- A double is an integer exactly if it equals it. -/
theorem equal_int_iff {d : Double} {n : Int} :
    (Number.real d).equal (.int n) = true ↔ d.toInt? = some n := by
  rw [toInt?_eq_some_iff]
  simp only [Number.equal, Bool.and_eq_true, beq_iff_eq]

end Double

/-! ## Channels as integers -/

namespace Value

/-- That a value denotes an integer: a number that equals it, a text or bytes by its numeral. -/
inductive Denotes : Value → Int → Prop
  | number {v m n} (hm : v.number? = some m) (hequal : m.equal (.int n) = true) : Denotes v n
  | text {v s n} (hs : v.text? = some s) (hn : Integer.Numeral Text.isWhite s.toList n) :
      Denotes v n
  | bytes {bs n}
      (hn : Integer.Numeral Text.isAsciiWhite (bs.map fun b => Char.ofNat b.toNat) n) :
      Denotes (bytes bs) n

/-- That a value is a double between two integers, and what it is cut down to. -/
inductive CutTo : Value → Int → Prop
  | intro {d} (hfinite : d.isFinite = true) (hbetween : d.toInt? = none) :
      CutTo (real d) d.truncate

/-- That a value is read as an integer. -/
def ReadsAs (v : Value) (n : Int) : Prop := v.Denotes n ∨ v.CutTo n

theorem number?_eq_some_iff {v : Value} {m : Number} : v.number? = some m ↔
    (∃ d, v = real d ∧ m = .real d) ∨ ∃ n, v.int? = some n ∧ m = .int n := by
  cases v with
  | real d => simp [number?, int?, eq_comm]
  | _ => simp [number?, eq_comm]

/-- A double between two integers denotes none. -/
theorem Denotes.not_cutTo {v : Value} {m n : Int} (h : v.Denotes n) : ¬ v.CutTo m := by
  rintro ⟨_, hbetween⟩
  cases h with
  | number hm hequal =>
    cases hm
    cases hbetween.symm.trans (Double.equal_int_iff.mp hequal)
  | text hs => cases hs

theorem denotes_iff {v : Value} {n : Int} :
    v.Denotes n ↔ (∀ m, ¬ v.CutTo m) ∧ v.ReadsAs n := by
  constructor
  · exact fun h => ⟨fun _ => h.not_cutTo, .inl h⟩
  · rintro ⟨hcut, hdenotes | hcutTo⟩
    · exact hdenotes
    · exact absurd hcutTo (hcut n)

theorem toInteger_of_int? {v : Value} {n : Int} (h : v.int? = some n) : v.toInteger = .ok n := by
  cases v with
  | bool | int | flags | choice => simp only [toInteger, h]
  | _ => cases h

theorem toInteger_of_text? {v : Value} {s : String} (h : v.text? = some s) :
    v.toInteger = ofNumeral v.shown (Integer.readNumeral Text.isWhite s.toList) := by
  have hint : v.int? = none := by
    cases v with
    | choice c =>
      simp only [text?, int?] at h ⊢
      split at h
      · rename_i hc
        simp only [hc]
      · cases h
    | text => rfl
    | _ => cases h
  cases v with
  | text | choice => simp only [toInteger, hint, h]
  | _ => cases h

theorem ofNumeral_ok_iff {shown : String} {read : Except Integer.ReadError Int} {n : Int} :
    ofNumeral shown read = .ok n ↔ read = .ok n := by
  rcases read with (_ | _) | m <;> simp [ofNumeral]

/-! ### White space around numerals -/

theorem isWhite_of_digit {c : Char} (h : Text.isDigit c = true) : Text.isWhite c = false := by
  simp only [Text.isWhite, Text.isBlank_of_digit h, Bool.false_and]

theorem isAsciiWhite_of_digit {c : Char} (h : Text.isDigit c = true) :
    Text.isAsciiWhite c = false := by
  simp only [Text.isAsciiWhite, isWhite_of_digit h, Bool.false_and]

theorem readText_ok_iff {cs : List Char} {n : Int} :
    Integer.readNumeral Text.isWhite cs = .ok n ↔ Integer.Numeral Text.isWhite cs n :=
  Integer.readNumeral_ok_iff (fun _ => isWhite_of_digit) ⟨rfl, rfl⟩

theorem readBytes_ok_iff {cs : List Char} {n : Int} :
    Integer.readNumeral Text.isAsciiWhite cs = .ok n ↔ Integer.Numeral Text.isAsciiWhite cs n :=
  Integer.readNumeral_ok_iff (fun _ => isAsciiWhite_of_digit) ⟨rfl, rfl⟩

theorem toInteger_real_ok_iff {d : Double} {n : Int} :
    (real d).toInteger = .ok n ↔ d.isFinite = true ∧ d.truncate = n := by
  unfold toInteger integerPart
  simp only
  split
  · rename_i hnan
    simp [(Double.not_finite_of_isNaN hnan).1]
  · rename_i hnan
    split
    · rename_i hinfinite
      simp [Double.not_finite_of_isInfinite hinfinite]
    · rename_i hinfinite
      simp [Double.isFinite_of_not hnan hinfinite]

/-- What a value is read as: the integer that it denotes or is cut down to. -/
theorem toInteger_ok_iff {v : Value} {n : Int} : v.toInteger = .ok n ↔ v.ReadsAs n := by
  constructor
  · intro h
    unfold toInteger at h
    split at h
    · rename_i d
      obtain ⟨hfinite, rfl⟩ := toInteger_real_ok_iff.mp h
      cases hwhole : d.toInt? with
      | none => exact .inr (.intro hfinite hwhole)
      | some m =>
        rw [Double.truncate_of_toInt? hwhole]
        exact .inl (.number rfl (Double.equal_int_iff.mpr hwhole))
    · exact .inl (.bytes (readBytes_ok_iff.mp (ofNumeral_ok_iff.mp h)))
    · split at h
      · rename_i hint
        cases h
        exact .inl (.number (number?_eq_some_iff.mpr (.inr ⟨n, hint, rfl⟩)) (beq_self_eq_true n))
      · rename_i htext
        exact .inl (.text htext (readText_ok_iff.mp (ofNumeral_ok_iff.mp h)))
      · cases h
  · rintro ((⟨hm, hequal⟩ | ⟨hs, hn⟩ | hn) | ⟨hfinite, _⟩)
    · rcases number?_eq_some_iff.mp hm with ⟨d, rfl, rfl⟩ | ⟨m, hint, rfl⟩
      · have hwhole := Double.equal_int_iff.mp hequal
        exact toInteger_real_ok_iff.mpr
          ⟨(Double.toInt?_eq_some_iff.mp hwhole).1, Double.truncate_of_toInt? hwhole⟩
      · rw [toInteger_of_int? hint, eq_of_beq hequal]
    · rw [toInteger_of_text? hs]
      exact ofNumeral_ok_iff.mpr (readText_ok_iff.mpr hn)
    · exact ofNumeral_ok_iff.mpr (readBytes_ok_iff.mpr hn)
    · exact toInteger_real_ok_iff.mpr ⟨hfinite, rfl⟩

end Value

/-! ## Colors of channels -/

namespace Color

/-- That an integer is one that a channel can have. -/
def IsByte (n : Int) : Prop := 0 ≤ n ∧ n ≤ 255

/-- The color of integers, opaque without a fourth. -/
def ofIntegers? : List Int → Option Value
  | [r, g, b] => some (.color (.int r) (.int g) (.int b) (.int 255))
  | [r, g, b, a] => some (.color (.int r) (.int g) (.int b) (.int a))
  | _ => none

/-- That a value gives the channels of a color, in the way that each of them stands for an integer
    in 0…255. -/
def Gives (stands : Value → Int → Prop) (v color : Value) : Prop :=
  ∃ channels ns, channels? v = some channels ∧ List.Forall₂ stands channels ns ∧
    (∀ n ∈ ns, IsByte n) ∧ ofIntegers? ns = some color

/-- That a double between two integers is taken for a channel. -/
def IsCut (v : Value) : Prop :=
  (∃ color, Gives Value.ReadsAs v color) ∧
    ∃ channels x n, channels? v = some channels ∧ x ∈ channels ∧ x.CutTo n

/-- That the first channel which is no integer is an infinity. -/
def MeetsInfinity (v : Value) : Prop :=
  ∃ channels, channels? v = some channels ∧ StartsInfinite channels

theorem ofChannels_ok_iff {whole c : Value} {channels : List Value} :
    ofChannels whole channels = .ok c ↔ ∃ ns, channels.mapM Value.toInteger = .ok ns ∧
      (∀ n ∈ ns, IsByte n) ∧ ofIntegers? ns = some c := by
  unfold ofChannels
  cases channels.mapM Value.toInteger with
  | error f =>
    constructor
    · intro h
      simp only at h
      split at h
      · obtain ⟨_, _, h⟩ := Outcome.bind_eq_ok h
        cases h
      · cases h
    · rintro ⟨_, ⟨⟩, _⟩
  | ok ns =>
    have hbytes : (ns.all fun n => 0 ≤ n && n ≤ 255) = true ↔ ∀ n ∈ ns, IsByte n := by
      simp [IsByte]
    have hcolor : (match ns with
        | [r, g, b] => Except.ok (Value.color (.int r) (.int g) (.int b) opaqueAlpha)
        | [r, g, b, a] => .ok (.color (.int r) (.int g) (.int b) (.int a))
        | _ => .error Fault.colorShape) = .ok c ↔ ofIntegers? ns = some c := by
      unfold ofIntegers? opaqueAlpha
      split <;> simp
    constructor
    · intro h
      simp only at h
      split at h
      · rename_i hall
        exact ⟨ns, rfl, hbytes.mp hall, hcolor.mp h⟩
      · cases h
    · rintro ⟨_, ⟨⟩, hall, hc⟩
      simp only [if_pos (hbytes.mpr hall)]
      exact hcolor.mpr hc

/-- A color of channels that denote integers is one for which nothing is cut. -/
theorem gives_denotes_iff {v c : Value} :
    Gives Value.Denotes v c ↔ Gives Value.ReadsAs v c ∧ ¬ IsCut v := by
  have hexact : ∀ channels ns, List.Forall₂ Value.Denotes channels ns ↔
      (∀ x ∈ channels, ∀ m, ¬ x.CutTo m) ∧ List.Forall₂ Value.ReadsAs channels ns := by
    intro channels ns
    simp only [← List.forall₂_and_left, ← Value.denotes_iff]
  constructor
  · rintro ⟨channels, ns, hchannels, hns, hbytes, hc⟩
    obtain ⟨hwhole, hreads⟩ := (hexact channels ns).mp hns
    refine ⟨⟨channels, ns, hchannels, hreads, hbytes, hc⟩, ?_⟩
    rintro ⟨_, _, x, m, hgiven, hx, hcut⟩
    cases hchannels.symm.trans hgiven
    exact hwhole x hx m hcut
  · rintro ⟨hgives, hcut⟩
    obtain ⟨channels, ns, hchannels, hns, hbytes, hc⟩ := id hgives
    have hwhole : ∀ x ∈ channels, ∀ m, ¬ x.CutTo m := fun x hx m hm =>
      hcut ⟨⟨c, hgives⟩, channels, x, m, hchannels, hx, hm⟩
    exact ⟨channels, ns, hchannels, (hexact channels ns).mpr ⟨hwhole, hns⟩, hbytes, hc⟩

section Collection

variable {v : Value} (hv : IsCollection v)
include hv

/-- A collection becomes a color exactly if it gives the channels of it. -/
theorem ofValue_ok_iff {c : Value} : ofValue v = .ok c ↔ Gives Value.ReadsAs v c := by
  cases hgiven : channels? v with
  | none =>
    obtain ⟨f, hf, _⟩ := refused_of_no_channels hv hgiven
    rw [hf]
    constructor
    · exact fun h => nomatch h
    · rintro ⟨channels, _, hchannels, _⟩
      cases hgiven.symm.trans hchannels
  | some channels =>
    obtain ⟨whole, hwhole⟩ := ofValue_of_channels hgiven
    simp only [hwhole, ofChannels_ok_iff, Outcome.mapM_ok_iff_forall₂, Value.toInteger_ok_iff]
    constructor
    · rintro ⟨ns, hns, hbytes, hc⟩
      exact ⟨channels, ns, hgiven, hns, hbytes, hc⟩
    · rintro ⟨_, ns, hchannels, hns, hbytes, hc⟩
      cases hgiven.symm.trans hchannels
      exact ⟨ns, hns, hbytes, hc⟩

omit hv in
theorem ofValue_infinite (h : MeetsInfinity v) : ofValue v = .error .infinityToInteger := by
  obtain ⟨channels, hchannels, hinfinite⟩ := h
  obtain ⟨whole, hwhole⟩ := ofValue_of_channels hchannels
  rw [hwhole, ofChannels, startsInfinite_iff.mp hinfinite]
  rfl

/-- Any other collection is refused for what is wrong with it. -/
theorem ofValue_refused (hcolor : ∀ c, ¬ Gives Value.ReadsAs v c) (hinfinite : ¬ MeetsInfinity v) :
    ∃ f, ofValue v = .error f ∧ f.category = .value := by
  cases hgiven : channels? v with
  | none => exact refused_of_no_channels hv hgiven
  | some channels =>
    obtain ⟨whole, hwhole⟩ := ofValue_of_channels hgiven
    have hstart : ¬ StartsInfinite channels := fun h => hinfinite ⟨channels, hgiven, h⟩
    have hharmless := harmless_ofChannels whole hstart
    cases houtcome : ofValue v with
    | ok c => exact absurd ((ofValue_ok_iff hv).mp houtcome) (hcolor c)
    | error f => exact ⟨f, rfl, hharmless f (hwhole.symm.trans houtcome)⟩

end Collection

end Color

/-! ## Collections in color fields -/

namespace Kind

/-- What a color field is to do with a list, a tuple or a mapping: take it if its channels denote
    integers in 0…255, as the color of these integers, and refuse it otherwise. -/
def TakesExactly (k : Kind) (f : Field Shape) (v : Value) : Prop :=
  (∃ color, Color.Gives Value.Denotes v color ∧ k.Stores f v color) ∨
    ∃ reason, k.Refuses f v reason

section Channels

variable {k : Kind} {f : Field Shape} (hf : f ∈ k.fields) (hshape : f.shape = .leaf .color)
  {v : Value} (hv : Color.IsCollection v)
include hf hshape hv

theorem stores_color_iff {c : Value} : k.Stores f v c ↔ Color.Gives Value.ReadsAs v c := by
  rw [stores_iff hf, ← Color.ofValue_ok_iff hv, hshape]
  exact Outcome.mapError_ok_iff

omit hv in
theorem refuses_color {fault : Fault} (h : Color.ofValue v = .error fault)
    (hcategory : fault.category = .value) : k.Refuses f v (.fault fault) := by
  refine refuses hf ?_
  simp only [hshape, Shape.check, Leaf.check, Leaf.converted, h]
  exact congrArg Except.error (if_pos hcategory)

omit hv in
theorem built_color_infinite (h : Color.MeetsInfinity v) (host : Host) :
    built k host [(f.name, v)] = .error (.fault .infinityToInteger) := by
  refine built_alone_fault hf ?_ host
  simp only [hshape, Shape.check, Leaf.check, Leaf.converted, Color.ofValue_infinite h]
  rfl

/-- Whatever a color field does with a collection, it does one thing only. -/
theorem takesExactly_iff :
    k.TakesExactly f v ↔ ¬ Color.IsCut v ∧ ¬ Color.MeetsInfinity v := by
  constructor
  · rintro (⟨c, hgives, _⟩ | ⟨reason, hrefuses⟩)
    · obtain ⟨hreads, hcut⟩ := Color.gives_denotes_iff.mp hgives
      refine ⟨hcut, fun hinfinite => ?_⟩
      cases ((Color.ofValue_ok_iff hv).mpr hreads).symm.trans (Color.ofValue_infinite hinfinite)
    · have hrefused := hrefuses.alone { config? := some {} }
      constructor
      · rintro ⟨⟨c, hreads⟩, _⟩
        obtain ⟨p, hp, _⟩ := ((stores_color_iff hf hshape hv).mpr hreads).alone
          { config? := some {} } {} rfl
        cases hrefused.symm.trans hp
      · intro hinfinite
        cases hrefused.symm.trans (built_color_infinite hf hshape hinfinite _)
  · rintro ⟨hcut, hinfinite⟩
    by_cases hreads : ∃ c, Color.Gives Value.ReadsAs v c
    · obtain ⟨c, hc⟩ := hreads
      exact .inl ⟨c, Color.gives_denotes_iff.mpr ⟨hc, hcut⟩,
        (stores_color_iff hf hshape hv).mpr hc⟩
    · obtain ⟨fault, hfault, hcategory⟩ :=
        Color.ofValue_refused hv (not_exists.mp hreads) hinfinite
      exact .inr ⟨_, refuses_color hf hshape hfault hcategory⟩

end Channels

/-- A color field stores for a list, a tuple or a mapping the color of the integers that its
    channels are read as, and for nothing else. So it takes exactly what it is to take, but for
    doubles that are cut down into the range, and for an infinity, which ends the construction. -/
theorem channels_taken (k : Kind) (f : Field Shape) (hf : f ∈ k.fields)
    (hshape : f.shape = .leaf .color) (v : Value) (hv : Color.IsCollection v) :
    (∀ c, k.Stores f v c ↔ Color.Gives Value.ReadsAs v c) ∧
    (Color.MeetsInfinity v → ∀ h : Host,
      built k h [(f.name, v)] = .error (.fault .infinityToInteger)) ∧
    (k.TakesExactly f v ↔ ¬ Color.IsCut v ∧ ¬ Color.MeetsInfinity v) :=
  ⟨fun _ => stores_color_iff hf hshape hv, built_color_infinite hf hshape,
    takesExactly_iff hf hshape hv⟩

/-- A numeral, bytes and a truth value, which all denote integers. -/
def denotingChannels : Value := .list [.text "\t1_0 ", .bytes [50], .bool true]

/-- What denotes an integer is taken as that integer. -/
theorem channels_taken_denoting :
    Kind.colorSource.Stores (.color "color" 209 209 209) denotingChannels
      (.color (.int 10) (.int 2) (.int 1) (.int 255)) ∧
    Kind.colorSource.TakesExactly (.color "color" 209 209 209) denotingChannels := by
  obtain ⟨hstores, _, hexact⟩ := channels_taken .colorSource (.color "color" 209 209 209)
    (List.mem_cons_self ..) rfl denotingChannels trivial
  have hgives : Color.Gives Value.ReadsAs denotingChannels
      (.color (.int 10) (.int 2) (.int 1) (.int 255)) :=
    (Color.ofValue_ok_iff (by trivial)).mp rfl
  refine ⟨(hstores _).mpr hgives, hexact.mpr ⟨?_, fun hinfinite => ?_⟩⟩
  · rintro ⟨_, _, x, n, ⟨⟩, hx, hcut⟩
    simp only [List.mem_cons, List.not_mem_nil, or_false] at hx
    rcases hx with rfl | rfl | rfl <;> cases hcut
  · cases Color.ofValue_infinite hinfinite

/-- The double 254.9 in front of two zeros. -/
def fractionChannels : Value := .list [.real ⟨0x406fdccccccccccd⟩, .int 0, .int 0]

/-- An infinity in front of two zeros. -/
def infinityChannels : Value := .list [.real ⟨0x7ff0000000000000⟩, .int 0, .int 0]

/-- 254.9 is taken as 254, and an infinity is neither taken nor refused. -/
theorem channels_cut :
    Kind.colorSource.Stores (.color "color" 209 209 209) fractionChannels
      (.color (.int 254) (.int 0) (.int 0) (.int 255)) ∧
    ¬ Kind.colorSource.TakesExactly (.color "color" 209 209 209) fractionChannels ∧
    ¬ Kind.colorSource.TakesExactly (.color "color" 209 209 209) infinityChannels := by
  have hfield : Field.color "color" 209 209 209 ∈ Kind.colorSource.fields :=
    List.mem_cons_self ..
  have hcut : (Value.real ⟨0x406fdccccccccccd⟩).CutTo 254 := by
    have htruncate : Double.truncate ⟨0x406fdccccccccccd⟩ = 254 := by decide +kernel
    rw [← htruncate]
    exact .intro (by decide +kernel) (by decide +kernel)
  have hzero : (Value.int 0).ReadsAs 0 := .inl (.number rfl rfl)
  have hgives : Color.Gives Value.ReadsAs fractionChannels
      (.color (.int 254) (.int 0) (.int 0) (.int 255)) :=
    ⟨_, [254, 0, 0], rfl, .cons (.inr hcut) (.cons hzero (.cons hzero .nil)),
      by simp [Color.IsByte], rfl⟩
  have hcollection : Color.IsCollection fractionChannels ∧ Color.IsCollection infinityChannels :=
    ⟨trivial, trivial⟩
  refine ⟨(stores_color_iff hfield rfl hcollection.1).mpr hgives, fun hexact => ?_,
    fun hexact => ?_⟩
  · exact ((takesExactly_iff hfield rfl hcollection.1).mp hexact).1
      ⟨⟨_, hgives⟩, _, _, _, rfl, List.mem_cons_self .., hcut⟩
  · exact ((takesExactly_iff hfield rfl hcollection.2).mp hexact).2
      ⟨_, rfl, [], _, _, rfl, List.forall_mem_nil _, by decide +kernel⟩

end Kind

end SceneSource
