-- SUMMARY: Writing and reading bounding sizes undo each other, but for ratios that are presets.
import SceneSource.Proofs.Outcomes
import SceneSource.Proofs.SizeGrammar
import SceneSource.Value.Equality

/-!
# Bounding sizes there and back

What is written for a bounding size is read as the same bounding size again. There are two
exceptions: a ratio that is written like a preset is read as the preset, and nothing with a
negative entry can be read at all. What is read from any text is written to a text that stays as
it is from then on.
-/

namespace SceneSource

namespace Value

theorem count?_of_whole? {v : Value} {n : Nat} (h : v.whole? = some (n : Int)) :
    v.count? = some n := by
  have hint := int?_of_whole? h
  have hbind : v.int?.bind Int.toNat? = some n := by
    rw [hint]
    rfl
  cases v with
  | bool b => cases h
  | _ => exact hbind

/-- An integral value is equal to the plain integer. -/
theorem agrees_plain {v : Value} {n : Int} (h : v.int? = some n) : v.agrees v.plain = true := by
  have hatoms : agreeAtoms v (int n) = true := by
    have hnumber : v.number? = some (.int n) := by
      cases v with
      | real d => cases h
      | _ => simp only [number?, h, Option.map_some]
    simp only [agreeAtoms, hnumber]
    simp [number?, int?, Number.same]
  simp only [plain, h]
  cases v with
  | bool | int | flags | choice => simpa only [agrees] using hatoms
  | _ => cases h

/-- A negative integer is shown with a minus. -/
theorem minus_mem_display {v : Value} {n : Int} (h : v.int? = some n) (hn : n < 0) :
    '-' ∈ v.display.toList := by
  have hminus : '-' ∈ (toString n).toList := by
    cases n with
    | ofNat m => exact absurd hn (Int.not_lt.mpr (Int.natCast_nonneg m))
    | negSucc m =>
      change '-' ∈ ("-" ++ Nat.repr (m + 1)).toList
      simp
  cases v with
  | bool b =>
    cases h
    cases b <;> cases hn
  | int m =>
    cases h
    exact hminus
  | flags m =>
    cases h
    exact absurd hn (Int.not_lt.mpr (Int.natCast_nonneg m))
  | choice c =>
    unfold display
    simp only [value_of_int?_choice h]
    exact hminus
  | _ => cases h

end Value

namespace Integer

open SceneSource.Text

theorem decimal_lt {cs : List Char} (h : ∀ c ∈ cs, (digitValue? c).isSome) :
    decimal cs < Nat.pow 10 cs.length := by
  induction cs with
  | nil => exact Nat.one_pos
  | cons c rest ih =>
    obtain ⟨hc, hrest⟩ := List.forall_mem_cons.mp h
    obtain ⟨d, hd⟩ := Option.isSome_iff_exists.mp hc
    have hdigit : d ≤ 9 := by
      obtain ⟨z, hz, rfl⟩ := Option.map_eq_some_iff.mp hd
      have hrange := List.find?_some hz
      simp only [Bool.and_eq_true, decide_eq_true_eq] at hrange
      omega
    have hpow : Nat.pow 10 (rest.length + 1) = Nat.pow 10 rest.length * 10 := rfl
    have hfront : d * Nat.pow 10 rest.length ≤ 9 * Nat.pow 10 rest.length :=
      Nat.mul_le_mul_right _ hdigit
    have hback := ih hrest
    simp only [decimal, hd, Option.getD_some, List.length_cons, hpow]
    omega

/-- What is read from a numeral has few enough digits to be written. -/
theorem fits_of_readDigits {cs : List Char} (h : IsNumeral cs) {n : Nat}
    (hread : readDigits cs = .ok n) : fits n = true := by
  have hsome := h.isSome_digitValue?
  by_cases hlength : cs.length ≤ maxDigits
  · obtain rfl := Except.ok.inj ((readDigits_numeral h hlength).symm.trans hread)
    have hpow : ∀ k, cs.length ≤ k → decimal cs < Nat.pow 10 k := fun k hk =>
      Nat.lt_of_lt_of_le (decimal_lt hsome) (Nat.pow_le_pow_right (by decide) hk)
    exact decide_eq_true (hpow maxDigits hlength)
  · have hcount : (cs.filterMap digitValue?).length = cs.length :=
      List.filterMap_length_eq_length.mpr hsome
    have hlong : maxDigits < (cs.filterMap digitValue?).length := by omega
    unfold readDigits at hread
    simp only [digitRun_of_digits rfl hsome, hlong, if_true] at hread
    split at hread <;> cases hread

end Integer

namespace BoundingSize

open SceneSource.Text

/-! ## Entries -/

/-- That the entries of a ratio or a size are integers, and no truth values. -/
def IsWhole : Value → Prop
  | .ratio w h | .size w h => w.whole?.isSome ∧ h.whole?.isSome
  | _ => True

/-- That a ratio or a size has a negative entry. -/
def HasNegative : Value → Prop
  | .ratio w h | .size w h => ∃ e n, (e = w ∨ e = h) ∧ e.whole? = some n ∧ n < 0
  | _ => False

/-- A bounding size with plain integers for its entries. -/
def plainEntries : Value → Value
  | .ratio w h => .ratio w.plain h.plain
  | .size w h => .size w.plain h.plain
  | v => v

theorem isCounted_of_isWhole {v : Value} (hwhole : IsWhole v) (hnegative : ¬ HasNegative v) :
    IsCounted v := by
  have hcount : ∀ {e : Value}, e.whole?.isSome → (∀ n, e.whole? = some n → ¬ n < 0) →
      e.count?.isSome := by
    intro e hsome hnonneg
    obtain ⟨n, hn⟩ := Option.isSome_iff_exists.mp hsome
    obtain ⟨m, rfl⟩ := Int.eq_ofNat_of_zero_le (Int.not_lt.mp (hnonneg n hn))
    exact Option.isSome_of_eq_some (Value.count?_of_whole? hn)
  cases v with
  | ratio w h | size w h =>
    exact ⟨hcount hwhole.1 fun n hn hneg => hnegative ⟨w, n, .inl rfl, hn, hneg⟩,
      hcount hwhole.2 fun n hn hneg => hnegative ⟨h, n, .inr rfl, hn, hneg⟩⟩
  | _ => trivial

/-- A bounding size is equal to itself with plain entries. -/
theorem equal_plainEntries {v : Value} (hstored : IsStored v) (hwhole : IsWhole v) :
    v.equal (plainEntries v) = true := by
  have hplain : ∀ {e : Value}, e.whole?.isSome → e.agrees e.plain = true := by
    intro e hsome
    obtain ⟨n, hn⟩ := Option.isSome_iff_exists.mp hsome
    exact Value.agrees_plain (Value.int?_of_whole? hn)
  unfold IsStored at hstored
  split at hstored
  · simp [plainEntries, Value.equal, Value.agrees, Value.agreeAtoms, Value.number?, Value.int?,
      Value.text?, Choice.value]
  · simp only [plainEntries, Value.equal, Value.agrees, hplain hwhole.1, hplain hwhole.2,
      Bool.and_self]
  · simp only [plainEntries, Value.equal, Value.agrees, hplain hwhole.1, hplain hwhole.2,
      Bool.and_self]
  · exact hstored.elim

/-! ## Nothing negative is read -/

theorem not_mem_of_padded {c : Char} {inner cs : List Char} (hblank : isBlank c = false)
    (hinner : c ∉ inner) (h : Padded inner cs) : c ∉ cs := by
  obtain ⟨before, after, hbefore, hafter, rfl⟩ := h
  have habsent : ∀ {blanks : List Char}, AllBlank blanks → c ∉ blanks := fun hblanks hc =>
    absurd (hblanks c hc) (by simp [hblank])
  simp only [List.mem_append, not_or]
  exact ⟨⟨habsent hbefore, hinner⟩, habsent hafter⟩

/-- A text with a minus denotes nothing. -/
theorem not_denotes_of_minus {cs : List Char} (hminus : '-' ∈ cs) (v : Value) :
    ¬ Denotes cs v := by
  have hform : ∀ {sep first second}, ¬ Form sep first second cs := by
    rintro sep first second ⟨hfirst, hsecond, left, c, right, hc, hleft, hright, rfl⟩
    have hnumeral : ∀ {digits : List Char}, IsNumeral digits → '-' ∉ digits := fun h hmem =>
      absurd (h.digits _ hmem) (by decide)
    rcases List.mem_append.mp hminus with hmem | hmem
    · exact not_mem_of_padded (by decide) (hnumeral hfirst) hleft hmem
    · rcases List.mem_cons.mp hmem with rfl | hmem
      · cases hc
      · exact not_mem_of_padded (by decide) (hnumeral hsecond) hright hmem
  intro h
  cases h with
  | @preset p hp => exact not_mem_of_padded (by decide) (by cases p <;> decide) hp hminus
  | ratio _ h => exact hform h
  | size _ h => exact hform h

theorem minus_mem_of_negative {v : Value} (h : HasNegative v) : '-' ∈ v.display.toList := by
  cases v with
  | ratio w h | size w h =>
    obtain ⟨e, n, he, hn, hneg⟩ := h
    have hmem := Value.minus_mem_display (Value.int?_of_whole? hn) hneg
    rcases he with rfl | rfl <;> simp [Value.display, hmem]
  | _ => exact h.elim

theorem format_ratio_display {w h : Value} (hsize : (Value.ratio w h).isOversize = false) :
    format (.ratio w h) = .ok (Value.ratio w h).display := by
  simp only [format, Value.display?, hsize]
  rfl

theorem format_of_negative {v : Value} (h : HasNegative v) (hsize : v.isOversize = false) :
    format v = .ok v.display := by
  cases v with
  | ratio w h => exact format_ratio_display hsize
  | size w h =>
    simp only [format, Value.display?, hsize]
    rfl
  | _ => exact h.elim

/-! ## Round trips -/

/-- What becomes of a bounding size on the way through its text. -/
structure RoundTrips (v : Value) (s : String) : Prop where
  writes : format v = .ok s
  /-- It is read again exactly if no entry is negative. -/
  reads_iff : (∃ r, parse (.text s) = .ok r) ↔ ¬ HasNegative v
  /-- A ratio that is written like a preset becomes the preset. -/
  preset : ∀ w h p, v = .ratio w h → s = AspectPreset.text p →
    parse (.text s) = .ok (.choice (.aspect p))
  /-- Everything else becomes itself, with plain entries. -/
  same : ∀ r, parse (.text s) = .ok r → (∀ w h p, v = .ratio w h → s ≠ AspectPreset.text p) →
    r = plainEntries v ∧ v.equal r = true
  /-- What is read is written alike. -/
  again : ∀ r, parse (.text s) = .ok r → format r = .ok s
  /-- Ratios and sizes are never taken for each other. -/
  kept : ∀ r w h w' h', parse (.text s) = .ok r →
    (v = .ratio w h → r ≠ .size w' h') ∧ (v = .size w h → r ≠ .ratio w' h')

theorem roundTrips_of_negative {v : Value} (hnegative : HasNegative v)
    (hsize : v.isOversize = false) : RoundTrips v v.display := by
  have hrefused : ∀ r, parse (.text v.display) ≠ .ok r := by
    intro r hr
    have hnone := not_denotes_of_minus (minus_mem_of_negative hnegative)
    cases hr.symm.trans (parse_of_not_denotes hnone)
  exact {
    writes := format_of_negative hnegative hsize
    reads_iff := ⟨fun ⟨r, hr⟩ => (hrefused r hr).elim, fun h => (h hnegative).elim⟩
    preset := fun _ _ p _ hs => hs ▸ read_preset _ p
    same := fun r hr _ => (hrefused r hr).elim
    again := fun r hr => (hrefused r hr).elim
    kept := fun r _ _ _ _ hr => (hrefused r hr).elim }

/-- A bounding size settles as itself, but for ratios that are presets. -/
theorem settled_eq_plainEntries {v : Value} {s : String} (hwrites : format v = .ok s)
    (hsize : v.isOversize = false) (hpreset : ∀ w h p, v = .ratio w h → s ≠ AspectPreset.text p) :
    settled v = plainEntries v := by
  cases v with
  | ratio w h =>
    obtain rfl := Except.ok.inj (hwrites.symm.trans (format_ratio_display hsize))
    have hnone : AspectPreset.ofText? (Value.ratio w h).display = none := by
      refine List.find?_eq_none.mpr fun p _ hp => hpreset w h p rfl ?_
      exact (beq_iff_eq.mp hp).symm
    simp only [settled, hnone, plainEntries]
  | _ => rfl

theorem settled_ne_size {w h w' h' : Value} : settled (.ratio w h) ≠ .size w' h' := by
  intro h
  simp only [settled] at h
  split at h <;> cases h

theorem roundTrips_of_settles {v : Value} {s : String} (h : Settles v s) (hstored : IsStored v)
    (hwhole : IsWhole v) (hnegative : ¬ HasNegative v) (hsize : v.isOversize = false) :
    RoundTrips v s := by
  have hread : ∀ {r}, parse (.text s) = .ok r → r = settled v := fun hr =>
    Except.ok.inj (hr.symm.trans h.read_eq)
  exact {
    writes := h.format_eq
    reads_iff := ⟨fun _ => hnegative, fun _ => ⟨_, h.read_eq⟩⟩
    preset := fun _ _ p _ hs => hs ▸ read_preset _ p
    same := by
      intro r hr hpreset
      obtain rfl : r = plainEntries v :=
        (hread hr).trans (settled_eq_plainEntries h.format_eq hsize hpreset)
      exact ⟨rfl, equal_plainEntries hstored hwhole⟩
    again := fun r hr => hread hr ▸ h.format_settled
    kept := by
      intro r w h w' h' hr
      obtain rfl := hread hr
      constructor
      · rintro rfl
        exact settled_ne_size
      · rintro rfl hsettled
        cases hsettled }

/-! ## What is read is settled -/

theorem fits_of_number {cs : List Char} (h : IsNumeral cs) {n : Int} (hn : number cs = .ok n) :
    ∃ m : Nat, n = m ∧ Integer.fits m = true := by
  unfold number at hn
  split at hn
  · rename_i m hm
    cases hn
    exact ⟨m, rfl, Integer.fits_of_readDigits h hm⟩
  · cases hn
  · cases hn

/-- What is read from a text can be written and read again. -/
theorem exists_settles_of_read {t : String} {r : Value} (h : read (.text t) t = .ok r) :
    ∃ s, Settles r s := by
  unfold read at h
  split at h
  · rename_i p _
    cases h
    exact ⟨_, settles_preset p⟩
  · split at h
    · rename_i first sep second hsplit
      obtain ⟨width, hwidth, h⟩ := Outcome.bind_eq_ok h
      obtain ⟨height, hheight, h⟩ := Outcome.bind_eq_ok h
      cases h
      have hform := form_of_split? hsplit
      obtain ⟨m, rfl, hm⟩ := fits_of_number hform.first_numeral hwidth
      obtain ⟨n, rfl, hn⟩ := fits_of_number hform.second_numeral hheight
      have hm := Value.isOversize_int hm
      have hn := Value.isOversize_int hn
      cases sep with
      | colon => exact ⟨_, settles_ratio rfl rfl hm hn⟩
      | cross => exact ⟨_, settles_size rfl rfl hm hn⟩
    · obtain ⟨shown, _, h⟩ := Outcome.bind_eq_ok h
      cases h

/-- Writing and reading bounding sizes undo each other, up to ratios that are presets and
    without negative entries. What is read from a text is written to a text that stays. -/
theorem format_parse :
    (∀ v, IsStored v → IsWhole v → v.isOversize = false → ∃ s, RoundTrips v s) ∧
    ∀ t r, parse (.text t) = .ok r → ∃ s r', format r = .ok s ∧ parse (.text s) = .ok r' ∧
      format r' = .ok s := by
  constructor
  · intro v hstored hwhole hsize
    by_cases hnegative : HasNegative v
    · exact ⟨_, roundTrips_of_negative hnegative hsize⟩
    · have hcounted := isCounted_of_isWhole hwhole hnegative
      obtain ⟨s, hs⟩ := exists_settles hstored hcounted hsize
      exact ⟨s, roundTrips_of_settles hs hstored hwhole hnegative hsize⟩
  · intro t r h
    obtain ⟨s, hs⟩ := exists_settles_of_read h
    exact ⟨s, settled r, hs.format_eq, hs.read_eq, hs.format_settled⟩

/-- The ratio `4:3` makes its way to the preset, and so does what is read from `016:9`, which is
    no preset. -/
theorem format_parse_presets :
    (∃ s, RoundTrips (.ratio (.int 4) (.int 3)) s) ∧
    ∃ s r', format (.ratio (.int 16) (.int 9)) = .ok s ∧ parse (.text s) = .ok r' ∧
      format r' = .ok s := by
  have hsize : (Value.ratio (.int 4) (.int 3)).isOversize = false := by
    simp only [Value.isOversize, Integer.fits_of_lt_ten (n := 4) (by decide),
      Integer.fits_of_lt_ten (n := 3) (by decide)]
    rfl
  exact ⟨format_parse.1 _ trivial ⟨rfl, rfl⟩ hsize, format_parse.2 "016:9" _ rfl⟩

end BoundingSize

end SceneSource
