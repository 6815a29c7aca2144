-- SUMMARY: A written bounding size reads back, a ratio that is a preset as the preset.
import SceneSource.BoundingSize
import SceneSource.Proofs.Numerals

/-!
# Bounding sizes

A preset is written as its text; ratios and sizes are written as two numbers with a separator
between them. Read again, the numbers are what they were, and only a ratio whose text is the
text of a preset becomes something else.
-/

namespace SceneSource

/-! ## Entries -/

namespace Integer

theorem fits_of_lt_ten {n : Int} (h : n.natAbs < 10) : fits n = true := by
  have hpow : ∀ k, 1 ≤ k → 10 ≤ Nat.pow 10 k := fun _ hk =>
    Nat.le_trans (Nat.le_of_eq (Nat.pow_one 10).symm) (Nat.pow_le_pow_right (by decide) hk)
  exact decide_eq_true (Nat.lt_of_lt_of_le h (hpow maxDigits (by decide)))

end Integer

namespace Value

/-- The integer of an integral value that is no truth value. -/
def whole? : Value → Option Int
  | bool _ => none
  | v => v.int?

/-- The number of an integer that is neither negative nor a truth value. -/
def count? : Value → Option Nat
  | bool _ => none
  | v => v.int?.bind Int.toNat?

/-- An integral value as the plain integer that it equals. -/
def plain (v : Value) : Value :=
  match v.int? with
  | some n => int n
  | none => v

theorem int?_of_whole? {v : Value} {n : Int} (h : v.whole? = some n) : v.int? = some n := by
  cases v with
  | bool b => cases h
  | _ => exact h

theorem int?_of_count? {v : Value} {n : Nat} (h : v.count? = some n) : v.int? = some (n : Int) := by
  have hbind : v.int?.bind Int.toNat? = some n := by
    cases v with
    | bool b => cases h
    | _ => exact h
  obtain ⟨m, hm, hn⟩ := Option.bind_eq_some_iff.mp hbind
  simp only [hm, Int.mem_toNat?.mp hn]

theorem plain_of_count? {v : Value} {n : Nat} (h : v.count? = some n) : v.plain = int n := by
  simp only [plain, int?_of_count? h]

theorem value_of_int?_choice {c : Choice} {n : Int} (h : (choice c).int? = some n) :
    c.value = .number n := by
  simp only [int?] at h
  cases hvalue : c.value with
  | text s =>
    simp only [hvalue] at h
    cases h
  | number m =>
    simp only [hvalue] at h
    cases h
    rfl

/-- The numbers of the enumerations have one digit. -/
theorem natAbs_number_lt_ten {c : Choice} {n : Int} (h : c.value = .number n) :
    n.natAbs < 10 := by
  cases c with
  | colorRange r => cases r <;> cases h <;> decide
  | colorSpace r => cases r <;> cases h <;> decide
  | videoRange r => cases r <;> cases h <;> decide
  | playback b => cases b <;> cases h
  | slideMode m => cases m <;> cases h
  | transition t => cases t <;> cases h
  | aspect p => cases h

/-- A count is shown by its digits. -/
theorem display_of_count? {v : Value} {n : Nat} (h : v.count? = some n) :
    v.display = String.ofList (Nat.toDigits 10 n) := by
  have hint := int?_of_count? h
  cases v with
  | bool b => cases h
  | int m =>
    cases hint
    rfl
  | flags m =>
    cases hint
    rfl
  | choice c =>
    unfold display
    simp only [value_of_int?_choice hint]
    rfl
  | _ => cases hint

theorem fits_of_count? {v : Value} {n : Nat} (h : v.count? = some n)
    (hsize : v.isOversize = false) : Integer.fits n = true := by
  have hint := int?_of_count? h
  cases v with
  | bool b => cases h
  | int m =>
    cases hint
    simpa [isOversize] using hsize
  | flags m =>
    cases hint
    simpa [isOversize] using hsize
  | choice c => exact Integer.fits_of_lt_ten (natAbs_number_lt_ten (value_of_int?_choice hint))
  | _ => cases hint

theorem isOversize_int {n : Nat} (h : Integer.fits n = true) : (int n).isOversize = false := by
  simp only [isOversize, h]
  rfl

end Value

/-! ## Numbers with a separator -/

namespace Text

theorem dropWhile_of_forall_not {p : Char → Bool} {cs : List Char} (h : ∀ c ∈ cs, p c = false) :
    cs.dropWhile p = cs := by
  cases cs with
  | nil => rfl
  | cons c rest =>
    apply List.dropWhile_cons_of_neg
    simpa using h c (List.mem_cons_self ..)

theorem trim_of_forall_not {p : Char → Bool} {cs : List Char} (h : ∀ c ∈ cs, p c = false) :
    trim p cs = cs := by
  have hreverse : ∀ c ∈ cs.reverse, p c = false := fun c hc => h c (List.mem_reverse.mp hc)
  rw [trim, dropWhile_of_forall_not h, dropWhile_of_forall_not hreverse, List.reverse_reverse]

theorem isBlank_of_isDigit {c : Char} (h : c.isDigit = true) : isBlank c = false := by
  have hbounds := isDigit_bounds h
  simp only [isBlank, Bool.or_eq_false_iff, Bool.and_eq_false_iff, decide_eq_false_iff_not,
    beq_eq_false_iff_ne]
  omega

theorem isDigit_of_isDigit {c : Char} (h : c.isDigit = true) : isDigit c = true := by
  simp only [isDigit, digitValue?_of_isDigit h]
  rfl

end Text

namespace BoundingSize

open SceneSource.Text

/-- Two numbers with a character between them. -/
def dimensions (c : Char) (width height : Nat) : String :=
  String.ofList (Nat.toDigits 10 width ++ c :: Nat.toDigits 10 height)

theorem blank_separator {c : Char} {sep : Separator} (h : separator? c = some sep) :
    isBlank c = false ∧ isDigit c = false := by
  unfold separator? at h
  split at h <;> first | cases h; done | exact ⟨by decide, by decide⟩

section Dimensions

variable {c : Char} {sep : Separator} (hsep : separator? c = some sep) (width height : Nat)
include hsep

theorem trim_dimensions :
    trim isBlank (Nat.toDigits 10 width ++ c :: Nat.toDigits 10 height) =
      Nat.toDigits 10 width ++ c :: Nat.toDigits 10 height := by
  apply trim_of_forall_not
  intro d hd
  rcases List.mem_append.mp hd with hd | hd
  · exact isBlank_of_isDigit (Integer.isDigit_toDigits d hd)
  · rcases List.mem_cons.mp hd with rfl | hd
    · exact (blank_separator hsep).1
    · exact isBlank_of_isDigit (Integer.isDigit_toDigits d hd)

/-- Two numbers come apart at the separator between them. -/
theorem split?_dimensions :
    split? (Nat.toDigits 10 width ++ c :: Nat.toDigits 10 height) =
      some (Nat.toDigits 10 width, sep, Nat.toDigits 10 height) := by
  obtain ⟨hblank, hdigit⟩ := blank_separator hsep
  have hdigits : ∀ n, ∀ d ∈ Nat.toDigits 10 n, isDigit d = true := fun _ d hd =>
    isDigit_of_isDigit (Integer.isDigit_toDigits d hd)
  have hblanks : ∀ d ∈ Nat.toDigits 10 height, isBlank d = false := fun d hd =>
    isBlank_of_isDigit (Integer.isDigit_toDigits d hd)
  have htake : (Nat.toDigits 10 width ++ c :: Nat.toDigits 10 height).takeWhile isDigit =
      Nat.toDigits 10 width := by
    rw [List.takeWhile_append_of_pos (hdigits width), List.takeWhile_cons_of_neg (by simp [hdigit]),
      List.append_nil]
  have hdrop : (Nat.toDigits 10 width ++ c :: Nat.toDigits 10 height).dropWhile isDigit =
      c :: Nat.toDigits 10 height := by
    rw [List.dropWhile_append_of_pos (hdigits width), List.dropWhile_cons_of_neg (by simp [hdigit])]
  have hcross : (c :: Nat.toDigits 10 height).dropWhile isBlank = c :: Nat.toDigits 10 height :=
    List.dropWhile_cons_of_neg (by simp [hblank])
  have hall : (Nat.toDigits 10 height).all isDigit = true := List.all_eq_true.mpr (hdigits height)
  simp [split?, trim_dimensions hsep, htake, hdrop, hcross, dropWhile_of_forall_not hblanks, hall,
    hsep]

theorem read_dimensions (shown : Value) (hwidth : Integer.fits width = true)
    (hheight : Integer.fits height = true) :
    read shown (dimensions c width height) =
      .ok (match AspectPreset.ofText? (dimensions c width height) with
        | some preset => .choice (.aspect preset)
        | none => make sep width height) := by
  have hnumber : ∀ n : Nat, Integer.fits n = true → number (Nat.toDigits 10 n) = .ok n := by
    intro n hn
    simp only [number, Integer.readDigits_toDigits hn]
  simp only [read, dimensions, String.toList_ofList, trim_dimensions hsep]
  cases AspectPreset.ofText? _ with
  | some preset => rfl
  | none =>
    simp only [split?_dimensions hsep, hnumber _ hwidth, hnumber _ hheight]
    rfl

end Dimensions

/-- No preset is written like a size in pixels. -/
theorem ofText?_cross (width height : Nat) :
    AspectPreset.ofText? (dimensions 'x' width height) = none := by
  have hpresets : ∀ p ∈ AspectPreset.all, 'x' ∉ p.text.toList := by decide
  refine List.find?_eq_none.mpr fun p hp heq => hpresets p hp ?_
  have htext : p.text = dimensions 'x' width height := by simpa using heq
  simp only [htext, dimensions, String.toList_ofList]
  exact List.mem_append_right _ (List.mem_cons_self ..)

theorem read_preset (shown : Value) (p : AspectPreset) :
    read shown p.text = .ok (.choice (.aspect p)) := by
  have htrim : String.ofList (trim isBlank p.text.toList) = p.text := by
    cases p <;> decide
  simp only [read, htrim, AspectPreset.ofText?_text]

/-! ## Bounding sizes in documents -/

/-- A bounding size as it comes out of its text. -/
def settled (v : Value) : Value :=
  match v with
  | .ratio w h => match AspectPreset.ofText? v.display with
    | some preset => .choice (.aspect preset)
    | none => .ratio w.plain h.plain
  | .size w h => .size w.plain h.plain
  | v => v

/-- That the entries of a ratio or a size are counts. -/
def IsCounted : Value → Prop
  | .ratio w h | .size w h => w.count?.isSome ∧ h.count?.isSome
  | _ => True

/-- That a value is what a field for bounding sizes stores. -/
def IsStored : Value → Prop
  | .choice (.aspect _) | .ratio .. | .size .. => True
  | _ => False

/-- What is written for a bounding size, and that what is read from that is written alike. -/
structure Settles (v : Value) (s : String) : Prop where
  format_eq : format v = .ok s
  read_eq : read (.text s) s = .ok (settled v)
  format_settled : format (settled v) = .ok s

theorem settles_preset (p : AspectPreset) : Settles (.choice (.aspect p)) p.text :=
  ⟨rfl, read_preset _ p, rfl⟩

section Entries

variable {w h : Value} {m n : Nat} (hw : w.count? = some m) (hh : h.count? = some n)
include hw hh

theorem display_ratio : (Value.ratio w h).display = dimensions ':' m n := by
  simp only [Value.display, Value.display_of_count? hw, Value.display_of_count? hh, dimensions]
  simp [String.ofList_append, String.append_assoc]

theorem display_size : (Value.size w h).display = dimensions 'x' m n := by
  simp only [Value.display, Value.display_of_count? hw, Value.display_of_count? hh, dimensions]
  simp [String.ofList_append, String.append_assoc]

theorem format_ratio (hsize : (Value.ratio w h).isOversize = false) :
    format (.ratio w h) = .ok (dimensions ':' m n) := by
  simp only [format, Value.display?, hsize, display_ratio hw hh]
  rfl

theorem format_size (hsize : (Value.size w h).isOversize = false) :
    format (.size w h) = .ok (dimensions 'x' m n) := by
  simp only [format, Value.display?, hsize, display_size hw hh]
  rfl

end Entries

section Numbers

variable {m n : Nat} (hm : Integer.fits m = true) (hn : Integer.fits n = true)
include hm hn

theorem format_ratio_int :
    format (.ratio (.int m) (.int n)) = .ok (dimensions ':' m n) := by
  apply format_ratio rfl rfl
  rw [Value.isOversize, Value.isOversize_int hm, Value.isOversize_int hn]
  rfl

theorem format_size_int :
    format (.size (.int m) (.int n)) = .ok (dimensions 'x' m n) := by
  apply format_size rfl rfl
  rw [Value.isOversize, Value.isOversize_int hm, Value.isOversize_int hn]
  rfl

end Numbers

section Settles

variable {w h : Value} {m n : Nat} (hw : w.count? = some m) (hh : h.count? = some n)
  (hsizew : w.isOversize = false) (hsizeh : h.isOversize = false)
include hw hh hsizew hsizeh

theorem settles_ratio : Settles (.ratio w h) (dimensions ':' m n) := by
  have hm := Value.fits_of_count? hw hsizew
  have hn := Value.fits_of_count? hh hsizeh
  have hsettled : settled (.ratio w h) = match AspectPreset.ofText? (dimensions ':' m n) with
      | some preset => .choice (.aspect preset)
      | none => .ratio (.int m) (.int n) := by
    simp only [settled, display_ratio hw hh, Value.plain_of_count? hw, Value.plain_of_count? hh]
  refine ⟨format_ratio hw hh (by simp only [Value.isOversize, hsizew, hsizeh]; rfl), ?_, ?_⟩
  · rw [read_dimensions rfl m n _ hm hn, hsettled]
    rfl
  · simp only [hsettled]
    split
    · rename_i preset hpreset
      have htext : preset.text = dimensions ':' m n := by simpa using List.find?_some hpreset
      simp only [format, htext]
    · exact format_ratio_int hm hn

theorem settles_size : Settles (.size w h) (dimensions 'x' m n) := by
  have hm := Value.fits_of_count? hw hsizew
  have hn := Value.fits_of_count? hh hsizeh
  have hsettled : settled (.size w h) = .size (.int m) (.int n) := by
    simp only [settled, Value.plain_of_count? hw, Value.plain_of_count? hh]
  refine ⟨format_size hw hh (by simp only [Value.isOversize, hsizew, hsizeh]; rfl), ?_, ?_⟩
  · rw [read_dimensions rfl m n _ hm hn, ofText?_cross, hsettled]
    rfl
  · simp only [hsettled]
    exact format_size_int hm hn

end Settles

/-- A bounding size is read from what is written for it. -/
theorem exists_settles {v : Value} (hstored : IsStored v) (hcounted : IsCounted v)
    (hsize : v.isOversize = false) : ∃ s, Settles v s := by
  unfold IsStored at hstored
  split at hstored
  · exact ⟨_, settles_preset _⟩
  · rename_i w h
    obtain ⟨hw, hh⟩ := hcounted
    obtain ⟨m, hm⟩ := Option.isSome_iff_exists.mp hw
    obtain ⟨n, hn⟩ := Option.isSome_iff_exists.mp hh
    obtain ⟨hsizew, hsizeh⟩ := Bool.or_eq_false_iff.mp hsize
    exact ⟨_, settles_ratio hm hn hsizew hsizeh⟩
  · rename_i w h
    obtain ⟨hw, hh⟩ := hcounted
    obtain ⟨m, hm⟩ := Option.isSome_iff_exists.mp hw
    obtain ⟨n, hn⟩ := Option.isSome_iff_exists.mp hh
    obtain ⟨hsizew, hsizeh⟩ := Bool.or_eq_false_iff.mp hsize
    exact ⟨_, settles_size hm hn hsizew hsizeh⟩
  · exact hstored.elim

end BoundingSize

end SceneSource
