-- SUMMARY: Which texts are bounding sizes, and which bounding size each of them denotes.
import Mathlib.Data.List.Basic
import Mathlib.Data.List.TakeWhile
import Mathlib.Tactic.Ring
import SceneSource.Proofs.BoundingSizes
import SceneSource.Proofs.NumeralGrammar

/-!
# The grammar of bounding sizes

A bounding size is, between blanks, the text of a preset, or two runs of digits with a separator
between them and blanks around each of the three. The grammar says which texts have which of
these forms, without saying how they are read. Reading accepts these texts and no others; where a
preset is written like a ratio it is the preset, and nothing else is ambiguous.
-/

namespace SceneSource

namespace Text

/-! ## Blanks around a text -/

/-- That characters are blank. -/
def AllBlank (cs : List Char) : Prop := ∀ c ∈ cs, isBlank c = true

/-- That a text is another one with blanks around it. -/
def Padded (inner cs : List Char) : Prop :=
  ∃ before after, AllBlank before ∧ AllBlank after ∧ cs = before ++ inner ++ after

theorem allBlank_takeWhile (cs : List Char) : AllBlank (cs.takeWhile isBlank) :=
  List.all_eq_true.mp List.all_takeWhile

/-- Trimming drops blanks only. -/
theorem padded_trim (cs : List Char) : Padded (trim isBlank cs) cs := surrounded_trim isBlank cs

/-- Trimming drops all blanks around a text that has none at its own ends. -/
theorem trim_of_padded {inner cs : List Char} (h : Padded inner cs)
    (hhead : ∀ c ∈ inner.head?, isBlank c = false)
    (hlast : ∀ c ∈ inner.getLast?, isBlank c = false) : trim isBlank cs = inner :=
  trim_of_surrounded h hhead hlast

/-! ## Digits -/

/-- That characters are digits, and at least one. -/
structure IsNumeral (cs : List Char) : Prop where
  nonempty : cs ≠ []
  digits : ∀ c ∈ cs, isDigit c = true

/-- The number that digits denote, the highest of them first. -/
def decimal : List Char → Nat
  | [] => 0
  | c :: rest => (digitValue? c).getD 0 * Nat.pow 10 rest.length + decimal rest

/-- No script has a digit that is blank. -/
theorem isBlank_of_digit {c : Char} (h : isDigit c = true) : isBlank c = false := by
  have hzeros : ∀ z ∈ digitZeros, 33 ≤ z ∧ (z + 9 < 0x85 ∨ 0xA0 < z) ∧
      (z + 9 < 0x1680 ∨ 0x1680 < z) ∧ (z + 9 < 0x2000 ∨ 0x205F < z) ∧
      (z + 9 < 0x3000 ∨ 0x3000 < z) := by decide
  obtain ⟨_, hvalue⟩ := Option.isSome_iff_exists.mp h
  obtain ⟨z, hz, _⟩ := Option.map_eq_some_iff.mp hvalue
  have hrange := List.find?_some hz
  have hzero := hzeros z (List.mem_of_find?_eq_some hz)
  simp only [Bool.and_eq_true, decide_eq_true_eq] at hrange
  simp only [isBlank, Bool.or_eq_false_iff, Bool.and_eq_false_iff, decide_eq_false_iff_not,
    beq_eq_false_iff_ne]
  omega

theorem isDigit_of_blank {c : Char} (h : isBlank c = true) : isDigit c = false := by
  cases hdigit : isDigit c with
  | false => rfl
  | true => exact (isBlank_of_digit hdigit).symm.trans h |>.symm

namespace IsNumeral

variable {cs : List Char} (h : IsNumeral cs)
include h

theorem head_not_blank : ∀ c ∈ cs.head?, isBlank c = false := fun c hc =>
  isBlank_of_digit (h.digits c (List.mem_of_head? hc))

theorem last_not_blank : ∀ c ∈ cs.getLast?, isBlank c = false := fun c hc =>
  isBlank_of_digit (h.digits c (List.mem_of_getLast? hc))

theorem isSome_digitValue? : ∀ c ∈ cs, (digitValue? c).isSome := h.digits

end IsNumeral

end Text

/-! ## The number of a numeral -/

namespace Integer

open SceneSource.Text

theorem foldl_digits {cs : List Char} (h : ∀ c ∈ cs, (digitValue? c).isSome) (n : Nat) :
    (cs.filterMap digitValue?).foldl (fun n d => 10 * n + d) n =
      n * Nat.pow 10 cs.length + decimal cs := by
  induction cs generalizing n with
  | nil => exact (Nat.mul_one n).symm
  | cons c rest ih =>
    obtain ⟨hc, hrest⟩ := List.forall_mem_cons.mp h
    obtain ⟨d, hd⟩ := Option.isSome_iff_exists.mp hc
    have hpow : Nat.pow 10 (rest.length + 1) = Nat.pow 10 rest.length * 10 := rfl
    simp only [List.filterMap_cons_some hd, List.foldl_cons, ih hrest, decimal, hd,
      Option.getD_some, List.length_cons, hpow]
    ring

/-- Digits are read as the number that they denote. -/
theorem readDigits_numeral {cs : List Char} (h : IsNumeral cs) (hlength : cs.length ≤ maxDigits) :
    readDigits cs = .ok (decimal cs) := by
  have hsome := h.isSome_digitValue?
  have hcount : (cs.filterMap digitValue?).length = cs.length :=
    List.filterMap_length_eq_length.mpr hsome
  have hnonempty : (cs.filterMap digitValue?).isEmpty = false := by
    rw [List.isEmpty_eq_false_iff, ← List.length_pos_iff, hcount]
    exact List.length_pos_iff.mpr h.nonempty
  have hnumber : ofDigits (cs.filterMap digitValue?) = decimal cs := by
    simpa [ofDigits] using foldl_digits hsome 0
  unfold readDigits
  simp only [digitRun_of_digits rfl hsome, hnonempty, hcount, Nat.not_lt.mpr hlength, hnumber]
  rfl

end Integer

namespace BoundingSize

open SceneSource.Text

/-! ## The grammar -/

/-- How a separator is written. -/
inductive Separator.Written : Separator → Char → Prop
  | colon : Written colon ':'
  | lower : Written cross 'x'
  | upper : Written cross 'X'

/-- That a text has two numerals with a separator between them, and blanks around each of the
    three. -/
structure Form (sep : Separator) (first second cs : List Char) : Prop where
  first_numeral : IsNumeral first
  second_numeral : IsNumeral second
  layout : ∃ left c right, sep.Written c ∧ Padded first left ∧ Padded second right ∧
    cs = left ++ c :: right

/-- The bounding size that a text denotes. A preset comes before everything else. -/
inductive Denotes (cs : List Char) : Value → Prop
  | preset {p : AspectPreset} (h : Padded p.text.toList cs) : Denotes cs (.choice (.aspect p))
  | ratio {first second : List Char} (hnone : ∀ p : AspectPreset, ¬ Padded p.text.toList cs)
      (h : Form .colon first second cs) :
      Denotes cs (.ratio (.int (decimal first)) (.int (decimal second)))
  | size {first second : List Char} (hnone : ∀ p : AspectPreset, ¬ Padded p.text.toList cs)
      (h : Form .cross first second cs) :
      Denotes cs (.size (.int (decimal first)) (.int (decimal second)))

theorem written_iff {sep : Separator} {c : Char} : sep.Written c ↔ separator? c = some sep := by
  constructor
  · rintro ⟨⟩ <;> rfl
  · intro h
    unfold separator? at h
    split at h
    · cases h
      exact .colon
    · cases h
      exact .lower
    · cases h
      exact .upper
    · cases h

/-! ## Splitting -/

theorem form_of_split? {cs first second : List Char} {sep : Separator}
    (h : split? cs = some (first, sep, second)) : Form sep first second cs := by
  unfold split? at h
  simp only at h
  split at h
  · cases h
  · rename_i c rest hrest
    split at h
    · cases h
    · rename_i hnumerals
      obtain ⟨sep', hsep, heq⟩ := Option.map_eq_some_iff.mp h
      cases heq
      simp only [Bool.or_eq_true, not_or, List.isEmpty_iff, Bool.not_eq_true',
        Bool.not_eq_false] at hnumerals
      obtain ⟨⟨hfirst, hsecond⟩, hdigits⟩ := hnumerals
      -- what the digits of the first numeral leave is blanks, the separator and the rest
      obtain ⟨before, after, hbefore, hafter, hcs⟩ := padded_trim cs
      refine ⟨⟨hfirst, List.all_eq_true.mp List.all_takeWhile⟩,
        ⟨hsecond, List.all_eq_true.mp hdigits⟩,
        before ++ (trim isBlank cs).takeWhile isDigit ++
          ((trim isBlank cs).dropWhile isDigit).takeWhile isBlank, c,
        rest.takeWhile isBlank ++ rest.dropWhile isBlank ++ after, written_iff.mpr hsep,
        ⟨_, _, hbefore, allBlank_takeWhile _, rfl⟩, ⟨_, _, allBlank_takeWhile _, hafter, rfl⟩, ?_⟩
      calc cs = before ++ trim isBlank cs ++ after := hcs
        _ = before ++ ((trim isBlank cs).takeWhile isDigit ++
              (((trim isBlank cs).dropWhile isDigit).takeWhile isBlank ++ c :: rest)) ++ after := by
          rw [← hrest, List.takeWhile_append_dropWhile, List.takeWhile_append_dropWhile]
        _ = _ := by
          simp only [List.takeWhile_append_dropWhile, List.append_assoc, List.cons_append]

theorem split?_of_form {cs first second : List Char} {sep : Separator}
    (h : Form sep first second cs) : split? cs = some (first, sep, second) := by
  obtain ⟨hfirst, hsecond, _, c, _, hsep, ⟨before, left, hbefore, hleft, rfl⟩,
    ⟨right, after, hright, hafter, rfl⟩, rfl⟩ := h
  have hseparator := written_iff.mp hsep
  obtain ⟨hblank, hdigit⟩ := blank_separator hseparator
  have htrim : trim isBlank (before ++ first ++ left ++ c :: (right ++ second ++ after)) =
      first ++ (left ++ c :: (right ++ second)) := by
    refine trim_of_padded ⟨before, after, hbefore, hafter, ?_⟩ ?_ ?_
    · simp only [List.append_assoc, List.cons_append]
    · rw [List.head?_append_of_ne_nil _ hfirst.nonempty]
      exact hfirst.head_not_blank
    · have hlast : first ++ (left ++ c :: (right ++ second)) =
          (first ++ (left ++ c :: right)) ++ second := by
        simp only [List.append_assoc, List.cons_append]
      rw [hlast, List.getLast?_append_of_ne_nil _ hsecond.nonempty]
      exact hsecond.last_not_blank
  -- behind the first numeral stands a blank or the separator, which is no digit
  have hstop : ∀ d ∈ (left ++ c :: (right ++ second)).head?, isDigit d = false := by
    cases left with
    | nil =>
      rintro _ ⟨⟩
      exact hdigit
    | cons d rest =>
      rintro _ ⟨⟩
      exact isDigit_of_blank (hleft d (List.mem_cons_self ..))
  have htake : (first ++ (left ++ c :: (right ++ second))).takeWhile isDigit = first := by
    rw [List.takeWhile_append_of_pos hfirst.digits, takeWhile_of_head hstop, List.append_nil]
  have hcross : ((first ++ (left ++ c :: (right ++ second))).dropWhile isDigit).dropWhile isBlank =
      c :: (right ++ second) := by
    rw [List.dropWhile_append_of_pos hfirst.digits, dropWhile_of_head hstop,
      List.dropWhile_append_of_pos hleft, List.dropWhile_cons_of_neg (by simp [hblank])]
  have hrest : (right ++ second).dropWhile isBlank = second := by
    rw [List.dropWhile_append_of_pos hright, dropWhile_of_head hsecond.head_not_blank]
  have hall : second.all isDigit = true := List.all_eq_true.mpr hsecond.digits
  have hempty : first.isEmpty = false ∧ second.isEmpty = false :=
    ⟨List.isEmpty_eq_false_iff.mpr hfirst.nonempty, List.isEmpty_eq_false_iff.mpr hsecond.nonempty⟩
  simp only [split?, htrim, htake, hcross, hrest, hall, hempty, hseparator]
  rfl

/-- A text has its form in one way only. -/
theorem Form.unique {cs first second first' second' : List Char} {sep sep' : Separator}
    (h : Form sep first second cs) (h' : Form sep' first' second' cs) :
    sep = sep' ∧ first = first' ∧ second = second' := by
  have heq := (split?_of_form h).symm.trans (split?_of_form h')
  cases heq
  exact ⟨rfl, rfl, rfl⟩

/-! ## Presets -/

/-- A text is read as a preset exactly if it is the text of the preset with blanks around it. -/
theorem ofText?_trim_eq_some_iff {cs : List Char} {p : AspectPreset} :
    AspectPreset.ofText? (String.ofList (trim isBlank cs)) = some p ↔
      Padded p.text.toList cs := by
  constructor
  · intro h
    have htext : p.text = String.ofList (trim isBlank cs) := by simpa using List.find?_some h
    rw [htext, String.toList_ofList]
    exact padded_trim cs
  · intro h
    have hall : p.text.toList.all (!isBlank ·) = true := by cases p <;> rfl
    have hblank : ∀ c ∈ p.text.toList, isBlank c = false := by simpa using hall
    have htrim : trim isBlank cs = p.text.toList :=
      trim_of_padded h (fun c hc => hblank c (List.mem_of_head? hc))
        fun c hc => hblank c (List.mem_of_getLast? hc)
    rw [htrim, String.ofList_toList, AspectPreset.ofText?_text]

theorem ofText?_trim_eq_none_iff {cs : List Char} :
    AspectPreset.ofText? (String.ofList (trim isBlank cs)) = none ↔
      ∀ p : AspectPreset, ¬ Padded p.text.toList cs := by
  simp only [← ofText?_trim_eq_some_iff, Option.eq_none_iff_forall_ne_some, ne_eq]

theorem preset_unique {cs : List Char} {p q : AspectPreset} (hp : Padded p.text.toList cs)
    (hq : Padded q.text.toList cs) : p = q :=
  Option.some.inj ((ofText?_trim_eq_some_iff.mpr hp).symm.trans (ofText?_trim_eq_some_iff.mpr hq))

/-- A preset is never written like a size in pixels. -/
theorem not_form_cross {cs first second : List Char} {p : AspectPreset}
    (hp : Padded p.text.toList cs) : ¬ Form .cross first second cs := by
  rintro ⟨_, _, left, c, right, hc, _, _, rfl⟩
  obtain ⟨before, after, hbefore, hafter, hcs⟩ := hp
  have hmem : c ∈ before ++ p.text.toList ++ after :=
    hcs ▸ List.mem_append_right _ (List.mem_cons_self ..)
  have hcross : isBlank c = false ∧ c ∉ p.text.toList := by
    cases hc <;> cases p <;> decide
  rcases List.mem_append.mp hmem with hmem | hmem
  · rcases List.mem_append.mp hmem with hmem | hmem
    · exact absurd (hbefore c hmem) (by simp [hcross.1])
    · exact hcross.2 hmem
  · exact absurd (hafter c hmem) (by simp [hcross.1])

/-! ## Reading -/

/-- That no run of digits within a text is too long to be read. -/
def ShortRuns (cs : List Char) : Prop :=
  ∀ run, run <:+: cs → (∀ c ∈ run, isDigit c = true) → run.length ≤ 4300

theorem shortRuns_of_length_le {cs : List Char} (h : cs.length ≤ 4300) : ShortRuns cs :=
  fun _ hrun _ => Nat.le_trans hrun.length_le h

/-- The numerals of a text are read as the numbers that they denote. -/
theorem Form.numbers {cs first second : List Char} {sep : Separator} (h : Form sep first second cs)
    (hruns : ShortRuns cs) :
    number first = .ok (decimal first) ∧ number second = .ok (decimal second) := by
  have hnumber : ∀ run, IsNumeral run → run <:+: cs → number run = .ok (decimal run) := by
    intro run hrun hwithin
    simp only [number, Integer.readDigits_numeral hrun (hruns run hwithin hrun.digits)]
  obtain ⟨hfirst, hsecond, _, c, _, _, ⟨before, left, _, _, rfl⟩, ⟨right, after, _, _, rfl⟩, rfl⟩ :=
    h
  refine ⟨hnumber first hfirst ⟨before, left ++ c :: (right ++ second ++ after), ?_⟩,
    hnumber second hsecond ⟨before ++ first ++ left ++ c :: right, after, ?_⟩⟩
  · simp only [List.append_assoc]
  · simp only [List.append_assoc, List.cons_append]

section Read

variable {shown : Value} {s : String}

theorem read_of_padded {p : AspectPreset} (h : Padded p.text.toList s.toList) :
    read shown s = .ok (.choice (.aspect p)) := by
  simp only [read, ofText?_trim_eq_some_iff.mpr h]

variable (hnone : ∀ p : AspectPreset, ¬ Padded p.text.toList s.toList)
include hnone

theorem read_of_form {first second : List Char} {sep : Separator}
    (h : Form sep first second s.toList) (hruns : ShortRuns s.toList) :
    read shown s = .ok (make sep (decimal first) (decimal second)) := by
  obtain ⟨hfirst, hsecond⟩ := h.numbers hruns
  simp only [read, ofText?_trim_eq_none_iff.mpr hnone, split?_of_form h, hfirst, hsecond]
  rfl

theorem read_of_no_form (h : ∀ sep first second, ¬ Form sep first second s.toList) :
    read (.text s) s = .error (.sizeUnknown (Text.quoted s)) := by
  have hsplit : split? s.toList = none :=
    Option.eq_none_iff_forall_ne_some.mpr fun parts hparts => h _ _ _ (form_of_split? hparts)
  simp only [read, ofText?_trim_eq_none_iff.mpr hnone, hsplit]
  rfl

end Read

theorem parse_of_denotes {s : String} (hruns : ShortRuns s.toList) {v : Value}
    (h : Denotes s.toList v) : parse (.text s) = .ok v := by
  cases h with
  | preset h => exact read_of_padded h
  | ratio hnone h => exact read_of_form hnone h hruns
  | size hnone h => exact read_of_form hnone h hruns

theorem parse_of_not_denotes {s : String} (h : ∀ v, ¬ Denotes s.toList v) :
    parse (.text s) = .error (.sizeUnknown (Text.quoted s)) := by
  have hnone : ∀ p : AspectPreset, ¬ Padded p.text.toList s.toList := fun p hp => h _ (.preset hp)
  refine read_of_no_form hnone fun sep first second hform => ?_
  cases sep with
  | colon => exact h _ (.ratio hnone hform)
  | cross => exact h _ (.size hnone hform)

/-- What reading makes of a text, and what of it the grammar leaves no choice about. -/
structure ReadsGrammar (s : String) : Prop where
  /-- A text is read as what it denotes, and only then. -/
  accepts : ∀ v, parse (.text s) = .ok v ↔ Denotes s.toList v
  /-- A text that denotes nothing is refused by its value. -/
  refuses : (∀ v, ¬ Denotes s.toList v) →
    parse (.text s) = .error (.sizeUnknown (Text.quoted s)) ∧
      (Fault.sizeUnknown (Text.quoted s)).category = .value
  /-- The separator and both numerals are determined by the text. -/
  one_form : ∀ sep first second sep' first' second', Form sep first second s.toList →
    Form sep' first' second' s.toList → sep = sep' ∧ first = first' ∧ second = second'
  one_preset : ∀ p q : AspectPreset, Padded p.text.toList s.toList →
    Padded q.text.toList s.toList → p = q
  /-- A preset can be written like a ratio, but never like a size in pixels. -/
  preset_apart : ∀ p : AspectPreset, Padded p.text.toList s.toList →
    ∀ first second, ¬ Form .cross first second s.toList
  /-- Both numerals can always be converted. -/
  numbers : ∀ sep first second, Form sep first second s.toList →
    number first = .ok (decimal first) ∧ number second = .ok (decimal second)

/-- A text without an overlong run of digits is read exactly as the grammar of bounding sizes
    says, and refused if the grammar has no place for it. -/
theorem parse_grammar (s : String) (hruns : ShortRuns s.toList) : ReadsGrammar s where
  accepts v := by
    refine ⟨fun hparse => ?_, parse_of_denotes hruns⟩
    by_cases h : ∃ w, Denotes s.toList w
    · obtain ⟨w, hw⟩ := h
      have heq : v = w := Except.ok.inj (hparse.symm.trans (parse_of_denotes hruns hw))
      exact heq ▸ hw
    · cases hparse.symm.trans (parse_of_not_denotes (not_exists.mp h))
  refuses h := ⟨parse_of_not_denotes h, rfl⟩
  one_form _ _ _ _ _ _ h h' := h.unique h'
  one_preset _ _ := preset_unique
  preset_apart _ hp _ _ := not_form_cross hp
  numbers _ _ _ h := h.numbers hruns

/-- Digits of different scripts, zeros in front and separators of information around them are a
    ratio. -/
theorem parse_grammar_scripts : ShortRuns "\x1c١٦\t:\n009 ".toList ∧
    Denotes "\x1c١٦\t:\n009 ".toList (.ratio (.int 16) (.int 9)) := by
  have hruns : ShortRuns "\x1c١٦\t:\n009 ".toList := shortRuns_of_length_le (by decide)
  exact ⟨hruns, ((parse_grammar _ hruns).accepts _).mp rfl⟩

end BoundingSize

end SceneSource
