-- SUMMARY: The decimal digits of a number read back as the number.
import SceneSource.Number.Integer

/-!
# Decimal digits

The digits that a natural number is written with are ASCII digits, the first of them is not
zero unless the number is, and they denote the number again.
-/

namespace SceneSource

namespace Text

/-- The value of an ASCII digit. -/
def digitOf (c : Char) : Nat := c.toNat - 48

theorem isDigit_bounds {c : Char} (h : c.isDigit = true) : 48 ≤ c.toNat ∧ c.toNat ≤ 57 := by
  simp only [Char.isDigit, Bool.and_eq_true, decide_eq_true_eq, ge_iff_le, UInt32.le_iff_toNat_le]
    at h
  exact h

theorem asciiDigit?_of_isDigit {c : Char} (h : c.isDigit = true) :
    asciiDigit? c = some (digitOf c) := by
  have hbounds : '0' ≤ c ∧ c ≤ '9' := by
    simp only [Char.isDigit, Bool.and_eq_true, decide_eq_true_eq] at h
    exact h
  simp only [asciiDigit?, if_pos hbounds]
  rfl

/-- ASCII digits are digits of one of the scripts. -/
theorem digitValue?_of_isDigit {c : Char} (h : c.isDigit = true) :
    digitValue? c = some (digitOf c) := by
  have hbounds := isDigit_bounds h
  have hfirst : (fun z => decide (z ≤ c.toNat) && decide (c.toNat < z + 10)) 0x30 = true := by
    simp only [Bool.and_eq_true, decide_eq_true_eq]
    omega
  have hfind : digitZeros.find? (fun z => z ≤ c.toNat && c.toNat < z + 10) = some 0x30 :=
    List.find?_cons_of_pos hfirst
  simp only [digitValue?, hfind]
  rfl

end Text

namespace Integer

open SceneSource.Text

/-! ## Runs of digits -/

section Runs

variable {digit? : Char → Option Nat} (hunderscore : digit? '_' = none)
include hunderscore

/-- A run of nothing but digits is read to its end. -/
theorem moreDigits_of_digits {cs : List Char} (h : ∀ c ∈ cs, (digit? c).isSome) :
    moreDigits digit? cs = (cs.filterMap digit?, []) := by
  induction cs with
  | nil => rfl
  | cons c rest ih =>
    obtain ⟨d, hd⟩ := Option.isSome_iff_exists.mp (h c (List.mem_cons_self ..))
    have hne : c ≠ '_' := by
      rintro rfl
      simp only [hunderscore] at hd
      cases hd
    rw [moreDigits, hd, ih fun c' hc' => h c' (List.mem_cons_of_mem _ hc'),
      List.filterMap_cons_some hd]
    · exact fun h => absurd h hne
    · exact fun _ _ h => absurd h hne

theorem digitRun_of_digits {cs : List Char} (h : ∀ c ∈ cs, (digit? c).isSome) :
    digitRun digit? cs = (cs.filterMap digit?, []) := by
  cases cs with
  | nil => rfl
  | cons c rest =>
    obtain ⟨d, hd⟩ := Option.isSome_iff_exists.mp (h c (List.mem_cons_self ..))
    simp only [digitRun, hd, List.filterMap_cons_some hd,
      moreDigits_of_digits hunderscore fun c' hc' => h c' (List.mem_cons_of_mem _ hc')]

end Runs

/-! ## The digits of a number -/

theorem isDigit_toDigits {n : Nat} : ∀ c ∈ Nat.toDigits 10 n, c.isDigit = true :=
  fun _ hc => Nat.isDigit_of_mem_toDigits (by decide) (by decide) hc

theorem ofDigits_map_digitOf (cs : List Char) :
    ofDigits (cs.map digitOf) = Nat.ofDigitChars 10 cs 0 := by
  simp only [ofDigits, List.foldl_map, Nat.ofDigitChars_eq_foldl]
  rfl

/-- The digits of a number denote it. -/
theorem ofDigits_toDigits (n : Nat) : ofDigits ((Nat.toDigits 10 n).map digitOf) = n := by
  simp only [ofDigits_map_digitOf, Nat.ofDigitChars_ten_toDigits]

theorem filterMap_toDigits {digit? : Char → Option Nat}
    (hdigit : ∀ c, c.isDigit = true → digit? c = some (digitOf c)) (n : Nat) :
    (Nat.toDigits 10 n).filterMap digit? = (Nat.toDigits 10 n).map digitOf := by
  have hall : ∀ c ∈ Nat.toDigits 10 n, c.isDigit = true := isDigit_toDigits
  generalize Nat.toDigits 10 n = cs at hall ⊢
  induction cs with
  | nil => rfl
  | cons c rest ih =>
    simp only [List.filterMap_cons_some (hdigit c (hall c (List.mem_cons_self ..))), List.map_cons,
      ih fun c' hc' => hall c' (List.mem_cons_of_mem _ hc')]

/-- Only zero is written with a zero in front. -/
theorem head_toDigits {n : Nat} (hn : 0 < n) : (Nat.toDigits 10 n).head? ≠ some '0' := by
  induction n using Nat.strongRecOn with
  | ind n ih =>
    by_cases hsmall : n < 10
    · simp only [Nat.toDigits_of_lt_base hsmall, List.head?_cons, ne_eq, Option.some_inj,
        Nat.digitChar_eq_zero]
      omega
    · have hdiv : 0 < n / 10 := by omega
      rw [Nat.toDigits_of_base_le (by decide) (by omega), List.head?_append]
      have hhead := ih (n / 10) (by omega) hdiv
      cases hd : (Nat.toDigits 10 (n / 10)).head? with
      | none => exact absurd (List.head?_eq_none_iff.mp hd) Nat.toDigits_ne_nil
      | some c =>
        simp only [hd] at hhead
        exact hhead

/-- A number has a first digit, which is not zero unless the number is. -/
theorem toDigits_eq_cons (n : Nat) :
    ∃ c cs, Nat.toDigits 10 n = c :: cs ∧ c.isDigit = true ∧ (0 < n → c ≠ '0') := by
  cases hdigits : Nat.toDigits 10 n with
  | nil => exact absurd hdigits Nat.toDigits_ne_nil
  | cons c cs =>
    refine ⟨c, cs, rfl, isDigit_toDigits c (hdigits ▸ List.mem_cons_self ..), ?_⟩
    rintro hn rfl
    apply head_toDigits hn
    simp only [hdigits, List.head?_cons]

theorem length_toDigits_le {n : Nat} (h : fits n = true) :
    (Nat.toDigits 10 n).length ≤ maxDigits := by
  have hbound : ∀ k, 0 < k → n < Nat.pow 10 k → (Nat.toDigits 10 n).length ≤ k :=
    fun k hk hlt => (Nat.length_toDigits_le_iff (by decide) hk).mpr hlt
  have hlt : (n : Int).natAbs < Nat.pow 10 maxDigits := of_decide_eq_true h
  simp only [Int.natAbs_natCast] at hlt
  exact hbound maxDigits (by decide) hlt

/-- The digits of a number that is not too long are read as the number. -/
theorem readDigits_toDigits {n : Nat} (h : fits n = true) :
    readDigits (Nat.toDigits 10 n) = .ok n := by
  have hsome : ∀ c ∈ Nat.toDigits 10 n, (digitValue? c).isSome := fun c hc =>
    Option.isSome_iff_exists.mpr ⟨_, digitValue?_of_isDigit (isDigit_toDigits c hc)⟩
  have hrun : digitRun digitValue? (Nat.toDigits 10 n) =
      ((Nat.toDigits 10 n).map digitOf, []) := by
    simp only [digitRun_of_digits rfl hsome, filterMap_toDigits fun c => digitValue?_of_isDigit]
  have hlength : ¬ maxDigits < ((Nat.toDigits 10 n).map digitOf).length := by
    simp only [List.length_map]
    exact Nat.not_lt.mpr (length_toDigits_le h)
  have hnonempty : ((Nat.toDigits 10 n).map digitOf).isEmpty = false := by
    simp
  unfold readDigits
  simp only [hrun, hnonempty, hlength, ofDigits_toDigits]
  rfl

end Integer

end SceneSource
