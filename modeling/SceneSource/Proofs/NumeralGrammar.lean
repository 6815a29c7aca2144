-- SUMMARY: Which texts are numerals, and which integer each of them denotes.
import Mathlib.Data.List.Basic
import Mathlib.Data.List.TakeWhile
import Mathlib.Data.Nat.Digits.Defs
import SceneSource.Number.Integer
import SceneSource.Proofs.Outcomes

/-!
# The grammar of numerals

A numeral is, between white space, an optional sign and decimal digits of any script, each but
the first after at most one underscore. The grammar says which texts have this form and which
integer they denote, without saying how they are read. What counts as white space is left open,
as long as no digit and no sign does.
-/

namespace SceneSource

namespace Text

/-! ## Texts with something around them -/

/-- That a text is another one with characters of a class around it. -/
def Surrounded (p : Char → Bool) (inner cs : List Char) : Prop :=
  ∃ before after, (∀ c ∈ before, p c = true) ∧ (∀ c ∈ after, p c = true) ∧
    cs = before ++ inner ++ after

variable {p : Char → Bool}

section Head

variable {cs : List Char} (h : ∀ c ∈ cs.head?, p c = false)
include h

theorem dropWhile_of_head : cs.dropWhile p = cs := by
  cases cs with
  | nil => rfl
  | cons c rest => exact List.dropWhile_cons_of_neg (by simp [h c rfl])

theorem takeWhile_of_head : cs.takeWhile p = [] := by
  cases cs with
  | nil => rfl
  | cons c rest => exact List.takeWhile_cons_of_neg (by simp [h c rfl])

end Head

/-- Trimming drops characters of the class only. -/
theorem surrounded_trim (p : Char → Bool) (cs : List Char) : Surrounded p (trim p cs) cs := by
  have htake : ∀ ds : List Char, ∀ c ∈ ds.takeWhile p, p c = true := fun _ =>
    List.all_eq_true.mp List.all_takeWhile
  have hback : trim p cs ++ ((cs.dropWhile p).reverse.takeWhile p).reverse = cs.dropWhile p := by
    rw [trim, ← List.reverse_append, List.takeWhile_append_dropWhile, List.reverse_reverse]
  refine ⟨cs.takeWhile p, ((cs.dropWhile p).reverse.takeWhile p).reverse, htake cs,
    fun c hc => htake _ c (List.mem_reverse.mp hc), ?_⟩
  rw [List.append_assoc, hback, List.takeWhile_append_dropWhile]

/-- Trimming drops all that stands around a text with nothing of the class at its own ends. -/
theorem trim_of_surrounded {inner cs : List Char} (h : Surrounded p inner cs)
    (hhead : ∀ c ∈ inner.head?, p c = false) (hlast : ∀ c ∈ inner.getLast?, p c = false) :
    trim p cs = inner := by
  obtain ⟨before, after, hbefore, hafter, rfl⟩ := h
  rw [trim, List.append_assoc, List.dropWhile_append_of_pos hbefore]
  by_cases hne : inner = []
  · rw [hne, List.nil_append, List.dropWhile_eq_nil_iff.mpr hafter]
    rfl
  · have hfront : ∀ c ∈ (inner ++ after).head?, p c = false := by
      rw [List.head?_append_of_ne_nil _ hne]
      exact hhead
    have hback : ∀ c ∈ inner.reverse.head?, p c = false := by simpa using hlast
    have hafter' : ∀ c ∈ after.reverse, p c = true := fun c hc =>
      hafter c (List.mem_reverse.mp hc)
    rw [dropWhile_of_head hfront, List.reverse_append, List.dropWhile_append_of_pos hafter',
      dropWhile_of_head hback, List.reverse_reverse]

end Text

namespace Integer

open SceneSource.Text

/-! ## The grammar -/

/-- That a text goes on with digits of these values, each after at most one underscore. -/
inductive GoesOn : List Char → List Nat → Prop
  | done : GoesOn [] []
  | digit {c cs d ds} (hd : digitValue? c = some d) (h : GoesOn cs ds) : GoesOn (c :: cs) (d :: ds)
  | spaced {c cs d ds} (hd : digitValue? c = some d) (h : GoesOn cs ds) :
      GoesOn ('_' :: c :: cs) (d :: ds)

/-- That a text is digits of these values, with single underscores between them. -/
inductive Digits : List Char → List Nat → Prop
  | intro {c cs d ds} (hd : digitValue? c = some d) (h : GoesOn cs ds) : Digits (c :: cs) (d :: ds)

/-- How a sign is written, and whether it makes an integer negative. -/
inductive Sign : List Char → Bool → Prop
  | none : Sign [] false
  | plus : Sign ['+'] false
  | minus : Sign ['-'] true

/-- That a text is the numeral of an integer: white space around a sign and digits, of which
    there are not too many. -/
structure Numeral (white : Char → Bool) (cs : List Char) (n : Int) : Prop where
  form : ∃ sign digits negative ds, Surrounded white (sign ++ digits) cs ∧
    Sign sign negative ∧ Digits digits ds ∧ ds.length ≤ maxDigits ∧
    n = signed negative (Nat.ofDigits 10 ds.reverse)

/-! ## Digits -/

theorem digitValue?_underscore : digitValue? '_' = none := rfl

theorem ofDigits_eq (ds : List Nat) : ofDigits ds = Nat.ofDigits 10 ds.reverse := by
  rw [Nat.ofDigits_eq_foldr, List.foldr_reverse, ofDigits]
  simp only [Nat.cast_id, Nat.add_comm]

theorem goesOn_of_moreDigits {cs : List Char} {ds : List Nat}
    (h : moreDigits digitValue? cs = (ds, [])) : GoesOn cs ds := by
  fun_induction moreDigits digitValue? cs generalizing ds with
  | case1 =>
    cases h
    exact .done
  | case2 => cases h
  | case3 c cs d hd _ _ hmore ih =>
    cases h
    exact .spaced hd (ih hmore)
  | case4 => cases h
  | case5 c cs _ _ d hd _ _ hmore ih =>
    cases h
    exact .digit hd (ih hmore)
  | case6 => cases h

theorem moreDigits_of_goesOn {cs : List Char} {ds : List Nat} (h : GoesOn cs ds) :
    moreDigits digitValue? cs = (ds, []) := by
  induction h with
  | done => rfl
  | @digit c cs d ds hd h ih =>
    have hne : c ≠ '_' := by
      rintro rfl
      cases hd.symm.trans digitValue?_underscore
    rw [moreDigits, hd, ih]
    · exact fun h => absurd h hne
    · exact fun _ _ h => absurd h hne
  | @spaced c cs d ds hd h ih =>
    rw [moreDigits, hd, ih]

/-- A run of digits reaches to the end of a text exactly if the text is digits. -/
theorem digits_iff {cs : List Char} {ds : List Nat} :
    Digits cs ds ↔ digitRun digitValue? cs = (ds, []) ∧ ds ≠ [] := by
  constructor
  · rintro ⟨hd, h⟩
    refine ⟨?_, List.cons_ne_nil _ _⟩
    simp only [digitRun, hd, moreDigits_of_goesOn h]
  · rintro ⟨hrun, hne⟩
    fun_cases digitRun digitValue? cs with
    | case1 =>
      cases hrun
      exact absurd rfl hne
    | case2 c cs d hd _ _ hmore =>
      simp only [digitRun, hd, hmore] at hrun
      cases hrun
      exact .intro hd (goesOn_of_moreDigits hmore)
    | case3 c cs hd =>
      simp only [digitRun, hd] at hrun
      cases hrun

theorem readDigits_ok_iff {cs : List Char} {n : Nat} : readDigits cs = .ok n ↔
    ∃ ds, Digits cs ds ∧ ds.length ≤ maxDigits ∧ n = Nat.ofDigits 10 ds.reverse := by
  simp only [digits_iff, ← ofDigits_eq]
  unfold readDigits
  obtain ⟨ds, rest⟩ := digitRun digitValue? cs
  constructor
  · intro h
    simp only at h
    split at h
    · cases h
    · rename_i hnumeral
      split at h
      · cases h
      · rename_i hlength
        split at h
        · rename_i hrest
          cases h
          have hne : ds ≠ [] := by
            rintro rfl
            exact hnumeral rfl
          exact ⟨ds, ⟨by rw [List.isEmpty_iff.mp hrest], hne⟩, Nat.not_lt.mp hlength, rfl⟩
        · cases h
  · rintro ⟨_, ⟨⟨⟩, hne⟩, hlength, rfl⟩
    have hempty : ds.isEmpty = false := List.isEmpty_eq_false_iff.mpr hne
    simp only [hempty, Nat.not_lt.mpr hlength]
    rfl

theorem Digits.head {cs : List Char} {ds : List Nat} (h : Digits cs ds) :
    ∀ c ∈ cs.head?, isDigit c = true := by
  obtain ⟨hd, _⟩ := h
  rintro _ ⟨⟩
  exact Option.isSome_of_eq_some hd

theorem GoesOn.last {cs : List Char} {ds : List Nat} (h : GoesOn cs ds) :
    ∀ c ∈ cs.getLast?, isDigit c = true := by
  have hcons : ∀ {c : Char} {cs : List Char}, isDigit c = true →
      (∀ x ∈ cs.getLast?, isDigit x = true) → ∀ x ∈ (c :: cs).getLast?, isDigit x = true := by
    intro c cs hc hcs
    cases cs with
    | nil =>
      rintro _ ⟨⟩
      exact hc
    | cons d rest =>
      rw [List.getLast?_cons_cons]
      exact hcs
  induction h with
  | done => exact fun _ h => nomatch h
  | digit hd _ ih => exact hcons (Option.isSome_of_eq_some hd) ih
  | spaced hd _ ih =>
    rw [List.getLast?_cons_cons]
    exact hcons (Option.isSome_of_eq_some hd) ih

theorem Digits.last {cs : List Char} {ds : List Nat} (h : Digits cs ds) :
    ∀ c ∈ cs.getLast?, isDigit c = true := by
  obtain ⟨hd, h⟩ := h
  exact (GoesOn.digit hd h).last

/-! ## Signs -/

theorem exists_sign (cs : List Char) :
    ∃ front, Sign front (sign cs).1 ∧ cs = front ++ (sign cs).2 := by
  unfold sign
  split
  · exact ⟨_, .minus, rfl⟩
  · exact ⟨_, .plus, rfl⟩
  · exact ⟨_, .none, rfl⟩

theorem sign_append {front digits : List Char} {negative : Bool} {ds : List Nat}
    (hsign : Sign front negative) (hdigits : Digits digits ds) :
    sign (front ++ digits) = (negative, digits) := by
  cases hsign with
  | plus => rfl
  | minus => rfl
  | none =>
    obtain ⟨hd, _⟩ := hdigits
    unfold sign
    split
    · rename_i heq
      cases heq
      cases hd
    · rename_i heq
      cases heq
      cases hd
    · rfl

/-! ## Numerals -/

/-- A numeral is read as the integer that it denotes, and nothing else is read. -/
theorem readNumeral_ok_iff {white : Char → Bool} (hdigit : ∀ c, isDigit c = true → white c = false)
    (hsign : white '+' = false ∧ white '-' = false) {cs : List Char} {n : Int} :
    readNumeral white cs = .ok n ↔ Numeral white cs n := by
  unfold readNumeral
  constructor
  · intro h
    obtain ⟨m, hm, rfl⟩ := Outcome.map_eq_ok h
    obtain ⟨ds, hdigits, hlength, rfl⟩ := readDigits_ok_iff.mp hm
    obtain ⟨front, hfront, hsplit⟩ := exists_sign (trim white cs)
    exact ⟨front, _, _, ds, hsplit ▸ surrounded_trim white cs, hfront, hdigits, hlength, rfl⟩
  · rintro ⟨front, digits, negative, ds, hsurrounded, hfront, hdigits, hlength, rfl⟩
    have hhead : ∀ c ∈ (front ++ digits).head?, white c = false := by
      cases hfront with
      | none => exact fun c hc => hdigit c (hdigits.head c hc)
      | plus =>
        rintro _ ⟨⟩
        exact hsign.1
      | minus =>
        rintro _ ⟨⟩
        exact hsign.2
    have hlast : ∀ c ∈ (front ++ digits).getLast?, white c = false := by
      have hne : digits ≠ [] := by
        cases hdigits
        exact List.cons_ne_nil _ _
      rw [List.getLast?_append_of_ne_nil _ hne]
      exact fun c hc => hdigit c (hdigits.last c hc)
    rw [trim_of_surrounded hsurrounded hhead hlast, sign_append hfront hdigits]
    simp only [readDigits_ok_iff.mpr ⟨ds, hdigits, hlength, rfl⟩]
    rfl

end Integer

end SceneSource
