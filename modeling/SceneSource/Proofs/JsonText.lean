-- SUMMARY: The text of a document without doubles reads back as the document.
import SceneSource.Json.Reader
import SceneSource.Proofs.Numerals
import SceneSource.Proofs.Outcomes

/-!
# JSON text

What `render` writes, `ofText` reads. Every reader gives back what was written for it, and
leaves alone what follows: numbers end where a comma or a bracket closes them, texts at
their quote, containers at their bracket.
-/

namespace SceneSource.Json

open SceneSource.Text Outcome

/-- What can follow a value within a document: nothing, or what closes or separates. -/
def Stops (rest : List Symbol) : Prop :=
  ∀ x ∈ rest.head?, x = .char ',' ∨ x = .char ']' ∨ x = .char '}'

theorem stops_nil : Stops [] := fun _ hx => nomatch hx

theorem stops_cons {x : Symbol} (h : x = .char ',' ∨ x = .char ']' ∨ x = .char '}')
    (rest : List Symbol) : Stops (x :: rest) := by
  intro y hy
  cases hy
  exact h

/-! ## Numbers -/

theorem digits_stops {rest : List Symbol} (h : Stops rest) : digits rest = ([], rest) := by
  cases rest with
  | nil => rfl
  | cons x rest => rcases h x rfl with rfl | rfl | rfl <;> rfl

theorem digits_append {cs : List Char} (hcs : ∀ c ∈ cs, c.isDigit = true) {rest : List Symbol}
    (h : Stops rest) : digits (cs.map .char ++ rest) = (cs.map digitOf, rest) := by
  induction cs with
  | nil => exact digits_stops h
  | cons c cs ih =>
    have hdigit : digit? (.char c) = some (digitOf c) :=
      asciiDigit?_of_isDigit (hcs c (List.mem_cons_self ..))
    simp only [List.map_cons, List.cons_append, digits, hdigit,
      ih fun c' hc' => hcs c' (List.mem_cons_of_mem _ hc')]

/-- Without a point and an exponent, a number is an integer. -/
theorem numberTail_stops (negative : Bool) (whole : List Nat) {rest : List Symbol}
    (h : Stops rest) :
    numberTail negative whole rest =
      .ok (.int (Integer.signed negative (Integer.ofDigits whole)), rest) := by
  cases rest with
  | nil => rfl
  | cons x rest => rcases h x rfl with rfl | rfl | rfl <;> rfl

theorem digit_ne {c d : Char} (hc : c.isDigit = true) (hd : d.isDigit = false) : c ≠ d := by
  rintro rfl
  simp only [hc] at hd
  cases hd

theorem unsigned_of_digit (negative : Bool) {c : Char} (hc : c.isDigit = true) (hzero : c ≠ '0')
    {ds : List Nat} {s rest : List Symbol} (hds : digits (.char c :: s) = (ds, rest))
    (hne : ds ≠ []) (hlength : ds.length ≤ Integer.maxDigits) :
    unsigned negative (.char c :: s) = numberTail negative ds rest := by
  unfold unsigned
  split
  · rename_i h
    cases h
  · rename_i h
    cases h
    exact absurd rfl (digit_ne hc rfl)
  · rename_i h
    cases h
    exact absurd rfl hzero
  · simp only [hds]
    cases ds with
    | nil => exact absurd rfl hne
    | cons d ds => exact if_neg (Nat.not_lt.mpr hlength)

theorem unsigned_toDigits (negative : Bool) {n : Nat} (hn : Integer.fits n = true)
    {rest : List Symbol} (h : Stops rest) :
    unsigned negative ((Nat.toDigits 10 n).map .char ++ rest) =
      .ok (.int (Integer.signed negative n), rest) := by
  rcases Nat.eq_zero_or_pos n with rfl | hpos
  · cases rest with
    | nil => rfl
    | cons x rest => rcases h x rfl with rfl | rfl | rfl <;> rfl
  · have hdigits := digits_append (Integer.isDigit_toDigits (n := n)) h
    have htail := numberTail_stops negative ((Nat.toDigits 10 n).map digitOf) h
    simp only [Integer.ofDigits_toDigits] at htail
    have hlength : ((Nat.toDigits 10 n).map digitOf).length ≤ Integer.maxDigits := by
      simp only [List.length_map]
      exact Integer.length_toDigits_le hn
    obtain ⟨c, cs, hcs, hc, hzero⟩ := Integer.toDigits_eq_cons n
    simp only [hcs] at hdigits hlength htail ⊢
    simp only [← htail]
    exact unsigned_of_digit negative hc (hzero hpos) hdigits (List.cons_ne_nil _ _) hlength

theorem number_intChars {n : Int} (hn : Integer.fits n = true) {rest : List Symbol}
    (h : Stops rest) : number ((intChars n).map .char ++ rest) = .ok (.int n, rest) := by
  have hfits : Integer.fits (n.natAbs : Int) = true := by
    simp only [Integer.fits, Int.natAbs_natCast]
    exact hn
  by_cases hneg : n < 0
  · have hsigned : Integer.signed true n.natAbs = n := by
      simp only [Integer.signed, if_true]
      omega
    simp only [intChars, if_pos hneg]
    exact (unsigned_toDigits true hfits h).trans (by simp only [hsigned])
  · have hsigned : Integer.signed false n.natAbs = n := by
      simp only [Integer.signed, Bool.false_eq_true, if_false]
      omega
    simp only [intChars, if_neg hneg, List.nil_append]
    have hunsigned := unsigned_toDigits false hfits h
    simp only [hsigned] at hunsigned
    obtain ⟨c, cs, hcs, hc, _⟩ := Integer.toDigits_eq_cons n.natAbs
    simp only [← hunsigned, hcs]
    unfold number
    split
    · rename_i hminus
      cases hminus
      exact absurd rfl (digit_ne hc rfl)
    · rfl

/-! ## Texts -/

theorem hexValue?_hexDigit : ∀ n, n < 16 → hexValue? (hexDigit n) = some n := by
  decide

theorem hexDigits_four (n : Nat) :
    hexDigits 4 n = [hexDigit (n / 16 / 16 / 16 % 16), hexDigit (n / 16 / 16 % 16),
      hexDigit (n / 16 % 16), hexDigit (n % 16)] := rfl

theorem width_pos (x : Symbol) : 0 < x.width := by
  cases x with
  | char c => exact Char.utf8Size_pos c
  | stray b => exact Nat.one_pos

/-- Four digits denote the number that they are written for. -/
theorem fourHex_hexDigits {n : Nat} (hn : n < 65536) (rest : List Symbol) :
    fourHex ((hexDigits 4 n).map .char ++ rest) = .ok (n, .char (hexDigit (n % 16)) :: rest) := by
  simp only [hexDigits_four]
  have hcount : ¬ byteCount (([hexDigit (n / 16 / 16 / 16 % 16), hexDigit (n / 16 / 16 % 16),
      hexDigit (n / 16 % 16), hexDigit (n % 16)].map Symbol.char) ++ rest) < 4 := by
    simp only [List.map_cons, List.map_nil, List.cons_append, List.nil_append, byteCount,
      List.foldr_cons]
    have h₁ := width_pos (.char (hexDigit (n / 16 / 16 / 16 % 16)))
    have h₂ := width_pos (.char (hexDigit (n / 16 / 16 % 16)))
    have h₃ := width_pos (.char (hexDigit (n / 16 % 16)))
    have h₄ := width_pos (.char (hexDigit (n % 16)))
    omega
  simp only [fourHex, if_neg hcount]
  simp only [List.map_cons, List.map_nil, List.cons_append, List.nil_append, hexRun, hexDigit?,
    hexValue?_hexDigit _ (Nat.mod_lt _ (by decide : 0 < 16))]
  congr 2
  omega

theorem escape_letter {c letter : Char} (h : escapeLetter? c = some letter) (rest : List Symbol) :
    escape (.char letter :: rest) = .ok (c, rest) := by
  unfold escapeLetter? at h
  split at h <;> cases h <;> rfl

/-- A control is read from its hexadecimal escape. -/
theorem escape_control {c : Char} (hc : c.toNat < 0x20) (rest : List Symbol) :
    escape (.char 'u' :: ((hexDigits 4 c.toNat).map .char ++ rest)) = .ok (c, rest) := by
  have hhex := fourHex_hexDigits (Nat.lt_trans hc (by decide)) rest
  have hlow : ¬ (0xDC00 ≤ c.toNat ∧ c.toNat ≤ 0xDFFF) := by omega
  have hhigh : ¬ (0xD800 ≤ c.toNat ∧ c.toNat ≤ 0xDBFF) := by omega
  have hescape : hexEscape ((hexDigits 4 c.toNat).map .char ++ rest) =
      .ok (c, .char (hexDigit (c.toNat % 16)) :: rest) := by
    simp only [hexEscape, hhex]
    change (if _ then _ else _) = _
    simp only [if_neg hlow, if_neg hhigh, Char.ofNat_toNat]
    rfl
  simp only [escape, hescape]
  rfl

/-- A character is read from what it is written as. -/
theorem textSymbols_escapeChar (c : Char) (fuel : Nat) (s : List Symbol) :
    textSymbols (fuel + 1) ((escapeChar c).map .char ++ s) =
      (textSymbols fuel s).map fun p => (.char c :: p.1, p.2) := by
  have hescaped : ∀ body rest, escape body = .ok (c, rest) →
      textSymbols (fuel + 1) (.char '\\' :: body) =
        (textSymbols fuel rest).map fun p => (.char c :: p.1, p.2) := by
    intro body rest h
    rw [textSymbols, h, ok_bind]
    simp only
    cases textSymbols fuel rest <;> rfl
  unfold escapeChar
  cases hletter : escapeLetter? c with
  | some letter => exact hescaped _ _ (escape_letter hletter s)
  | none =>
    by_cases hc : 0x20 ≤ c.toNat
    · have hquote : c ≠ '"' := by
        rintro rfl
        cases hletter
      have hbackslash : c ≠ '\\' := by
        rintro rfl
        cases hletter
      simp only [hc, if_true, List.map_cons, List.map_nil, List.cons_append, List.nil_append]
      rw [textSymbols, if_neg (Nat.not_lt.mpr hc)]
      · cases textSymbols fuel s <;> rfl
      · exact hquote
      · exact hbackslash
    · simp only [hc, if_false, List.map_cons, List.cons_append]
      exact hescaped _ _ (escape_control (Nat.lt_of_not_le hc) s)

theorem textSymbols_text (cs : List Char) {fuel : Nat} (hfuel : cs.length < fuel)
    (rest : List Symbol) :
    textSymbols fuel ((cs.flatMap escapeChar).map .char ++ .char '"' :: rest) =
      .ok (cs.map .char, rest) := by
  induction cs generalizing fuel with
  | nil =>
    obtain ⟨fuel, rfl⟩ := Nat.exists_eq_succ_of_ne_zero (Nat.ne_of_gt hfuel)
    rfl
  | cons c cs ih =>
    obtain ⟨fuel, rfl⟩ := Nat.exists_eq_succ_of_ne_zero (Nat.ne_of_gt (Nat.zero_lt_of_lt hfuel))
    simp only [List.flatMap_cons, List.map_append, List.append_assoc, textSymbols_escapeChar,
      ih (Nat.lt_of_succ_lt_succ hfuel)]
    rfl

theorem escapeChar_ne_nil (c : Char) : escapeChar c ≠ [] := by
  unfold escapeChar
  split
  · exact List.cons_ne_nil _ _
  · split <;> exact List.cons_ne_nil _ _

theorem length_le_escaped (cs : List Char) : cs.length ≤ (cs.flatMap escapeChar).length := by
  induction cs with
  | nil => exact Nat.le_refl 0
  | cons c cs ih =>
    have hpos := List.length_pos_iff.mpr (escapeChar_ne_nil c)
    simp only [List.flatMap_cons, List.length_append, List.length_cons]
    omega

theorem mapM_char? (cs : List Char) : (cs.map Symbol.char).mapM char? = some cs := by
  induction cs with
  | nil => rfl
  | cons c cs ih =>
    simp only [List.map_cons, List.mapM_cons, ih]
    rfl

/-- A text is read up to its closing quote. -/
theorem quotedText_text (s : String) (rest : List Symbol) :
    quotedText ((s.toList.flatMap escapeChar).map .char ++ .char '"' :: rest) = .ok (s, rest) := by
  have hlength : s.toList.length <
      ((s.toList.flatMap escapeChar).map Symbol.char ++ .char '"' :: rest).length := by
    have := length_le_escaped s.toList
    simp only [List.length_append, List.length_map, List.length_cons]
    omega
  simp only [quotedText, textSymbols_text _ hlength, ok_bind]
  simp only [mapM_char?]
  change Except.ok (String.ofList s.toList, rest) = _
  simp only [String.ofList_toList]

/-! ## Exact documents -/

mutual

/-- Whether the text of a document says all of it: there are no doubles, no integer is too
    long, and no object has a key twice. -/
def isExact : Json → Bool
  | null | bool _ | text _ => true
  | int n => Integer.fits n
  | real _ => false
  | array items => exactItems items
  | object entries => (entries.map (·.1)).Nodup && exactEntries entries

/-- `isExact` for the items of an array. -/
def exactItems : List Json → Bool
  | [] => true
  | j :: rest => j.isExact && exactItems rest

/-- `isExact` for the entries of an object. -/
def exactEntries : List (String × Json) → Bool
  | [] => true
  | (_, j) :: rest => j.isExact && exactEntries rest

end

theorem exactItems_of_forall {items : List Json} (h : ∀ j ∈ items, j.isExact = true) :
    exactItems items = true := by
  induction items with
  | nil => rfl
  | cons j rest ih =>
    obtain ⟨hfirst, hrest⟩ := List.forall_mem_cons.mp h
    simp only [exactItems, hfirst, ih hrest, Bool.and_self]

theorem exactEntries_of_forall {entries : List (String × Json)}
    (h : ∀ e ∈ entries, e.2.isExact = true) : exactEntries entries = true := by
  induction entries with
  | nil => rfl
  | cons e rest ih =>
    obtain ⟨hfirst, hrest⟩ := List.forall_mem_cons.mp h
    simp only [exactEntries, hfirst, ih hrest, Bool.and_self]

theorem depthOfItems_le {items : List Json} {bound : Nat} (h : ∀ j ∈ items, j.depth ≤ bound) :
    depthOfItems items ≤ bound := by
  induction items with
  | nil => exact Nat.zero_le bound
  | cons j rest ih =>
    obtain ⟨hfirst, hrest⟩ := List.forall_mem_cons.mp h
    exact Nat.max_le.mpr ⟨hfirst, ih hrest⟩

theorem depthOfEntries_le {entries : List (String × Json)} {bound : Nat}
    (h : ∀ e ∈ entries, e.2.depth ≤ bound) : depthOfEntries entries ≤ bound := by
  induction entries with
  | nil => exact Nat.zero_le bound
  | cons e rest ih =>
    obtain ⟨hfirst, hrest⟩ := List.forall_mem_cons.mp h
    exact Nat.max_le.mpr ⟨hfirst, ih hrest⟩

theorem isSpace_of_isDigit {c : Char} (hc : c.isDigit = true) : isSpace (.char c) = false := by
  have hne : c ≠ ' ' ∧ c ≠ '\t' ∧ c ≠ '\n' ∧ c ≠ '\r' :=
    ⟨digit_ne hc rfl, digit_ne hc rfl, digit_ne hc rfl, digit_ne hc rfl⟩
  simp [isSpace, hne]

theorem intChars_eq_cons (n : Int) :
    ∃ c cs, intChars n = c :: cs ∧ (c = '-' ∨ c.isDigit = true) := by
  unfold intChars
  by_cases hneg : n < 0
  · simp only [if_pos hneg]
    exact ⟨_, _, rfl, .inl rfl⟩
  · obtain ⟨c, cs, hcs, hc, _⟩ := Integer.toDigits_eq_cons n.natAbs
    simp only [if_neg hneg, hcs]
    exact ⟨c, cs, rfl, .inr hc⟩

/-- A document starts with neither white space nor what would close an array. -/
theorem chars_eq_cons {j : Json} (h : j.isExact = true) :
    ∃ c cs, j.chars = c :: cs ∧ isSpace (.char c) = false ∧ c ≠ ']' := by
  cases j with
  | null => exact ⟨_, _, rfl, rfl, by decide⟩
  | bool b => cases b <;> exact ⟨_, _, rfl, rfl, by decide⟩
  | int n =>
    obtain ⟨c, cs, hcs, hc⟩ := intChars_eq_cons n
    refine ⟨c, cs, by simp only [chars, hcs], ?_, ?_⟩
    · rcases hc with rfl | hc
      · rfl
      · exact isSpace_of_isDigit hc
    · rcases hc with rfl | hc
      · decide
      · exact digit_ne hc rfl
  | real d => cases h
  | text s => exact ⟨_, _, rfl, rfl, by decide⟩
  | array items => exact ⟨_, _, by rw [chars], rfl, by decide⟩
  | object entries => exact ⟨_, _, by rw [chars], rfl, by decide⟩

/-- The symbols of a document in front of others. -/
theorem symbols_eq_cons {j : Json} (h : j.isExact = true) (rest : List Symbol) :
    ∃ x s, j.chars.map .char ++ rest = x :: s ∧ isSpace x = false ∧ x ≠ .char ']' := by
  obtain ⟨c, cs, hcs, hspace, hclose⟩ := chars_eq_cons h
  exact ⟨.char c, cs.map .char ++ rest, by simp only [hcs]; rfl, hspace, by simpa using hclose⟩

/-! ## Containers -/

/-- That a reader gives a document for its text, whatever follows. -/
def Reads (element : Reader Json) (j : Json) : Prop :=
  ∀ rest, Stops rest → element (j.chars.map .char ++ rest) = .ok (j, rest)

section Containers

variable {element : Reader Json}

theorem skipSpace_cons {x : Symbol} (h : isSpace x = false) (s : List Symbol) :
    skipSpace (x :: s) = x :: s := by
  simp only [skipSpace, List.dropWhile_cons, h]
  rfl

theorem stops_moreItemChars (items : List Json) (rest : List Symbol) :
    Stops ((moreItemChars items).map .char ++ rest) := by
  cases items with
  | nil => exact stops_cons (.inr (.inl rfl)) _
  | cons j items => exact stops_cons (.inl rfl) _

/-- Behind a comma another item is read. -/
theorem moreItems_comma {x : Symbol} (hspace : isSpace x = false) (hclose : x ≠ .char ']')
    (fuel : Nat) (s : List Symbol) :
    moreItems element (fuel + 1) (.char ',' :: x :: s) = do
      let (item, rest) ← element (x :: s)
      let (more, rest) ← moreItems element fuel rest
      return (item :: more, rest) := by
  rw [moreItems, skipSpace_cons rfl]
  simp only
  simp only [skipSpace_cons hspace]
  split
  · rename_i h
    cases h
  · rename_i h
    cases h
    exact absurd rfl hclose
  · rfl

theorem moreItems_chars {items : List Json} (hexact : exactItems items = true)
    (hreads : ∀ j ∈ items, Reads element j) {fuel : Nat} (hfuel : items.length < fuel)
    (rest : List Symbol) :
    moreItems element fuel ((moreItemChars items).map .char ++ rest) = .ok (items, rest) := by
  induction items generalizing fuel with
  | nil =>
    obtain ⟨fuel, rfl⟩ := Nat.exists_eq_succ_of_ne_zero (Nat.ne_of_gt hfuel)
    rfl
  | cons j items ih =>
    obtain ⟨fuel, rfl⟩ := Nat.exists_eq_succ_of_ne_zero (Nat.ne_of_gt (Nat.zero_lt_of_lt hfuel))
    obtain ⟨hj, hitems⟩ := Bool.and_eq_true_iff.mp hexact
    have hitem := hreads j (List.mem_cons_self ..) _ (stops_moreItemChars items rest)
    have hmore := ih hitems (fun i hi => hreads i (List.mem_cons_of_mem _ hi))
      (Nat.lt_of_succ_lt_succ hfuel)
    obtain ⟨x, s, hs, hspace, hclose⟩ :=
      symbols_eq_cons hj ((moreItemChars items).map .char ++ rest)
    simp only [moreItemChars, List.map_append, List.append_assoc, List.map_cons, List.cons_append]
    simp only [hs] at hitem ⊢
    simp only [moreItems_comma hspace hclose, hitem, ok_bind]
    simp only [hmore]
    rfl

theorem length_lt_moreItemChars (items : List Json) :
    items.length < (moreItemChars items).length := by
  induction items with
  | nil => exact Nat.one_pos
  | cons j items ih =>
    simp only [moreItemChars, List.length_cons, List.length_append]
    omega

theorem items_cons {x : Symbol} (hspace : isSpace x = false) (hclose : x ≠ .char ']')
    (s : List Symbol) :
    items element (x :: s) = do
      let (item, rest) ← element (x :: s)
      let (more, rest) ← moreItems element rest.length rest
      return (item :: more, rest) := by
  simp only [items, skipSpace_cons hspace]
  split
  · rename_i h
    cases h
  · rename_i h
    cases h
    exact absurd rfl hclose
  · rfl

theorem items_chars {js : List Json} (hexact : exactItems js = true)
    (hreads : ∀ j ∈ js, Reads element j) (rest : List Symbol) :
    items element ((itemChars js).map .char ++ rest) = .ok (js, rest) := by
  cases js with
  | nil => rfl
  | cons j js =>
    obtain ⟨hj, hjs⟩ := Bool.and_eq_true_iff.mp hexact
    have hitem := hreads j (List.mem_cons_self ..) _ (stops_moreItemChars js rest)
    have hlength : js.length < ((moreItemChars js).map Symbol.char ++ rest).length := by
      have := length_lt_moreItemChars js
      simp only [List.length_append, List.length_map]
      omega
    have hmore := moreItems_chars hjs (fun i hi => hreads i (List.mem_cons_of_mem _ hi))
      hlength rest
    obtain ⟨x, s, hs, hspace, hclose⟩ := symbols_eq_cons hj ((moreItemChars js).map .char ++ rest)
    simp only [itemChars, List.map_append, List.append_assoc]
    simp only [hs] at hitem ⊢
    simp only [items_cons hspace hclose, hitem, ok_bind]
    simp only [hmore]
    rfl

theorem entry_chars (key : String) {j : Json} (hexact : j.isExact = true) (hreads : Reads element j)
    {rest : List Symbol} (hrest : Stops rest) :
    entry element ((key.toList.flatMap escapeChar).map .char ++
      .char '"' :: .char ':' :: (j.chars.map .char ++ rest)) = .ok ((key, j), rest) := by
  obtain ⟨x, s, hs, hspace, _⟩ := symbols_eq_cons hexact rest
  have hvalue := hreads rest hrest
  simp only [hs] at hvalue ⊢
  simp only [entry, quotedText_text, ok_bind]
  have hcolon : skipSpace (.char ':' :: x :: s) = .char ':' :: x :: s := skipSpace_cons rfl _
  simp only [hcolon, skipSpace_cons hspace, hvalue]
  rfl

theorem stops_moreEntryChars (entries : List (String × Json)) (rest : List Symbol) :
    Stops ((moreEntryChars entries).map .char ++ rest) := by
  cases entries with
  | nil => exact stops_cons (.inr (.inr rfl)) _
  | cons e entries => exact stops_cons (.inl rfl) _

theorem map_entryChars (key : String) (j : Json) (cs : List Char) (rest : List Symbol) :
    (textChars key ++ ':' :: j.chars ++ cs).map .char ++ rest =
      .char '"' :: ((key.toList.flatMap escapeChar).map .char ++
        .char '"' :: .char ':' :: (j.chars.map .char ++ (cs.map .char ++ rest))) := by
  simp [textChars]

theorem moreEntries_chars {entries : List (String × Json)} (hexact : exactEntries entries = true)
    (hreads : ∀ e ∈ entries, Reads element e.2) {fuel : Nat} (hfuel : entries.length < fuel)
    (rest : List Symbol) :
    moreEntries element fuel ((moreEntryChars entries).map .char ++ rest) =
      .ok (entries, rest) := by
  induction entries generalizing fuel with
  | nil =>
    obtain ⟨fuel, rfl⟩ := Nat.exists_eq_succ_of_ne_zero (Nat.ne_of_gt hfuel)
    rfl
  | cons e entries ih =>
    obtain ⟨fuel, rfl⟩ := Nat.exists_eq_succ_of_ne_zero (Nat.ne_of_gt (Nat.zero_lt_of_lt hfuel))
    obtain ⟨hj, hentries⟩ := Bool.and_eq_true_iff.mp hexact
    have hfirst := entry_chars e.1 hj (hreads e (List.mem_cons_self ..))
      (stops_moreEntryChars entries rest)
    have hmore := ih hentries (fun i hi => hreads i (List.mem_cons_of_mem _ hi))
      (Nat.lt_of_succ_lt_succ hfuel)
    have hsymbols : (moreEntryChars (e :: entries)).map Symbol.char ++ rest = .char ',' :: _ :=
      congrArg (Symbol.char ',' :: ·) (map_entryChars e.1 e.2 (moreEntryChars entries) rest)
    rw [hsymbols, moreEntries, skipSpace_cons rfl]
    simp only
    rw [skipSpace_cons rfl]
    simp only [hfirst, ok_bind, hmore]
    rfl

theorem length_lt_moreEntryChars (entries : List (String × Json)) :
    entries.length < (moreEntryChars entries).length := by
  induction entries with
  | nil => exact Nat.one_pos
  | cons e entries ih =>
    simp only [moreEntryChars, List.length_append, List.length_cons]
    omega

theorem entries_chars {found : List (String × Json)} (hexact : exactEntries found = true)
    (hreads : ∀ e ∈ found, Reads element e.2) (rest : List Symbol) :
    entries element ((entryChars found).map .char ++ rest) = .ok (found, rest) := by
  cases found with
  | nil => rfl
  | cons e found =>
    obtain ⟨hj, hfound⟩ := Bool.and_eq_true_iff.mp hexact
    have hfirst := entry_chars e.1 hj (hreads e (List.mem_cons_self ..))
      (stops_moreEntryChars found rest)
    have hlength : found.length < ((moreEntryChars found).map Symbol.char ++ rest).length := by
      have := length_lt_moreEntryChars found
      simp only [List.length_append, List.length_map]
      omega
    have hmore := moreEntries_chars hfound (fun i hi => hreads i (List.mem_cons_of_mem _ hi))
      hlength rest
    rw [entryChars, map_entryChars, entries, skipSpace_cons rfl]
    simp only [hfirst, ok_bind, hmore]
    rfl

end Containers

/-- Entries without a key twice stay what they are. -/
theorem distinctKeys_of_nodup {entries : List (String × Json)} (h : (entries.map (·.1)).Nodup) :
    distinctKeys entries = entries := by
  induction entries with
  | nil => rfl
  | cons e entries ih =>
    obtain ⟨hnew, hrest⟩ := List.nodup_cons.mp h
    have hnone : entries.lookup e.1 = none := by
      simp only [List.lookup_eq_none_iff]
      intro e' he'
      have hne : e.1 ≠ e'.1 := fun heq => hnew (List.mem_map.mpr ⟨e', he', heq.symm⟩)
      simpa using hne
    have hstep : distinctKeys (e :: entries) = insertEntry e.1 e.2 (distinctKeys entries) := rfl
    simp only [hstep, ih hrest, insertEntry, hnone]

/-! ## Documents -/

theorem valueWith_number {element : Reader Json} {n : Int} (hn : Integer.fits n = true)
    {rest : List Symbol} (hrest : Stops rest) :
    valueWith element ((intChars n).map .char ++ rest) = .ok (.int n, rest) := by
  have hnumber := number_intChars hn hrest
  obtain ⟨c, cs, hcs, hc⟩ := intChars_eq_cons n
  simp only [hcs, List.map_cons, List.cons_append] at hnumber ⊢
  have hdigit : (digit? (.char c)).isSome ∨ Symbol.char c = .char '-' ∨
      Symbol.char c = .char 'I' := by
    rcases hc with rfl | hc
    · exact .inr (.inl rfl)
    · exact .inl (Option.isSome_iff_exists.mpr ⟨_, asciiDigit?_of_isDigit hc⟩)
  have hother : ∀ d : Char, d.isDigit = false → d ≠ '-' → c ≠ d := by
    rintro d hd hminus rfl
    rcases hc with rfl | hc
    · exact hminus rfl
    · exact digit_ne hc hd rfl
  unfold valueWith
  split
  case h_9 h =>
    cases h
    simp only [if_pos hdigit, hnumber]
  all_goals
    rename_i h
    cases h
    try exact absurd rfl (hother _ rfl (by decide))

theorem valueWith_text (element : Reader Json) (s : String) (rest : List Symbol) :
    valueWith element ((textChars s).map .char ++ rest) = .ok (.text s, rest) := by
  have hsymbols : (textChars s).map Symbol.char ++ rest = .char '"' ::
      ((s.toList.flatMap escapeChar).map .char ++ .char '"' :: rest) := by
    simp [textChars]
  simp only [hsymbols, valueWith, quotedText_text]
  rfl

theorem valueWith_array {element : Reader Json} {js : List Json} (hexact : exactItems js = true)
    (hreads : ∀ j ∈ js, Reads element j) (rest : List Symbol) :
    valueWith element ((array js).chars.map .char ++ rest) = .ok (.array js, rest) := by
  simp only [chars, List.map_cons, List.cons_append, valueWith, items_chars hexact hreads]
  rfl

theorem valueWith_object {element : Reader Json} {found : List (String × Json)}
    (hkeys : (found.map (·.1)).Nodup) (hexact : exactEntries found = true)
    (hreads : ∀ e ∈ found, Reads element e.2) (rest : List Symbol) :
    valueWith element ((object found).chars.map .char ++ rest) = .ok (.object found, rest) := by
  rw [chars, List.map_cons, List.cons_append, valueWith, entries_chars hexact hreads, ok_bind]
  simp only [distinctKeys_of_nodup hkeys]
  rfl

theorem depth_pos (j : Json) : 0 < j.depth := by
  cases j <;> exact Nat.succ_pos _

theorem reads_of_valueWith {j : Json} {depth : Nat} (hdepth : j.depth ≤ depth)
    (h : ∀ d, j.depth ≤ d + 1 → Reads (valueWith (element d)) j) : Reads (element depth) j := by
  cases depth with
  | zero => exact absurd (depth_pos j) (Nat.not_lt.mpr hdepth)
  | succ d => exact h d hdepth

mutual

/-- A document is read where containers may be opened as deep as it goes. -/
theorem reads_valueWith : (j : Json) → j.isExact = true → (depth : Nat) → j.depth ≤ depth + 1 →
    Reads (valueWith (element depth)) j
  | null => fun _ _ _ _ _ => rfl
  | bool true => fun _ _ _ _ _ => rfl
  | bool false => fun _ _ _ _ _ => rfl
  | int n => by
    intro hexact _ _ rest hrest
    simp only [isExact] at hexact
    simp only [chars]
    exact valueWith_number hexact hrest
  | real _ => fun hexact => by cases hexact
  | text s => fun _ depth _ rest _ => valueWith_text (element depth) s rest
  | array js => by
    intro hexact depth hdepth rest _
    simp only [isExact] at hexact
    simp only [Json.depth] at hdepth
    have hreads := reads_items js hexact depth (Nat.le_of_succ_le_succ hdepth)
    exact valueWith_array hexact hreads rest
  | object found => by
    intro hexact depth hdepth rest _
    simp only [isExact, Bool.and_eq_true, decide_eq_true_eq] at hexact
    simp only [Json.depth] at hdepth
    have hreads := reads_entries found hexact.2 depth (Nat.le_of_succ_le_succ hdepth)
    exact valueWith_object hexact.1 hexact.2 hreads rest

/-- `reads_valueWith` for the items of an array. -/
theorem reads_items : (js : List Json) → exactItems js = true → (depth : Nat) →
    depthOfItems js ≤ depth → ∀ j ∈ js, Reads (element depth) j
  | [], _, _, _ => List.forall_mem_nil _
  | j :: rest, hexact, depth, hdepth => by
    simp only [exactItems, Bool.and_eq_true] at hexact
    simp only [depthOfItems, Nat.max_le] at hdepth
    exact List.forall_mem_cons.mpr ⟨reads_of_valueWith hdepth.1 (reads_valueWith j hexact.1),
      reads_items rest hexact.2 depth hdepth.2⟩

/-- `reads_valueWith` for the entries of an object. -/
theorem reads_entries : (found : List (String × Json)) → exactEntries found = true →
    (depth : Nat) → depthOfEntries found ≤ depth → ∀ e ∈ found, Reads (element depth) e.2
  | [], _, _, _ => List.forall_mem_nil _
  | (_, j) :: rest, hexact, depth, hdepth => by
    simp only [exactEntries, Bool.and_eq_true] at hexact
    simp only [depthOfEntries, Nat.max_le] at hdepth
    exact List.forall_mem_cons.mpr ⟨reads_of_valueWith hdepth.1 (reads_valueWith j hexact.1),
      reads_entries rest hexact.2 depth hdepth.2⟩

end

/-- The text of an exact document reads back as the document. -/
theorem ofText_render {j : Json} (hexact : j.isExact = true) (hdepth : j.depth ≤ maxDepth + 1) :
    ofText j.render = .ok j := by
  have hvalue := reads_valueWith j hexact maxDepth hdepth [] stops_nil
  obtain ⟨x, s, hs, hspace, _⟩ := symbols_eq_cons hexact []
  have hdocument : document (j.chars.map .char) = .ok j := by
    simp only [List.append_nil] at hs hvalue
    rw [document, hs, skipSpace_cons hspace, ← hs, hvalue]
    rfl
  simp only [ofText, render, String.toList_ofList, ofSymbols, hdocument]

/-- So does the text of an object without containers inside. -/
theorem ofText_render_flat {entries : List (String × Json)} (hkeys : (entries.map (·.1)).Nodup)
    (hentries : ∀ e ∈ entries, e.2.isExact = true ∧ e.2.depth ≤ 1) :
    ofText (object entries).render = .ok (object entries) := by
  apply ofText_render
  · have hexact := exactEntries_of_forall fun e he => (hentries e he).1
    simp only [isExact, hkeys, hexact, decide_true, Bool.and_self]
  · have hdepth := depthOfEntries_le fun e he => (hentries e he).2
    exact Nat.succ_le_succ (Nat.le_trans hdepth (by decide))

end SceneSource.Json
