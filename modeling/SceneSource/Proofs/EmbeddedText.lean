-- SUMMARY: Embedded JSON text is compact and reads back as the value that it was made of.
import SceneSource.Proofs.FieldEntries

/-!
# Embedded text

What is made of nothing, truth values, integers, texts, lists and mappings is embedded as JSON
text, and the text is read as the same value again. Outside of its literals the text has no blank,
and nowhere a control character. So a resolution that is sent as text can be given back as text.
-/

namespace SceneSource

/-! ## Places in JSON text -/

namespace Json

/-- Where a character of JSON text stands: between literals, inside of one, or behind a backslash
    there. -/
inductive Place where
  | outside
  | inside
  | escaped
deriving DecidableEq, Repr

/-- The place behind a character. -/
def Place.next : Place → Char → Place
  | outside, c => if c = '"' then inside else outside
  | inside, c => if c = '"' then outside else if c = '\\' then escaped else inside
  | escaped, _ => inside

/-- The place behind some characters. -/
def Place.after (p : Place) (cs : List Char) : Place := cs.foldl next p

/-- That a text has no control characters, and no blanks outside of its literals. -/
def IsCompact (s : String) : Prop := ∀ before c rest, s.toList = before ++ c :: rest →
  0x20 ≤ c.toNat ∧ (Place.outside.after before = .outside → Text.isBlank c = false)

/-- Whether a character may stand outside of literals and begins none. -/
def isMark (c : Char) : Bool := c != '"' && decide (0x20 ≤ c.toNat) && !Text.isBlank c

/-- That characters which are compact lead from one place to another. -/
inductive Runs : Place → List Char → Place → Prop
  | nil (p : Place) : Runs p [] p
  | cons {p q : Place} {c : Char} {cs : List Char} (hprinted : 0x20 ≤ c.toNat)
      (hblank : p = .outside → Text.isBlank c = false) (hrest : Runs (p.next c) cs q) :
      Runs p (c :: cs) q

namespace Runs

variable {p q r : Place} {cs ds : List Char}

theorem append (hcs : Runs p cs q) (hds : Runs q ds r) : Runs p (cs ++ ds) r := by
  induction hcs with
  | nil => exact hds
  | cons hprinted hblank _ ih => exact .cons hprinted hblank (ih hds)

theorem compact (h : Runs p cs q) : ∀ before c rest, cs = before ++ c :: rest →
    0x20 ≤ c.toNat ∧ (p.after before = .outside → Text.isBlank c = false) := by
  induction h with
  | nil =>
    intro before c rest hsplit
    cases before <;> cases hsplit
  | cons hprinted hblank _ ih =>
    intro before c rest hsplit
    cases before with
    | nil =>
      cases hsplit
      exact ⟨hprinted, hblank⟩
    | cons x before =>
      obtain ⟨rfl, hrest⟩ := List.cons.inj hsplit
      exact ih before c rest hrest

theorem cons_outside {c : Char} (hc : isMark c = true) (hcs : Runs .outside cs q) :
    Runs .outside (c :: cs) q := by
  simp only [isMark, Bool.and_eq_true, bne_iff_ne, decide_eq_true_eq, Bool.not_eq_true'] at hc
  obtain ⟨⟨hquote, hprinted⟩, hblank⟩ := hc
  refine .cons hprinted (fun _ => hblank) ?_
  rw [Place.next, if_neg hquote]
  exact hcs

theorem of_outside (h : cs.all isMark = true) : Runs .outside cs .outside := by
  induction cs with
  | nil => exact .nil _
  | cons c rest ih =>
    obtain ⟨hc, hrest⟩ := Bool.and_eq_true_iff.mp h
    exact cons_outside hc (ih hrest)

theorem of_inside (h : ∀ c ∈ cs, c ≠ '"' ∧ c ≠ '\\' ∧ 0x20 ≤ c.toNat) :
    Runs .inside cs .inside := by
  induction cs with
  | nil => exact .nil _
  | cons c rest ih =>
    obtain ⟨⟨hquote, hbackslash, hprinted⟩, hrest⟩ := List.forall_mem_cons.mp h
    refine .cons hprinted (fun h => nomatch h) ?_
    rw [Place.next, if_neg hquote, if_neg hbackslash]
    exact ih hrest

end Runs

/-! ## Compact text -/

theorem isMark_of_isDigit {c : Char} (h : c.isDigit = true) : isMark c = true := by
  have hprinted : 0x20 ≤ c.toNat := Nat.le_trans (by decide) (Text.isDigit_bounds h).1
  have hquote : c ≠ '"' := digit_ne h rfl
  simp [isMark, hquote, hprinted, Text.isBlank_of_isDigit h]

theorem runs_intChars (n : Int) : Runs .outside (intChars n) .outside := by
  unfold intChars
  refine .append ?_ (.of_outside (List.all_eq_true.mpr fun c hc => ?_))
  · split
    · exact .of_outside rfl
    · exact .nil _
  · exact isMark_of_isDigit (Integer.isDigit_toDigits c hc)

theorem inside_hexDigits (n : Nat) :
    ∀ c ∈ Text.hexDigits 4 n, c ≠ '"' ∧ c ≠ '\\' ∧ 0x20 ≤ c.toNat := by
  have hdigit : ∀ d < 16, Text.hexDigit d ≠ '"' ∧ Text.hexDigit d ≠ '\\' ∧
      0x20 ≤ (Text.hexDigit d).toNat := by decide
  have hbound (m : Nat) : m % 16 < 16 := Nat.mod_lt m (by decide)
  rw [hexDigits_four]
  simp only [List.forall_mem_cons]
  exact ⟨hdigit _ (hbound _), hdigit _ (hbound _), hdigit _ (hbound _), hdigit _ (hbound _),
    List.forall_mem_nil _⟩

/-- What a character is written as stays inside of its literal. -/
theorem runs_escapeChar (c : Char) : Runs .inside (escapeChar c) .inside := by
  unfold escapeChar
  cases hletter : escapeLetter? c with
  | some letter =>
    have hprinted : 0x20 ≤ letter.toNat := by
      unfold escapeLetter? at hletter
      split at hletter <;> cases hletter <;> decide
    exact .cons (by decide) (fun h => nomatch h) (.cons hprinted (fun h => nomatch h) (.nil _))
  | none =>
    by_cases hc : 0x20 ≤ c.toNat
    · have hquote : c ≠ '"' := by
        rintro rfl
        cases hletter
      have hbackslash : c ≠ '\\' := by
        rintro rfl
        cases hletter
      simp only [hc, if_true]
      exact .of_inside (List.forall_mem_singleton.mpr ⟨hquote, hbackslash, hc⟩)
    · simp only [hc, if_false]
      exact .cons (by decide) (fun h => nomatch h)
        (.cons (by decide) (fun h => nomatch h) (.of_inside (inside_hexDigits _)))

theorem runs_textChars (s : String) : Runs .outside (textChars s) .outside := by
  -- the quotes lead in and out, and every character in between comes back inside
  have hchars : ∀ cs : List Char, Runs .inside (cs.flatMap escapeChar) .inside := by
    intro cs
    induction cs with
    | nil => exact .nil _
    | cons c rest ih =>
      rw [List.flatMap_cons]
      exact (runs_escapeChar c).append ih
  refine .append (.cons (by decide) (fun _ => by decide) (hchars s.toList)) ?_
  exact .cons (by decide) (fun h => nomatch h) (.nil _)

section Containers

variable {items : List Json} {entries : List (String × Json)}

theorem runs_moreItemChars (h : ∀ j ∈ items, Runs .outside j.chars .outside) :
    Runs .outside (moreItemChars items) .outside := by
  induction items with
  | nil => exact .of_outside rfl
  | cons j rest ih =>
    obtain ⟨hj, hrest⟩ := List.forall_mem_cons.mp h
    exact .append (.cons_outside rfl hj) (ih hrest)

theorem runs_array (h : ∀ j ∈ items, Runs .outside j.chars .outside) :
    Runs .outside (array items).chars .outside := by
  refine .cons_outside rfl ?_
  cases items with
  | nil => exact .of_outside rfl
  | cons j rest =>
    obtain ⟨hj, hrest⟩ := List.forall_mem_cons.mp h
    exact hj.append (runs_moreItemChars hrest)

theorem runs_entry (key : String) {j : Json} (h : Runs .outside j.chars .outside) :
    Runs .outside (textChars key ++ ':' :: j.chars) .outside :=
  (runs_textChars key).append (.cons_outside rfl h)

theorem runs_moreEntryChars (h : ∀ e ∈ entries, Runs .outside e.2.chars .outside) :
    Runs .outside (moreEntryChars entries) .outside := by
  induction entries with
  | nil => exact .of_outside rfl
  | cons e rest ih =>
    obtain ⟨he, hrest⟩ := List.forall_mem_cons.mp h
    exact .append (.cons_outside rfl (runs_entry e.1 he)) (ih hrest)

theorem runs_object (h : ∀ e ∈ entries, Runs .outside e.2.chars .outside) :
    Runs .outside (object entries).chars .outside := by
  refine .cons_outside rfl ?_
  cases entries with
  | nil => exact .of_outside rfl
  | cons e rest =>
    obtain ⟨he, hrest⟩ := List.forall_mem_cons.mp h
    exact (runs_entry e.1 he).append (runs_moreEntryChars hrest)

end Containers

theorem isCompact_render {j : Json} (h : Runs .outside j.chars .outside) : IsCompact j.render := by
  unfold IsCompact render
  rw [String.toList_ofList]
  exact h.compact

end Json

theorem dumpEntries_ok {s : Style} {outer : Nat} {entries : List (String × Value)}
    {out : String × Value → Json} (h : ∀ e ∈ entries, dump s .any outer e.2 = .ok (out e)) :
    dumpEntries s outer entries = .ok (entries.map fun e => (e.1, out e)) := by
  induction entries with
  | nil => simp only [dumpEntries, List.map_nil]
  | cons e rest ih =>
    obtain ⟨hfirst, hrest⟩ := List.forall_mem_cons.mp h
    simp only [dumpEntries, hfirst, ih hrest]
    rfl

/-! ## Values made into text -/

/-- That a value is made of nothing, truth values, integers that are not too long, texts, lists
    and mappings, with so many of the last two around each other at most. -/
inductive Value.IsData : Nat → Value → Prop
  | null {depth : Nat} : IsData depth .null
  | bool {depth : Nat} (b : Bool) : IsData depth (.bool b)
  | int {depth : Nat} {n : Int} (hfits : Integer.fits n = true) : IsData depth (.int n)
  | text {depth : Nat} (s : String) : IsData depth (.text s)
  | list {depth : Nat} {xs : List Value} (hxs : ∀ x ∈ xs, IsData depth x) :
      IsData (depth + 1) (.list xs)
  | mapping {depth : Nat} {entries : List (String × Value)} (hkeys : (entries.map (·.1)).Nodup)
      (hentries : ∀ e ∈ entries, IsData depth e.2) : IsData (depth + 1) (.mapping entries)

/-- That a value is written as a document which stands for it, in text that is compact. -/
structure Value.WrittenAs (depth : Nat) (v : Value) (j : Json) : Prop where
  dump_eq : ∀ s outer, outer + depth < depthLimit → dump s .any outer v = .ok j
  value : j.toValue = v
  exact : j.isExact = true
  depth : j.depth ≤ depth + 1
  compact : Json.Runs .outside j.chars .outside

namespace Value

variable {depth : Nat}

/-- What has no parts is written as it is. -/
theorem writtenAs_atom {v : Value} {j : Json}
    (hdump : ∀ s outer, ¬ depthLimit < outer + 1 → dump s .any outer v = .ok j)
    (hvalue : j.toValue = v) (hexact : j.isExact = true) (hdepth : j.depth = 1)
    (hcompact : Json.Runs .outside j.chars .outside) : v.WrittenAs depth j where
  dump_eq s outer h := hdump s outer (by omega)
  value := hvalue
  exact := hexact
  depth := by omega
  compact := hcompact

theorem writtenAs_list {xs : List Value} {out : Value → Json}
    (h : ∀ x ∈ xs, x.WrittenAs depth (out x)) :
    (Value.list xs).WrittenAs (depth + 1) (.array (xs.map out)) where
  dump_eq s outer houter := by
    have hlevel : ¬ depthLimit < outer + 1 := by omega
    have hitems : dumpItems s .any (outer + 1) xs = .ok (xs.map out) := by
      rw [Shape.dumpItems_eq_mapM, Outcome.mapM_ok_iff, List.map_map]
      exact List.map_congr_left fun x hx => (h x hx).dump_eq s (outer + 1) (by omega)
    simp only [dump]
    refine (if_neg hlevel).trans ?_
    exact congrArg (Except.map Json.array) hitems
  value := by
    rw [Json.toValue, itemValues_eq_map, List.map_map]
    refine congrArg Value.list (Eq.trans ?_ (List.map_id xs))
    exact List.map_congr_left fun x hx => (h x hx).value
  exact := Json.exactItems_of_forall (List.forall_mem_map.mpr fun x hx => (h x hx).exact)
  depth := Nat.succ_le_succ
    (Json.depthOfItems_le (List.forall_mem_map.mpr fun x hx => (h x hx).depth))
  compact := Json.runs_array (List.forall_mem_map.mpr fun x hx => (h x hx).compact)

theorem writtenAs_mapping {entries : List (String × Value)} (hkeys : (entries.map (·.1)).Nodup)
    {out : String × Value → Json} (h : ∀ e ∈ entries, e.2.WrittenAs depth (out e)) :
    (Value.mapping entries).WrittenAs (depth + 1)
      (.object (entries.map fun e => (e.1, out e))) where
  dump_eq s outer houter := by
    have hlevel : ¬ depthLimit < outer + 1 := by omega
    have hentries : dumpEntries s (outer + 1) entries =
        .ok (entries.map fun e => (e.1, out e)) :=
      dumpEntries_ok fun e he => (h e he).dump_eq s (outer + 1) (by omega)
    simp only [dump]
    refine (if_neg hlevel).trans ?_
    exact congrArg (Except.map Json.object) hentries
  value := by
    rw [Json.toValue, entryValues_eq_map, List.map_map]
    refine congrArg Value.mapping (Eq.trans ?_ (List.map_id entries))
    exact List.map_congr_left fun e he => Prod.ext rfl (h e he).value
  exact := by
    have hexact : Json.exactEntries (entries.map fun e => (e.1, out e)) = true :=
      Json.exactEntries_of_forall (List.forall_mem_map.mpr fun e he => (h e he).exact)
    simp only [Json.isExact, List.map_map, Function.comp_def, hkeys, hexact, decide_true,
      Bool.and_self]
  depth := Nat.succ_le_succ
    (Json.depthOfEntries_le (List.forall_mem_map.mpr fun e he => (h e he).depth))
  compact := Json.runs_object (List.forall_mem_map.mpr fun e he => (h e he).compact)

/-- There is a document that stands for the value. -/
theorem IsData.exists_written {v : Value} (h : v.IsData depth) : ∃ j, v.WrittenAs depth j := by
  induction h with
  | null =>
    refine ⟨.null, writtenAs_atom (fun s outer h => ?_) rfl rfl rfl (.of_outside rfl)⟩
    simp only [dump]
    exact if_neg h
  | bool b =>
    refine ⟨.bool b, writtenAs_atom (fun s outer h => ?_) rfl rfl rfl ?_⟩
    · simp only [dump]
      exact if_neg h
    · cases b <;> exact .of_outside rfl
  | @int _ n hfits =>
    refine ⟨.int n, writtenAs_atom (fun s outer h => ?_) rfl hfits rfl (Json.runs_intChars n)⟩
    simp only [dump]
    exact if_neg h
  | text t =>
    refine ⟨.text t, writtenAs_atom (fun s outer h => ?_) rfl rfl rfl (Json.runs_textChars t)⟩
    simp only [dump]
    exact if_neg h
  | list _ ih =>
    choose! out hout using ih
    exact ⟨_, writtenAs_list hout⟩
  | mapping hkeys _ ih =>
    choose! out hout using ih
    exact ⟨_, writtenAs_mapping hkeys hout⟩

/-- Embedded text is compact and reads back as the value that it was made of. -/
theorem WrittenAs.embed {v : Value} {j : Json} (h : v.WrittenAs depth j)
    (hdepth : depth ≤ Json.maxDepth) :
    SceneSource.embed v = .ok j.render ∧ Shape.unembedded (.text j.render) = .ok v ∧
      Json.IsCompact j.render := by
  have hlimit : 0 + depth < depthLimit := by
    rw [Nat.zero_add]
    exact Nat.lt_of_le_of_lt hdepth (by decide)
  have hread : Json.ofText j.render = .ok j :=
    Json.ofText_render h.exact (Nat.le_trans h.depth (Nat.succ_le_succ hdepth))
  refine ⟨?_, ?_, Json.isCompact_render h.compact⟩
  · rw [SceneSource.embed, h.dump_eq .text 0 hlimit]
    rfl
  · change (Json.ofText _).map Json.toValue = _
    rw [hread]
    exact congrArg Except.ok h.value

end Value

/-! ## Resolutions -/

/-- The entries of a resolution. -/
def resolutionEntries (width height : Int) : List (String × Value) :=
  [("width", .int width), ("height", .int height)]

namespace Kind

/-- The field for a resolution. -/
def resolutionField : Field Shape :=
  { name := "resolution", shape := .embedded .resolution,
    default? := some (Part.resolution.record (resolutionEntries 1280 720)) }

theorem mem_resolutionField : resolutionField ∈ Kind.avCaptureInput.fields :=
  List.mem_of_getElem? (i := 6) rfl

/-- A resolution is sent as compact text, which is stored as that resolution. -/
theorem sends_resolution {width height : Int} (hwidth : Integer.fits width = true)
    (hheight : Integer.fits height = true) : ∃ s, Json.IsCompact s ∧
      Kind.avCaptureInput.Sends resolutionField
        (Part.resolution.record (resolutionEntries width height)) (.text s) ∧
      Kind.avCaptureInput.Stores resolutionField (.text s)
        (Part.resolution.record (resolutionEntries width height)) := by
  have hdata : (Value.mapping (resolutionEntries width height)).IsData 1 := by
    refine .mapping (show ["width", "height"].Nodup by decide) ?_
    exact List.forall_mem_cons.mpr ⟨.int hwidth, List.forall_mem_singleton.mpr (.int hheight)⟩
  obtain ⟨j, hwritten⟩ := hdata.exists_written
  -- a resolution is written as the mapping of its entries is
  have hdump : dump .text .any 0 (.mapping (resolutionEntries width height)) =
      .ok (.object [("width", .int width), ("height", .int height)]) := rfl
  have hj := Except.ok.inj ((hwritten.dump_eq .text 0 (by decide)).symm.trans hdump)
  obtain ⟨_, hread, hcompact⟩ := hwritten.embed (by decide)
  refine ⟨j.render, hcompact, ?_, ?_⟩
  · refine (sends_iff mem_resolutionField (by decide)).mpr ⟨_, rfl, ?_⟩
    rw [hj]
    exact Shape.write_embedded rfl
  · refine (stores_iff mem_resolutionField).mpr ?_
    change (Leaf.converted (Shape.unembedded (.text j.render)) >>= Part.resolution.check) = _
    rw [hread]
    rfl

end Kind

/-- What is made of nothing, truth values, integers, texts, lists and mappings is embedded as
    compact text, which reads back as the same value. A resolution is sent as such text, and the
    text is stored as the same resolution. -/
theorem embedded_reads_back :
    (∀ depth v, Value.IsData depth v → depth ≤ 200 → ∃ s, embed v = .ok s ∧
      Shape.unembedded (.text s) = .ok v ∧ Json.IsCompact s) ∧
    ∀ width height, Integer.fits width = true → Integer.fits height = true → ∃ s,
      Json.IsCompact s ∧
      Kind.avCaptureInput.Sends Kind.resolutionField
        (Part.resolution.record (resolutionEntries width height)) (.text s) ∧
      Kind.avCaptureInput.Stores Kind.resolutionField (.text s)
        (Part.resolution.record (resolutionEntries width height)) := by
  refine ⟨fun depth v hdata hdepth => ?_, fun _ _ => Kind.sends_resolution⟩
  obtain ⟨j, hwritten⟩ := hdata.exists_written
  exact ⟨_, hwritten.embed hdepth⟩

/-- Controls, quotes, negative numbers and empty containers inside of each other, and a
    resolution. -/
theorem embedded_reads_back_nested :
    (∃ s, embed (.list [.mapping [("say \"\n", .int (-7)), ("", .list [])], .bool true, .null,
        .text "1\x01\\ é", .mapping []]) = .ok s ∧
      Shape.unembedded (.text s) =
        .ok (.list [.mapping [("say \"\n", .int (-7)), ("", .list [])], .bool true, .null,
          .text "1\x01\\ é", .mapping []]) ∧ Json.IsCompact s) ∧
    ∃ s, Json.IsCompact s ∧
      Kind.avCaptureInput.Sends Kind.resolutionField
        (Part.resolution.record (resolutionEntries 1920 (-1))) (.text s) ∧
      Kind.avCaptureInput.Stores Kind.resolutionField (.text s)
        (Part.resolution.record (resolutionEntries 1920 (-1))) := by
  obtain ⟨hvalues, hresolutions⟩ := embedded_reads_back
  have hfits : Integer.fits 1920 = true := by decide +kernel
  refine ⟨hvalues 3 _ (.list ?_) (by decide), hresolutions _ _ hfits
    (Integer.fits_of_lt_ten (by decide))⟩
  have hentries : ∀ e ∈ [("say \"\n", Value.int (-7)), ("", .list [])], e.2.IsData 1 :=
    List.forall_mem_cons.mpr ⟨.int (Integer.fits_of_lt_ten (by decide)),
      List.forall_mem_singleton.mpr (.list (List.forall_mem_nil _))⟩
  simp only [List.forall_mem_cons]
  exact ⟨.mapping (by decide) hentries, .bool true, .null, .text _,
    .mapping List.nodup_nil (List.forall_mem_nil _), List.forall_mem_nil _⟩

end SceneSource
