-- SUMMARY: What the fields for paths and for files send, and what of it is the text that was given.
import SceneSource.Proofs.PathTexts

/-!
# Fields for paths and for files

A field for a path accepts what gives a text, and sends a text for it. A field for files accepts
files one by one, each of which has a field for a path. Only an object that is neither a text nor
a path can be sent as another text than the one it gives.
-/

namespace SceneSource

/-! ## A number of parts -/

namespace Shape

/-- Items are checked one by one. -/
theorem all_checkItems_ok_iff {p : Part} {xs ys : List Value} {i : Nat} :
    Refusal.all (checkItems p i xs) = .ok ys ↔
      List.Forall₂ (fun x y => p.check x = .ok y) xs ys := by
  induction xs generalizing i ys with
  | nil => cases ys <;> simp [checkItems, Refusal.all]
  | cons x xs ih =>
    simp only [checkItems, Refusal.all, Refusal.join_ok_iff, ih, List.forall₂_cons_left_iff]
    constructor
    · rintro ⟨y, ys, hy, hys, rfl⟩
      exact ⟨y, ys, Outcome.mapError_eq_ok hy, hys, rfl⟩
    · rintro ⟨y, ys, hy, hys, rfl⟩
      refine ⟨y, ys, ?_, hys, rfl⟩
      rw [hy]
      rfl

theorem check_parts_ok_iff {p : Part} {v stored : Value} {xs : List Value}
    (hxs : items? v = some xs) : (parts p).check v = .ok stored ↔
      ∃ ys, List.Forall₂ (fun x y => p.check x = .ok y) xs ys ∧ stored = .tuple ys := by
  change checkParts p v = .ok stored ↔ _
  simp only [checkParts, hxs]
  constructor
  · intro h
    obtain ⟨ys, hys, rfl⟩ := Outcome.map_eq_ok h
    exact ⟨ys, all_checkItems_ok_iff.mp hys, rfl⟩
  · rintro ⟨ys, hys, rfl⟩
    rw [all_checkItems_ok_iff.mpr hys]
    rfl

theorem write_parts_ok_iff {p : Part} {ys : List Value} {j : Json} :
    (parts p).write .settings 0 (.tuple ys) = .ok j ↔ ∃ outs, j = .array outs ∧
      List.Forall₂ (fun y out => dump .settings (.part p) 0 y = .ok out) ys outs := by
  change dump .settings (.parts p) 0 (.tuple ys) = .ok j ↔ _
  simp only [dump_tuple .settings p (Nat.zero_le _) ys, dumpItems_eq_mapM,
    ← Outcome.mapM_ok_iff_forall₂]
  constructor
  · intro h
    obtain ⟨outs, houts, rfl⟩ := Outcome.map_eq_ok h
    exact ⟨outs, rfl, houts⟩
  · rintro ⟨outs, rfl, houts⟩
    rw [houts]
    rfl

end Shape

/-! ## Files -/

namespace Part

/-- That a file has a value for its path: it is a mapping with it, or was read from one. -/
def HasPath (file v : Value) : Prop :=
  ∃ entries, slideshowFile.check file = slideshowFile.read entries ∧
    entries.lookup "value" = some v

/-- That a file is written as an object with the text to be sent for its path. -/
def SendsPath (file : Value) (out : Json) : Prop :=
  ∀ v, HasPath file v → ∃ given entries, PathText.given? v = some given ∧
    out = .object entries ∧ entries.lookup "value" = some (.text (PathText.sent v given))

/-- The field of a file for its path. -/
def fileValue : Field Leaf := { name := "value", shape := .path, default? := some (.text "") }

theorem fileValue_mem : fileValue ∈ slideshowFile.fields := List.mem_cons_self ..

theorem sendsPath {file stored : Value} {out : Json}
    (hcheck : slideshowFile.check file = .ok stored)
    (hdump : dump .settings (.part slideshowFile) 0 stored = .ok out) : SendsPath file out := by
  rintro v ⟨entries, hread, hvalue⟩
  rw [hcheck] at hread
  obtain ⟨attributes, hattributes, rfl⟩ := Outcome.map_eq_ok hread.symm
  obtain ⟨_, val, hval, rfl⟩ := Field.readAll_eq_ok_iff.mp hattributes
  rw [Shape.dump_part .settings slideshowFile _ (Nat.zero_le _)] at hdump
  obtain ⟨es, hes, rfl⟩ := Outcome.map_eq_ok hdump
  obtain ⟨out, hout, rfl⟩ := dumpFields_ok_iff.mp hes
  -- the path is read from its entry and written under the same name
  have hstored : PathText.ofValue v = .ok (val fileValue) := by
    have hpath := hval fileValue fileValue_mem
    simp only [Field.read, Field.given?, fileValue, List.findSome?_cons, hvalue, Option.map_some]
      at hpath
    exact Outcome.mapError_eq_ok (Outcome.mapError_eq_ok hpath)
  obtain ⟨given, hgiven⟩ := PathText.exists_given hstored
  obtain ⟨_, hstored', hwrite⟩ := PathText.exists_stored hgiven
  cases hstored.symm.trans hstored'
  have hsent : out fileValue = .text (PathText.sent v given) :=
    Except.ok.inj ((hout fileValue fileValue_mem).symm.trans (hwrite _ _))
  refine ⟨given, _, hgiven, rfl, ?_⟩
  rw [← hsent]
  rfl

/-- A file that was read can be written. -/
theorem exists_dump_file {entries : List (String × Value)} {stored : Value}
    (h : slideshowFile.read entries = .ok stored) :
    ∃ out, dump .settings (.part slideshowFile) 0 stored = .ok out := by
  obtain ⟨val, hstores, rfl⟩ := eq_record_of_read h
  have hwrite : ∀ f ∈ slideshowFile.fields, ∃ j,
      (Shape.leaf f.shape).write .settings 0 (val f) = .ok j := by
    have hshapes : ∀ f ∈ slideshowFile.fields, f.shape = .path ∨ f.shape = .boolean := by decide
    intro f hf
    have hstored := hstores f hf
    rcases hshapes f hf with hshape | hshape
    · rw [hshape] at hstored ⊢
      obtain ⟨t, hsettles, _⟩ := Leaf.settles_path .settings 0 hstored
      exact ⟨_, hsettles.written⟩
    · rw [hshape] at hstored ⊢
      generalize val f = v at hstored
      cases v with
      | bool b => exact ⟨_, (Leaf.settles_boolean (by decide) .settings b).written⟩
      | _ => cases hstored
  choose! out hout using hwrite
  refine ⟨.object (slideshowFile.fields.map fun f => (f.wire, out f)), ?_⟩
  rw [Shape.dump_part .settings slideshowFile _ (Nat.zero_le _)]
  exact congrArg (Except.map Json.object) (dumpFields_ok_iff.mpr ⟨out, hout, rfl⟩)

section Files

variable {files stored : List Value}
  (hcheck : List.Forall₂ (fun x y => slideshowFile.check x = .ok y) files stored)
include hcheck

theorem sendsPath_each {outs : List Json} (hdump : List.Forall₂
      (fun y out => dump .settings (.part slideshowFile) 0 y = .ok out) stored outs) :
    List.Forall₂ SendsPath files outs := by
  induction hcheck generalizing outs with
  | nil =>
    cases hdump
    exact .nil
  | cons hfirst _ ih =>
    cases hdump with
    | cons hout hrest => exact .cons (sendsPath hfirst hout) (ih hrest)

theorem exists_dump_each (hread : ∀ file ∈ files, ∃ entries,
      slideshowFile.check file = slideshowFile.read entries) : ∃ outs, List.Forall₂
        (fun y out => dump .settings (.part slideshowFile) 0 y = .ok out) stored outs := by
  induction hcheck with
  | nil => exact ⟨[], .nil⟩
  | cons hfirst _ ih =>
    obtain ⟨⟨entries, hentries⟩, hrest⟩ := List.forall_mem_cons.mp hread
    obtain ⟨out, hout⟩ := exists_dump_file (hentries.symm.trans hfirst)
    obtain ⟨outs, houts⟩ := ih hrest
    exact ⟨out :: outs, .cons hout houts⟩

end Files

end Part

namespace Kind

section Fields

variable {k : Kind} {f : Field Shape} (hf : f ∈ k.fields)
include hf

section Path

variable (hshape : f.shape = .leaf .path)
include hshape

omit hf in
theorem check_path {v stored : Value} :
    f.shape.check v = .ok stored ↔ PathText.ofValue v = .ok stored := by
  rw [hshape]
  exact Outcome.mapError_ok_iff

/-- A field for a path accepts what gives a text. -/
theorem stores_path_iff {v : Value} :
    (∃ stored, k.Stores f v stored) ↔ ∃ given, PathText.given? v = some given := by
  simp only [stores_iff hf, check_path hshape]
  constructor
  · rintro ⟨_, hstored⟩
    exact PathText.exists_given hstored
  · rintro ⟨_, hgiven⟩
    obtain ⟨stored, hstored, _⟩ := PathText.exists_stored hgiven
    exact ⟨stored, hstored⟩

theorem sends_path {v : Value} {given : String} (h : PathText.given? v = some given) :
    k.Sends f v (.text (PathText.sent v given)) := by
  have hk : k ≠ .displayCapture := ne_displayCapture hf hshape (by decide)
  obtain ⟨stored, hstored, hwrite⟩ := PathText.exists_stored h
  refine sends hf ((check_path hshape).mpr hstored) hk ?_
  rw [Field.write, hshape]
  exact hwrite _ _

end Path

section Files

variable (hshape : f.shape = .parts .slideshowFile) {v : Value} {files : List Value}
  (hfiles : Shape.items? v = some files)
include hshape hfiles

/-- What is sent for files is an array of them, each with the text for its path. -/
theorem sends_files {j : Json} (h : k.Sends f v j) :
    ∃ outs, j = .array outs ∧ List.Forall₂ Part.SendsPath files outs := by
  have hk : k ≠ .displayCapture := ne_displayCapture hf hshape (by decide)
  obtain ⟨stored, hcheck, hwrite⟩ := (sends_iff hf hk).mp h
  rw [hshape] at hcheck
  obtain ⟨ys, hys, rfl⟩ := (Shape.check_parts_ok_iff hfiles).mp hcheck
  rw [Field.write, hshape] at hwrite
  obtain ⟨outs, rfl, houts⟩ := Shape.write_parts_ok_iff.mp hwrite
  exact ⟨outs, rfl, Part.sendsPath_each hys houts⟩

/-- Files that are mappings or were read are sent. -/
theorem exists_sends_files {stored : Value} (hstores : k.Stores f v stored)
    (hread : ∀ file ∈ files, ∃ entries,
      Part.slideshowFile.check file = Part.slideshowFile.read entries) : ∃ j, k.Sends f v j := by
  have hk : k ≠ .displayCapture := ne_displayCapture hf hshape (by decide)
  have hcheck := (stores_iff hf).mp hstores
  have hparts := hcheck
  rw [hshape] at hparts
  obtain ⟨ys, hys, rfl⟩ := (Shape.check_parts_ok_iff hfiles).mp hparts
  obtain ⟨outs, houts⟩ := Part.exists_dump_each hys hread
  refine ⟨.array outs, sends hf hcheck hk ?_⟩
  rw [Field.write, hshape]
  exact Shape.write_parts_ok_iff.mpr ⟨outs, rfl, houts⟩

end Files

end Fields

/-- Fields for paths accept what gives a text and send a text for it, and so does the path of every
    file in a field for files. The text is the one that was given exactly for a text, a path or an
    object that answers with a plain normal text. -/
theorem paths_sent (k : Kind) (f : Field Shape) (hf : f ∈ k.fields) :
    (f.shape = .leaf .path → ∀ v,
      ((∃ stored, k.Stores f v stored) ↔ ∃ given, PathText.given? v = some given) ∧
      ∀ given, PathText.given? v = some given →
        k.Sends f v (.text (PathText.sent v given))) ∧
    (f.shape = .parts .slideshowFile → ∀ v files, Shape.items? v = some files →
      (∀ j, k.Sends f v j →
        ∃ outs, j = .array outs ∧ List.Forall₂ Part.SendsPath files outs) ∧
      ((∃ stored, k.Stores f v stored) → (∀ file ∈ files, ∃ entries,
        Part.slideshowFile.check file = Part.slideshowFile.read entries) → ∃ j, k.Sends f v j)) ∧
    ∀ v given, PathText.given? v = some given →
      (PathText.sent v given = given ↔ PathText.Keeps v) := by
  refine ⟨fun hshape v => ⟨stores_path_iff hf hshape, fun _ => sends_path hf hshape⟩,
    fun hshape v files hfiles => ⟨fun _ => sends_files hf hshape hfiles, ?_⟩,
    fun _ _ => PathText.sent_eq_iff⟩
  rintro ⟨_, hstores⟩ hread
  exact exists_sends_files hf hshape hfiles hstores hread

/-- A text is sent with its slashes, also for the path of a file. -/
theorem paths_sent_slashes :
    Kind.imageSource.Sends (.path "file") (.text "a//b/") (.text "a//b/") ∧
    ∃ out, Kind.slideshow.Sends (.files "files") (.list [.mapping [("value", .text "a//b/")]])
      (.array [out]) ∧ Part.SendsPath (.mapping [("value", .text "a//b/")]) out := by
  have hfile : Field.path "file" ∈ Kind.imageSource.fields := List.mem_cons_self ..
  have hfiles : Field.files "files" ∈ Kind.slideshow.fields := List.mem_of_getElem? (i := 9) rfl
  obtain ⟨hpath, -, -⟩ := paths_sent .imageSource _ hfile
  obtain ⟨-, hparts, -⟩ := paths_sent .slideshow _ hfiles
  obtain ⟨heach, hsends⟩ := hparts rfl (.list [.mapping [("value", .text "a//b/")]]) _ rfl
  obtain ⟨j, hj⟩ := hsends ⟨_, stores hfiles rfl⟩ (by simpa using ⟨_, rfl⟩)
  obtain ⟨outs, rfl, houts⟩ := heach j hj
  obtain ⟨out, _, hout, hnil, rfl⟩ := List.forall₂_cons_left_iff.mp houts
  cases hnil
  exact ⟨(hpath rfl _).2 _ rfl, out, hj, hout⟩

/-- The empty text of an object that is neither a text nor a path is sent as a point. -/
theorem paths_emptied :
    PathText.given? (.pathLike 0 (.text "")) = some "" ∧
    Kind.imageSource.Sends (.path "file") (.pathLike 0 (.text "")) (.text ".") ∧
    ¬ Kind.imageSource.Sends (.path "file") (.pathLike 0 (.text "")) (.text "") := by
  have hfile : Field.path "file" ∈ Kind.imageSource.fields := List.mem_cons_self ..
  refine ⟨rfl, sends_path hfile rfl rfl, fun h => ?_⟩
  obtain ⟨_, hcheck, hwrite⟩ := (sends_iff hfile (by decide)).mp h
  cases hcheck
  have hpoint : Json.text "." = .text "" := Except.ok.inj hwrite
  exact absurd (Json.text.inj hpoint) (by decide)

end Kind

end SceneSource
