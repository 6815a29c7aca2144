-- SUMMARY: Which texts are normal paths, and which text a field for a path sends.
import Mathlib.Data.List.Basic
import SceneSource.Proofs.FieldEntries

/-!
# The texts of paths

A normal path is a root and names with single slashes between them, or one point where it would
be empty. Every text has a normal one, and only the normal ones are their own. A field for a path
sends a text or a path as it is, but the text of any other object that stands for a path only
after it was made normal; so an empty text from such an object is sent as a point.
-/

namespace SceneSource

namespace PathText

/-! ## The grammar of normal paths -/

/-- That characters are a name in a normal path. -/
structure IsName (p : List Char) : Prop where
  nonempty : p ≠ []
  not_point : p ≠ ['.']
  no_slash : '/' ∉ p

/-- That a text is a normal path. -/
inductive Normal : String → Prop
  | point : Normal "."
  | path {root : List Char} {names : List (List Char)}
      (hroot : root = [] ∨ root = ['/'] ∨ root = ['/', '/']) (hnames : ∀ p ∈ names, IsName p)
      (hne : root ++ List.intercalate ['/'] names ≠ []) :
      Normal (String.ofList (root ++ List.intercalate ['/'] names))

/-! ## Pieces -/

theorem pieces_ne_nil (cs : List Char) : pieces cs ≠ [] := by
  fun_cases pieces cs <;> simp

theorem pieces_cons {c : Char} (hc : c ≠ '/') (cs : List Char) :
    ∃ p ps, pieces cs = p :: ps ∧ pieces (c :: cs) = (c :: p) :: ps := by
  obtain ⟨p, ps, hp⟩ := List.exists_cons_of_ne_nil (pieces_ne_nil cs)
  refine ⟨p, ps, hp, ?_⟩
  rw [pieces, hp]
  exact fun h => hc h

/-- The pieces are what stands between the slashes. -/
theorem pieces_eq_splitOn (cs : List Char) : pieces cs = cs.splitOn '/' := by
  induction cs with
  | nil => rfl
  | cons c cs ih =>
    rw [List.splitOn_cons_eq_if_modifyHead, ← ih]
    split
    · rename_i hc
      rw [eq_of_beq hc, pieces]
    · rename_i hc
      obtain ⟨p, ps, hp, hpieces⟩ := pieces_cons (fun h => hc (beq_iff_eq.mpr h)) cs
      rw [hpieces, hp, List.modifyHead_cons]

theorem no_slash_of_mem_pieces {cs p : List Char} (h : p ∈ pieces cs) : '/' ∉ p := by
  induction cs generalizing p with
  | nil =>
    cases List.mem_singleton.mp h
    exact List.not_mem_nil
  | cons c cs ih =>
    by_cases hc : c = '/'
    · subst hc
      rw [pieces] at h
      rcases List.mem_cons.mp h with rfl | h
      · exact List.not_mem_nil
      · exact ih h
    · obtain ⟨q, qs, hq, hpieces⟩ := pieces_cons hc cs
      rw [hpieces] at h
      rcases List.mem_cons.mp h with rfl | h
      · have hfirst : '/' ∉ q := ih (hq ▸ List.mem_cons_self ..)
        exact fun hmem => (List.mem_cons.mp hmem).elim (fun heq => hc heq.symm) hfirst
      · exact ih (hq ▸ List.mem_cons_of_mem _ h)

theorem isName_of_mem_names {cs p : List Char} (h : p ∈ names cs) : IsName p := by
  obtain ⟨hpiece, hkept⟩ := List.mem_filter.mp h
  obtain ⟨hnonempty, hpoint⟩ := of_decide_eq_true hkept
  exact ⟨hnonempty, hpoint, no_slash_of_mem_pieces hpiece⟩

/-! ## Roots and names -/

/-- The root of a path is one of three. -/
theorem root_cases (cs : List Char) : root cs = [] ∨ root cs = ['/'] ∨ root cs = ['/', '/'] := by
  unfold root
  split <;> simp

section Joined

variable {ns : List (List Char)} (hns : ∀ p ∈ ns, IsName p)
include hns

/-- Names do not start with a slash. -/
theorem head_intercalate : ∀ c ∈ (List.intercalate ['/'] ns).head?, c ≠ '/' := by
  cases ns with
  | nil => exact fun c hc => nomatch hc
  | cons p ps =>
    have hp := hns p (List.mem_cons_self ..)
    obtain ⟨c, rest, rfl⟩ := List.exists_cons_of_ne_nil hp.nonempty
    have hfirst : (List.intercalate ['/'] ((c :: rest) :: ps)).head? = some c := by
      cases ps with
      | nil => rw [List.intercalate_singleton, List.head?_cons]
      | cons q qs => rw [List.intercalate_cons_cons, List.cons_append, List.cons_append,
          List.head?_cons]
    rw [hfirst]
    rintro _ ⟨⟩ rfl
    exact hp.no_slash (List.mem_cons_self ..)

variable {front : List Char} (hfront : front = [] ∨ front = ['/'] ∨ front = ['/', '/'])
include hfront

theorem root_append : root (front ++ List.intercalate ['/'] ns) = front := by
  have hhead := head_intercalate hns
  generalize List.intercalate ['/'] ns = cs at hhead
  cases cs with
  | nil => rcases hfront with rfl | rfl | rfl <;> rfl
  | cons c rest =>
    have hc : c ≠ '/' := hhead c rfl
    rcases hfront with rfl | rfl | rfl <;> simp [root, hc]

theorem names_append : names (front ++ List.intercalate ['/'] ns) = ns := by
  have hkept : ns.filter (fun p => p ≠ [] ∧ p ≠ ['.']) = ns :=
    List.filter_eq_self.mpr fun p hp =>
      decide_eq_true ⟨(hns p hp).nonempty, (hns p hp).not_point⟩
  have hjoined : names (List.intercalate ['/'] ns) = ns := by
    by_cases hne : ns = []
    · subst hne
      rfl
    · have hpieces : (List.intercalate ['/'] ns).splitOn '/' = ns :=
        List.splitOn_intercalate '/' (fun p hp => (hns p hp).no_slash) hne
      rw [names, pieces_eq_splitOn, hpieces, hkept]
  -- a slash in front adds an empty piece, which is dropped
  have hslash : ∀ cs, names ('/' :: cs) = names cs := by
    intro cs
    rw [names, pieces]
    rfl
  rcases hfront with rfl | rfl | rfl
  · exact hjoined
  · exact (hslash _).trans hjoined
  · exact (hslash _).trans ((hslash _).trans hjoined)

end Joined

/-! ## Normal texts -/

/-- The normal text of a path is normal. -/
theorem normal_isNormal (s : String) : Normal (normal s) := by
  have hnames : ∀ p ∈ names s.toList, IsName p := fun p => isName_of_mem_names
  unfold normal
  simp only
  split
  · exact .point
  · rename_i cs hne
    exact .path (root_cases _) hnames hne

/-- A normal text is its own normal text. -/
theorem normal_of_isNormal {s : String} (h : Normal s) : normal s = s := by
  cases h with
  | point => rfl
  | @path front ns hfront hns hne =>
    unfold normal
    simp only [String.toList_ofList, root_append hns hfront, names_append hns hfront]

theorem normal_eq_self_iff {s : String} : normal s = s ↔ Normal s :=
  ⟨fun h => h ▸ normal_isNormal s, normal_of_isNormal⟩

/-! ## Given and sent texts -/

/-- The text that a value gives for a path. -/
def given? (v : Value) : Option String := (encode v).toOption.bind Value.text?

/-- The text that is sent for a value that gives some text. -/
def sent (v : Value) (given : String) : String :=
  match v with
  | .pathLike _ answer => normal answer.display
  | _ => given

/-- That a value is a text or a path, or an object that answers with a plain text that is normal. -/
def Keeps : Value → Prop
  | .pathLike _ answer => ∃ t, answer = .text t ∧ Normal t
  | _ => True

theorem given?_of_text? {v : Value} {t : String} (h : v.text? = some t) : given? v = some t := by
  cases v with
  | text | choice => simp only [given?, encode, h, Except.toOption, Option.bind_some]
  | _ => cases h

theorem given?_pathLike (i : Nat) (answer : Value) :
    given? (.pathLike i answer) = answer.text? := by
  cases htext : answer.text? with
  | none =>
    cases answer with
    | text => cases htext
    | bytes => rfl
    | _ => simp only [given?, encode, htext, Except.toOption, Option.bind_none]
  | some t =>
    cases answer with
    | text | choice => simp only [given?, encode, htext, Except.toOption, Option.bind_some]
    | _ => cases htext

/-- The name of a member is no normal text of its value. -/
theorem normal_fullName_ne {c : Choice} {t : String} (h : c.value = .text t) :
    normal c.fullName ≠ t := by
  cases c with
  | _ x => cases x <;> cases h <;> decide

theorem value_of_text? {c : Choice} {t : String} (h : (Value.choice c).text? = some t) :
    c.value = .text t := by
  simp only [Value.text?] at h
  split at h
  · rename_i hvalue
    rw [hvalue, Option.some.inj h]
  · cases h

/-- What is sent is what was given exactly for a text, a path or a plain normal answer. -/
theorem sent_eq_iff {v : Value} {t : String} (h : given? v = some t) : sent v t = t ↔ Keeps v := by
  cases v with
  | pathLike i answer =>
    rw [given?_pathLike] at h
    cases answer with
    | text s =>
      cases h
      change normal t = t ↔ ∃ t', Value.text t = .text t' ∧ Normal t'
      rw [normal_eq_self_iff]
      constructor
      · exact fun ht => ⟨t, rfl, ht⟩
      · rintro ⟨t', heq, ht⟩
        rwa [Value.text.inj heq]
    | choice c =>
      have hvalue := value_of_text? h
      have hdisplay : (Value.choice c).display = c.fullName := by
        simp only [Value.display, hvalue]
      change normal (Value.choice c).display = t ↔ ∃ t', Value.choice c = .text t' ∧ Normal t'
      rw [hdisplay]
      constructor
      · exact fun heq => absurd heq (normal_fullName_ne hvalue)
      · rintro ⟨_, heq, _⟩
        cases heq
    | _ => cases h
  | _ => exact ⟨fun _ => trivial, fun _ => rfl⟩

/-! ## What a field for a path stores and writes -/

/-- What gives a text is stored, as a value that is written as the text to be sent. -/
theorem exists_stored {v : Value} {t : String} (h : given? v = some t) : ∃ stored,
    ofValue v = .ok stored ∧ ∀ (s : Style) (outer : Nat),
      (Shape.leaf .path).write s outer stored = .ok (.text (sent v t)) := by
  cases v with
  | pathLike i answer =>
    rw [given?_pathLike] at h
    refine ⟨.path (normal answer.display), ?_, fun _ _ => rfl⟩
    cases answer with
    | text | choice => simp only [ofValue, h, ofText]
    | _ => cases h
  | path | caselessPath =>
    cases h
    exact ⟨_, rfl, fun _ _ => rfl⟩
  | text u =>
    cases h
    exact ⟨_, rfl, fun _ _ => rfl⟩
  | choice c =>
    have htext : (Value.choice c).text? = some t := by
      cases htext : (Value.choice c).text? with
      | none =>
        simp only [given?, encode, htext] at h
        cases h
      | some u => exact (given?_of_text? htext).symm.trans h
    refine ⟨.choice c, by simp only [ofValue, htext], fun s outer => ?_⟩
    obtain ⟨u, hsettles, hsettled⟩ :=
      Leaf.settles_path s outer (Leaf.stores_path_of_text? htext)
    simp only [settled, htext] at hsettled
    rw [hsettles.written, ← Value.text.inj hsettled]
    rfl
  | _ => cases h

/-- What is stored gave a text. -/
theorem exists_given {v stored : Value} (h : ofValue v = .ok stored) : ∃ t, given? v = some t := by
  unfold ofValue at h
  split at h
  · exact ⟨_, rfl⟩
  · exact ⟨_, rfl⟩
  · split at h
    · cases h
    · rename_i htext
      exact ⟨_, (given?_pathLike _ _).trans htext⟩
    · cases h
  · split at h
    · rename_i htext
      exact ⟨_, given?_of_text? htext⟩
    · cases h

end PathText

end SceneSource
