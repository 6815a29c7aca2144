-- SUMMARY: File-system paths: their normal text, what stands for a path, and what is sent.
import SceneSource.Value.Shown

/-!
# Paths

A path has a normal text: no repeated slashes, no `.` between them, no slash at the end,
and `.` for nothing at all; exactly two slashes at the front stay two. A text that is
given for a path is not a path but stays the text it is, and is sent as it is. So does a
path of the notation without capitals: it is sent as it is spelled.
-/

namespace SceneSource.PathText

/-- The pieces between the slashes of a text. -/
def pieces : List Char → List (List Char)
  | [] => [[]]
  | '/' :: cs => [] :: pieces cs
  | c :: cs => match pieces cs with
    | [] => [[c]]
    | p :: ps => (c :: p) :: ps

/-- The root of a path: nothing, one slash, or exactly two. -/
def root : List Char → List Char
  | '/' :: '/' :: '/' :: _ => ['/']
  | '/' :: '/' :: _ => ['/', '/']
  | '/' :: _ => ['/']
  | _ => []

/-- The pieces that a path keeps. -/
def names (cs : List Char) : List (List Char) :=
  (pieces cs).filter fun p => p ≠ [] ∧ p ≠ ['.']

/-- The parts of a path: its root, if it has one, and the pieces that it keeps. -/
def parts (s : String) : List String :=
  let cs := s.toList
  ((if root cs = [] then [] else [root cs]) ++ names cs).map String.ofList

/-- The normal text of a path. -/
def normal (s : String) : String :=
  let cs := s.toList
  match root cs ++ List.intercalate ['/'] (names cs) with
  | [] => "."
  | cs => String.ofList cs

/-- The path of a text. -/
def ofText (s : String) : Value := .path (normal s)

/-- The text, or the bytes, that a value gives for a path. -/
def encode (v : Value) : Except Fault Value :=
  match v with
  | .bytes _ => .ok v
  | .path s | .caselessPath s _ => .ok (.text s)
  | .pathLike _ answer => match answer, answer.text? with
    | .bytes _, _ => .ok answer
    | _, some _ => .ok answer
    | _, none => .error (.pathResult answer.typeName)
  | v => match v.text? with
    | some _ => .ok v
    | none => .error (.notPath v.typeName)

/-- What a path field stores for a value. -/
def ofValue (v : Value) : Except Fault Value :=
  match v with
  | .path _ | .caselessPath .. => .ok v
  | .pathLike _ answer => match answer, answer.text? with
    | .bytes _, _ => .error .pathBytes
    | _, some _ => .ok (ofText answer.display)
    | _, none => .error (.pathResult answer.typeName)
  | v => match v.text? with
    | some _ => .ok v
    | none => .error .pathShape

end SceneSource.PathText
