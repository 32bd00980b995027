/-!
# File paths

Paths are texts of segments separated by slashes. Repeated slashes, a slash at the end and a
segment `.` inside a path do not count; a root and a `.` at the very start do. Taking the parent
of a path cuts its text and changes nothing else in it.
-/

namespace HookWiring.Path

/-- The length of the root, or of the `.` that a relative path starts with. -/
def leadLength : List Char → Nat
  | '/' :: _ => 1
  | ['.'] => 1
  | '.' :: '/' :: _ => 1
  | _ => 0

/-- The reversed text of a path without the slashes and lone dots at its end. -/
def trimReversed : List Char → List Char
  | '/' :: rest => trimReversed rest
  | ['.'] => []
  | '.' :: '/' :: rest => trimReversed rest
  | text => text

def lead (path : List Char) : List Char :=
  path.take (leadLength path)

def bodyReversed (path : List Char) : List Char :=
  trimReversed (path.drop (leadLength path)).reverse

/-- The path without its last segment; the root and the empty path have no parent. -/
def parent? (path : List Char) : Option (List Char) :=
  match bodyReversed path with
  | [] => if lead path = ['.'] then some [] else none
  | body => some (lead path ++ (trimReversed (body.dropWhile (· ≠ '/'))).reverse)

/-- The last segment of a path, if it is a name and not `..`. -/
def fileName? (path : List Char) : Option (List Char) :=
  match bodyReversed path with
  | [] => none
  | body =>
    let segment := (body.takeWhile (· ≠ '/')).reverse
    if segment = ['.', '.'] then none else some segment

/-- A path inside another one; an absolute path stands for itself. -/
def join (base path : List Char) : List Char :=
  match path with
  | '/' :: _ => path
  | _ => if base = [] ∨ base.getLast? = some '/' then base ++ path else base ++ '/' :: path

example : parent? "a//b/./c/".toList = some "a//b".toList := by decide

example : parent? "./a".toList = some ".".toList ∧ parent? ".".toList = some [] := by decide

example : fileName? "/".toList = none ∧ fileName? "a/..".toList = none := by decide

end HookWiring.Path
