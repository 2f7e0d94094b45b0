/-!
# Paths

Paths are texts; their parts are separated by slashes.

* **`Path.join`** — a name inside a directory; an absolute name stands for itself.
* **`Path.steps`** — what stands between the slashes of a path.
* **`Path.parts`** — the steps that lead somewhere else.
* **`Path.parent`** — the directory around a path.
-/

namespace NetUnits.Path

/-- Whether a path begins at the root. -/
def isAbsolute (path : String) : Bool :=
  path.toList.head? == some '/'

/-- **A name inside a directory.** An absolute name stands for itself. -/
def join (dir name : String) : String :=
  if isAbsolute name || dir.isEmpty then name
  else if dir.toList.getLast? == some '/' then dir ++ name
  else dir ++ "/" ++ name

/-- The parts between the slashes of a path, when `acc` (last character first) is already read of
the first. -/
def partsFrom (acc : List Char) : List Char → List (List Char)
  | [] => [acc.reverse]
  | c :: cs => if c = '/' then acc.reverse :: partsFrom [] cs else partsFrom (c :: acc) cs

/-- **The steps of a path**: what stands between its slashes, without empty parts. A dot is a step
that stays in a directory. -/
def steps (path : String) : List String :=
  ((partsFrom [] path.toList).filter fun p => !p.isEmpty).map String.ofList

/-- **The parts of a path**: its steps without dots. -/
def parts (path : String) : List String :=
  (steps path).filter (· != ".")

/-- A path without the slashes and dots at its end; both are written last character first. -/
def withoutTail : List Char → List Char
  | '/' :: rest => withoutTail rest
  | '.' :: '/' :: rest => withoutTail rest
  | rest => rest

/-- **The directory around a path**: the path without its last name and without what names nothing
at its end. -/
def parent (path : String) : String :=
  let above := withoutTail ((withoutTail path.toList.reverse).dropWhile (· != '/'))
  if above.isEmpty && isAbsolute path then "/" else String.ofList above.reverse

@[simp] theorem join_empty (name : String) : join "" name = name := by
  simp [join]

end NetUnits.Path
