/-!
# `Multicast.Path` — absolute file names

A path is made absolute from the working directory and freed of empty steps, of single dots and of
steps back. Two slashes in front are kept as they are, because such paths may mean something of
their own; any other number of them means one.

## Contents
- `Path.steps` and `Path.absolute`.
-/

namespace Multicast.Path

/-- The steps of an absolute path, where a step back takes one away. -/
def steps : List (List Char) → List (List Char) → List (List Char)
  | taken, [] => taken
  | taken, s :: rest =>
    if s = [] ∨ s = ['.'] then steps taken rest
    else if s = ['.', '.'] then steps taken.dropLast rest
    else steps (taken ++ [s]) rest

/-- The slashes in front of an absolute path. -/
def root : List Char → List Char
  | '/' :: '/' :: '/' :: _ => ['/']
  | '/' :: '/' :: _ => ['/', '/']
  | _ => ['/']

/-- The absolute form of a path. -/
def absolute (directory path : String) : String :=
  let whole :=
    if path.toList.head? = some '/' then path.toList else directory.toList ++ '/' :: path.toList
  String.ofList (root whole ++ ['/'].intercalate (steps [] (whole.splitOn '/')))

end Multicast.Path
