/-
Lamplighter.Text.FilePath — paths in one written form.

A path is a root and the names below it. Empty names and `.` are dropped, `..` is kept, and a path
without names and root is written `.`. Two slashes at the start are a root of their own; more count as
one.
-/

namespace Lamplighter

namespace Text

/-- The names of a path. -/
def pathNames (path : String) : List String :=
  (path.splitOn "/").filter (fun n => n ≠ "" && n ≠ ".")

/-- The root of a path. -/
def pathRoot (path : String) : String :=
  match path.toList.takeWhile (· = '/') with
  | [] => ""
  | [_, _] => "//"
  | _ => "/"

/-- A path in its one written form. -/
def normalPath (path : String) : String :=
  let text := pathRoot path ++ "/".intercalate (pathNames path)
  if text = "" then "." else text

end Text

end Lamplighter
