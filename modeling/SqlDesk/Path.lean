/-
File paths.

A path is a text whose components are separated by slashes; empty components and single dots say
nothing. `suffix` is the part of the last component from its last dot on, unless that dot opens or
closes the component, so a hidden file that is named only by an extension has none.
-/
import SqlDesk.Text.Lowercase
import SqlDesk.Text.Replace

namespace SqlDesk.Path

/-- The pieces of a path between slashes. -/
def pieces : List Char → List (List Char)
  | [] => [[]]
  | c :: rest =>
    if c = '/' then [] :: pieces rest
    else
      match pieces rest with
      | [] => [[c]]
      | piece :: more => (c :: piece) :: more

/-- The components of a path that lead somewhere. -/
def components (path : String) : List String :=
  ((pieces path.toList).filter fun piece => !(piece.isEmpty || piece == ['.'])).map String.ofList

/-- The last component of a path, or nothing. -/
def name (path : String) : String :=
  (components path).getLastD ""

/-- The part of a component from its last dot on; empty if that dot is its first or last character.
-/
def suffixOf (component : List Char) : List Char :=
  let backwards := component.reverse
  let body := backwards.takeWhile (· ≠ '.')
  let stem := (backwards.dropWhile (· ≠ '.')).drop 1
  if body.isEmpty || stem.isEmpty then [] else '.' :: body.reverse

/-- The suffix of a path's last component. -/
def suffix (path : String) : List Char :=
  suffixOf (name path).toList

/-- An extension with its leading dot, which may be left out. -/
def withDot (extension : List Char) : List Char :=
  match extension with
  | '.' :: _ => extension
  | _ => '.' :: extension

/-- Whether a path has an extension, capitals and small letters being the same. No path has the
empty extension. -/
def hasExtension (path extension : String) : Bool :=
  !extension.toList.isEmpty &&
    Text.lower (suffix path) == Text.lower (withDot extension.toList)

/-- Components put together to a path of the same kind as `path`, absolute or relative. -/
def assemble (path : String) (parts : List String) : String :=
  let rooted := path.startsWith "/"
  if parts.isEmpty then (if rooted then "/" else ".")
  else (if rooted then "/" else "") ++ "/".intercalate parts

/-- A path without empty components and single dots. -/
def normal (path : String) : String :=
  assemble path (components path)

/-- Components in which a double dot has taken back the one before it. -/
def climb (parts : List String) : List String :=
  (parts.foldl (fun seen part => if part = ".." then seen.tail else part :: seen) []).reverse

/-- Where a path leads if every directory on its way exists. -/
def place (path : String) : List String :=
  climb (components path)

/-- A path without empty components, single dots and double dots. -/
def resolve (path : String) : String :=
  assemble path (climb (components path))

/-- The place where `name` lies inside the directory `folder`. -/
def inside (folder name : String) : String :=
  normal (folder ++ "/" ++ name)

/-- The directory that a path lies in. -/
def parent (path : String) : String :=
  assemble path (components path).dropLast

/-- A text that can be a component of a path. -/
structure IsComponent (part : String) : Prop where
  ne_empty : part ≠ ""
  ne_dot : part ≠ "."
  no_slash : '/' ∉ part.toList

/-- A text that can be the name of a file. -/
structure IsName (name : String) : Prop extends IsComponent name where
  ne_dots : name ≠ ".."

instance (name : String) : Decidable (IsName name) :=
  decidable_of_iff (name ≠ "" ∧ name ≠ "." ∧ '/' ∉ name.toList ∧ name ≠ "..")
    ⟨fun ⟨hempty, hdot, hslash, hdots⟩ => ⟨⟨hempty, hdot, hslash⟩, hdots⟩,
      fun h => ⟨h.ne_empty, h.ne_dot, h.no_slash, h.ne_dots⟩⟩

end SqlDesk.Path
