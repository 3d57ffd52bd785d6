import Stencil.Text

/-!
# Paths

A path is written with strokes between its parts.  Empty parts and parts that
name the same directory count for nothing; parts that name the parent directory
stay.  A directory held in memory answers which path names which file.
-/

namespace Stencil

/-- A path of a file. -/
structure Path where
  /-- One or two strokes, or nothing for a path from the current directory. -/
  root : Text
  /-- The parts. -/
  parts : List Text
deriving DecidableEq, Repr

namespace Path

/-- The pieces of a text between strokes. -/
def pieces : Text → List Text
  | [] => [[]]
  | point :: rest =>
    if point = '/' then [] :: pieces rest
    else
      match pieces rest with
      | [] => [[point]]
      | piece :: others => (point :: piece) :: others

/-- The root of a path: exactly two strokes are kept, more count as one. -/
def rootOf (text : Text) : Text :=
  match (text.takeWhile (· = CodePoint.ofChar '/')).length with
  | 0 => []
  | 2 => Text.of "//"
  | _ => Text.of "/"

/-- The path of a text. -/
def of (text : Text) : Path where
  root := rootOf text
  parts := (pieces text).filter fun piece => !piece.isEmpty && piece ≠ Text.of "."

/-- The text of a path; the current directory is a full stop. -/
def toText (path : Path) : Text :=
  let text := path.root ++ Text.join (Text.of "/") path.parts
  if text.isEmpty then Text.of "." else text

end Path

/-- A directory with the contents of all files below it. -/
abbrev Directory := List (Path × List UInt8)

namespace Directory

/-- Whether some file lies below the directory of a list of parts. -/
def hasBelow (directory : Directory) (parts : List Text) : Bool :=
  directory.any fun entry =>
    entry.1.root.isEmpty && parts.isPrefixOf entry.1.parts &&
      parts.length < entry.1.parts.length

/-- The parts from the top of the directory that a path leads to, if every
directory on the way exists and the way does not leave the top. -/
def walk (directory : Directory) : List Text → List Text → Option (List Text)
  | place, [] => some place
  | place, part :: rest =>
    if part = Text.of ".." then
      if place.isEmpty || !directory.hasBelow place then none
      else walk directory place.dropLast rest
    else if place.isEmpty || directory.hasBelow place then walk directory (place ++ [part]) rest
    else none

/-- The content of the file of a path. -/
def read? (directory : Directory) (path : Path) : Option (List UInt8) :=
  if path.root.isEmpty then
    match directory.walk [] path.parts with
    | none => none
    | some parts =>
      (directory.find? fun entry => entry.1.root.isEmpty && entry.1.parts == parts).map Prod.snd
  else none

end Directory

end Stencil
