import TestSignal.Text.Split

namespace TestSignal

/-!
# Paths

A path is a root and segments.  Reading one drops repeated slashes and segments
that are a single dot, and keeps parent segments, since what they mean depends
on links in the file system.  Exactly two leading slashes are a root of their
own; any other number of them is one.
-/

inductive PathRoot where
  | relative
  | absolute
  | doubled
  deriving DecidableEq

structure Path where
  root : PathRoot
  segments : List String
  deriving DecidableEq

namespace PathRoot

def toText : PathRoot → String
  | relative => ""
  | absolute => "/"
  | doubled => "//"

end PathRoot

namespace Path

def rootOf : List Char → PathRoot
  | '/' :: '/' :: '/' :: _ => .absolute
  | '/' :: '/' :: _ => .doubled
  | '/' :: _ => .absolute
  | _ => .relative

/-- A piece that names something; an empty one and a single dot do not. -/
def isSegment (piece : List Char) : Bool := !piece.isEmpty && piece != ['.']

def ofText (text : String) : Path where
  root := rootOf text.toList
  segments := ((Text.pieces (· == '/') text.toList).filter isSegment).map String.ofList

/-- The current directory is written as a dot. -/
def toText (path : Path) : String :=
  if path.root = .relative && path.segments.isEmpty then "."
  else path.root.toText ++ String.intercalate "/" path.segments

/-- One path below another; a path with a root replaces what is before it. -/
def join (path below : Path) : Path :=
  match below.root with
  | .relative => { path with segments := path.segments ++ below.segments }
  | _ => below

/-- A path below another, given as text. -/
def below (path : Path) (text : String) : Path := path.join (ofText text)

/-- The last segment, or nothing at a root or in the current directory. -/
def name (path : Path) : String := path.segments.getLast?.getD ""

end Path

end TestSignal
