/-! Paths of files. A path is its components; single dots and empty components are dropped when it
is read, double dots stay, because what they lead to depends on the files. -/

namespace LintConfig.Files

structure Path where
  /-- What stands before the first component: nothing, one slash or two. -/
  root : String := ""
  parts : List String := []
  deriving DecidableEq, Repr, Inhabited

namespace Path

/-- The pieces of a text between slashes. -/
def pieces : List Char → List (List Char)
  | [] => [[]]
  | '/' :: rest => [] :: pieces rest
  | c :: rest =>
    match pieces rest with
    | [] => [[c]]
    | piece :: more => (c :: piece) :: more

/-- What a path text begins with. Exactly two slashes are a root of their own. -/
def rootOf : List Char → String
  | '/' :: '/' :: '/' :: _ => "/"
  | '/' :: '/' :: _ => "//"
  | '/' :: _ => "/"
  | _ => ""

/-- The components of a path text. -/
def components (text : List Char) : List String :=
  ((pieces text).map String.ofList).filter fun p => p != "" && p != "."

def ofString (text : String) : Path :=
  { root := rootOf text.toList, parts := components text.toList }

/-- Components with slashes between them. -/
def slashed : List String → String
  | [] => ""
  | [p] => p
  | p :: rest => p ++ "/" ++ slashed rest

def text (p : Path) : String :=
  if p.root == "" && p.parts.isEmpty then "." else p.root ++ slashed p.parts

/-- A path below another one; an absolute one takes its place. -/
def join (p q : Path) : Path :=
  if q.root == "" then { p with parts := p.parts ++ q.parts } else q

/-- The path with one more component. -/
def child (p : Path) (name : String) : Path := { p with parts := p.parts ++ [name] }

/-- The components that paths are compared by. -/
def key (p : Path) : List String := if p.root == "" then p.parts else p.root :: p.parts

end Path

/-- The order of lists of components. -/
def partsBefore : List String → List String → Bool
  | [], [] => false
  | [], _ :: _ => true
  | _ :: _, [] => false
  | a :: as, b :: bs => a < b || (a == b && partsBefore as bs)

/-- The order of paths: component by component. -/
def Path.before (p q : Path) : Bool := partsBefore p.key q.key

end LintConfig.Files
