import LintConfig.Files.Pattern
import LintConfig.Files.Tree

/-! From patterns to source files. A pattern that names a folder stands for the source files in and
below it; any other pattern for the files whose path it fits, component by component. -/

namespace LintConfig.Files

/-- A name without its extension, and the extension: from the last dot on, unless only dots
precede it. -/
def splitExtension (name : String) : String × String :=
  let reversed := name.toList.reverse
  let extension := reversed.takeWhile (· != '.')
  let stem := reversed.drop (extension.length + 1)
  if extension.length < reversed.length && stem.any (· != '.') then
    (String.ofList stem.reverse, String.ofList ('.' :: extension.reverse))
  else (name, "")

def extensionOf (name : String) : String := (splitExtension name).2

mutual

/-- The source files below a path: those with one of the extensions, but not in folders with an
excluded name. -/
def sourcesBelow (extensions excluded : List String) (p : Path) : Tree → List Path
  | .file _ => []
  | .folder entries => entrySources extensions excluded p entries

def entrySources (extensions excluded : List String) (p : Path) :
    List (String × Tree) → List Path
  | [] => []
  | (name, .file _) :: rest =>
    (if extensions.contains (extensionOf name) then [p.child name] else []) ++
      entrySources extensions excluded p rest
  | (name, .folder entries) :: rest =>
    (if excluded.contains name then []
      else sourcesBelow extensions excluded (p.child name) (.folder entries)) ++
      entrySources extensions excluded p rest

end

def isHidden (name : String) : Bool := name.toList.head? == some '.'

/-- The names in a folder that a component fits; hidden ones only if it is hidden itself. -/
def matchingNames (component : String) (entries : List (String × Tree)) : List String :=
  (entries.map (·.1)).filter fun name =>
    (isHidden component || !isHidden name) && Pattern.matchesName component name

/-- The paths that components can stand for below a path. A component without special characters
stands for itself, whether there is such an entry or not. -/
def candidates (root : Tree) (p : Path) : List String → List Path
  | [] => [p]
  | component :: rest =>
    if Pattern.isSpecial component then
      match root.find? p with
      | some (.folder entries) =>
        (matchingNames component entries).flatMap fun name => candidates root (p.child name) rest
      | _ => []
    else candidates root (p.child component) rest

/-- Does a path text end in a slash or a dot of its own, so that it can only lead to a folder? -/
def asksForFolder (text : String) : Bool :=
  match (Path.pieces text.toList).getLast? with
  | some [] | some ['.'] => true
  | _ => false

/-- The components before the first one with special characters, if there is one. -/
def literalStart? (p : Path) : Option Path :=
  let start := p.parts.takeWhile (!Pattern.isSpecial ·)
  if start.length < p.parts.length then some { p with parts := start } else none

/-- The files whose path a pattern fits. A folder that is to be listed needs a proper name. -/
def matchingFiles (root : Tree) (pattern : String) : Except FileError (List Path) :=
  let p := Path.ofString pattern
  match (literalStart? p).bind (·.obstacle?) with
  | some .nullCharacter => .error ⟨.nullCharacter, p⟩
  | _ =>
    .ok (if asksForFolder pattern then []
      else (candidates root { p with parts := [] } p.parts).filter root.hasFile)

/-- The source files one pattern stands for. -/
def sourcesOf (root : Tree) (extensions excluded : List String) (pattern : String) :
    Except FileError (List Path) := do
  let p := Path.ofString pattern
  match ← root.probe p with
  | some (.folder entries) => return sourcesBelow extensions excluded p (.folder entries)
  | _ => matchingFiles root pattern

/-- Drop what equals its predecessor. -/
def dropRepeated : List Path → List Path
  | p :: q :: rest => if p = q then dropRepeated (q :: rest) else p :: dropRepeated (q :: rest)
  | few => few

/-- The source files that patterns stand for, each once, in order. -/
def expand (root : Tree) (patterns extensions excluded : List String) :
    Except FileError (List Path) := do
  let found ← patterns.mapM (sourcesOf root extensions excluded)
  return dropRepeated (found.flatten.mergeSort fun p q => !q.before p)

end LintConfig.Files
