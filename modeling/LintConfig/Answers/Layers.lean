import LintConfig.Answers.File

/-! Where the answers of one run come from. Each layer overrides those before it: the settings, the
answers file, the flags of the command line, and last the patterns of the sources to look at. -/

namespace LintConfig.Answers
open Files (Path Tree)

/-- Give fields values, one after the other. -/
def update (m news : Mapping) : Mapping := news.foldl (fun m (k, v) => Value.assign k v m) m

/-- The fields that are given at all. -/
def given (m : Mapping) : Mapping := m.filter fun e => e.2 != .null

/-- What holds if nothing else is said. -/
def basis (format : String) : Mapping :=
  [(.text "source", .text "prompt"), (.text "format", .text format)]

/-- Patterns ask for the sources to be looked at. -/
def ofPatterns (patterns : List String) : Mapping :=
  if patterns.isEmpty then []
  else [(.text "source", .text "auto"), (.text "patterns", .list (patterns.map .text))]

/-- All layers in one mapping. -/
def layered (format : String) (file flags : Mapping) (patterns : List String) : Mapping :=
  update (update (update (basis format) file) (given flags)) (ofPatterns patterns)

/-- The mapping of answers for a run, not checked yet. -/
def gather (root : Tree) (format : String) (file : Option String) (flags : Mapping)
    (patterns : List String) : Except FileFailure Mapping := do
  let fromFile ← match file with
    | some name => if name == "" then pure [] else readMapping root (.ofString name)
    | none => pure []
  return layered format fromFile flags patterns

end LintConfig.Answers
