import LintConfig.Config.Fragment
import LintConfig.Files.Tree
import LintConfig.Value.Text

/-! The packages a configuration needs: the one of the configuration it extends, unless that is
built in, and one for each plugin. -/

namespace LintConfig.Packages

/-- Is a configuration part of the linter itself? -/
def isBuiltIn (name : String) : Bool := "eslint:".toList.isPrefixOf name.toList

def ofBase : Option String → List String
  | some name => if name == "" || isBuiltIn name then [] else ["eslint-config-" ++ name]
  | none => []

def ofPlugin (name : String) : String := "eslint-plugin-" ++ name

/-- The folder that packages are installed in. -/
def folder : Files.Path := .ofString "node_modules"

/-- The file that tells that a package is installed. -/
def manifest (name : String) : Files.Path :=
  (folder.join (.ofString name)).join (.ofString "package.json")

def isInstalled (root : Files.Tree) (name : String) : Except Files.FileError Bool := do
  return (← root.probe (manifest name)).any (·.isFile)

/-- Packages, each with whether it is installed. -/
def status (root : Files.Tree) (names : List String) :
    Except Files.FileError (List (String × Bool)) :=
  names.mapM fun name => do return (name, ← isInstalled root name)

/-- Those packages that are not installed. -/
def missing (status : List (String × Bool)) : List String := (status.filter (!·.2)).map (·.1)

/-- The packages a configuration needs, each of them once. -/
def required (f : Fragment) : List String :=
  let base := ofBase f.base
  base ++ firstOccurrences base (f.plugins.map ofPlugin)

def installCommand (missing : List String) : String :=
  "npm install --save-dev " ++ joined " " missing

end LintConfig.Packages
