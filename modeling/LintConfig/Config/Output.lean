import LintConfig.Config.Format
import LintConfig.Config.Fragment
import LintConfig.Files.Tree
import LintConfig.Json.Writer
import LintConfig.Value.Length
import LintConfig.Yaml.Writer

/-! Configurations as text, and as files. A folder holds at most one file for each format, under a
name of its own. -/

namespace LintConfig
open Files (Path Tree FileError)

/-- The text of a document in a format. -/
def Format.serialize : Format → Value → String
  | .json, document => Json.write document ++ "\n"
  | .yaml, document => Yaml.write document
  | .javaScript, document => "module.exports = " ++ Json.write document ++ ";\n"

/-- The text of a configuration in a format. -/
def Fragment.text (f : Fragment) (format : Format) : String := format.serialize f.document

/-- The text of a document in a format, unless an integer is too long. -/
def Format.write (format : Format) (document : Value) : Except LongInteger String :=
  if document.isLong then .error {} else .ok (format.serialize document)

/-- The text of a configuration in a format, unless an integer is too long. -/
def Fragment.write (f : Fragment) (format : Format) : Except LongInteger String :=
  format.write f.document

namespace Output

/-- Why a configuration cannot be written. -/
inductive Failure
  | unsupported (e : Format.Unsupported)
  | longInteger (e : LongInteger)
  | file (e : FileError)
  deriving BEq, Repr

/-- A configuration was not written: why, and the files there are then. Folders that were made for it
stay. -/
structure Halt where
  failure : Failure
  files : Tree
  deriving BEq, Repr

/-- The file of a format in a folder. -/
def pathIn (folder : Path) (format : Format) : Path := folder.child format.fileName

/-- Write a configuration to its file in a folder; the folder is made if it is missing. -/
def save (root : Tree) (folder : Path) (format : Format) (f : Fragment) :
    Except Halt (Path × Tree) := do
  let root ← (root.makeFolderAt folder).mapError fun h => ⟨.file h.error, h.tree⟩
  let text ← (f.write format).mapError fun e => ⟨.longInteger e, root⟩
  let written ← (root.write (pathIn folder format) (Text.Utf8.encode text)).mapError fun e =>
    ⟨.file e, root⟩
  return (pathIn folder format, written)

/-- Write a configuration in the format of a name. A name without a format changes nothing. -/
def saveAs (root : Tree) (folder : Path) (format : Value) (f : Fragment) :
    Except Halt (Path × Tree) := do
  let format ← (Format.resolve format).mapError fun e => ⟨.unsupported e, root⟩
  save root folder format f

end Output

end LintConfig
