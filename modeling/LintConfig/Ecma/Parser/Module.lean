import LintConfig.Ecma.Parser.Statement

/-! Import and export declarations, and the items a body consists of. -/

namespace LintConfig.Ecma.Parser

/-- The string that names a module. -/
def parseModuleSpecifier : Parse Node := do
  let start ← mark
  unless (← lookahead).isString do fail .missingModuleSpecifier
  literal start (← advance)

/-- The string that names a module, behind its `from`. -/
def parseFrom : Parse Node := do
  unless ← acceptWord "from" do fail .missingFrom
  parseModuleSpecifier

/-- Items in braces with commas between them. -/
def parseBraced (item : Parse Node) : Parse (List Node) := do
  expect .leftBrace
  let separated : Parse Node := do
    let x ← item
    unless ← sees .rightBrace do expect .comma
    return x
  let items ← untilDone (sees .rightBrace) separated (← tokensLeft)
  expect .rightBrace
  return items

/-! ### Imports -/

def parseImportSpecifier : Parse Node := do
  let start ← mark
  let isBinding := (← lookahead).isIdentifier
  let imported ← if isBinding then parseBindingName .parameter else parseName
  let renamed ← acceptWord "as"
  if !renamed && !isBinding then unexpected (← advance)
  let target ← if renamed then parseBindingName .parameter else pure imported
  finish start .importSpecifier [field "local" target, field "imported" imported]

def parseNamespaceImport : Parse Node := do
  let start ← mark
  expect .times
  unless ← acceptWord "as" do fail .missingAs
  let name ← parseName
  finish start .importNamespaceSpecifier [field "local" name]

def parseDefaultImport : Parse Node := do
  let start ← mark
  let name ← parseName
  finish start .importDefaultSpecifier [field "local" name]

/-- What an import binds. -/
def parseImportClause : Parse (List Node) := do
  if ← sees .leftBrace then parseBraced parseImportSpecifier
  else if ← sees .times then return [← parseNamespaceImport]
  else if (← lookahead).isName && !(← seesKeyword .default) then
    let first ← parseDefaultImport
    if ← accept .comma then
      if ← sees .times then return [first, ← parseNamespaceImport]
      else if ← sees .leftBrace then return first :: (← parseBraced parseImportSpecifier)
      else unexpected (← lookahead)
    else return [first]
  else unexpected (← advance)

def parseImportDeclaration : Parse Node := do
  if (← context).inFunctionBody then fail .misplacedModuleItem
  let start ← mark
  expectKeyword .import_
  let (specifiers, source) ←
    if (← lookahead).isString then pure ([], ← parseModuleSpecifier)
    else
      let specifiers ← parseImportClause
      pure (specifiers, ← parseFrom)
  endStatement
  finish start .importDeclaration [many "specifiers" specifiers, field "source" source]

/-! ### Exports -/

def parseExportSpecifier : Parse Node := do
  let start ← mark
  let name ← parseName
  let exported ← if ← acceptWord "as" then parseName else pure name
  finish start .exportSpecifier [field "local" name, field "exported" exported]

def parseExportDefault (g : Grammar) (start : Nat) : Parse Node := do
  expectKeyword .default
  let declaration ←
    if (← seesKeyword .function) || (← seesAsyncFunction) then parseFunctionDeclaration g true
    else if ← seesKeyword .class_ then parseClassDeclaration g true
    else if ← seesWord "async" then g .assignment
    else
      if ← seesWord "from" then unexpected (← lookahead)
      let e ←
        if ← sees .leftBrace then parseObject g
        else if ← sees .leftBracket then parseArray g
        else g .assignment
      endStatement
      pure e
  finish start .exportDefaultDeclaration [field "declaration" declaration]

def parseExportAll (start : Nat) : Parse Node := do
  expect .times
  let source ← parseFrom
  endStatement
  finish start .exportAllDeclaration [field "source" source]

def exportFields (declaration : Option Node) (specifiers : List Node) (source : Option Node) :
    List Field :=
  [optional "declaration" declaration, many "specifiers" specifiers, optional "source" source]

/-- A name to export as it is, without braces. -/
def parseBareExport : Parse Node := do
  let start ← mark
  let name ← parseName
  finish start .exportSpecifier [field "local" name, field "exported" name]

/-- Names to export: one without braces, a list in braces, or both with a comma between them. The
name `default` can only come from another module. -/
def parseExportNames (start : Nat) : Parse Node := do
  let listed : Parse Node := do
    let isDefault ← seesKeyword .default
    let s ← parseExportSpecifier
    return if isDefault then .mk s.kind s.span s.last (s.fields ++ [flag "default" true]) else s
  let specifiers ←
    if (← lookahead).isIdentifier then
      let first ← parseBareExport
      if ← accept .comma then pure (first :: (← parseBraced listed)) else pure [first]
    else parseBraced listed
  let source ←
    if ← seesWord "from" then pure (some (← parseFrom))
    else if specifiers.any (·.flag "default") then fail .missingFrom
    else pure none
  endStatement
  finish start .exportNamedDeclaration (exportFields none specifiers source)

def parseExportDeclaration (g : Grammar) : Parse Node := do
  if (← context).inFunctionBody then fail .misplacedModuleItem
  let start ← mark
  expectKeyword .export_
  let t ← lookahead
  let declared := fun (p : Parse Node) => do
    let d ← p
    finish start .exportNamedDeclaration (exportFields (some d) [] none)
  match t.lexeme with
  | .keyword .default => parseExportDefault g start
  | .punctuator .times => parseExportAll start
  | .keyword .let_ | .keyword .const => declared (parseLexicalDeclaration g)
  | .keyword .var | .keyword .class_ | .keyword .function => declared (g .statementItem)
  | .keyword _ => unexpected t
  | _ =>
    if ← seesAsyncFunction then declared (parseFunctionDeclaration g false)
    else parseExportNames start

/-! ### Items -/

/-- A statement or a declaration, as they stand side by side in a body. -/
def parseStatementItem (g : Grammar) : Parse Node := do
  modifyContext fun c => { c with isAssignmentTarget := true, isBindingElement := true }
  let t ← lookahead
  match t.lexeme with
  | .keyword .export_ =>
    unless (← context).isModule do failAt t .misplacedModuleItem
    parseExportDeclaration g
  | .keyword .import_ =>
    if ← seesImportCall then parseExpressionStatement g
    else
      unless (← context).isModule do failAt t .misplacedModuleItem
      parseImportDeclaration
  | .keyword .const => parseLexicalDeclaration g
  | .keyword .function => parseFunctionDeclaration g false
  | .keyword .class_ => parseClassDeclaration g false
  | .keyword .let_ => if ← letDeclares then parseLexicalDeclaration g else g .statement
  | _ => g .statement

end LintConfig.Ecma.Parser
