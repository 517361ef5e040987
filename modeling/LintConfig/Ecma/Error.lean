import LintConfig.Ecma.Name
import LintConfig.Number.Reading

/-! Why a source text is not a program. -/

namespace LintConfig.Ecma

/-- The cause of a syntax error. -/
inductive Cause
  | unexpectedToken (text : String)
  | unexpectedEnd
  | unexpectedIdentifier
  | unexpectedNumber
  | unexpectedString
  | unexpectedTemplate (text : String)
  | unexpectedReservedWord
  | illegalCharacter
  | misplacedModuleItem
  | importCallArity
  | badGetterArity
  | badSetterArity
  | restSetterParameter
  | asyncConstructor
  | accessorConstructor
  | missingInitializer (kind : String)
  | defaultOfRest
  | itemAfterRestProperty
  | duplicateBinding (name : String)
  | duplicateConstructor
  | duplicatePrototype
  | loopInitializer (loop : String)
  | generatorInLegacyContext
  | illegalBreak
  | illegalContinue
  | illegalStrictDirective
  | illegalReturn
  | escapedKeyword
  | badHexEscape
  | badAssignmentTarget
  | badForInTarget
  | badForOfTarget
  | missingModuleSpecifier
  | badRegularExpression
  | letBoundLexically
  | missingFrom
  | secondDefault
  | newlineAfterThrow
  | missingAs
  | missingHandler
  | parameterAfterRest
  | redeclaredLabel (name : String)
  | staticPrototype
  | restrictedCatchVariable
  | strictDelete
  | strictFunctionPlace
  | restrictedFunctionName
  | restrictedAssignment
  | restrictedPostfix
  | restrictedPrefix
  | strictWith
  | strictOctal
  | duplicateParameter
  | restrictedParameter
  | strictReservedWord
  | restrictedVariable
  | templateOctal
  | unknownLabel (name : String)
  | unterminatedRegularExpression
  | emptyAttributeExpression
  | unclosedElement (name : String)
  /-- The bound on nesting was reached; it is chosen so that no text reaches it. -/
  | tooDeep
  deriving DecidableEq, Repr

def Cause.message : Cause → String
  | unexpectedToken text => "Unexpected token " ++ text
  | unexpectedEnd => "Unexpected end of input"
  | unexpectedIdentifier => "Unexpected identifier"
  | unexpectedNumber => "Unexpected number"
  | unexpectedString => "Unexpected string"
  | unexpectedTemplate text => "Unexpected quasi " ++ text
  | unexpectedReservedWord => "Unexpected reserved word"
  | illegalCharacter => "Unexpected token ILLEGAL"
  | misplacedModuleItem | importCallArity | itemAfterRestProperty | missingModuleSpecifier
  | missingFrom | missingAs => "Unexpected token"
  | badGetterArity => "Getter must not have any formal parameters"
  | badSetterArity => "Setter must have exactly one formal parameter"
  | restSetterParameter => "Setter function argument must not be a rest parameter"
  | asyncConstructor => "Class constructor may not be an async method"
  | accessorConstructor => "Class constructor may not be an accessor"
  | missingInitializer kind => "Missing initializer in " ++ kind ++ " declaration"
  | defaultOfRest => "Unexpected token ="
  | duplicateBinding name => "Duplicate binding " ++ Name.shown name
  | duplicateConstructor => "A class may only have one constructor"
  | duplicatePrototype => "Duplicate __proto__ fields are not allowed in object literals"
  | loopInitializer loop => loop ++ " loop variable declaration may not have an initializer"
  | generatorInLegacyContext => "Generator declarations are not allowed in legacy contexts"
  | illegalBreak => "Illegal break statement"
  | illegalContinue => "Illegal continue statement"
  | illegalStrictDirective =>
    "Illegal 'use strict' directive in function with non-simple parameter list"
  | illegalReturn => "Illegal return statement"
  | escapedKeyword => "Keyword must not contain escaped characters"
  | badHexEscape => "Invalid hexadecimal escape sequence"
  | badAssignmentTarget => "Invalid left-hand side in assignment"
  | badForInTarget => "Invalid left-hand side in for-in"
  | badForOfTarget => "Invalid left-hand side in for-loop"
  | badRegularExpression => "Invalid regular expression"
  | letBoundLexically => "let is disallowed as a lexically bound name"
  | secondDefault => "More than one default clause in switch statement"
  | newlineAfterThrow => "Illegal newline after throw"
  | missingHandler => "Missing catch or finally after try"
  | parameterAfterRest => "Rest parameter must be last formal parameter"
  | redeclaredLabel name => "Label '" ++ Name.shown name ++ "' has already been declared"
  | staticPrototype => "Classes may not have static property named prototype"
  | restrictedCatchVariable => "Catch variable may not be eval or arguments in strict mode"
  | strictDelete => "Delete of an unqualified identifier in strict mode."
  | strictFunctionPlace =>
    "In strict mode code, functions can only be declared at top level or inside a block"
  | restrictedFunctionName => "Function name may not be eval or arguments in strict mode"
  | restrictedAssignment => "Assignment to eval or arguments is not allowed in strict mode"
  | restrictedPostfix =>
    "Postfix increment/decrement may not have eval or arguments operand in strict mode"
  | restrictedPrefix =>
    "Prefix increment/decrement may not have eval or arguments operand in strict mode"
  | strictWith => "Strict mode code may not include a with statement"
  | strictOctal => "Octal literals are not allowed in strict mode."
  | duplicateParameter => "Strict mode function may not have duplicate parameter names"
  | restrictedParameter => "Parameter name eval or arguments is not allowed in strict mode"
  | strictReservedWord => "Use of future reserved word in strict mode"
  | restrictedVariable => "Variable name may not be eval or arguments in strict mode"
  | templateOctal => "Octal literals are not allowed in template strings."
  | unknownLabel name => "Undefined label '" ++ Name.shown name ++ "'"
  | unterminatedRegularExpression => "Invalid regular expression: missing /"
  | emptyAttributeExpression => "JSX attributes must only be assigned a non-empty expression"
  | unclosedElement name => "Expected corresponding JSX closing tag for " ++ name
  | tooDeep => "Program is nested too deeply"

/-- Why a text is given up altogether, whatever else it might be read as. -/
inductive Abort
  /-- A numeric character reference in markup names no character. -/
  | characterReference (code : Nat)
  /-- A decimal character reference in markup has too many digits. -/
  | longReference (digits : Nat)
  /-- A substitution in a template ends where an expression has to begin. -/
  | missingOperand
  deriving DecidableEq, Repr

def Abort.message : Abort → String
  | characterReference _ => "chr() arg not in range(0x110000)"
  | longReference digits => (Number.ReadError.tooLong digits).message
  | missingOperand => "Template literal must start with a template head"

/-- What stops a parse. -/
inductive ParseError
  /-- The text breaks the grammar, noticed on this line. -/
  | malformed (line : Nat) (cause : Cause)
  | aborted (reason : Abort)
  deriving DecidableEq, Repr

def ParseError.message : ParseError → String
  | malformed line cause => "Line " ++ toString line ++ ": " ++ cause.message
  | aborted reason => reason.message

end LintConfig.Ecma
