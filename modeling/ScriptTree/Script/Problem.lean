import ScriptTree.Basic

namespace ScriptTree

/-- The kinds of syntax errors. -/
inductive Problem where
  | illegal
  | unexpectedToken (value : Text)
  | unexpectedEnd
  | unexpectedIdentifier
  | unexpectedNumber
  | unexpectedString
  | unexpectedTemplate (value : Text)
  | reservedWord
  | strictReservedWord
  | escapedKeyword
  | invalidHexEscape
  | octalInTemplate
  | strictOctal
  | unterminatedRegex
  | invalidRegex
  | invalidAssignmentTarget
  | invalidForInTarget
  | invalidForOfTarget
  | forInInitializer
  | strictPrefixTarget
  | strictPostfixTarget
  | strictAssignmentTarget
  | strictDelete
  | strictVariableName
  | strictFunctionName
  | strictParameterName
  | strictCatchVariable
  | strictFunctionPlace
  | strictWith
  | duplicateParameter
  | duplicateProto
  | duplicateBinding (name : Text)
  | duplicateConstructor
  | constructorIsAccessor
  | constructorIsAsync
  | staticPrototype
  | getterArity
  | setterArity
  | setterRest
  | restInitializer
  | restNotLast
  | restPropertyInitializer
  | restPropertyNotLast
  | directiveWithComplexParameters
  | letBinding
  | missingInitializer
  | generatorAsStatement
  | illegalBreak
  | illegalContinue
  | illegalReturn
  | undefinedLabel (name : Text)
  | duplicateLabel (name : Text)
  | newlineAfterThrow
  | missingHandler
  | manyDefaults
  | importArity
  | misplacedImport
  | misplacedExport
  | missingFrom
  | invalidModuleName
  | missingNamespaceName
deriving DecidableEq

/-- The wording of a problem. -/
def Problem.message : Problem → Text
  | illegal => "Unexpected token ILLEGAL"
  | unexpectedToken value => "Unexpected token " ++ value
  | unexpectedEnd => "Unexpected end of input"
  | unexpectedIdentifier => "Unexpected identifier"
  | unexpectedNumber => "Unexpected number"
  | unexpectedString => "Unexpected string"
  | unexpectedTemplate value => "Unexpected quasi " ++ value
  | reservedWord => "Unexpected reserved word"
  | strictReservedWord => "Use of future reserved word in strict mode"
  | escapedKeyword => "Keyword must not contain escaped characters"
  | invalidHexEscape => "Invalid hexadecimal escape sequence"
  | octalInTemplate => "Octal literals are not allowed in template strings."
  | strictOctal => "Octal literals are not allowed in strict mode."
  | unterminatedRegex => "Invalid regular expression: missing /"
  | invalidRegex => "Invalid regular expression"
  | invalidAssignmentTarget => "Invalid left-hand side in assignment"
  | invalidForInTarget => "Invalid left-hand side in for-in"
  | invalidForOfTarget => "Invalid left-hand side in for-loop"
  | forInInitializer => "for-in loop variable declaration may not have an initializer"
  | strictPrefixTarget =>
    "Prefix increment/decrement may not have eval or arguments operand in strict mode"
  | strictPostfixTarget =>
    "Postfix increment/decrement may not have eval or arguments operand in strict mode"
  | strictAssignmentTarget => "Assignment to eval or arguments is not allowed in strict mode"
  | strictDelete => "Delete of an unqualified identifier in strict mode."
  | strictVariableName => "Variable name may not be eval or arguments in strict mode"
  | strictFunctionName => "Function name may not be eval or arguments in strict mode"
  | strictParameterName => "Parameter name eval or arguments is not allowed in strict mode"
  | strictCatchVariable => "Catch variable may not be eval or arguments in strict mode"
  | strictFunctionPlace =>
    "In strict mode code, functions can only be declared at top level or inside a block"
  | strictWith => "Strict mode code may not include a with statement"
  | duplicateParameter => "Strict mode function may not have duplicate parameter names"
  | duplicateProto => "Duplicate __proto__ fields are not allowed in object literals"
  | duplicateBinding name => "Duplicate binding " ++ name
  | duplicateConstructor => "A class may only have one constructor"
  | constructorIsAccessor => "Class constructor may not be an accessor"
  | constructorIsAsync => "Class constructor may not be an async method"
  | staticPrototype => "Classes may not have static property named prototype"
  | getterArity => "Getter must not have any formal parameters"
  | setterArity => "Setter must have exactly one formal parameter"
  | setterRest => "Setter function argument must not be a rest parameter"
  | restInitializer => "Unexpected token ="
  | restNotLast => "Rest parameter must be last formal parameter"
  | restPropertyInitializer => "Unexpected token ="
  | restPropertyNotLast => "Unexpected token"
  | directiveWithComplexParameters =>
    "Illegal 'use strict' directive in function with non-simple parameter list"
  | letBinding => "let is disallowed as a lexically bound name"
  | missingInitializer => "Missing initializer in const declaration"
  | generatorAsStatement => "Generator declarations are not allowed in legacy contexts"
  | illegalBreak => "Illegal break statement"
  | illegalContinue => "Illegal continue statement"
  | illegalReturn => "Illegal return statement"
  | undefinedLabel name => "Undefined label '" ++ name ++ "'"
  | duplicateLabel name => "Label '" ++ name ++ "' has already been declared"
  | newlineAfterThrow => "Illegal newline after throw"
  | missingHandler => "Missing catch or finally after try"
  | manyDefaults => "More than one default clause in switch statement"
  | importArity => "Unexpected token"
  | misplacedImport => "Unexpected token"
  | misplacedExport => "Unexpected token"
  | missingFrom => "Unexpected token"
  | invalidModuleName => "Unexpected token"
  | missingNamespaceName => "Unexpected token"

/-- A problem and its position: the line and the column count from one, the index from zero. -/
structure SyntaxFault where
  problem : Problem
  line : Nat
  column : Int
  index : Nat
deriving DecidableEq

/-- The wording of a syntax fault. -/
def SyntaxFault.message (e : SyntaxFault) : Text :=
  "Line " ++ Text.ofNat e.line ++ ": " ++ e.problem.message

end ScriptTree
