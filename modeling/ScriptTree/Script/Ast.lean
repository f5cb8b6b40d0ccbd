import ScriptTree.Tree.Value

namespace ScriptTree

/-- A part of a script. -/
inductive Ast where
  | program (isModule : Bool) (body : List Ast)
  | expressionStatement (expression : Ast) (directive : Option Text)
  | emptyStatement
  | debuggerStatement
  | block (body : List Ast)
  | variableList (kind : Text) (declarators : List Ast)
  | declarator (target : Ast) (value : Option Ast)
  | ifStatement (test consequent : Ast) (alternate : Option Ast)
  | forLoop (start test step : Option Ast) (body : Ast)
  | forIn (left right body : Ast)
  | forOf (left right body : Ast)
  | whileLoop (test body : Ast)
  | doWhile (body test : Ast)
  | withStatement (scope body : Ast)
  | labeled (label body : Ast)
  | breakStatement (label : Option Ast)
  | continueStatement (label : Option Ast)
  | returnStatement (argument : Option Ast)
  | throwStatement (argument : Ast)
  | switchStatement (discriminant : Ast) (cases : List Ast)
  | switchCase (test : Option Ast) (consequent : List Ast)
  | tryStatement (body : Ast) (handler finalizer : Option Ast)
  | catchClause (parameter body : Ast)
  | function (isDeclaration isAsync isGenerator : Bool) (name : Option Ast)
      (parameters : List Ast) (body : Ast)
  | arrow (isAsync : Bool) (parameters : List Ast) (body : Ast) (isExpression : Bool)
  /-- Parameters in parentheses of which no arrow has been seen yet. -/
  | arrowParameters (isAsync : Bool) (parameters : List Ast)
  | classNode (isDeclaration : Bool) (name superclass : Option Ast) (body : Ast)
  | classBody (elements : List Ast)
  | method (key : Ast) (isComputed : Bool) (value : Ast) (kind : Text) (isStatic : Bool)
  | identifier (name : Text)
  | literal (value : Scalar) (raw : Text)
  | regex (pattern flags raw : Text)
  | thisWord
  | superWord
  | importWord
  | array (elements : List (Option Ast))
  | object (properties : List Ast)
  | property (kind : Text) (key : Ast) (isComputed : Bool) (value : Ast)
      (isMethod isShorthand : Bool)
  | spread (argument : Ast)
  | arrayPattern (elements : List (Option Ast))
  | objectPattern (properties : List Ast)
  | assignmentPattern (left right : Ast)
  | rest (argument : Ast)
  | unary (operator : Text) (argument : Ast)
  | update (operator : Text) (argument : Ast) (isBefore : Bool)
  | binary (operator : Text) (left right : Ast)
  | assignment (operator : Text) (left right : Ast)
  | conditional (test consequent alternate : Ast)
  | call (callee : Ast) (arguments : List Ast)
  | construct (callee : Ast) (arguments : List Ast)
  | member (isComputed : Bool) (base key : Ast)
  | sequence (expressions : List Ast)
  | metaProperty (word key : Ast)
  | yieldExpression (argument : Option Ast) (isDelegate : Bool)
  | awaitExpression (argument : Ast)
  | template (parts expressions : List Ast)
  | templatePart (raw cooked : Text) (isTail : Bool)
  | taggedTemplate (tag quoted : Ast)
  | importDeclaration (specifiers : List Ast) (source : Ast)
  | importSpecifier (target imported : Ast)
  | importDefault (target : Ast)
  | importNamespace (target : Ast)
  | exportAll (source : Ast)
  | exportNamed (declaration : Option Ast) (specifiers : List Ast) (source : Option Ast)
  | exportSpecifier (exported target : Ast)
  | exportDefault (declaration : Ast)
  | exportDefaultSpecifier (target : Ast)

namespace Ast

instance : Inhabited Ast := ⟨emptyStatement⟩

/-- The name of an identifier. -/
def name? : Ast → Option Text
  | identifier name => some name
  | _ => none

/-- Whether a part is the identifier of a given name. -/
def isNamed (t : Text) : Ast → Bool
  | identifier name => name = t
  | _ => false

/-- Whether a key is written as a name or as a literal with a given value. -/
def isKey (t : Text) : Ast → Bool
  | identifier name => name = t
  | literal value _ => value = .str t
  | _ => false

/-- Whether a part is a list or object pattern. -/
def isPattern : Ast → Bool
  | arrayPattern _ => true
  | objectPattern _ => true
  | _ => false

/-- Whether a function is a generator. -/
def isGenerator : Ast → Bool
  | function _ _ isGenerator .. => isGenerator
  | _ => false

/-- A raw object with a tag and attributes. -/
def tagged (tag : String) (attributes : List (String × Value)) : Value :=
  .bag (("type", .str tag) :: attributes.map fun a => (Text.ofString a.1, a.2))

/-- Operators that combine truth values. -/
def isLogical (operator : Text) : Bool := operator = "||" || operator = "&&"

mutual

/-- The raw value of a part: its tag and its attributes in their order. -/
def value : Ast → Value
  | program isModule body =>
    tagged "Program" [("sourceType", .str (if isModule then "module" else "script")),
      ("body", .list (values body))]
  | expressionStatement expression directive =>
    match directive with
    | none => tagged "ExpressionStatement" [("expression", expression.value)]
    | some t =>
      tagged "ExpressionStatement" [("expression", expression.value), ("directive", .str t)]
  | emptyStatement => tagged "EmptyStatement" []
  | debuggerStatement => tagged "DebuggerStatement" []
  | block body => tagged "BlockStatement" [("body", .list (values body))]
  | variableList kind declarators =>
    tagged "VariableDeclaration" [("declarations", .list (values declarators)), ("kind", .str kind)]
  | declarator target value =>
    tagged "VariableDeclarator" [("id", target.value), ("init", optional value)]
  | ifStatement test consequent alternate =>
    tagged "IfStatement" [("test", test.value), ("consequent", consequent.value),
      ("alternate", optional alternate)]
  | forLoop start test step body =>
    tagged "ForStatement" [("init", optional start), ("test", optional test),
      ("update", optional step), ("body", body.value)]
  | forIn left right body =>
    tagged "ForInStatement" [("each", .bool false), ("left", left.value), ("right", right.value),
      ("body", body.value)]
  | forOf left right body =>
    tagged "ForOfStatement" [("left", left.value), ("right", right.value), ("body", body.value)]
  | whileLoop test body => tagged "WhileStatement" [("test", test.value), ("body", body.value)]
  | doWhile body test => tagged "DoWhileStatement" [("body", body.value), ("test", test.value)]
  | withStatement scope body =>
    tagged "WithStatement" [("object", scope.value), ("body", body.value)]
  | labeled label body => tagged "LabeledStatement" [("label", label.value), ("body", body.value)]
  | breakStatement label => tagged "BreakStatement" [("label", optional label)]
  | continueStatement label => tagged "ContinueStatement" [("label", optional label)]
  | returnStatement argument => tagged "ReturnStatement" [("argument", optional argument)]
  | throwStatement argument => tagged "ThrowStatement" [("argument", argument.value)]
  | switchStatement discriminant cases =>
    tagged "SwitchStatement" [("discriminant", discriminant.value), ("cases", .list (values cases))]
  | switchCase test consequent =>
    tagged "SwitchCase" [("test", optional test), ("consequent", .list (values consequent))]
  | tryStatement body handler finalizer =>
    tagged "TryStatement" [("block", body.value), ("handler", optional handler),
      ("finalizer", optional finalizer)]
  | catchClause parameter body =>
    tagged "CatchClause" [("param", parameter.value), ("body", body.value)]
  | function isDeclaration isAsync isGenerator name parameters body =>
    let tag := if isDeclaration then "FunctionDeclaration" else "FunctionExpression"
    let common := [("id", optional name), ("params", .list (values parameters)),
      ("body", body.value)]
    if isAsync then
      tagged tag ([("generator", .bool isGenerator), ("expression", .bool false),
        ("async", .bool true)] ++ common)
    else
      tagged tag ([("expression", .bool false), ("async", .bool false)] ++ common ++
        [("generator", .bool isGenerator)])
  | arrow isAsync parameters body isExpression =>
    tagged "ArrowFunctionExpression" [("generator", .bool false), ("async", .bool isAsync),
      ("params", .list (values parameters)), ("body", body.value),
      ("expression", .bool isExpression)]
  | arrowParameters isAsync parameters =>
    tagged "ArrowParameterPlaceHolder" [("params", .list (values parameters)),
      ("async", .bool isAsync)]
  | classNode isDeclaration name superclass body =>
    tagged (if isDeclaration then "ClassDeclaration" else "ClassExpression")
      [("id", optional name), ("superClass", optional superclass), ("body", body.value)]
  | classBody elements => tagged "ClassBody" [("body", .list (values elements))]
  | method key isComputed value kind isStatic =>
    tagged "MethodDefinition" [("key", key.value), ("computed", .bool isComputed),
      ("value", value.value), ("kind", .str kind), ("static", .bool isStatic)]
  | identifier name => tagged "Identifier" [("name", .str name)]
  | literal value raw => tagged "Literal" [("value", .scalar value), ("raw", .str raw)]
  | regex p f raw =>
    tagged "Literal" [("value", .pattern p), ("raw", .str raw),
      ("regex", .bag [("pattern", .str p), ("flags", .str f)])]
  | thisWord => tagged "ThisExpression" []
  | superWord => tagged "Super" []
  | importWord => tagged "Import" []
  | array elements => tagged "ArrayExpression" [("elements", .list (optionals elements))]
  | object properties => tagged "ObjectExpression" [("properties", .list (values properties))]
  | property kind key isComputed value isMethod isShorthand =>
    tagged "Property" [("key", key.value), ("computed", .bool isComputed), ("value", value.value),
      ("kind", .str kind), ("method", .bool isMethod), ("shorthand", .bool isShorthand)]
  | spread argument => tagged "SpreadElement" [("argument", argument.value)]
  | arrayPattern elements => tagged "ArrayPattern" [("elements", .list (optionals elements))]
  | objectPattern properties => tagged "ObjectPattern" [("properties", .list (values properties))]
  | assignmentPattern left right =>
    tagged "AssignmentPattern" [("left", left.value), ("right", right.value)]
  | rest argument => tagged "RestElement" [("argument", argument.value)]
  | unary operator argument =>
    tagged "UnaryExpression" [("prefix", .bool true), ("operator", .str operator),
      ("argument", argument.value)]
  | update operator argument isBefore =>
    tagged "UpdateExpression" [("operator", .str operator), ("argument", argument.value),
      ("prefix", .bool isBefore)]
  | binary operator left right =>
    tagged (if isLogical operator then "LogicalExpression" else "BinaryExpression")
      [("operator", .str operator), ("left", left.value), ("right", right.value)]
  | assignment operator left right =>
    tagged "AssignmentExpression" [("operator", .str operator), ("left", left.value),
      ("right", right.value)]
  | conditional test consequent alternate =>
    tagged "ConditionalExpression" [("test", test.value), ("consequent", consequent.value),
      ("alternate", alternate.value)]
  | call callee arguments =>
    tagged "CallExpression" [("callee", callee.value), ("arguments", .list (values arguments))]
  | construct callee arguments =>
    tagged "NewExpression" [("callee", callee.value), ("arguments", .list (values arguments))]
  | member isComputed base key =>
    tagged "MemberExpression" [("computed", .bool isComputed), ("object", base.value),
      ("property", key.value)]
  | sequence expressions =>
    tagged "SequenceExpression" [("expressions", .list (values expressions))]
  | metaProperty word key =>
    tagged "MetaProperty" [("meta", word.value), ("property", key.value)]
  | yieldExpression argument isDelegate =>
    tagged "YieldExpression" [("argument", optional argument), ("delegate", .bool isDelegate)]
  | awaitExpression argument => tagged "AwaitExpression" [("argument", argument.value)]
  | template parts expressions =>
    tagged "TemplateLiteral" [("quasis", .list (values parts)),
      ("expressions", .list (values expressions))]
  | templatePart raw cooked isTail =>
    tagged "TemplateElement" [("value", .bag [("raw", .str raw), ("cooked", .str cooked)]),
      ("tail", .bool isTail)]
  | taggedTemplate tag quoted =>
    tagged "TaggedTemplateExpression" [("tag", tag.value), ("quasi", quoted.value)]
  | importDeclaration specifiers source =>
    tagged "ImportDeclaration" [("specifiers", .list (values specifiers)),
      ("source", source.value)]
  | importSpecifier target imported =>
    tagged "ImportSpecifier" [("local", target.value), ("imported", imported.value)]
  | importDefault target => tagged "ImportDefaultSpecifier" [("local", target.value)]
  | importNamespace target => tagged "ImportNamespaceSpecifier" [("local", target.value)]
  | exportAll source => tagged "ExportAllDeclaration" [("source", source.value)]
  | exportNamed declaration specifiers source =>
    tagged "ExportNamedDeclaration" [("declaration", optional declaration),
      ("specifiers", .list (values specifiers)), ("source", optional source)]
  | exportSpecifier exported target =>
    tagged "ExportSpecifier" [("exported", exported.value), ("local", target.value)]
  | exportDefault declaration =>
    tagged "ExportDefaultDeclaration" [("declaration", declaration.value)]
  | exportDefaultSpecifier target => tagged "ExportDefaultSpecifier" [("local", target.value)]

def optional : Option Ast → Value
  | none => .null
  | some a => a.value

def values : List Ast → List Value
  | [] => []
  | a :: more => a.value :: values more

def optionals : List (Option Ast) → List Value
  | [] => []
  | a :: more => optional a :: optionals more

end

end Ast

end ScriptTree
