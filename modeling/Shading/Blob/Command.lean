/-!
The tags of the module format. Every record of a blob starts with one of these bytes; a tag is
known by its byte and, in messages, by its name.
-/

namespace Shading

/-- The format version a blob must carry in its header. -/
def formatVersion : UInt16 := 1

/-- The tag of a record, in the order of the wire bytes. -/
inductive Command where
  | builtinLayout | defaultLayout | fullLayout
  | defaultModifiers | byteModifiers | fullModifiers
  | arrayType | enumType | functionSymbol | field | structType
  | symbolRef | synonym | systemType | overloadSet | varSymbol
  | symbolTable
  | elements | enumElement | functionElement | interfaceElement | globalDeclaration
  | structElement | elementsEnd
  | blockStmt | breakStmt | continueStmt | discardStmt | doStmt
  | exprStmt | forStmt | ifStmt | inlineMarker | returnStmt
  | switchStmt | declaration
  | binary | boolLiteral | constructorArray | constructorCompound | constructorCompoundCast
  | constructorDiagonalMatrix | constructorMatrixResize | constructorScalarCast
  | constructorSplat | constructorStruct
  | fieldAccess | floatLiteral | callExpr | indexExpr | intLiteral
  | postfixExpr | prefixExpr | setting | swizzle | ternary
  | varReference
  | absent
  deriving DecidableEq, Repr

namespace Command

/-- Every tag, each at the position of its byte. -/
def all : List Command :=
  [builtinLayout, defaultLayout, fullLayout,
    defaultModifiers, byteModifiers, fullModifiers,
    arrayType, enumType, functionSymbol, field, structType,
    symbolRef, synonym, systemType, overloadSet, varSymbol,
    symbolTable,
    elements, enumElement, functionElement, interfaceElement, globalDeclaration,
    structElement, elementsEnd,
    blockStmt, breakStmt, continueStmt, discardStmt, doStmt,
    exprStmt, forStmt, ifStmt, inlineMarker, returnStmt,
    switchStmt, declaration,
    binary, boolLiteral, constructorArray, constructorCompound, constructorCompoundCast,
    constructorDiagonalMatrix, constructorMatrixResize, constructorScalarCast,
    constructorSplat, constructorStruct,
    fieldAccess, floatLiteral, callExpr, indexExpr, intLiteral,
    postfixExpr, prefixExpr, setting, swizzle, ternary,
    varReference,
    absent]

/-- The tag a byte stands for. -/
def ofByte? (byte : UInt8) : Option Command :=
  all[byte.toNat]?

def toByte (command : Command) : UInt8 :=
  UInt8.ofNat (all.idxOf command)

theorem ofByte?_toByte (command : Command) : ofByte? command.toByte = some command := by
  cases command <;> rfl

def name : Command → String
  | builtinLayout => "BuiltinLayout"
  | defaultLayout => "DefaultLayout"
  | fullLayout => "Layout"
  | defaultModifiers => "DefaultModifiers"
  | byteModifiers => "Modifiers8Bit"
  | fullModifiers => "Modifiers"
  | arrayType => "ArrayType"
  | enumType => "EnumType"
  | functionSymbol => "FunctionDeclaration"
  | field => "Field"
  | structType => "StructType"
  | symbolRef => "SymbolRef"
  | synonym => "SymbolAlias"
  | systemType => "SystemType"
  | overloadSet => "UnresolvedFunction"
  | varSymbol => "Variable"
  | symbolTable => "SymbolTable"
  | elements => "Elements"
  | enumElement => "Enum"
  | functionElement => "FunctionDefinition"
  | interfaceElement => "InterfaceBlock"
  | globalDeclaration => "VarDeclarations"
  | structElement => "StructDefinition"
  | elementsEnd => "ElementsComplete"
  | blockStmt => "Block"
  | breakStmt => "Break"
  | continueStmt => "Continue"
  | discardStmt => "Discard"
  | doStmt => "Do"
  | exprStmt => "ExpressionStatement"
  | forStmt => "For"
  | ifStmt => "If"
  | inlineMarker => "InlineMarker"
  | returnStmt => "Return"
  | switchStmt => "Switch"
  | declaration => "VarDeclaration"
  | binary => "Binary"
  | boolLiteral => "BoolLiteral"
  | constructorArray => "ConstructorArray"
  | constructorCompound => "ConstructorCompound"
  | constructorCompoundCast => "ConstructorCompoundCast"
  | constructorDiagonalMatrix => "ConstructorDiagonalMatrix"
  | constructorMatrixResize => "ConstructorMatrixResize"
  | constructorScalarCast => "ConstructorScalarCast"
  | constructorSplat => "ConstructorSplat"
  | constructorStruct => "ConstructorStruct"
  | fieldAccess => "FieldAccess"
  | floatLiteral => "FloatLiteral"
  | callExpr => "FunctionCall"
  | indexExpr => "Index"
  | intLiteral => "IntLiteral"
  | postfixExpr => "Postfix"
  | prefixExpr => "Prefix"
  | setting => "Setting"
  | swizzle => "Swizzle"
  | ternary => "Ternary"
  | varReference => "VariableReference"
  | absent => "Void"

/-- A tag as messages show it: its name and its byte. -/
def text (command : Command) : String :=
  s!"{command.name} ({command.toByte})"

end Command

end Shading
