import Shading.Modifiers
import Shading.Number.FloatText
import Shading.Operator

/-!
The tree a parser hands to the type checker, and its text. The text serves to look at a tree; it is
no form that can be parsed again.
-/

namespace Shading.ParseTree

/-- A node of the parse tree. `nothing` fills a place that the grammar requires and the source
leaves empty, as a `for` without a test does. -/
inductive Node where
  | nothing
  | binary (left : Node) (op : Operator) (right : Node)
  | block (statements : List Node)
  | boolean (value : Bool)
  | breakLoop
  | call (callee : Node) (arguments : List Node)
  | continueLoop
  | discard
  | doLoop (body test : Node)
  | enum (name : String) (cases : List Node)
  | enumCase (name : String) (value : Option Node)
  | extension (name : String)
  | field (base : Node) (name : String)
  | file (elements : List Node)
  | float (value : Double)
  | forLoop (initializer test next body : Node)
  /-- A function; without a body, its prototype. -/
  | function (modifiers : Modifiers) (returnType : Node) (name : String) (parameters : List Node)
      (body : Option Node)
  | identifier (name : String)
  | index (base position : Node)
  | ifElse (isStatic : Bool) (test whenTrue : Node) (whenFalse : Option Node)
  | int (value : Int64)
  | interfaceBlock (modifiers : Modifiers) (blockName : String) (members : List Node)
      (instanceName : String) (arraySize : Option Node)
  | qualifiers (modifiers : Modifiers)
  | parameter (type : Node) (name : String) (arraySize defaultValue : Option Node)
  | postfixed (operand : Node) (op : Operator)
  | prefixed (op : Operator) (operand : Node)
  | returnValue (value : Option Node)
  | qualified (base : Node) (name : String)
  | sectionBlock
  /-- A case of a switch; without a value, the default. -/
  | switchCase (value : Option Node) (statements : List Node)
  | switch (isStatic : Bool) (value : Node) (cases : List Node)
  | ternary (test whenTrue whenFalse : Node)
  | typeName (name : String)
  | declaration (name : String) (arraySize value : Option Node)
  | declarationGroup (modifiers type : Node) (items : List Node)
  | whileLoop (test body : Node)

/-- Each text on a line of its own. -/
def lines (texts : List String) : String :=
  String.join (texts.map (· ++ "\n"))

/-- A text and the blank after it, or nothing for no text. -/
def spaced (text : String) : String :=
  if text = "" then "" else text ++ " "

/-- The mark of a construct that is resolved at compile time. -/
def staticMark (isStatic : Bool) : String :=
  if isStatic then "@" else ""

mutual

def Node.text : Node → String
  | .nothing => ""
  | .binary left op right => s!"({left.text} {op} {right.text})"
  | .block statements => "\x7b\n" ++ lines (Node.texts statements) ++ "\x7d"
  | .boolean value => toString value
  | .breakLoop => "break"
  | .call callee arguments => callee.text ++ "(" ++ ",".intercalate (Node.texts arguments) ++ ")"
  | .continueLoop => "continue"
  | .discard => "discard"
  | .doLoop body test => s!"do {body.text} while ({test.text})"
  | .enum name cases => s!"enum {name} \x7b\n" ++ lines (Node.texts cases) ++ "\x7d;"
  | .enumCase name value => name ++ Node.between " = " "" value
  | .extension name => s!"#extension {name}"
  | .field base name => s!"{base.text}.{name}"
  | .file elements => lines (Node.texts elements)
  | .float value => value.text
  | .forLoop initializer test next body =>
    s!"for ({initializer.text}; {test.text}; {next.text}) {body.text}"
  | .function modifiers returnType name parameters body =>
    modifiers.lead ++ s!"{returnType.text} {name}("
      ++ ", ".intercalate (Node.texts parameters) ++ ")"
      ++ (if body.isSome then Node.between " " "" body else ";")
  | .identifier name => name
  | .index base position => s!"{base.text}[{position.text}]"
  | .ifElse isStatic test whenTrue whenFalse =>
    staticMark isStatic ++ s!"if ({test.text}) {whenTrue.text}"
      ++ Node.between " else " "" whenFalse
  | .int value => toString value
  | .interfaceBlock modifiers blockName members instanceName arraySize =>
    s!"{modifiers.text} {blockName} \x7b\n" ++ lines (Node.texts members) ++ "\x7d "
      ++ instanceName ++ Node.between "[" "]" arraySize ++ ";"
  | .qualifiers modifiers => modifiers.text
  | .parameter type name arraySize defaultValue =>
    s!"{type.text} {name}" ++ Node.between "[" "]" arraySize
      ++ Node.between " = " "" defaultValue
  | .postfixed operand op => s!"{operand.text}{op}"
  | .prefixed op operand => s!"{op}{operand.text}"
  | .returnValue value => "return" ++ Node.between " " "" value ++ ";"
  | .qualified base name => s!"{base.text}::{name}"
  | .sectionBlock => "@section \x7b ... \x7d"
  | .switchCase value statements =>
    (if value.isSome then Node.between "case " ":\n" value else "default:\n")
      ++ String.join ((Node.texts statements).map ("\n" ++ ·))
  | .switch isStatic value cases =>
    staticMark isStatic ++ s!"switch ({value.text}) \x7b" ++ lines (Node.texts cases) ++ "\x7d"
  | .ternary test whenTrue whenFalse => s!"({test.text} ? {whenTrue.text} : {whenFalse.text})"
  | .typeName name => name
  | .declaration name arraySize value =>
    name ++ Node.between "[" "]" arraySize ++ Node.between " = " "" value
  | .declarationGroup modifiers type items =>
    spaced modifiers.text ++ type.text ++ (if items.isEmpty then "" else " ")
      ++ ", ".intercalate (Node.texts items)
  | .whileLoop test body => s!"while ({test.text}) {body.text}"

def Node.texts : List Node → List String
  | [] => []
  | node :: rest => node.text :: Node.texts rest

/-- The text of an optional tree between two others, or nothing. -/
def Node.between (before after : String) : Option Node → String
  | none => ""
  | some node => before ++ node.text ++ after

end

end Shading.ParseTree
