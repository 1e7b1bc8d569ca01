/-!
# Edges of a call graph

An edge is the atomic unit of the output.  A class reference says that the constant pool of
one class names another class; a method call says that the code of one method calls another
one, and by which kind of dispatch.  Every edge has one line of text.
-/

namespace CallGraph

/-- How a call is dispatched. -/
inductive Dispatch where
  | virtual
  | interface
  | special
  | static
  | dynamic
  deriving DecidableEq, Repr

/-- The letter that stands for a kind of dispatch in the output. -/
def Dispatch.tag : Dispatch → Char
  | virtual => 'M'
  | interface => 'I'
  | special => 'O'
  | static => 'S'
  | dynamic => 'D'

/-- A class whose constant pool names another class. -/
structure ClassReference where
  /-- The class that holds the constant. -/
  owner : String
  /-- The class that is named. -/
  referenced : String
  deriving DecidableEq, Repr

/-- Class, name and argument types of a method. -/
structure MethodSignature where
  className : String
  name : String
  /-- The source forms of the argument types. -/
  argumentTypes : List String
  deriving DecidableEq, Repr

/-- A call of one method by another. -/
structure MethodCall where
  caller : MethodSignature
  dispatch : Dispatch
  callee : MethodSignature
  deriving DecidableEq, Repr

namespace ClassReference

/-- The text of a class reference. -/
def line (edge : ClassReference) : String :=
  "C:" ++ edge.owner ++ " " ++ edge.referenced

end ClassReference

namespace MethodSignature

/-- The text of a signature. -/
def text (signature : MethodSignature) : String :=
  signature.className ++ ":" ++ signature.name ++ "(" ++
    String.intercalate "," signature.argumentTypes ++ ")"

end MethodSignature

namespace MethodCall

/-- The text of a method call. -/
def line (edge : MethodCall) : String :=
  "M:" ++ edge.caller.text ++ " (" ++ String.singleton edge.dispatch.tag ++ ")" ++
    edge.callee.text

end MethodCall

/-- An edge of either kind. -/
inductive Edge where
  | classReference (edge : ClassReference)
  | methodCall (edge : MethodCall)
  deriving DecidableEq, Repr

/-- The text of an edge. -/
def Edge.line : Edge → String
  | classReference edge => edge.line
  | methodCall edge => edge.line

end CallGraph
