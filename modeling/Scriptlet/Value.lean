import Scriptlet.Decimal.Format
import Scriptlet.Node.Basic
import Scriptlet.Scope.Basic
import Scriptlet.Text.Quoted

/-! # Values

What expressions of a program evaluate to.

Main definitions:

* `Closure`: a declared function and the scope of its declaration.
* `Value`: the values; programs meet integers, doubles, texts, `undefined` and functions.
* `Value.typeName`, `Value.print`, `Value.display`: the name of a value's type, the text that it
  prints as, and the text that traces show it by.
* `Value.isTruthy`: whether a value counts as true. -/

namespace Scriptlet

/-- A declared function. -/
structure Closure where
  /-- Tells apart the functions that one declaration gives when it is run several times. -/
  identity : Nat
  /-- The name it was declared by. -/
  name : String
  /-- The names of its parameters. -/
  parameters : List String
  /-- The statements of its body. -/
  body : List Node
  /-- The scope that it was declared in. -/
  scope : Handle
deriving Repr, Inhabited

/-- A value. -/
inductive Value
  /-- An integer; in programs, a signed 64-bit word. -/
  | integer (value : Int)
  /-- A double. -/
  | float (value : Float)
  /-- A text. -/
  | text (value : String)
  /-- The result of what has no result. -/
  | undefined
  /-- A declared function. -/
  | function (closure : Closure)
  /-- A built-in function; programs can call it but not hold it. -/
  | builtin (name : String)
  /-- The absence of a value; no expression evaluates to it. -/
  | null
deriving Repr, Inhabited

namespace Value

/-- The name of a value's type. -/
def typeName : Value → String
  | integer _ => "integer"
  | float _ => "float"
  | text _ => "string"
  | undefined => "undefined"
  | function _ => "function"
  | builtin _ => "BuiltinFunction"
  | null => "NoneType"

/-- The text that traces show a value by: texts are in quotes. -/
def display : Value → String
  | integer value => toString value
  | float value => Decimal.plainFormat.write value
  | text value => Text.quoted value
  | undefined => "undefined"
  | function closure => s!"<function {closure.name}>"
  | builtin name => s!"<builtin {name}>"
  | null => "None"

/-- The text that a value prints as: texts are as they are. -/
def print : Value → String
  | text value => value
  | value => value.display

/-- Whether a value is a number. -/
def isNumber : Value → Bool
  | integer _ | float _ => true
  | _ => false

/-- Whether a value is a text. -/
def isText : Value → Bool
  | text _ => true
  | _ => false

/-- Whether a value counts as true: numbers other than zero, texts that are not empty, and declared
functions. -/
def isTruthy : Value → Bool
  | integer value => value ≠ 0
  | float value => value != 0.0
  | text value => !value.isEmpty
  | function _ => true
  | undefined | builtin _ | null => false

/-- The integers one and zero for true and false. -/
def ofBool (condition : Bool) : Value :=
  integer (if condition then 1 else 0)

/-- The scope that a function was declared in. -/
def scope? : Value → Option Handle
  | function closure => some closure.scope
  | _ => none

end Value

end Scriptlet
