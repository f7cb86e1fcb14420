import Scriptlet.Decimal.Format
import Scriptlet.Text.Quoted

/-! # Data documents

The data that a document in the JSON format holds.

Main definitions:

* `Json`: the data; integers of any size are kept apart from doubles.
* `Json.insert`: sets a key of an object; the last value given for a key counts.
* `Json.display`: the text that messages show data by. -/

namespace Scriptlet

/-- The data of a document. -/
inductive Json
  | null
  | boolean (value : Bool)
  | integer (value : Int)
  | float (value : Float)
  | string (value : String)
  | array (items : List Json)
  | object (entries : List (String × Json))
deriving Repr, Inhabited

namespace Json

/-- Sets a key among the entries of an object; a key keeps its place. -/
def insert (key : String) (value : Json) : List (String × Json) → List (String × Json)
  | [] => [(key, value)]
  | (other, former) :: entries =>
    if other = key then (key, value) :: entries else (other, former) :: insert key value entries

mutual

/-- The text that messages show data by.  An object is shown by its first value, its type, followed by
its other entries. -/
def display : Json → String
  | null => "None"
  | boolean value => if value then "True" else "False"
  | integer value => toString value
  | float value => Decimal.plainFormat.write value
  | string value => Text.quoted value
  | array items => "[" ++ ", ".intercalate (displayItems items) ++ "]"
  | object ((_, string typeName) :: entries) =>
    typeName ++ "(" ++ ", ".intercalate (displayEntries entries) ++ ")"
  | object entries => "(" ++ ", ".intercalate (displayEntries entries) ++ ")"

/-- The items of an array, each shown. -/
def displayItems : List Json → List String
  | [] => []
  | item :: items => item.display :: displayItems items

/-- The entries of an object, each shown with its key. -/
def displayEntries : List (String × Json) → List String
  | [] => []
  | (key, value) :: entries => (key ++ "=" ++ value.display) :: displayEntries entries

end

end Json

end Scriptlet
