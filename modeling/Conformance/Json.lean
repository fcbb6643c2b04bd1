/-! # JSON values

A value keeps the fields of an object in order, and keeps repeated names. A number is an integer,
or the text of any other number.
-/

namespace Conformance

inductive Json where
  | null
  | bool (value : Bool)
  | integer (value : Int)
  | decimal (text : String)
  | string (value : String)
  | array (items : List Json)
  | object (fields : List (String × Json))
deriving Repr, Inhabited

namespace Json

def get? (name : String) : Json → Option Json
  | .object fields => (fields.find? fun field => field.1 = name).map Prod.snd
  | _ => none

def string? : Json → Option String
  | .string value => some value
  | _ => none

def integer? : Json → Option Int
  | .integer value => some value
  | _ => none

def items? : Json → Option (List Json)
  | .array items => some items
  | _ => none

end Json

end Conformance
