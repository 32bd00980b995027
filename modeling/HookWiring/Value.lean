import HookWiring.Number
import HookWiring.Text.Quoted

/-!
# Values

The currency between a host and the callbacks it holds: null, booleans, numbers, texts, lists and
objects. The fields of an object are kept in the order of their keys.

The debug text of a value names the kind of each part, as in `[Number(1), String("x"), Null]`.
-/

namespace HookWiring

inductive Value where
  | null
  | bool (b : Bool)
  | number (n : Number)
  | text (s : String)
  | list (items : List Value)
  | object (fields : List (String × Value))
  deriving Inhabited

namespace Value

def ofInt (n : Int) : Value := .number (.whole n)

def ofNat (n : Nat) : Value := .number (.whole n)

/-- Fields in the order of their keys, with one more; it replaces a field of the same key. -/
def insertField (key : String) (value : Value) : List (String × Value) → List (String × Value)
  | [] => [(key, value)]
  | (other, old) :: rest =>
    if key < other then (key, value) :: (other, old) :: rest
    else if key = other then (key, value) :: rest
    else (other, old) :: insertField key value rest

/-- The object with these fields; of fields with one key the last one counts. -/
def ofFields (fields : List (String × Value)) : Value :=
  .object (fields.foldl (fun sorted (key, value) => insertField key value sorted) [])

mutual

def debug : Value → String
  | .null => "Null"
  | .bool b => "Bool(" ++ toString b ++ ")"
  | .number n => "Number(" ++ n.render ++ ")"
  | .text s => "String(" ++ Text.quote s ++ ")"
  | .list items => "Array [" ++ ", ".intercalate (debugItems items) ++ "]"
  | .object fields => "Object \x7b" ++ ", ".intercalate (debugFields fields) ++ "\x7d"

def debugItems : List Value → List String
  | [] => []
  | item :: rest => item.debug :: debugItems rest

def debugFields : List (String × Value) → List String
  | [] => []
  | (key, value) :: rest => (Text.quote key ++ ": " ++ value.debug) :: debugFields rest

end

def debugList (items : List Value) : String :=
  "[" ++ ", ".intercalate (debugItems items) ++ "]"

end Value

end HookWiring
