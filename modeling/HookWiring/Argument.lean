import HookWiring.Error
import HookWiring.Value

/-!
# Typed arguments

A host passes values by position, and a method takes typed parameters. Each argument type has a
carrier, accepts certain values and encodes its members as values. A missing argument is read
from null, so a parameter of an option type may be left out.

The inputs of a method are read from left to right. A parameter that receives the call itself
takes no position.
-/

namespace HookWiring

structure Totals where
  net : UInt32
  tax : UInt32
  deriving DecidableEq

inductive ArgType where
  | u8
  | u32
  | u64
  | i32
  | i64
  | bool
  | text
  | char
  | unit
  | option (type : ArgType)
  | list (type : ArgType)
  | pair (first second : ArgType)
  | value
  /-- A type of a component's own: its name, its members, how one is read and how it is written. -/
  | own (name : String) (Member : Type) (read? : Value → Option Member) (write : Member → Value)

namespace ArgType

def Carrier : ArgType → Type
  | .u8 => UInt8
  | .u32 => UInt32
  | .u64 => UInt64
  | .i32 => Int32
  | .i64 => Int64
  | .bool => Bool
  | .text => String
  | .char => Char
  | .unit => Unit
  | .option type => Option type.Carrier
  | .list type => List type.Carrier
  | .pair first second => first.Carrier × second.Carrier
  | .value => Value
  | .own _ Member _ _ => Member

def wholeBetween? (low high : Int) : Value → Option Int
  | .number (.whole n) => if low ≤ n ∧ n ≤ high then some n else none
  | _ => none

def uint32? (v : Value) : Option UInt32 :=
  (wholeBetween? 0 4294967295 v).map fun n => UInt32.ofNat n.toNat

def field? (key : String) (fields : List (String × Value)) : Option Value :=
  (fields.find? fun entry => entry.1 == key).map Prod.snd

/-- Amounts are an object with both fields, or the list of the two. -/
def totals? : Value → Option Totals
  | .object fields => do
    let net ← (field? "net" fields).bind uint32?
    let tax ← (field? "tax" fields).bind uint32?
    return { net, tax }
  | .list [first, second] => do
    return { net := ← uint32? first, tax := ← uint32? second }
  | _ => none

def decode? : (type : ArgType) → Value → Option type.Carrier
  | .u8, v => (wholeBetween? 0 255 v).map fun n => UInt8.ofNat n.toNat
  | .u32, v => uint32? v
  | .u64, v => (wholeBetween? 0 18446744073709551615 v).map fun n => UInt64.ofNat n.toNat
  | .i32, v => (wholeBetween? (-2147483648) 2147483647 v).map Int32.ofInt
  | .i64, v =>
    (wholeBetween? (-9223372036854775808) 9223372036854775807 v).map Int64.ofInt
  | .bool, .bool b => some b
  | .text, .text s => some s
  | .char, .text s => match s.toList with
    | [c] => some c
    | _ => none
  | .unit, .null => some ()
  | .option _, .null => some none
  | .option type, v => (type.decode? v).map some
  | .list type, .list items => items.mapM type.decode?
  | .pair first second, .list [a, b] => do
    return (← first.decode? a, ← second.decode? b)
  | .value, v => some v
  | .own _ _ read? _, v => read? v
  | _, _ => none

def encode : (type : ArgType) → type.Carrier → Value
  | .u8, n => .ofNat (UInt8.toNat n)
  | .u32, n => .ofNat (UInt32.toNat n)
  | .u64, n => .ofNat (UInt64.toNat n)
  | .i32, n => .ofInt (Int32.toInt n)
  | .i64, n => .ofInt (Int64.toInt n)
  | .bool, b => .bool b
  | .text, s => .text s
  | .char, c => .text (String.ofList [c])
  | .unit, _ => .null
  | .option _, none => .null
  | .option type, some x => type.encode x
  | .list type, items => .list (items.map type.encode)
  | .pair first second, (a, b) => .list [first.encode a, second.encode b]
  | .value, v => v
  | .own _ _ _ write, x => write x

def ofTotals (amounts : Totals) : Value :=
  .object [("net", .ofNat amounts.net.toNat), ("tax", .ofNat amounts.tax.toNat)]

abbrev totals : ArgType := .own "Totals" Totals totals? ofTotals

end ArgType

/-- The argument at a position; past the end of the list it is null. -/
def argumentAt (args : List Value) (index : Nat) : Value :=
  args[index]?.getD .null

def readArgument (type : ArgType) (args : List Value) (index : Nat) :
    Except CallbackError type.Carrier :=
  match type.decode? (argumentAt args index) with
  | some x => .ok x
  | none => .error (.argument index)

inductive Param where
  | invocation
  | positional (type : ArgType)

def Inputs : List Param → Type
  | [] => Unit
  | .invocation :: rest => List Value × Inputs rest
  | .positional type :: rest => type.Carrier × Inputs rest

def readInputs (args : List Value) :
    (index : Nat) → (params : List Param) → Except CallbackError (Inputs params)
  | _, [] => .ok ()
  | index, .invocation :: rest =>
    match readInputs args index rest with
    | .ok inputs => .ok (args, inputs)
    | .error error => .error error
  | index, .positional type :: rest =>
    match readArgument type args index with
    | .error error => .error error
    | .ok input => match readInputs args (index + 1) rest with
      | .ok inputs => .ok (input, inputs)
      | .error error => .error error

end HookWiring
