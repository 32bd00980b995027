import HookWiring.Session.Member
import HookWiring.Source.Signature
import HookWiring.System.Inputs
import HookWiring.System.Program

/-!
# Order handling

A shop component with typed methods. It keeps the order that was saved last, computes taxes, and
offers one route. Its reflection comes from its source outline.
-/

namespace HookWiring.Session.Orders

inductive OrderMethod where
  | save
  | totals
  | refund
  | list
  | last
  | mixed
  | pairs
  | check
  deriving DecidableEq, Repr

namespace OrderMethod

def all : List OrderMethod :=
  [.save, .totals, .refund, .list, .last, .mixed, .pairs, .check]

def name : OrderMethod → String
  | .save => "on_save"
  | .totals => "totals"
  | .refund => "handleRefund"
  | .list => "list"
  | .last => "r#type"
  | .mixed => "mixed"
  | .pairs => "pairs"
  | .check => "check"

def doc : OrderMethod → List String
  | .save => [" @action save_order, 20"]
  | .totals => [" @filter order_totals"]
  | .refund => [" @ajax"]
  | .list => [" @command shop orders list"]
  | .last => [" @shortcode last_order"]
  | .mixed =>
    [ " @action order_mixed, 0", " @filter order_mixed, 00", " @ajax order-mixed",
      " @command order:mixed now" ]
  | .pairs => [" @filter order_pairs"]
  | .check => [" @filter order_check"]

def params : OrderMethod → List Param
  | .save => [.positional .u64, .positional .bool]
  | .totals => [.positional .totals]
  | .refund => [.positional .u64]
  | .list => [.invocation]
  | .last => []
  | .mixed => [.positional (.option .text), .invocation, .positional (.list .u32)]
  | .pairs => [.positional .u32]
  | .check => [.positional .i32]

def ofName? (name : String) : Option OrderMethod :=
  all.find? fun method => Source.unraw method.name == name

def function (method : OrderMethod) : Source.Function :=
  { name := method.name
    doc := method.doc.map .doc
    receiver := some "&self"
    params := method.params.map Param.source }

/-- Amounts with a tax of a fifth of the net amount, rounded down. -/
def withTax (amounts : Totals) : Totals :=
  { amounts with tax := amounts.net / 5 }

/-- The sum of numbers of 32 bits, modulo the width. -/
def wrappingSum (numbers : List UInt32) : UInt32 :=
  numbers.foldl (· + ·) 0

variable {B : Bodies}

def body (serial : Serial) :
    (method : OrderMethod) → Inputs method.params → Code B (Except CallbackError Value)
  | .save, (order, draft, _) => do
    Code.query (.store serial (.list [ArgType.encode .u64 order, .bool draft]))
    return .ok .null
  | .totals, (amounts, _) => return .ok (ArgType.encode .totals (withTax amounts))
  | .refund, (order, _) => return .ok (.text ("refunded " ++ toString (UInt64.toNat order)))
  | .list, (args, _) => return .ok (.ofNat (List.length args))
  | .last, _ => return .ok (← Code.query (.read serial)).args
  | .mixed, (label, args, numbers, _) => return .ok (.list
      [ ArgType.encode (.option .text) label, .ofNat (List.length args),
        .ofNat (wrappingSum numbers).toNat ])
  | .pairs, (count, _) =>
    if UInt32.toNat count = 0 then return .ok (.object []) else return .error .unencodable
  | .check, (n, _) =>
    if Int32.toInt n < 0 then return .ok (.object [("Err", .text "negative")])
    else return .ok (.object [("Ok", .ofInt (Int32.toInt n))])

def run (method : OrderMethod) (serial : Serial) (args : List Value) :
    Code B (Except CallbackError Value) :=
  Code.withInputs method.params args (method.body serial)

end OrderMethod

/-- The source of the component. Two of its functions are not reflected. -/
def block : Source.Block :=
  { doc := [.doc " Order handling.", .doc "", .doc " @api-namespace shop", .doc " @api-VERSION 3",
      .doc " @api-routes /nope"]
    items := OrderMethod.all.map (fun method => .function method.function) ++
      [ .function { name := "detached", doc := [.doc " @action nobody"], params := ["u64"] },
        .function { name := "untagged", receiver := some "&mut self" } ] }

variable {B : Bodies}

def reflection? (wrap : OrderMethod → B.Method) : Option (Reflection B) :=
  (Source.outline "api" block).toOption.map fun outline =>
    outline.reflection Member.orders.identity fun name => (OrderMethod.ofName? name).map wrap

def component (wrap : OrderMethod → B.Method) : Component B where
  construct serial := Code.query (.change serial (.add "/orders"
    (.object [("methods", .list [.text "GET", .text "POST"])])))
  hooks _ := return reflection? wrap
  init _ _ := return ()

end HookWiring.Session.Orders
