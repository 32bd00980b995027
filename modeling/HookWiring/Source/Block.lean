import HookWiring.Directive.Tag
import HookWiring.Source.Options
import HookWiring.Source.Receiver

/-!
# Blocks of methods

The source of a component as its reflection is made from it: a block of items with documentation.
A method is reflected when its documentation is tagged and it has a receiver; then it has to take a
shared reference to its component and be neither generic nor asynchronous. All other items may be
anything. The parameters of a reflected method take positional arguments in order, except those
that receive the call itself; a mark that further arguments may follow takes none.
-/

namespace HookWiring.Source

inductive Attribute where
  | doc (text : String)
  | raw (text : String)

def Attribute.docText? : Attribute → Option String
  | .doc text => some text
  | .raw text => match tokens text with
    | [.word "doc", .mark '=', .text value] => some value
    | _ => none

def docText (attributes : List Attribute) : String :=
  "\n".intercalate (attributes.filterMap Attribute.docText?)

structure Function where
  name : String
  doc : List Attribute := []
  receiver : Option String := none
  params : List String := []
  generics : List String := []
  isAsync : Bool := false

inductive Item where
  | function (f : Function)
  | other

structure Block where
  doc : List Attribute := []
  ofTrait : Option String := none
  generics : List String := []
  items : List Item := []

inductive Slot where
  | invocation
  | position (index : Nat)
  deriving DecidableEq, Repr

/-- The slots of parameters, told by whether each receives the call, from a position on. -/
def slots : (index : Nat) → List Bool → List Slot
  | _, [] => []
  | index, true :: rest => .invocation :: slots index rest
  | index, false :: rest => .position index :: slots (index + 1) rest

structure ReflectedMethod where
  name : String
  argCount : Nat
  doc : String
  call : List Slot
  deriving DecidableEq, Repr

def unraw (name : String) : String :=
  match name.toList with
  | 'r' :: '#' :: rest => String.ofList rest
  | _ => name

/-- Whether generic parameters are written; a blank entry is none. -/
def isGeneric (generics : List String) : Bool :=
  generics.any fun parameter => !(tokens parameter).isEmpty

def Function.reflect (f : Function) : Except Error (Option ReflectedMethod) :=
  let doc := docText f.doc
  match Directive.isTagged doc, f.receiver.bind Receiver.read? with
  | true, some receiver =>
    if receiver ≠ .shared then .error .receiver
    else if isGeneric f.generics || f.isAsync then .error .genericMethod
    else
      let passed := (f.params.filter fun type => !isVariadic type).map isInvocation
      .ok (some
        { name := unraw f.name, argCount := passed.count false, doc, call := slots 0 passed })
  | _, _ => .ok none

def reflectItems : List Item → Except Error (List ReflectedMethod)
  | [] => .ok []
  | .other :: rest => reflectItems rest
  | .function f :: rest => do
    let method ← f.reflect
    return method.toList ++ (← reflectItems rest)

def Block.reflect (block : Block) : Except Error (List ReflectedMethod) :=
  if block.ofTrait.isSome then .error .traitBlock
  else if isGeneric block.generics then .error .genericComponent
  else reflectItems block.items

structure Outline where
  classDoc : String
  options : Options
  methods : List ReflectedMethod

def Attribute.fragments : Attribute → List String
  | .doc _ => []
  | .raw text => [text]

def Item.fragments : Item → List String
  | .function f =>
    f.doc.flatMap Attribute.fragments ++ f.receiver.toList ++ f.params ++ f.generics
  | .other => []

def Block.fragments (block : Block) : List String :=
  block.doc.flatMap Attribute.fragments ++ block.ofTrait.toList ++ block.generics ++
    block.items.flatMap Item.fragments

def Block.isWellFormed (block : Block) : Bool :=
  block.fragments.all fun fragment => (tokens? fragment.toList).isSome

/-- The outline of a component; the attribute is read first. -/
def outline (listed : String) (block : Block) : Except Error Outline := do
  let options ← Options.read listed
  if !block.isWellFormed then throw .malformed
  let methods ← block.reflect
  return { classDoc := docText block.doc, options, methods }

end HookWiring.Source
