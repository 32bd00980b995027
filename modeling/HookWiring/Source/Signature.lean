import HookWiring.Argument
import HookWiring.Source.Block
import HookWiring.Reflection

/-!
# Typed signatures

How argument types and parameters are written in the source of a component, and the reflection
that an outline describes once the bodies of its methods are known.
-/

namespace HookWiring

def ArgType.source : ArgType → String
  | .u8 => "u8"
  | .u32 => "u32"
  | .u64 => "u64"
  | .i32 => "i32"
  | .i64 => "i64"
  | .bool => "bool"
  | .text => "String"
  | .char => "char"
  | .unit => "()"
  | .option type => "Option<" ++ type.source ++ ">"
  | .list type => "Vec<" ++ type.source ++ ">"
  | .pair first second => "(" ++ first.source ++ ", " ++ second.source ++ ")"
  | .value => "Value"
  | .own name _ _ _ => name

def Param.source : Param → String
  | .invocation => "Invocation<'_>"
  | .positional type => type.source

def Source.Outline.reflection {B : Bodies} (outline : Source.Outline) (component : Identity)
    (body? : String → Option B.Method) : Reflection B :=
  let plain : Reflection B :=
    { component
      classDoc := outline.classDoc
      methods := outline.methods.filterMap fun m => (body? m.name).map fun body =>
        { name := m.name, argCount := m.argCount, doc := m.doc, body } }
  if outline.options.api then plain.withApi else plain

end HookWiring
