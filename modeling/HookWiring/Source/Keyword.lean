/-!
# Keywords

The words of component sources that have a meaning of their own and so cannot name anything.
-/

namespace HookWiring.Source

def keywords : List String :=
  [ "_", "abstract", "as", "async", "await", "become", "box", "break", "const", "continue",
    "crate", "do", "dyn", "else", "enum", "extern", "false", "final", "fn", "for", "if", "impl",
    "in", "let", "loop", "macro", "match", "mod", "move", "mut", "override", "priv", "pub", "ref",
    "return", "Self", "self", "static", "struct", "super", "trait", "true", "try", "type",
    "typeof", "unsafe", "unsized", "use", "virtual", "where", "while", "yield" ]

def pathKeywords : List String := ["super", "self", "Self", "crate", "try"]

/-- The keywords that cannot be marked as identifiers either. -/
def unmarkableWords : List String := ["_", "super", "self", "Self", "crate"]

end HookWiring.Source
