import HookWiring.Path

/-!
# Package locations

A package keeps its entry file at its root and names it after the root directory, and component
sources lie two levels below the root. The location of a package is found from the path of a
source file; when that path is too shallow, the source file itself stands for the entry file.
Where the package lies on the host is the business of a resolver. Without one, paths inside the
package are returned unchanged.
-/

namespace HookWiring

structure PathResolver where
  dirPath : List Char → List Char
  dirUrl : List Char → List Char

namespace PackageLocation

def packageDir? (source : List Char) : Option (List Char) := do
  let dir ← Path.parent? (← Path.parent? source)
  let _ ← Path.fileName? dir
  return dir

def extension : List Char := ['.', 'r', 's']

def entryFile (source : List Char) : List Char :=
  match packageDir? source with
  | some dir => Path.join dir ((Path.fileName? dir).getD [] ++ extension)
  | none => source

def dir (source path : List Char) : Option PathResolver → List Char
  | some resolver => Path.join (resolver.dirPath (entryFile source)) path
  | none => path

def url (source path : List Char) : Option PathResolver → List Char
  | some resolver =>
    let base := resolver.dirUrl (entryFile source)
    if base.getLast? = some '/' then base ++ path else base ++ '/' :: path
  | none => path

end PackageLocation

end HookWiring
