import HookWiring.Error

/-!
# Members of a session

The components that a session knows: four whose lifecycle is a script, a shop's order handling,
and a beacon that is loaded without being asked for. Every member has an identity in the registry
and a source file that tells where its package lies.
-/

namespace HookWiring.Session

inductive Member where
  | alpha
  | beta
  | gamma
  | delta
  | orders
  | beacon
  deriving DecidableEq, Repr

namespace Member

def all : List Member :=
  [.alpha, .beta, .gamma, .delta, .orders, .beacon]

def name : Member → String
  | .alpha => "Alpha"
  | .beta => "Beta"
  | .gamma => "Gamma"
  | .delta => "Delta"
  | .orders => "Orders"
  | .beacon => "Beacon"

def identity (member : Member) : Identity :=
  "driver::comps::" ++ member.name

def ofName? (name : String) : Option Member :=
  all.find? fun member => member.name == name

def ofIdentity? (identity : Identity) : Option Member :=
  all.find? fun member => member.identity == identity

def isScripted : Member → Bool
  | .orders | .beacon => false
  | _ => true

def source : Member → String
  | .alpha => "plugins/acme-forms/src/lib.rs"
  | .beta => "src/lib.rs"
  | .gamma => "/srv/app.d/inner/deep.rs"
  | .delta => "a/../b/lib.rs"
  | .orders => "shop/orders/src/orders.rs"
  | .beacon => "beacon/src/lib.rs"

def autoloaded : List Member := [.beacon]

end Member

end HookWiring.Session
