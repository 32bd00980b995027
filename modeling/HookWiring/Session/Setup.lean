import HookWiring.PackageLocation
import HookWiring.Session.Beacon
import HookWiring.Session.Script
import HookWiring.System.Sequence

/-!
# Setups

What a session starts from: the settings of the host, its path resolver, and the scripts of the
scripted members. A setup is a program for the system. The journal of a run is read as a list of
events; the lifecycle of scripted members shows in it, that of the others does not.
-/

namespace HookWiring.Session

inductive Resolver where
  | under (base url : String)
  | fixed (dir url : String)

def Resolver.paths : Resolver → PathResolver
  | .under base url =>
    { dirPath := fun entry => Path.join base.toList ((Path.parent? entry).getD [])
      dirUrl := fun entry => url.toList ++ (Path.parent? entry).getD [] }
  | .fixed dir url => { dirPath := fun _ => dir.toList, dirUrl := fun _ => url.toList }

structure Setup where
  settings : Settings := {}
  resolver : Option Resolver := none
  scripts : List (Member × Script) := []

namespace Setup

def script (setup : Setup) (member : Member) : Script :=
  ((setup.scripts.find? fun entry => entry.1 == member).map Prod.snd).getD {}

def member (setup : Setup) : Member → Component bodies
  | .orders => Orders.component MethodBody.order
  | .beacon => Beacon.component MethodBody.ping
  | scripted => (setup.script scripted).component setup.settings scripted

def stranger : Component bodies where
  construct _ := return ()
  hooks _ := return none
  init _ _ := return ()

def program (setup : Setup) : Program bodies where
  settings := setup.settings
  component identity := ((Member.ofIdentity? identity).map setup.member).getD stranger
  method body serial args := body.run serial args
  setter body serial value := body.run serial value
  handler body component method args := body.run component method args

/--
The nesting depth of a session. No handler fires hooks, so between the sequences of two members
lies at most one call, and each member has at most one sequence.
-/
def depth : Nat := 2 * Member.all.length + 4

end Setup

def milestoneEvent? (identity : Identity) (milestone : Milestone) : Option Value := do
  let member ← Member.ofIdentity? identity
  guard member.isScripted
  let event (phase : String) (more : List (String × Value)) : Value :=
    .object (("at", .text phase) :: ("component", .text member.name) :: more)
  match milestone with
  | .constructing serial =>
    some (event "construct" [("identity", .text identity), ("serial", .ofNat serial)])
  | .hooking => some (event "hooks" [])
  | .initialising args => some (event "init" [("args", args)])
  | .ready => none
  | .failed => none

def event? : Entry → Option Value
  | .milestone identity milestone => milestoneEvent? identity milestone
  | .note value => some value

end HookWiring.Session
