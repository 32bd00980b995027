import HookWiring.Session.Step
import HookWiring.Proofs.Machine
import HookWiring.Proofs.Stages
import HookWiring.Proofs.History
import HookWiring.Proofs.Calls
import HookWiring.Proofs.Evaluation
import HookWiring.Proofs.Binding
import HookWiring.Proofs.OneLife
import HookWiring.Proofs.Slots
import HookWiring.Proofs.Unwinding
import HookWiring.Proofs.DepthFirst
import HookWiring.Proofs.Network
import HookWiring.Proofs.Traversal
import HookWiring.Proofs.NetworkRuns
import HookWiring.Proofs.Answers
import HookWiring.Proofs.Pattern
import HookWiring.Proofs.Matching
import HookWiring.Proofs.DirectivePatterns
import HookWiring.Proofs.HookPatterns
import HookWiring.Proofs.TrimmedPatterns
import HookWiring.Proofs.LineByLine
import HookWiring.Proofs.Tagging
import HookWiring.Proofs.Hooking
import HookWiring.Proofs.WrittenLines
import HookWiring.Proofs.RoundTrip
import HookWiring.Proofs.BuiltIns
import HookWiring.Proofs.ClassDirectives
import HookWiring.Proofs.ApiFiring
import HookWiring.Proofs.StableOrder
import HookWiring.Proofs.Secluded
import HookWiring.Proofs.StartOrder
import HookWiring.Proofs.Stacking
import HookWiring.Proofs.ActionFiring
import HookWiring.Proofs.FilterFiring
import HookWiring.Proofs.LongestRuns
import HookWiring.Proofs.LineSplits
import HookWiring.Proofs.HookLanguage
import HookWiring.Proofs.CommandLanguage
import HookWiring.Proofs.ClassLanguage
import HookWiring.Proofs.BlockReflection
import HookWiring.Proofs.GeneratedCalls
import HookWiring.Proofs.ArgumentErrors
import HookWiring.Proofs.TableHistory
import HookWiring.Proofs.RouteHistory
import HookWiring.Proofs.SetterTable
import HookWiring.Proofs.HandlerActions
import HookWiring.Proofs.DerivedNames
import HookWiring.Proofs.OptionLists
import HookWiring.Proofs.PathComponents
import HookWiring.Proofs.PackageLocations
import HookWiring.Proofs.Loading
