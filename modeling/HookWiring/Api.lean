import HookWiring.Table
import HookWiring.Value

/-!
# Route metadata

A component with an API carries a namespace, a version, an optional subspace and a table from
base paths to route configurations. All routes are mounted under one path made of the three
fields; with an empty namespace or version there is no such path, and the component has no routes
to offer. Configurations are handed on untouched.
-/

namespace HookWiring

inductive ApiField where
  | space
  | version
  | subspace
  deriving DecidableEq, Repr

def ApiField.key : ApiField → String
  | .space => "namespace"
  | .version => "version"
  | .subspace => "subspace"

structure Api where
  space : String := ""
  version : String := "1"
  subspace : String := ""
  routes : Table String Value := .empty

structure Route where
  mount : String
  basePath : String
  config : Value

inductive ApiChange where
  | set (field : ApiField) (text : String)
  /-- Add a route, or replace the one with the same base path. -/
  | add (basePath : String) (config : Value)
  | replace (routes : List (String × Value))

namespace Api

def setField (api : Api) : ApiField → String → Api
  | .space, text => { api with space := text }
  | .version, text => { api with version := text }
  | .subspace, text => { api with subspace := text }

def field (api : Api) : ApiField → String
  | .space => api.space
  | .version => api.version
  | .subspace => api.subspace

def apply (api : Api) : ApiChange → Api
  | .set field text => api.setField field text
  | .add basePath config => { api with routes := api.routes.insert basePath config }
  | .replace routes => { api with routes := Table.ofList routes }

def mount? (api : Api) : Option String :=
  if api.space = "" ∨ api.version = "" then none
  else if api.subspace = "" then some (api.space ++ "/v" ++ api.version)
  else some (api.space ++ "/v" ++ api.version ++ "/" ++ api.subspace)

def mounted (api : Api) : List Route :=
  match api.mount? with
  | none => []
  | some mount => api.routes.entries.map fun (basePath, config) => { mount, basePath, config }

theorem field_setField_self (api : Api) (field : ApiField) (text : String) :
    (api.setField field text).field field = text := by
  cases field <;> rfl

theorem field_setField_of_ne (api : Api) {field other : ApiField} (h : field ≠ other)
    (text : String) : (api.setField field text).field other = api.field other := by
  cases field <;> cases other <;> first | rfl | exact absurd rfl h

theorem routes_setField (api : Api) (field : ApiField) (text : String) :
    (api.setField field text).routes = api.routes := by
  cases field <;> rfl

theorem mounted_eq_nil_of_mount?_eq_none {api : Api} (h : api.mount? = none) :
    api.mounted = [] := by
  simp [mounted, h]

end Api

end HookWiring
