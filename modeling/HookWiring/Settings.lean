/-!
# Settings

The names that a host gives to the hooks which every component shares: the prefixes of the two
actions behind an ajax handler, the action on which class directives are applied, and the action
on which route tables are registered.
-/

namespace HookWiring

structure Settings where
  ajaxPrivate : String := "wp_ajax"
  ajaxPublic : String := "wp_ajax_nopriv"
  apiInit : String := "init"
  routeInit : String := "rest_api_init"
  deriving DecidableEq, Repr

/-- The two action names behind an ajax handler, the one with a login first. -/
def Settings.ajaxNames (settings : Settings) (name : String) : List String :=
  [settings.ajaxPrivate ++ "_" ++ name, settings.ajaxPublic ++ "_" ++ name]

end HookWiring
