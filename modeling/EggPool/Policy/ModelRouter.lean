import EggPool.Lib.Delimited
import EggPool.Lib.Run
import EggPool.Lib.Text

/-!
# The fingerprint of a model router

A compiled model router is told from others by a hash. What is hashed is a list of texts, each
behind its length: the models of the router, three texts for each route, and the settings. The
routes are as many as there are, but before them stand four texts and behind them five, so the
list can be taken apart again.

Descriptions are normalised first. Floats are printed by the standard library, whose text of a
finite float is read back as the same float.
-/

namespace EggPool.Policy

open EggPool.Lib List

structure ModelRoutePolicy where
  (model description : String)

/-- Routes are in the order of their labels, as the map gives them. -/
structure ModelRouterPolicy where
  (selectorModel defaultModel : String)
  routes : List (String × ModelRoutePolicy)
  sticky : Bool
  (affinityTtlS selectorTimeoutS : Rat)
  (maxInputBytes repairAttempts : Nat)

structure CompiledModelRoute where
  (routeId label model description : String)
deriving DecidableEq

/-! ## Validation -/

/-- `char::is_control` -/
def isControl (c : Char) : Bool := c.toNat < 0x20 || (0x7f ≤ c.toNat && c.toNat ≤ 0x9f)

variable (debug : DebugText)

def SELECTOR_PROTOCOL_VERSION : String := "model-router/v1"

def isAsciiWhitespace (c : Char) : Bool := [' ', '\t', '\n', '\x0c', '\r'].contains c

def staticPolicy (routes : List CompiledModelRoute) : String :=
  SELECTOR_PROTOCOL_VERSION ++ "|choose id;reply id only|" ++
    "|".intercalate (routes.map fun route => route.routeId ++ "=" ++ route.description)

structure CompiledModelRouter where
  virtualModel : String
  policy : ModelRouterPolicy
  routes : List CompiledModelRoute
  configFingerprint : String
  staticPolicy : String

variable {debug} {hash : List UInt8 → String} {v v' : String} {r r' : ModelRouterPolicy}
  {c c' : CompiledModelRouter}

end EggPool.Policy
