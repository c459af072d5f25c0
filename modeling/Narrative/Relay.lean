import Narrative.Screen

/-!
# Relay — places that lead on
-/

namespace Narrative

/-- A guarded way on from a relay. -/
structure Fork where
  condition : Condition := []
  action : Script
deriving DecidableEq, Repr

/-- A place that is never shown. -/
structure Relay where
  name : String
  scripts : StageScripts := {}
  forks : List Fork := []
deriving DecidableEq, Repr

namespace Fork

/-- The position of the first fork whose guard holds. Later forks are not looked at. -/
def first (ctx : Context) : List Fork → Except ExprError (Option Nat)
  | [] => .ok none
  | fork :: rest => do
    if ← fork.condition.evaluate ctx then return some 0
    else return (← first ctx rest).map (· + 1)

/-- What happens while forks are tried, up to the first one that holds or is malformed. -/
def remarks (ctx : Context) : List Fork → List Remark
  | [] => []
  | fork :: rest =>
    fork.condition.remarks ctx ++
      match fork.condition.evaluate ctx with
      | .ok false => remarks ctx rest
      | _ => []

end Fork

/-- The position of the fork that a relay takes. -/
def Relay.selectFork (relay : Relay) (ctx : Context) : Except ExprError (Option Nat) :=
  Fork.first ctx relay.forks

end Narrative
