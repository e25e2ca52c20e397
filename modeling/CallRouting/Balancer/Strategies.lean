import CallRouting.Balancer.Strategy
import CallRouting.Text.Lowercase

/-!
# Strategies by name

Strategies are found by their names, in which case, underscores, hyphens and
spaces do not count. A later strategy takes the place of an earlier one of the same
name. A name that stands for none gets round robin, whatever is registered under
that name.
-/

namespace CallRouting

/-- The strategies that can be asked for, by their normalized names. -/
structure Strategies where
  registered : Registry String Strategy

namespace Strategies

/-- The part of a name that counts. -/
def normalize (name : String) : String :=
  let counting := name.toList.filter fun c => !(['_', '-', ' '].contains c)
  String.ofList (counting.flatMap Text.lowercaseChar)

/-- The strategies with one more; it takes the place of one with the same name. -/
def register (strategies : Strategies) (strategy : Strategy) : Strategies :=
  ⟨strategies.registered.put (normalize strategy.name) strategy⟩

/-- The strategies of the library. -/
def standard : Strategies :=
  [Strategy.roundRobin, .bestAvailable, .weightedResponseTime, .random].foldl register ⟨∅⟩

/-- The strategy with a name, however that is spelled. -/
def find? (strategies : Strategies) (name : String) : Option Strategy :=
  strategies.registered.find? (normalize name)

/-- The strategy for names that stand for none. -/
def fallback : Strategy := .roundRobin

/-- The strategy with a name, or the fallback. -/
def get (strategies : Strategies) (name : String) : Strategy :=
  (strategies.find? name).getD fallback

/-- The names of all strategies in order. -/
def names (strategies : Strategies) : List String :=
  (strategies.registered.values.map Strategy.name).mergeSort fun a b => !decide (b < a)

end Strategies

/-- Whether a strategy is the very one that stands in for unknown names. -/
def Strategy.isFallback : Strategy → Bool
  | .roundRobin => true
  | _ => false

end CallRouting
