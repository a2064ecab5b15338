import HookPlan.Pattern.Flagged
import HookPlan.Pattern.Reader
import HookPlan.Pattern.Search
import HookPlan.Pattern.Size

/-!
# Patterns

A pattern is a regular expression over Unicode characters. It is compiled before it is used
and may match anywhere in a path.

* `Pattern.compile`: the pattern with a source text, or why there is none.
* `Pattern.occursIn`: whether a path has a match.
-/

namespace HookPlan

structure Pattern where
  expr : Pattern.Expr

namespace Pattern

/-- The pattern with a source text. -/
def compile (source : String) : Except Fault Pattern := do
  let ast ← Ast.parse source.toList
  let (expr, _) ← ast.expr {}
  if maxBytes < expr.bytes then .error .tooLarge else .ok ⟨expr⟩

/-- Whether a pattern matches somewhere in a path. -/
def occursIn (p : Pattern) (path : String) : Bool := p.expr.occursIn path.toList

end Pattern

end HookPlan
