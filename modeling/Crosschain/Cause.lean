/-!
# What an error says

An error of one layer may wrap an error of the layer below. Each error type states its lines,
its own first and then those of what it wraps, and the report joins them behind one tag.
-/

namespace Crosschain

/-- The lines of an error, outermost first. -/
class Explains (ε : Type) where
  lines : ε → List String

/-- The report of an error: one tag, then its lines joined by a colon and a space. -/
def report {ε : Type} [Explains ε] (e : ε) : String :=
  "StringTracer: " ++ ": ".intercalate (Explains.lines e)

end Crosschain
