/-!
# The interpreter

The program runs in an interpreter that lets only so many calls stand inside one another. What walks
over nested values calls itself on the way, once or more for each value around, so that a value that
is nested too deep is a fault of reading or writing it.

What is *not* formalized: how many calls lead to such a walk. They count as well, so the last few
levels depend on who asks. Each limit leaves out as many calls as lead there from the loading of a
file or the making of a configuration.
-/

namespace RequestAuth.Interpreter

/-- The most calls inside one another. -/
def maxCalls : Nat := 1000

end RequestAuth.Interpreter
