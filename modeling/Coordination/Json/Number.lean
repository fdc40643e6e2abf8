import Coordination.Decimal.Shortest

/-!
# Floating-point numbers in JSON

A number is written as the shortest decimal that reads back as the number.
-/

namespace Coordination.Json

/-- From 0.00001 on and below 10000000000000000, numbers are written without an exponent. -/
def layout : Decimal.Layout := ⟨-5, 15⟩

def floatText (x : Float) : String := layout.text x

end Coordination.Json
