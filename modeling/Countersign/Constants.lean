/-!
# Constants

What identifies a release of the library.
-/

namespace Countersign

/-- The version of the library. -/
def version : String := "0.1.0"

end Countersign
