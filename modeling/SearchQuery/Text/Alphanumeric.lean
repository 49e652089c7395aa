import SearchQuery.Text.Basic
import SearchQuery.Text.AlphanumericRanges

/-!
# Letters and numbers
-/

namespace SearchQuery
namespace Text

/-- Whether a character is a letter or has a numeric value, in any script. -/
def isAlphanumeric (c : Char) : Bool :=
  alphanumericRanges.any fun range => range.1 ≤ c.toNat && c.toNat ≤ range.2

end Text
end SearchQuery
