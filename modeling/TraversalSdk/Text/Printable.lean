import TraversalSdk.Text.CharRun
import TraversalSdk.Text.PrintableTable

namespace TraversalSdk.Text

/-- Whether a character may be shown as it is. -/
def isPrintable (c : Char) : Bool :=
  if c.toNat < 128 then ' ' ≤ c && c ≤ '~' else inRanges printableRanges c

end TraversalSdk.Text
