import Switchboard.Text.WordTable

namespace Switchboard.Text

/-- Letters and numbers of every script. -/
def isWord (c : Char) : Bool :=
  if c.toNat < 128 then c.isAlphanum else Span.covers wordSpans c.toNat

end Switchboard.Text
