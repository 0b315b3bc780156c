import DocFilter.Text.CodeRange
import DocFilter.Text.LetterRanges

set_option autoImplicit false

namespace DocFilter.Text

def startsIdentifier (c : Char) : Bool :=
  c == '$' || c == '_' || inRanges letterRanges c

/-- The two joiners of zero width may stand inside an identifier, but not at its start. -/
def continuesIdentifier (c : Char) : Bool :=
  startsIdentifier c || inRanges joiningRanges c || c == '\u200c' || c == '\u200d'

end DocFilter.Text
