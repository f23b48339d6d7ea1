import Inquiry.Text.Blank

/-!
# Search patterns

A text search is bound as a pattern in which a percent sign stands for any run of characters. The
user may write a star or a percent sign; a value without either is searched for anywhere.
-/

namespace Inquiry.Literal

/-- Whether a text holds a wildcard. -/
def hasWildcard (text : String) : Bool := text.toList.any fun c => c = '*' ∨ c = '%'

/-- The search pattern of a value. -/
def pattern (text : String) : String :=
  let cs := Text.trimmed text.toList
  String.ofList <|
    if cs.any fun c => c = '*' ∨ c = '%' then cs.map fun c => if c = '*' then '%' else c
    else '%' :: cs ++ ['%']

end Inquiry.Literal
