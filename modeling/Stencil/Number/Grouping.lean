/-!
# Groups of digits

Long runs of digits are read more easily in groups of three, counted from the right.
-/

namespace Stencil.Number

/-- Puts a separator in front of every digit, the first one apart, that has a multiple of three
digits from itself on. -/
def groupThousands (separator : List Char) : List Char → List Char
  | [] => []
  | [digit] => [digit]
  | digit :: next :: rest =>
    if (rest.length + 1) % 3 = 0 then digit :: separator ++ groupThousands separator (next :: rest)
    else digit :: groupThousands separator (next :: rest)

end Stencil.Number
