/-!
# Names without their case

SQL folds the case of unquoted names.  Only ASCII letters take part: every other character stands
for itself, so `É` and `é` are different names.
-/

set_option autoImplicit false

namespace EntitySession

namespace Text

/-- The text with its ASCII letters in lower case. -/
def fold (s : String) : String := s.map Char.toLower

end Text

end EntitySession
