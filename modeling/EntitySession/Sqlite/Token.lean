/-!
# Words of SQL

A text is read letter by letter.  What has been read of a word, a number, a string or a comment that
may still go on is the `Token.Mode`, and `Token.step` says which tokens are complete after one more
letter.

A token is kept as it was written, with its quotes, since messages show it like this.  Letters that
make no word are kept too: they are what a message about them shows.  Blanks and comments only
separate words.  They go with the `Word` before them, because a piece of a text that is shown as it
was written has them inside.
-/

set_option autoImplicit false

namespace EntitySession.Sqlite

/-- A part of a text, as it was written. -/
inductive Token where
  /-- A name or a keyword. -/
  | word (s : String)
  /-- A name in quotes or brackets. -/
  | quoted (s : String)
  /-- A whole number. -/
  | number (s : String)
  /-- A number with a point or an exponent. -/
  | real (s : String)
  /-- A text in single quotes. -/
  | text (s : String)
  /-- Octets, two digits each, in single quotes behind an `x`. -/
  | octets (s : String)
  /-- A parameter with a number or a name. -/
  | parameter (s : String)
  /-- A sign of punctuation. -/
  | sign (c : Char)
  /-- A sign of more than one letter. -/
  | operator (s : String)
  /-- What is no word of SQL. -/
  | unknown (s : String)
  /-- A blank or a comment. -/
  | gap (s : String)
  deriving DecidableEq

namespace Token

/-- The token as it was written. -/
def source : Token → String
  | word s | quoted s | number s | real s | text s | octets s | parameter s | operator s | unknown s
  | gap s => s
  | sign c => String.singleton c

/-- A text between quotes without them, a doubled quote once. -/
def unquote (quote : Char) (s : String) : String :=
  let rec inner : List Char → List Char
    | [] => []
    | [_] => []
    | c :: d :: rest => if c == quote && d == quote && !rest.isEmpty then c :: inner rest
      else c :: inner (d :: rest)
  String.ofList (inner (s.toList.drop 1))

/-- The name that is written in quotes or brackets. -/
def unquoteName (s : String) : String :=
  if s.front = '[' then String.ofList (s.toList.drop 1).dropLast else unquote s.front s

/-- What has been read of a word that may go on; letters in reverse order. -/
inductive Mode where
  | blank
  /-- After a blank. -/
  | blanks
  | word (read : List Char)
  | number (read : List Char)
  /-- A number behind its point. -/
  | fraction (read : List Char)
  /-- A number that ends in the letter of an exponent. -/
  | exponent (read : List Char)
  /-- The same, and a sign. -/
  | exponentSign (read : List Char) (sign : Char)
  /-- A number with the digits of its exponent. -/
  | exponentDigits (read : List Char)
  /-- A zero and an `x`, with the digits behind it or none yet. -/
  | hexadecimal (read : List Char) (hasDigits : Bool)
  /-- A number that runs into a name. -/
  | malformed (read : List Char)
  /-- A parameter that begins with a question mark. -/
  | parameter (read : List Char)
  /-- A parameter that begins with another sign. -/
  | named (read : List Char)
  /-- Between quotes; whether the last letter was a quote that may be half of two. -/
  | between (quote : Char) (read : List Char) (afterQuote : Bool)
  | brackets (read : List Char)
  /-- Octets; whether all letters so far are digits. -/
  | octets (read : List Char) (areDigits : Bool)
  /-- After a sign that may be the first of several. -/
  | operator (first : Char)
  /-- After one point. -/
  | point
  /-- After the arrow, which may have a second head. -/
  | arrow
  /-- In a comment that lasts to the end of the line. -/
  | lineComment (read : List Char)
  /-- After the opening of a comment. -/
  | opening
  /-- In a comment that lasts to its closing; whether the last letter was a star. -/
  | comment (read : List Char) (afterStar : Bool)

/-- Whether a letter separates words. -/
def isBlank (c : Char) : Bool := [' ', '\t', '\n', '\r', '\x0c'].contains c

/-- Whether a letter may begin a name. -/
def beginsName (c : Char) : Bool := c.isAlpha || c == '_' || decide (128 ≤ c.toNat)

/-- Whether a letter may go on in a name. -/
def continuesName (c : Char) : Bool := beginsName c || c.isDigit || c == '$'

/-- Whether a letter is a hexadecimal digit. -/
def isHexadecimal (c : Char) : Bool :=
  c.isDigit || decide ('a' ≤ c ∧ c ≤ 'f') || decide ('A' ≤ c ∧ c ≤ 'F')

/-- The signs of two letters. -/
def pairs : List (Char × Char) :=
  [('=', '='), ('<', '='), ('<', '>'), ('<', '<'), ('>', '='), ('>', '>'), ('!', '='), ('|', '|')]

/-- The text that was read. -/
def written (read : List Char) : String := String.ofList read.reverse

/-- The tokens that are complete with the first letter after a token, and what may go on.  A mark of the
order of octets is a blank too, and a vertical tabulator only behind another blank. -/
def start (c : Char) : List Token × Mode :=
  if isBlank c then ([gap (String.singleton c)], .blanks)
  else if c == '\ufeff' then ([gap (String.singleton c)], .blank)
  else if beginsName c then ([], .word [c])
  else if c.isDigit then ([], .number [c])
  else if ['\'', '"', '\x60'].contains c then ([], .between c [c] false)
  else if c == '[' then ([], .brackets [c])
  else if c == '?' then ([], .parameter [c])
  else if ['$', '@', '#', ':'].contains c then ([], .named [c])
  else if c == '.' then ([], .point)
  else if ['-', '/', '=', '<', '>', '!', '|'].contains c then ([], .operator c)
  else if ['(', ')', ',', ';', '*', '+', '&', '~', '%'].contains c then ([sign c], .blank)
  else ([unknown (String.singleton c)], .blank)

/-- A word between quotes. -/
def ofQuoted (quote : Char) (s : String) : Token := if quote == '\'' then text s else quoted s

/-- A parameter, of which a bare question mark is the sign. -/
def ofParameter (read : List Char) : Token :=
  if read == ['?'] then sign '?' else parameter (written read)

/-- A parameter with a name, which cannot be empty. -/
def ofNamed (read : List Char) : Token :=
  if read.length == 1 then unknown (written read) else parameter (written read)

/-- Octets up to the closing quote. -/
def ofOctets (read : List Char) (areDigits : Bool) : Token :=
  if areDigits && read.length % 2 == 1 then octets (written read) else unknown (written read)

/-- A single letter that might have been the first of a sign. -/
def ofSingle (c : Char) : Token := if c == '!' then unknown "!" else sign c

/-- Puts a complete word in front of what a letter begins. -/
def after (t : Token) (c : Char) : List Token × Mode := ((t :: (start c).1), (start c).2)

/-- What a second letter makes of one that may be the first of a sign or of a comment. -/
def operatorStep (first c : Char) : List Token × Mode :=
  if first == '-' && c == '-' then ([], .lineComment [c, first])
  else if first == '-' && c == '>' then ([], .arrow)
  else if first == '/' && c == '*' then ([], .opening)
  else if pairs.contains (first, c) then ([operator (String.ofList [first, c])], .blank)
  else after (ofSingle first) c

/-- What goes on from the whole part of a number. -/
def numberStep (read : List Char) (c : Char) : List Token × Mode :=
  if c.isDigit then ([], .number (c :: read))
  else if c == '.' then ([], .fraction (c :: read))
  else if c == 'e' || c == 'E' then ([], .exponent (c :: read))
  else if (c == 'x' || c == 'X') && read == ['0'] then ([], .hexadecimal (c :: read) false)
  else if continuesName c then ([], .malformed (c :: read))
  else after (number (written read)) c

/-- The tokens that one more letter completes, and what may go on after it. -/
def step : Mode → Char → List Token × Mode
  | .blank, c => start c
  | .blanks, c => if c == '\x0b' then ([gap (String.singleton c)], .blanks) else start c
  | .word read, c =>
    if continuesName c then ([], .word (c :: read))
    else if c == '\'' && (read == ['x'] || read == ['X']) then ([], .octets (c :: read) true)
    else after (word (written read)) c
  | .number read, c => numberStep read c
  | .fraction read, c =>
    if c.isDigit then ([], .fraction (c :: read))
    else if c == 'e' || c == 'E' then ([], .exponent (c :: read))
    else if continuesName c then ([], .malformed (c :: read))
    else after (real (written read)) c
  | .exponent read, c =>
    if c.isDigit then ([], .exponentDigits (c :: read))
    else if c == '+' || c == '-' then ([], .exponentSign read c)
    else if continuesName c then ([], .malformed (c :: read))
    else after (unknown (written read)) c
  | .exponentSign read d, c =>
    if c.isDigit then ([], .exponentDigits (c :: d :: read))
    else ((unknown (written read) :: (operatorStep d c).1), (operatorStep d c).2)
  | .exponentDigits read, c =>
    if c.isDigit then ([], .exponentDigits (c :: read))
    else if continuesName c then ([], .malformed (c :: read))
    else after (real (written read)) c
  | .hexadecimal read hasDigits, c =>
    if isHexadecimal c then ([], .hexadecimal (c :: read) true)
    else if continuesName c then ([], .malformed (c :: read))
    else after (if hasDigits then number (written read) else unknown (written read)) c
  | .malformed read, c =>
    if continuesName c then ([], .malformed (c :: read)) else after (unknown (written read)) c
  | .parameter read, c =>
    if c.isDigit then ([], .parameter (c :: read)) else after (ofParameter read) c
  | .named read, c =>
    if continuesName c then ([], .named (c :: read)) else after (ofNamed read) c
  | .between quote read false, c => ([], .between quote (c :: read) (c == quote))
  | .between quote read true, c =>
    if c == quote then ([], .between quote (c :: read) false)
    else after (ofQuoted quote (written read)) c
  | .brackets read, c =>
    if c == ']' then ([quoted (written (c :: read))], .blank) else ([], .brackets (c :: read))
  | .octets read areDigits, c =>
    if c == '\'' then ([ofOctets (c :: read) areDigits], .blank)
    else ([], .octets (c :: read) (areDigits && isHexadecimal c))
  | .operator first, c => operatorStep first c
  | .point, c => if c.isDigit then ([], .fraction [c, '.']) else after (sign '.') c
  | .arrow, c => if c == '>' then ([operator "->>"], .blank) else after (operator "->") c
  | .lineComment read, c =>
    if c == '\n' then after (gap (written read)) c else ([], .lineComment (c :: read))
  | .opening, c => ([], .comment [c, '*', '/'] (c == '*'))
  | .comment read afterStar, c =>
    if afterStar && c == '/' then ([gap (written (c :: read))], .blank)
    else ([], .comment (c :: read) (c == '*'))

/-- The tokens that the end of the text completes.  A comment needs no closing, but its opening alone is
no comment. -/
def finish : Mode → List Token
  | .word read => [word (written read)]
  | .number read => [number (written read)]
  | .fraction read | .exponentDigits read => [real (written read)]
  | .exponentSign read c => [unknown (written read), sign c]
  | .hexadecimal read true => [number (written read)]
  | .exponent read | .hexadecimal read false | .malformed read => [unknown (written read)]
  | .parameter read => [ofParameter read]
  | .named read => [ofNamed read]
  | .between quote read true => [ofQuoted quote (written read)]
  | .between _ read false | .brackets read | .octets read _ => [unknown (written read)]
  | .operator first => [ofSingle first]
  | .point => [sign '.']
  | .arrow => [operator "->"]
  | .opening => [sign '/', sign '*']
  | .lineComment read | .comment read _ => [gap (written read)]
  | .blank | .blanks => []

/-- The tokens of a text, after what has been read. -/
def scanFrom : Mode → List Char → List Token
  | m, [] => finish m
  | m, c :: rest => (step m c).1 ++ scanFrom (step m c).2 rest

/-- The tokens of a text. -/
def scan (sql : String) : List Token := scanFrom .blank sql.toList

/-- Whether a token only separates others. -/
def isGap : Token → Bool
  | gap _ => true
  | _ => false

end Token

/-- A word with what separates it from the next one. -/
structure Word where
  token : Token
  gap : String
  deriving DecidableEq

namespace Word

/-- The words of some tokens. -/
def ofTokens : List Token → List Word
  | [] => []
  | .gap _ :: rest => ofTokens rest
  | t :: rest => ⟨t, String.join ((rest.takeWhile Token.isGap).map Token.source)⟩ :: ofTokens rest

/-- The words of a text. -/
def scan (sql : String) : List Word := ofTokens (Token.scan sql)

/-- Words as they were written, without the blanks behind the last one. -/
def written (words : List Word) : String :=
  let letters := String.join (words.flatMap fun w => [w.token.source, w.gap])
  let blanks := [' ', '\t', '\n', '\x0b', '\x0c', '\r']
  String.ofList (letters.toList.reverse.dropWhile blanks.contains).reverse

end Word

end EntitySession.Sqlite
