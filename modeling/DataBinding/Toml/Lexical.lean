namespace DataBinding.Toml

/-!
# Blanks, comments, strings and keys of TOML documents

Each reader takes what it can from the front of the characters and hands the
rest on, or fails.  An end of line is a line feed, a carriage return in front of
it being allowed.
-/

/-- The blanks inside a line. -/
def isBlank (c : Char) : Bool :=
  c == ' ' || c == '\t'

/-- The characters that may stand in comments: tabs and whatever is no control
character. -/
def isPlain (c : Char) : Bool :=
  c == '\t' || (0x20 ≤ c.toNat && c.toNat != 0x7F)

/-- Skips blanks. -/
def skipBlanks (text : List Char) : List Char :=
  text.dropWhile isBlank

/-- Takes an end of line. -/
def newline? : List Char → Option (List Char)
  | '\n' :: rest => some rest
  | '\r' :: '\n' :: rest => some rest
  | _ => none

/-- Takes a comment, if there is one. -/
def skipComment : List Char → List Char
  | '#' :: rest => rest.dropWhile isPlain
  | text => text

/-- Takes an end of line or the end of the document. -/
def lineEnd? : List Char → Option (List Char)
  | [] => some []
  | text => newline? text

/-- Takes what may follow an expression on its line. -/
def lineRest? (text : List Char) : Option (List Char) :=
  lineEnd? (skipComment (skipBlanks text))

/-- Skips blanks, ends of lines and comments.  `inComment` says whether a comment
is under way, which only an end of line ends. -/
def skipLines (inComment : Bool) :
    List Char → Option (List Char)
  | [] => if inComment then none else some []
  | '\r' :: '\n' :: rest => skipLines false rest
  | c :: rest =>
      if c = '\n' then
        skipLines false rest
      else if inComment then
        if isPlain c then skipLines true rest else none
      else if isBlank c then
        skipLines false rest
      else if c = '#' then
        skipLines true rest
      else
        some (c :: rest)

/-! ## Strings -/

/-- The value of digits to base sixteen. -/
def hexNumber? (digits : List Char) : Option Nat :=
  digits.foldlM (fun value c =>
    if c.isDigit then
      some (value * 16 + (c.toNat - '0'.toNat))
    else if 'a' ≤ c ∧ c ≤ 'f' then
      some (value * 16 + (c.toNat - 'a'.toNat + 10))
    else if 'A' ≤ c ∧ c ≤ 'F' then
      some (value * 16 + (c.toNat - 'A'.toNat + 10))
    else
      none) 0

/-- The character with a code point spelled out to base sixteen. -/
def codePoint? (digits : List Char) : Option Char :=
  (hexNumber? digits).bind fun value =>
    if value.isValidChar then some (Char.ofNat value) else none

/-- What a character after a backslash stands for. -/
def unescape? : Char → Option Char
  | 'b' => some '\x08'
  | 't' => some '\t'
  | 'n' => some '\n'
  | 'f' => some '\x0c'
  | 'r' => some '\r'
  | '"' => some '"'
  | '\\' => some '\\'
  | _ => none

/-- Puts a character in front of the content that a reader gives. -/
def withChar
    (c? : Option Char)
    (result : Option (List Char × List Char)) : Option (List Char × List Char) :=
  c?.bind fun c => result.map fun read => (c :: read.1, read.2)

/-- Reads a basic string after its opening quote. -/
def basicString? : List Char → Option (List Char × List Char)
  | [] => none
  | '"' :: rest => some ([], rest)
  | '\\' :: 'u' :: a :: b :: c :: d :: rest =>
      withChar (codePoint? [a, b, c, d]) (basicString? rest)
  | '\\' :: 'U' :: a :: b :: c :: d :: e :: f :: g :: h :: rest =>
      withChar (codePoint? [a, b, c, d, e, f, g, h]) (basicString? rest)
  | '\\' :: c :: rest => withChar (unescape? c) (basicString? rest)
  | c :: rest => if isPlain c then withChar (some c) (basicString? rest) else none

/-- Reads a literal string after its opening apostrophe. -/
def literalString? : List Char → Option (List Char × List Char)
  | [] => none
  | '\'' :: rest => some ([], rest)
  | c :: rest => if isPlain c then withChar (some c) (literalString? rest) else none

/-- What becomes of blanks in a basic string of several lines: they are kept, or
they stand between a backslash and the end of its line, or they are skipped
after such a line. -/
inductive Blanks where
  | kept
  | beforeNewline
  | skipped
  deriving Repr, DecidableEq

/-- Reads a basic string of several lines after its opening quotes.  Up to two
quotes may stand in front of the closing ones. -/
def basicLines? (blanks : Blanks) :
    List Char → Option (List Char × List Char)
  | [] => none
  | '\r' :: '\n' :: rest =>
      if blanks = .kept then
        withChar (some '\n') (basicLines? .kept rest)
      else
        basicLines? .skipped rest
  | '\\' :: 'u' :: a :: b :: c :: d :: rest =>
      if blanks = .beforeNewline then
        none
      else
        withChar (codePoint? [a, b, c, d]) (basicLines? .kept rest)
  | '\\' :: 'U' :: a :: b :: c :: d :: e :: f :: g :: h :: rest =>
      if blanks = .beforeNewline then
        none
      else
        withChar (codePoint? [a, b, c, d, e, f, g, h]) (basicLines? .kept rest)
  | '\\' :: '\r' :: '\n' :: rest =>
      if blanks = .beforeNewline then none else basicLines? .skipped rest
  | '\\' :: c :: rest =>
      if blanks = .beforeNewline then
        none
      else if c = '\n' then
        basicLines? .skipped rest
      else if isBlank c then
        basicLines? .beforeNewline rest
      else
        withChar (unescape? c) (basicLines? .kept rest)
  | '"' :: '"' :: '"' :: rest =>
      if blanks = .beforeNewline then
        none
      else
        match rest with
        | '"' :: '"' :: after => some (['"', '"'], after)
        | '"' :: after => some (['"'], after)
        | after => some ([], after)
  | c :: rest =>
      if c = '\n' then
        if blanks = .kept then
          withChar (some '\n') (basicLines? .kept rest)
        else
          basicLines? .skipped rest
      else if isBlank c && blanks ≠ .kept then
        basicLines? blanks rest
      else if isPlain c && blanks ≠ .beforeNewline then
        withChar (some c) (basicLines? .kept rest)
      else
        none

/-- Reads a literal string of several lines after its opening apostrophes.  Up to
two apostrophes may stand in front of the closing ones. -/
def literalLines? : List Char → Option (List Char × List Char)
  | [] => none
  | '\'' :: '\'' :: '\'' :: rest =>
      match rest with
      | '\'' :: '\'' :: after => some (['\'', '\''], after)
      | '\'' :: after => some (['\''], after)
      | after => some ([], after)
  | '\r' :: '\n' :: rest => withChar (some '\n') (literalLines? rest)
  | c :: rest =>
      if isPlain c || c = '\n' then withChar (some c) (literalLines? rest) else none

/-- The characters after an end of line in front, if there is one. -/
def skipFirstNewline (text : List Char) : List Char :=
  (newline? text).getD text

/-- Reads a string of any kind. -/
def string? : List Char → Option (List Char × List Char)
  | '"' :: '"' :: '"' :: rest => basicLines? .kept (skipFirstNewline rest)
  | '\'' :: '\'' :: '\'' :: rest => literalLines? (skipFirstNewline rest)
  | '"' :: rest => basicString? rest
  | '\'' :: rest => literalString? rest
  | _ => none

/-! ## Keys -/

/-- The characters of keys that are not quoted. -/
def isKeyChar (c : Char) : Bool :=
  c.isAlphanum || c == '_' || c == '-'

/-- Reads one part of a key. -/
def keyPart? (text : List Char) : Option (String × List Char) :=
  match text with
  | '"' :: rest => (basicString? rest).map fun read => (String.ofList read.1, read.2)
  | '\'' :: rest => (literalString? rest).map fun read => (String.ofList read.1, read.2)
  | text =>
      let part := text.takeWhile isKeyChar
      if part = [] then
        none
      else
        some (String.ofList part, text.dropWhile isKeyChar)

/-- The first number of parts that is too large for a key, and the first depth of
nesting that is too large for a value. -/
def depthLimit : Nat :=
  80

/-- Reads the parts of a key between dots, blanks around each being skipped.
`budget` bounds their number. -/
def keyParts? (budget : Nat) (text : List Char) : Option (List String × List Char) :=
  match budget with
  | 0 => none
  | budget + 1 =>
      (keyPart? (skipBlanks text)).bind fun (part, afterPart) =>
        match skipBlanks afterPart with
        | '.' :: rest =>
            (keyParts? budget rest).map fun (parts, after) => (part :: parts, after)
        | after => some ([part], after)

/-- Reads a key. -/
def key? (text : List Char) : Option (List String × List Char) :=
  keyParts? (depthLimit - 1) text

end DataBinding.Toml
