import ShapeSchema.Jq.Syntax
import ShapeSchema.Unicode.Property

/-!
# `ShapeSchema.Jq.Lexer`: filters into tokens

Operators are runs of operator characters, so `|-` is one operator, and no operator of the language.
A text with filters inside is one token that holds the tokens of those filters.
-/

set_option autoImplicit false

namespace ShapeSchema.Jq

mutual

/-- The tokens of a filter. -/
inductive Token where
  | word (name : String)
  | variable (name : String)
  | format (name : String)
  | field (name : String)
  | number (text : String)
  | text (parts : List TokenPart)
  /-- A run of operator characters. -/
  | operator (chars : String)
  /-- A dot, two dots, or one of `: ; , ? ( ) [ ] \x7b \x7d`. -/
  | mark (chars : String)

/-- A part of a text: characters, or the tokens of a filter that stands in it. -/
inductive TokenPart where
  | chars (s : String)
  | tokens (ts : List Token)

end

namespace Token

/-- The token is this mark. -/
def isMark (chars : String) : Token → Bool
  | .mark c => c == chars
  | _ => false

/-- The token is this word. -/
def isWord (name : String) : Token → Bool
  | .word w => w == name
  | _ => false

end Token

namespace Lexer

/-- Names start with a letter or an underscore. -/
def isNameStart (c : Char) : Bool := c.isAlpha || c = '_'
/-- Digits may follow. -/
def isNameChar (c : Char) : Bool := c.isAlphanum || c = '_'
/-- The characters of operators, of which a run is one token. -/
def isOperatorChar (c : Char) : Bool := "|=!<>+-*/%".toList.contains c

/-- A name and the rest. -/
def name (s : List Char) : List Char × List Char :=
  (s.takeWhile isNameChar, s.dropWhile isNameChar)

/-- A name, which the name of a module may lead, and the rest. -/
def moduleName (s : List Char) : List Char × List Char :=
  match name s with
  | (first, ':' :: ':' :: c :: rest) =>
    if isNameStart c then
      let (last, rest) := name (c :: rest)
      (first ++ ':' :: ':' :: last, rest)
    else (first, ':' :: ':' :: c :: rest)
  | found => found

/-- What follows a comment, from the end of its line on. A line that ends in an odd number of
backslashes is continued on the next one. -/
def dropComment (escaped : Bool) : List Char → List Char
  | [] => []
  | '\n' :: rest => if escaped then dropComment false rest else '\n' :: rest
  | '\r' :: '\n' :: rest => if escaped then dropComment false rest else '\n' :: rest
  | '\\' :: rest => dropComment (!escaped) rest
  | _ :: rest => dropComment false rest

/-- At least one digit, and the rest. -/
def digits? (s : List Char) : Option (List Char × List Char) :=
  match s.takeWhile Char.isDigit with
  | [] => none
  | ds => some (ds, s.dropWhile Char.isDigit)

/-- The fraction of a number, if it has one. -/
def fraction? (s : List Char) : Option (List Char × List Char) :=
  match s with
  | '.' :: rest => (digits? rest).map fun (ds, rest) => ('.' :: ds, rest)
  | s => some ([], s)

/-- The exponent of a number, if it has one. -/
def exponent? (s : List Char) : Option (List Char × List Char) :=
  let signed (e : Char) (rest : List Char) : Option (List Char × List Char) :=
    match rest with
    | '+' :: rest => (digits? rest).map fun (ds, rest) => (e :: '+' :: ds, rest)
    | '-' :: rest => (digits? rest).map fun (ds, rest) => (e :: '-' :: ds, rest)
    | rest => (digits? rest).map fun (ds, rest) => (e :: ds, rest)
  match s with
  | 'e' :: rest => signed 'e' rest
  | 'E' :: rest => signed 'E' rest
  | s => some ([], s)

/-- A number at the start, and what follows it. -/
def number? (s : List Char) : Option (List Char × List Char) := do
  let (whole, s) ← digits? s
  let (fraction, s) ← fraction? s
  let (exponent, s) ← exponent? s
  return (whole ++ fraction ++ exponent, s)

/-- The value of four hexadecimal digits, and the rest. -/
def hexWord? (s : List Char) : Option (Nat × List Char) :=
  let digit? (c : Char) : Option Nat :=
    if c.isDigit then some (c.toNat - '0'.toNat)
    else if 'a' ≤ c.toLower && c.toLower ≤ 'f' then some (c.toLower.toNat - 'a'.toNat + 10)
    else none
  match s with
  | a :: b :: c :: d :: rest => do
    let n := (((← digit? a) * 16 + (← digit? b)) * 16 + (← digit? c)) * 16 + (← digit? d)
    return (n, rest)
  | _ => none

/-- The character of a `\u` escape, perhaps a pair of escapes, and the rest. -/
def unicodeEscape? (s : List Char) : Option (Char × List Char) := do
  let (n, rest) ← hexWord? s
  if 0xD800 ≤ n && n < 0xDC00 then
    match rest with
    | '\\' :: 'u' :: rest =>
      let (low, rest) ← hexWord? rest
      if 0xDC00 ≤ low && low < 0xE000 then
        return (Char.ofNat (0x10000 + (n - 0xD800) * 0x400 + (low - 0xDC00)), rest)
      else none
    | _ => none
  else if n.isValidChar then return (Char.ofNat n, rest) else none

/-- The character of a one-letter escape. -/
def escape? (c : Char) : Option Char :=
  match c with
  | 'n' => some '\n'
  | 'r' => some '\r'
  | 't' => some '\t'
  | 'b' => some '\x08'
  | 'f' => some '\x0c'
  | '\\' => some '\\'
  | '/' => some '/'
  | '"' => some '"'
  | _ => none

/-- The characters so far as a part, if there are any. -/
def withChars (chars : List Char) (parts : List TokenPart) : List TokenPart :=
  if chars.isEmpty then parts else .chars (String.ofList chars.reverse) :: parts

mutual

/-- The tokens up to the end, or up to the parenthesis that closes a filter inside a text, which is
passed. `nested` counts the parentheses open inside such a filter. -/
def tokens? : Nat → Option Nat → List Char → Option (List Token × List Char)
  | 0, _, _ => none
  | fuel + 1, nested, s =>
    let next (token : Token) (nested : Option Nat) (rest : List Char) :
        Option (List Token × List Char) :=
      (tokens? fuel nested rest).map fun (ts, rest) => (token :: ts, rest)
    match s with
    | [] => if nested.isNone then some ([], []) else none
    | c :: rest =>
      if Unicode.isWhiteSpace c then tokens? fuel nested rest
      else if c = '#' then tokens? fuel nested (dropComment false rest)
      else if isNameStart c then
        let (n, rest) := moduleName s
        next (.word (String.ofList n)) nested rest
      else if c.isDigit then (number? s).bind fun (n, rest) =>
        next (.number (String.ofList n)) nested rest
      else if isOperatorChar c then
        next (.operator (String.ofList (s.takeWhile isOperatorChar))) nested
          (s.dropWhile isOperatorChar)
      else if c = '$' then
        match moduleName rest with
        | ([], _) => none
        | (n, rest) => next (.variable (String.ofList n)) nested rest
      else if c = '@' then
        match name rest with
        | ([], _) => none
        | (n, rest) => next (.format (String.ofList n)) nested rest
      else if c = '"' then (textParts? fuel [] rest).bind fun (parts, rest) =>
        next (.text parts) nested rest
      -- A point right before a name makes a field, and two make the recursion.
      else if c = '.' then
        match rest with
        | '.' :: rest => next (.mark "..") nested rest
        | d :: _ =>
          if isNameStart d then
            let (n, rest) := name rest
            next (.field (String.ofList n)) nested rest
          else next (.mark ".") nested rest
        | [] => next (.mark ".") nested rest
      else if c = '(' then next (.mark "(") (nested.map (· + 1)) rest
      else if c = ')' then
        match nested with
        -- This parenthesis closes the filter inside the text.
        | some 0 => some ([], rest)
        | nested => next (.mark ")") (nested.map (· - 1)) rest
      else if [':', ';', ',', '?', '[', ']', '\x7b', '\x7d'].contains c then
        next (.mark (String.singleton c)) nested rest
      else none

/-- The parts of a text up to its closing quote, which is passed. `chars` is the part being read,
last character first. -/
def textParts? : Nat → List Char → List Char → Option (List TokenPart × List Char)
  | 0, _, _ => none
  | fuel + 1, chars, s =>
    match s with
    | [] => none
    | '"' :: rest => some (withChars chars [], rest)
    | '\\' :: '(' :: rest => do
      let (ts, rest) ← tokens? fuel (some 0) rest
      let (parts, rest) ← textParts? fuel [] rest
      return (withChars chars (.tokens ts :: parts), rest)
    | '\\' :: 'u' :: rest => do
      let (c, rest) ← unicodeEscape? rest
      textParts? fuel (c :: chars) rest
    | '\\' :: c :: rest => do textParts? fuel ((← escape? c) :: chars) rest
    | c :: rest => textParts? fuel (c :: chars) rest

end

end Lexer

/-- The tokens of a filter, none if a character or a number or a text is malformed. -/
def tokenize? (source : String) : Option (List Token) :=
  let chars := source.toList
  (Lexer.tokens? (chars.length + 1) none chars).map Prod.fst

end ShapeSchema.Jq
