-- Reading TOML text: strings, keys, values and lines. The rules are those of version 1.1, so
-- escapes may give a byte in two digits, and tables in braces may span lines and end with a
-- comma. Arrays and tables in braces nest at most eighty deep, and a key has at most eighty parts.
import KeyRoute.Document.Toml.Scalar

namespace KeyRoute.Toml

/-! ## Blanks, comments and ends of lines -/

/-- The characters that may stand in comments and strings: no controls but the tab. -/
def isPlain (c : Char) : Bool := c == '\t' || (0x20 ≤ c.toNat && c.toNat ≠ 0x7f)

def skipSpaces (cs : List Char) : List Char := cs.dropWhile isSpace

/-- What follows the end of a line; the end of the text is one too. -/
def lineEnd : List Char → Option (List Char)
  | [] => some []
  | '\n' :: cs => some cs
  | '\r' :: '\n' :: cs => some cs
  | _ => none

/-- What follows the rest of a line that holds at most a comment. -/
def endOfLine (cs : List Char) : Option (List Char) :=
  match skipSpaces cs with
  | '#' :: cs => lineEnd (cs.dropWhile isPlain)
  | cs => lineEnd cs

/-- What follows spaces, ends of lines and comments. -/
def skipFiller (inComment : Bool) : List Char → Option (List Char)
  | [] => some []
  | '\n' :: cs => skipFiller false cs
  | '\r' :: '\n' :: cs => skipFiller false cs
  | c :: cs =>
    if inComment then if isPlain c then skipFiller true cs else none
    else if isSpace c then skipFiller false cs
    else if c == '#' then skipFiller true cs
    else some (c :: cs)

/-! ## Strings -/

/-- A character given by its code point in `n` hexadecimal digits. -/
def codePoint (n : Nat) (cs : List Char) : Option (Char × List Char) :=
  let digits := cs.take n
  let value := digits.foldl (fun value c => 16 * value + digitValue c) 0
  if digits.length = n && digits.all isHexDigit && decide value.isValidChar then
    some (Char.ofNat value, cs.drop n)
  else none

/-- The character of an escape after its backslash, and what follows it. -/
def escaped : List Char → Option (Char × List Char)
  | '"' :: cs => some ('"', cs)
  | '\\' :: cs => some ('\\', cs)
  | 'b' :: cs => some ('\x08', cs)
  | 't' :: cs => some ('\t', cs)
  | 'n' :: cs => some ('\n', cs)
  | 'f' :: cs => some ('\x0c', cs)
  | 'r' :: cs => some ('\r', cs)
  | 'e' :: cs => some ('\x1b', cs)
  | 'x' :: cs => codePoint 2 cs
  | 'u' :: cs => codePoint 4 cs
  | 'U' :: cs => codePoint 8 cs
  | _ => none

/-- The rest of a string on one line with escapes, and what follows its last quote. -/
def basicString : Nat → List Char → Option (List Char × List Char)
  | 0, _ => none
  | _ + 1, [] => none
  | fuel + 1, c :: cs =>
    if c == '"' then some ([], cs)
    else if c == '\\' then do
      let (c, cs) ← escaped cs
      let (text, rest) ← basicString fuel cs
      return (c :: text, rest)
    else if isPlain c then do
      let (text, rest) ← basicString fuel cs
      return (c :: text, rest)
    else none

/-- The rest of a string on one line without escapes, and what follows its last quote. -/
def literalString : List Char → Option (List Char × List Char)
  | [] => none
  | c :: cs =>
    if c == '\'' then some ([], cs)
    else if isPlain c then (literalString cs).map fun (text, rest) => (c :: text, rest)
    else none

/-- A string of several lines, after its three quotes: it starts on the next line if nothing
else stands on the first. -/
def afterQuotes (cs : List Char) : List Char :=
  match cs with
  | '\n' :: cs => cs
  | '\r' :: '\n' :: cs => cs
  | cs => cs

/-- What follows the end of a line behind a backslash, and all the blank that comes then. -/
def foldedLine (cs : List Char) : Option (List Char) :=
  match skipSpaces cs with
  | '\n' :: cs => skipBlankLines cs
  | '\r' :: '\n' :: cs => skipBlankLines cs
  | _ => none
where
  skipBlankLines : List Char → Option (List Char)
    | [] => some []
    | '\n' :: cs => skipBlankLines cs
    | '\r' :: '\n' :: cs => skipBlankLines cs
    | c :: cs => if isSpace c then skipBlankLines cs else some (c :: cs)

/-- The rest of a string of several lines between three quotes, and what follows them. Before
the last three, up to two quotes belong to the string. -/
def longString (quote : Char) (escapes : Bool) : Nat → List Char →
    Option (List Char × List Char)
  | 0, _ => none
  | _ + 1, [] => none
  | fuel + 1, c :: cs =>
    if c == quote then
      let quotes := (c :: cs).takeWhile (· == quote)
      let rest := (c :: cs).drop quotes.length
      if 5 < quotes.length then none
      else if 3 ≤ quotes.length then some (quotes.drop 3, rest)
      else do
        let (text, rest) ← longString quote escapes fuel rest
        return (quotes ++ text, rest)
    else if escapes && c == '\\' then
      match escaped cs with
      | some (c, cs) => do
        let (text, rest) ← longString quote escapes fuel cs
        return (c :: text, rest)
      | none => do longString quote escapes fuel (← foldedLine cs)
    else if c == '\r' && cs.head? ≠ some '\n' then none
    else if isPlain c || c == '\n' || c == '\r' then do
      let (text, rest) ← longString quote escapes fuel cs
      return (c :: text, rest)
    else none

/-- A string of any form, and what follows it. -/
def anyString (cs : List Char) : Option (List Char × List Char) :=
  match cs with
  | '"' :: '"' :: '"' :: cs => longString '"' true (cs.length + 1) (afterQuotes cs)
  | '\'' :: '\'' :: '\'' :: cs => longString '\'' false (cs.length + 1) (afterQuotes cs)
  | '"' :: cs => basicString (cs.length + 1) cs
  | '\'' :: cs => literalString cs
  | _ => none

/-! ## Keys -/

def inBareKey (c : Char) : Bool := c.isAlphanum || c == '_' || c == '-'

/-- A key without dots, and what follows it. -/
def simpleKey (cs : List Char) : Option (String × List Char) :=
  match cs with
  | '"' :: cs => (basicString (cs.length + 1) cs).map fun (k, cs) => (String.ofList k, cs)
  | '\'' :: cs => (literalString cs).map fun (k, cs) => (String.ofList k, cs)
  | cs =>
    let key := cs.takeWhile inBareKey
    if key.isEmpty then none else some (String.ofList key, cs.drop key.length)

/-- How deep arrays and tables in braces may nest, and how many parts a key may have. -/
def greatestDepth : Nat := 80

/-- The parts of a key between dots, at most `fuel` of them, and what follows it and the spaces
behind it. -/
def keyParts : Nat → List Char → Option (List String × List Char)
  | 0, _ => none
  | fuel + 1, cs => do
    let (key, cs) ← simpleKey (skipSpaces cs)
    match skipSpaces cs with
    | '.' :: cs =>
      let (keys, cs) ← keyParts fuel cs
      return (key :: keys, cs)
    | cs => return ([key], cs)

/-- A key, its parts between dots, and what follows it and the spaces behind it. -/
def dottedKey (cs : List Char) : Option (List String × List Char) := keyParts greatestDepth cs

/-! ## Values -/

mutual

/-- A value, and what follows it. Below it, `depth` more brackets or braces may open. -/
def value : Nat → Nat → List Char → Option (Toml × List Char)
  | 0, _, _ => none
  | fuel + 1, depth, cs =>
    match cs, depth with
    | '[' :: _, 0 => none
    | '\x7b' :: _, 0 => none
    | '[' :: cs, depth + 1 => do
      let (items, cs) ← items fuel depth (← skipFiller false cs)
      return (.array items, cs)
    | '\x7b' :: cs, depth + 1 => do
      let (entries, cs) ← pairs fuel depth [] (← skipFiller false cs)
      return (.table .braces entries, cs)
    | cs, _ =>
      match anyString cs with
      | some (text, cs) => some (.string (String.ofList text), cs)
      | none => scalar cs

/-- The rest of an array, and what follows its bracket. -/
def items : Nat → Nat → List Char → Option (List Toml × List Char)
  | 0, _, _ => none
  | fuel + 1, depth, cs =>
    match cs with
    | ']' :: cs => some ([], cs)
    | cs => do
      let (item, cs) ← value fuel depth cs
      match ← skipFiller false cs with
      | ',' :: cs =>
        let (rest, cs) ← items fuel depth (← skipFiller false cs)
        return (item :: rest, cs)
      | ']' :: cs => return ([item], cs)
      | _ => none

/-- The rest of a table in braces, added to its entries so far, and what follows its brace. -/
def pairs : Nat → Nat → Entries → List Char → Option (Entries × List Char)
  | 0, _, _, _ => none
  | fuel + 1, depth, entries, cs =>
    match cs with
    | '\x7d' :: cs => some (entries, cs)
    | cs => do
      let (keys, cs) ← dottedKey cs
      let cs ← sign '=' (← skipFiller false cs)
      let (item, cs) ← value fuel depth (← skipFiller false cs)
      let entries ← assign true keys item entries
      match ← skipFiller false cs with
      | ',' :: cs => pairs fuel depth entries (← skipFiller false cs)
      | '\x7d' :: cs => return (entries, cs)
      | _ => none

end

/-! ## Lines -/

/-- An assignment, and what follows it. -/
def assignmentLine (cs : List Char) : Option (Line × List Char) := do
  let (keys, cs) ← dottedKey cs
  let (item, cs) ← value (2 * cs.length + 2) greatestDepth (skipSpaces (← sign '=' cs))
  return (.assignment keys item, cs)

/-- A header after its first bracket, and what follows it. -/
def headerLine (cs : List Char) : Option (Line × List Char) :=
  match cs with
  | '[' :: cs => do
    let (keys, cs) ← dottedKey cs
    let cs ← sign ']' cs
    let cs ← sign ']' cs
    return (.doubledHeader keys, cs)
  | cs => do
    let (keys, cs) ← dottedKey cs
    let cs ← sign ']' cs
    return (.header keys, cs)

/-- The lines of a text, without those that say nothing. -/
def lines : Nat → List Char → Option (List Line)
  | 0, _ => none
  | fuel + 1, cs =>
    match skipSpaces cs with
    | [] => some []
    | '[' :: cs => do
      let (line, cs) ← headerLine cs
      let rest ← lines fuel (← endOfLine cs)
      return line :: rest
    | c :: cs =>
      match endOfLine (c :: cs) with
      | some cs => lines fuel cs
      | none => do
        let (line, cs) ← assignmentLine (c :: cs)
        let rest ← lines fuel (← endOfLine cs)
        return line :: rest

/-- The document of a text, if it is one. A byte order mark in front is passed over. -/
def parse? (text : String) : Option Entries := do
  let cs := if text.toList.head? = some '\ufeff' then text.toList.drop 1 else text.toList
  ofLines (← lines (cs.length + 1) cs) [] []

end KeyRoute.Toml
