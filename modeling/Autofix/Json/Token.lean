import Autofix.Json.Value
import Autofix.Unicode.Class

/-!
# Tokens of relaxed JSON

Relaxed JSON is JSON as people write it into configuration files: with comments, trailing or missing
commas, strings between single quotes, bare words as field names, hexadecimal numbers and a sign
`+`. This module cuts a text into tokens; `Autofix.Json.Reader` builds values from them.

A text that stops being made of tokens ends in a fault (`Tail.fault`): a reader meets it only after
the tokens before it, so the first thing wrong with a text is what gets reported.
-/

namespace Autofix.Json

/-- What is wrong with a text. -/
inductive Fault where
  | unterminatedString
  | unterminatedComment
  | unterminatedObject
  | unterminatedArray
  | unexpectedToken
  | unexpectedTokenInObject
  | unexpectedWord
  | unexpectedCloseBracket
  | unexpectedCloseBrace
  | unexpectedComma
  | unexpectedColon
  | expectedDigit
  | expectedDigitAfterSign
  | expectedExponent
  | expectedColon
  | expectedFieldValue
  | severalValues
  | invalidEscape
  | doubleQuoteInSingle
  | singleQuoteInDouble
  | expectedHexDigits
  | invalidCodePoint (shown : String)
  deriving DecidableEq, Repr

def Fault.message : Fault → String
  | .unterminatedString => "Unterminated string literal"
  | .unterminatedComment => "Unterminated comment block"
  | .unterminatedObject => "Unterminated object"
  | .unterminatedArray => "Unterminated array"
  | .unexpectedToken => "Unexpected token"
  | .unexpectedTokenInObject => "Unexpected token in object"
  | .unexpectedWord => "Unexpected word"
  | .unexpectedCloseBracket => "Unexpected close bracket"
  | .unexpectedCloseBrace => "Unexpected close brace"
  | .unexpectedComma => "Unexpected comma"
  | .unexpectedColon => "Unexpected colon"
  | .expectedDigit => "Expected digit"
  | .expectedDigitAfterSign => "Expected digit following negative sign"
  | .expectedExponent => "Expected plus, minus, or digit in number literal"
  | .expectedColon => "Expected colon after the string or word in object property"
  | .expectedFieldValue => "Expected value after colon in object property"
  | .severalValues => "Text cannot contain more than one JSON value"
  | .invalidEscape => "Invalid escape"
  | .doubleQuoteInSingle => "Invalid escape in single quote string"
  | .singleQuoteInDouble => "Invalid escape in double quote string"
  | .expectedHexDigits => "Expected four hex digits"
  | .invalidCodePoint shown =>
    s!"Invalid unicode escape sequence. '{shown}' is not a valid UTF8 character"

/-- A token, with the text of a word or number as it is written. -/
inductive Token where
  | openBrace
  | closeBrace
  | openBracket
  | closeBracket
  | comma
  | colon
  | string (s : String)
  | word (s : String)
  | number (s : String)
  | bool (b : Bool)
  | null
  deriving DecidableEq, Repr

/-- How a sequence of tokens ends: with the text, or at a place where no token can be read. Places
    count characters from the start of the text. -/
inductive Tail where
  | done (place : Nat)
  | fault (place : Nat) (fault : Fault)
  deriving DecidableEq, Repr

/-- The tokens of a text, each with the place where it starts. -/
structure Tokens where
  list : List (Nat × Token)
  tail : Tail
  deriving Repr

/-- The result of a step of reading, or a fault at a place. -/
abbrev Step := Except (Nat × Fault)

def isHexDigit (c : Char) : Bool :=
  c.isDigit || ('a' ≤ c && c ≤ 'f') || ('A' ≤ c && c ≤ 'F')

def hexDigitValue (c : Char) : Nat :=
  if c.isDigit then c.toNat - 48 else if 'a' ≤ c then c.toNat - 87 else c.toNat - 55

/-- Four hexadecimal digits; `place` is where the escape sequence starts. -/
def hexFour (place : Nat) (cs : List Char) : Step (List Char × List Char) :=
  let digits := cs.take 4
  if digits.length = 4 ∧ digits.all isHexDigit then .ok (digits, cs.drop 4)
  else .error (place, .expectedHexDigits)

def hexNumber (digits : List Char) : Nat := digits.foldl (fun n c => n * 16 + hexDigitValue c) 0

/-- The character of an escape sequence `\u`, which is a pair of sequences where the first one
    writes the leading half of a surrogate pair. -/
def codePoint (place : Nat) (cs : List Char) : Step (Char × List Char) := do
  let (digits, rest) ← hexFour place cs
  let n := hexNumber digits
  let refuse (note : String) : Step (Char × List Char) :=
    .error (place, .invalidCodePoint (String.ofList digits ++ note))
  if 0xD800 ≤ n ∧ n ≤ 0xDBFF then
    match rest with
    | '\\' :: 'u' :: rest =>
      let (low, rest) ← hexFour place rest
      let m := hexNumber low
      if 0xDC00 ≤ m ∧ m ≤ 0xDFFF then
        .ok (Char.ofNat (0x10000 + (n - 0xD800) * 0x400 + (m - 0xDC00)), rest)
      else refuse " (high surrogate not followed by low surrogate)"
    | _ => refuse " (unpaired high surrogate)"
  else if 0xDC00 ≤ n ∧ n ≤ 0xDFFF then refuse " (unpaired low surrogate)"
  else .ok (Char.ofNat n, rest)

/-- The escape sequence after a backslash at `place`, in a string between `quote`s. -/
def escape (quote : Char) (place : Nat) : List Char → Step (Char × List Char)
  | [] => .error (place, .unterminatedString)
  | c :: rest =>
    if c = '"' then
      if quote = '"' then .ok (c, rest) else .error (place, .doubleQuoteInSingle)
    else if c = '\'' then
      if quote = '\'' then .ok (c, rest) else .error (place, .singleQuoteInDouble)
    else if c = '\\' ∨ c = '/' then .ok (c, rest)
    else if c = 'b' then .ok ('\x08', rest)
    else if c = 'f' then .ok ('\x0c', rest)
    else if c = 'n' then .ok ('\n', rest)
    else if c = 'r' then .ok ('\r', rest)
    else if c = 't' then .ok ('\t', rest)
    else if c = 'u' then codePoint place rest
    else .error (place, .invalidEscape)

/-- The rest of a string that starts at `start`, up to its closing quote; `seen` is what it holds so
    far, last character first. The fuel bounds the characters read. -/
def stringRest (quote : Char) (start : Nat) :
    Nat → Nat → List Char → List Char → Step (String × List Char)
  | 0, _, _, _ => .error (start, .unterminatedString)
  | _ + 1, _, _, [] => .error (start, .unterminatedString)
  | fuel + 1, place, seen, c :: rest =>
    if c = quote then .ok (String.ofList seen.reverse, rest)
    else if c = '\\' then
      if rest.isEmpty then .error (start, .unterminatedString)
      else match escape quote place rest with
        | .ok (e, rest') =>
          stringRest quote start fuel (place + 1 + (rest.length - rest'.length)) (e :: seen) rest'
        | .error e => .error e
    else stringRest quote start fuel (place + 1) (c :: seen) rest

/-- Splits off the leading digits. -/
def digits (cs : List Char) : List Char × List Char := cs.span Char.isDigit

/-- A number after its sign: decimal with an optional fraction and exponent, or hexadecimal. The
    result is the text of the number without its sign. -/
def unsigned (place : Nat) (cs : List Char) : Step (List Char × List Char) := do
  let whole : List Char × List Char ← match cs with
    | '0' :: x :: rest =>
      if x = 'x' ∨ x = 'X' then
        let (hex, rest) := rest.span isHexDigit
        if hex = [] then throw (place + 2, .expectedDigit)
        else return ('0' :: x :: hex, rest)
      else pure (['0'], x :: rest)
    | '0' :: rest => pure (['0'], rest)
    | c :: rest =>
      if '1' ≤ c ∧ c ≤ '9' then
        let (more, rest) := digits rest
        pure (c :: more, rest)
      else throw (place, .expectedDigitAfterSign)
    | [] => throw (place, .expectedDigitAfterSign)
  let (text, rest) := whole
  let (text, rest) ← match rest with
    | '.' :: rest =>
      let (fraction, rest) := digits rest
      if fraction = [] then throw (place + text.length + 1, .expectedDigit)
      else pure (text ++ '.' :: fraction, rest)
    | _ => pure (text, rest)
  match rest with
  | e :: rest =>
    if e = 'e' ∨ e = 'E' then
      match rest with
      | s :: more =>
        if s = '+' ∨ s = '-' then
          let (power, more) := digits more
          if power = [] then throw (place + text.length + 2, .expectedDigit)
          else return (text ++ e :: s :: power, more)
        else
          let (power, more) := digits rest
          if power = [] then throw (place + text.length + 1, .expectedExponent)
          else return (text ++ e :: power, more)
      | [] => throw (place + text.length + 1, .expectedExponent)
    else return (text, e :: rest)
  | [] => return (text, rest)

/-- A bare word runs up to a blank or a colon and holds letters, digits, `-` and `_` only. -/
def bareWord (place : Nat) (cs : List Char) : Step (Token × List Char) :=
  let (word, rest) := cs.span fun c => !(Unicode.isWhitespace c || c = ':')
  if word = [] ∨ word.any (fun c => !(Unicode.isAlphanumeric c || c = '-' || c = '_')) then
    .error (place, .unexpectedToken)
  else .ok (.word (String.ofList word), rest)

/-- What follows a keyword, if the text starts with it and the word ends there. -/
def keyword? (word : String) (cs : List Char) : Option (List Char) :=
  if word.toList.isPrefixOf cs then
    match cs.drop word.length with
    | [] => some []
    | c :: rest => if Unicode.isAlphanumeric c then none else some (c :: rest)
  else none

/-- The token at the start of a text that starts at `place`. -/
def token (place : Nat) : List Char → Step (Token × List Char)
  | [] => .error (place, .unexpectedToken)
  | c :: rest =>
    if c = '\x7b' then .ok (.openBrace, rest)
    else if c = '\x7d' then .ok (.closeBrace, rest)
    else if c = '[' then .ok (.openBracket, rest)
    else if c = ']' then .ok (.closeBracket, rest)
    else if c = ',' then .ok (.comma, rest)
    else if c = ':' then .ok (.colon, rest)
    else if c = '"' ∨ c = '\'' then
      (stringRest c place (rest.length + 1) (place + 1) [] rest).map fun (s, rest) =>
        (.string s, rest)
    else if c = '/' then .error (place, .unexpectedToken)
    else if c = '-' ∨ c = '+' then
      (unsigned (place + 1) rest).map fun (n, rest) => (.number (String.ofList (c :: n)), rest)
    else if c.isDigit then
      (unsigned place (c :: rest)).map fun (n, rest) => (.number (String.ofList n), rest)
    else match keyword? "true" (c :: rest), keyword? "false" (c :: rest),
        keyword? "null" (c :: rest) with
      | some rest, _, _ => .ok (.bool true, rest)
      | _, some rest, _ => .ok (.bool false, rest)
      | _, _, some rest => .ok (.null, rest)
      | none, none, none => bareWord place (c :: rest)

/-- Skips a comment up to the end of its line, which a line feed marks, with or without a carriage
    return before it. -/
def skipLine : List Char → List Char
  | [] => []
  | '\n' :: rest => '\n' :: rest
  | '\r' :: '\n' :: rest => '\r' :: '\n' :: rest
  | _ :: rest => skipLine rest

/-- Skips a comment up to `*/`. -/
def skipBlock? : List Char → Option (List Char)
  | [] => none
  | '*' :: '/' :: rest => some rest
  | _ :: rest => skipBlock? rest

/-- Skips blanks and comments; a block comment that does not end is reported where it starts. -/
def skipBlanks : Nat → Nat → List Char → Except (Nat × Fault) (Nat × List Char)
  | 0, place, cs => .ok (place, cs)
  | _ + 1, place, [] => .ok (place, [])
  | fuel + 1, place, c :: rest =>
    if Unicode.isWhitespace c then skipBlanks fuel (place + 1) rest
    else match c, rest with
      | '/', '/' :: more =>
        let left := skipLine more
        skipBlanks fuel (place + 2 + (more.length - left.length)) left
      | '/', '*' :: more =>
        match skipBlock? more with
        | some left => skipBlanks fuel (place + 2 + (more.length - left.length)) left
        | none => .error (place, .unterminatedComment)
      | _, _ => .ok (place, c :: rest)

/-- The tokens of a text that starts at `place`. The fuel bounds the characters read. -/
def tokensFrom : Nat → Nat → List Char → Tokens
  | 0, place, _ => ⟨[], .done place⟩
  | fuel + 1, place, cs =>
    match skipBlanks (cs.length + 1) place cs with
    | .error (place, fault) => ⟨[], .fault place fault⟩
    | .ok (place, []) => ⟨[], .done place⟩
    | .ok (place, c :: cs) =>
      match token place (c :: cs) with
      | .error (place, fault) => ⟨[], .fault place fault⟩
      | .ok (t, rest) =>
        let more := tokensFrom fuel (place + (cs.length + 1 - rest.length)) rest
        ⟨(place, t) :: more.list, more.tail⟩

/-- The tokens of a text. -/
def tokens (cs : List Char) : Tokens := tokensFrom (cs.length + 1) 0 cs

end Autofix.Json
