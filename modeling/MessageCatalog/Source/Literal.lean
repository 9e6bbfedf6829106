import MessageCatalog.Source.Token
import MessageCatalog.Text.Word

/-!
# Literals

Where a literal ends. Each scanner is given the text from some place on and returns what follows the literal that begins there, or nothing if none does.
-/

namespace MessageCatalog.Source

/-- Finds the end of what begins the text. -/
abbrev Scan := List Char → Option (List Char)

namespace Scan

def plainWord : Scan
  | c :: rest => if Text.isWordStart c then some (rest.dropWhile Text.isWordContinue) else none
  | [] => none

/-- The words that have no raw form. -/
def neverRaw : List (List Char) := [['_'], "super".toList, "self".toList, "Self".toList, "crate".toList]

def word : Scan
  | 'r' :: '#' :: rest =>
    match plainWord rest with
    | some after => if rest.take (rest.length - after.length) ∈ neverRaw then none else some after
    | none => none
  | text => plainWord text

/-- A literal may be followed by a suffix. -/
def afterSuffix (text : List Char) : List Char := (plainWord text).getD text

def isHexDigit (c : Char) : Bool := c.isDigit || ('a' ≤ c && c ≤ 'f') || ('A' ≤ c && c ≤ 'F')

def hexValue (c : Char) : Nat :=
  if c.isDigit then c.toNat - '0'.toNat else if c ≤ 'F' then c.toNat - 'A'.toNat + 10 else c.toNat - 'a'.toNat + 10

inductive Content where
  | characters
  | bytes
  /-- Characters other than the zero one. -/
  | nonzero
  deriving DecidableEq

namespace Content

/-- The character may stand in the literal as it is. -/
def admits : Content → Char → Bool
  | characters, _ => true
  | bytes, c => c.toNat < 0x80
  | nonzero, c => c != '\x00'

/-- The two digits after a backslash and an x. -/
def admitsHex : Content → Char → Char → Bool
  | characters, high, low => '0' ≤ high && high ≤ '7' && isHexDigit low
  | bytes, high, low => isHexDigit high && isHexDigit low
  | nonzero, high, low => isHexDigit high && isHexDigit low && !(high == '0' && low == '0')

end Content

/-- The digits of a code point up to the closing brace: at most six, with underscores among them. -/
def codePoint (count value : Nat) : List Char → Option (Nat × List Char)
  | [] => none
  | c :: rest =>
    if isHexDigit c then
      if count = 6 then none else codePoint (count + 1) (value * 16 + hexValue c) rest
    else if c = '_' ∧ 0 < count then codePoint count value rest
    else if c = '\x7d' ∧ 0 < count then
      if value < 0xd800 ∨ (0xdfff < value ∧ value < 0x110000) then some (value, rest) else none
    else none

/-- The blanks after a backslash at the end of a line. -/
def continued : Scan
  | '\r' :: '\n' :: rest => continued rest
  | c :: rest =>
    if c = ' ' ∨ c = '\t' ∨ c = '\n' then continued rest
    else if c = '\r' then none
    else some (c :: rest)
  | [] => none

/-- What follows a backslash, in a quoted literal of one or more characters. -/
def escaped (content : Content) : Scan
  | 'x' :: high :: low :: rest => if content.admitsHex high low then some rest else none
  | 'u' :: '\x7b' :: rest =>
    if content = .bytes then none
    else match codePoint 0 0 rest with
      | some (value, rest) => if content = .nonzero ∧ value = 0 then none else some rest
      | none => none
  | '0' :: rest => if content = .nonzero then none else some rest
  | c :: rest => if c ∈ ['n', 'r', 't', '\\', '\x27', '\x22'] then some rest else none
  | [] => none

/-- The inside of a string up to its closing quote, by at most the given number of characters or escapes. -/
def cooked (content : Content) : Nat → Scan
  | 0, _ => none
  | fuel + 1, text =>
    match text with
    | [] => none
    | '\x22' :: rest => some rest
    | '\r' :: '\n' :: rest => cooked content fuel rest
    | '\r' :: _ => none
    | '\\' :: '\n' :: rest => (continued rest).bind (cooked content fuel)
    | '\\' :: '\r' :: '\n' :: rest => (continued rest).bind (cooked content fuel)
    | '\\' :: rest => (escaped content rest).bind (cooked content fuel)
    | c :: rest => if content.admits c then cooked content fuel rest else none

/-- The inside of a raw string up to a quote with the given hashes after it. -/
def raw (content : Content) (hashes : List Char) : Scan
  | [] => none
  | c :: rest =>
    if c = '\x22' ∧ hashes.isPrefixOf rest then some (rest.drop hashes.length)
    else if c = '\r' ∧ rest.head? ≠ some '\n' then none
    else if content.admits c then raw content hashes rest
    else none

/-- A raw string from its hashes on. -/
def rawString (content : Content) (text : List Char) : Option (List Char) :=
  let hashes := text.takeWhile (· == '#')
  match text.drop hashes.length with
  | '\x22' :: rest => if hashes.length ≤ 255 then raw content hashes rest else none
  | _ => none

def string : Scan
  | '\x22' :: rest => (cooked .characters rest.length rest).map afterSuffix
  | 'r' :: rest => (rawString .characters rest).map afterSuffix
  | _ => none

def byteString : Scan
  | 'b' :: '\x22' :: rest => (cooked .bytes rest.length rest).map afterSuffix
  | 'b' :: 'r' :: rest => (rawString .bytes rest).map afterSuffix
  | _ => none

def cString : Scan
  | 'c' :: '\x22' :: rest => (cooked .nonzero rest.length rest).map afterSuffix
  | 'c' :: 'r' :: rest => (rawString .nonzero rest).map afterSuffix
  | _ => none

/-- One character or escape, then a closing quote. -/
def single (content : Content) (text : List Char) : Option (List Char) :=
  let after := match text with
    | '\\' :: rest => escaped content rest
    | c :: rest => if content.admits c then some rest else none
    | [] => none
  match after with
  | some ('\x27' :: rest) => some (afterSuffix rest)
  | _ => none

def byte : Scan
  | 'b' :: '\x27' :: rest => single .bytes rest
  | _ => none

def character : Scan
  | '\x27' :: rest => single .characters rest
  | _ => none

/-- A number ends where no word could go on. -/
def endOfNumber (text : List Char) : Option (List Char) :=
  match afterSuffix text with
  | [] => some []
  | c :: rest => if Text.isWordContinue c then none else some (c :: rest)

def isDigitOrUnderscore (c : Char) : Bool := c.isDigit || c == '_'

/-- The exponent of a number. Without a digit in it the number ends before its mark, if it may end there at all. -/
def exponent (before : Option (List Char)) (signed valued : Bool) : Scan
  | [] => if valued then some [] else before
  | c :: rest =>
    if c = '+' ∨ c = '-' then
      if valued then some (c :: rest) else if signed then before else exponent before true valued rest
    else if c.isDigit then exponent before signed true rest
    else if c = '_' then exponent before signed valued rest
    else if valued then some (c :: rest)
    else before

def isExponentMark (c : Char) : Bool := c == 'e' || c == 'E'

def decimal : Scan
  | [] => none
  | first :: rest =>
    if first.isDigit then
      match rest.dropWhile isDigitOrUnderscore with
      | [] => none
      | '.' :: after =>
        if after.head?.any fun c => c == '.' || Text.isWordStart c then none
        else
          let fraction := after.dropWhile isDigitOrUnderscore
          match fraction with
          | mark :: digits =>
            if isExponentMark mark then (exponent (some fraction) false false digits).bind endOfNumber
            else endOfNumber fraction
          | [] => endOfNumber fraction
      | mark :: digits =>
        if isExponentMark mark then (exponent none false false digits).bind endOfNumber else none
    else none

/-- The digits of a number in a base, with underscores among them. A decimal digit beyond the base is refused, a letter ends the number. -/
def digits (base : Nat) (isEmpty : Bool) : Scan
  | [] => if isEmpty then none else some []
  | c :: rest =>
    if c.isDigit then
      if hexValue c < base then digits base false rest else none
    else if isHexDigit c ∧ hexValue c < base then digits base false rest
    else if c = '_' then
      if isEmpty ∧ base = 10 then none else digits base isEmpty rest
    else if isEmpty then none
    else some (c :: rest)

def integer : Scan
  | '0' :: 'x' :: rest => (digits 16 true rest).bind endOfNumber
  | '0' :: 'o' :: rest => (digits 8 true rest).bind endOfNumber
  | '0' :: 'b' :: rest => (digits 2 true rest).bind endOfNumber
  | text => (digits 10 true text).bind endOfNumber

def literal (text : List Char) : Option (LiteralKind × List Char) :=
  match string text with
  | some rest => some (.string, rest)
  | none =>
  match byteString text with
  | some rest => some (.byteString, rest)
  | none =>
  match cString text with
  | some rest => some (.cString, rest)
  | none =>
  match byte text with
  | some rest => some (.byte, rest)
  | none =>
  match character text with
  | some rest => some (.character, rest)
  | none =>
  match decimal text with
  | some rest => some (.decimal, rest)
  | none =>
  match integer text with
  | some rest => some (.integer, rest)
  | none => none

end Scan

end MessageCatalog.Source
