import MessageCatalog.Text.Hidden

/-!
# Quoted text

How a message shows a string or a character that it was given: between quotes, with an escape for the quote itself, the backslash, the common controls and every hidden character. A quoted text therefore never breaks a line.
-/

namespace MessageCatalog.Text

/-- The digits of a code point: base sixteen, lower case, no leading zeros. -/
def codePointDigits (c : Char) : List Char := Nat.toDigits 16 c.toNat

/-- One character of a text that stands between two of the given quotes. -/
def escape (quote c : Char) : List Char :=
  if c = '\x00' then ['\\', '0']
  else if c = '\t' then ['\\', 't']
  else if c = '\n' then ['\\', 'n']
  else if c = '\r' then ['\\', 'r']
  else if c = '\\' ∨ c = quote then ['\\', c]
  else if isHidden c then ['\\', 'u', '\x7b'] ++ codePointDigits c ++ ['\x7d']
  else [c]

def quoted (s : String) : String :=
  String.ofList ('\x22' :: s.toList.flatMap (escape '\x22') ++ ['\x22'])

def quotedChar (c : Char) : String :=
  String.ofList ('\x27' :: escape '\x27' c ++ ['\x27'])

/-- The characters of a string literal in program text. A zero character in front of an octal digit takes two hexadecimal digits, so that the digit is no part of its escape. -/
def literalBody : List Char → List Char
  | [] => []
  | c :: rest =>
    (if c = '\x00' ∧ rest.head?.any (fun next => '0' ≤ next && next ≤ '7') then ['\\', 'x', '0', '0'] else escape '\x22' c) ++
      literalBody rest

def literal (text : List Char) : String := String.ofList ('\x22' :: literalBody text ++ ['\x22'])

@[simp] theorem toList_quoted (s : String) :
    (quoted s).toList = '\x22' :: s.toList.flatMap (escape '\x22') ++ ['\x22'] := by
  simp [quoted]

@[simp] theorem toList_quotedChar (c : Char) : (quotedChar c).toList = '\x27' :: escape '\x27' c ++ ['\x27'] := by
  simp [quotedChar]

end MessageCatalog.Text
