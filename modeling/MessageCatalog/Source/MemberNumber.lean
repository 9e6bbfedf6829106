import MessageCatalog.Source.Literal

/-!
# Numbers of members

A member without a name is named by a number. The number may be written in any base and with underscores, but without a suffix, and it has to fit in thirty-two bits.
-/

namespace MessageCatalog.Source

/-- The value of digits in a base, with underscores among them, on top of the value of the digits before. -/
def digitsValue? (base : Nat) (hasDigit : Bool) (value : Nat) : List Char → Option Nat
  | [] => if hasDigit then some value else none
  | c :: rest =>
    if c = '_' then digitsValue? base hasDigit value rest
    else if Scan.isHexDigit c && Scan.hexValue c < base then digitsValue? base true (value * base + Scan.hexValue c) rest
    else none

def memberNumber? (text : String) : Option Nat :=
  let value? := match text.toList with
    | '0' :: 'x' :: rest => digitsValue? 16 false 0 rest
    | '0' :: 'o' :: rest => digitsValue? 8 false 0 rest
    | '0' :: 'b' :: rest => digitsValue? 2 false 0 rest
    | digits => digitsValue? 10 false 0 digits
  value?.filter (· < UInt32.size)

/-- The numbers with points between them that make up a decimal literal, and whether a point comes last. -/
def memberNumbers? (text : String) : Option (List Nat × Bool) :=
  let parts := text.splitOn "."
  let trailing := parts.getLast? == some ""
  ((if trailing then parts.dropLast else parts).mapM memberNumber?).map fun numbers => (numbers, trailing)

end MessageCatalog.Source
