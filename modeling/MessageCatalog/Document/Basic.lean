import MessageCatalog.Text.Quoted

/-!
# Documents

The self-describing values in which identifiers are stored: null, truth values, numbers, strings, sequences, and objects with string keys. A number with a fraction is a count of tenths, hundredths and so on, so that it is written as it was read.
-/

namespace MessageCatalog

inductive Document where
  | null
  | bool (value : Bool)
  | integer (value : Int)
  /-- The number `mantissa / 10 ^ places`. -/
  | decimal (mantissa : Int) (places : Nat)
  | string (value : String)
  | sequence (items : List Document)
  | object (entries : List (String × Document))
  deriving Repr, Inhabited

namespace Document

/-- The digits of `mantissa / 10 ^ places`, with a point before the last `places` of them. -/
def decimalText (mantissa : Int) (places : Nat) : String :=
  let digits := Nat.toDigits 10 mantissa.natAbs
  let padded := List.replicate (places + 1 - digits.length) '0' ++ digits
  let whole := padded.take (padded.length - places)
  let fraction := padded.drop (padded.length - places)
  String.ofList ((if mantissa < 0 then ['-'] else []) ++ whole ++ '.' :: fraction)

/-- How a diagnostic speaks of a document that it did not expect. -/
def describe : Document → String
  | null => "null"
  | bool value => "boolean `" ++ (if value then "true" else "false") ++ "`"
  | integer value => "integer `" ++ toString value ++ "`"
  | decimal mantissa places => "floating point `" ++ decimalText mantissa places ++ "`"
  | string value => "string " ++ Text.quoted value
  | sequence _ => "sequence"
  | object _ => "map"

end Document

end MessageCatalog
