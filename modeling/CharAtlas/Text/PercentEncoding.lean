import CharAtlas.Numeral

/-! # Percent encoding

Text inside the query of a web address: letters and digits of ASCII and `-`, `_`, `.`, `~` stand for
themselves, every other character for the bytes of its UTF-8 form, each as `%` and two digits. -/

namespace CharAtlas.Text

def isUnreserved (c : Char) : Bool :=
  c.isAlphanum || c == '-' || c == '_' || c == '.' || c == '~'

def percentEncodedByte (b : UInt8) : List Char :=
  '%' :: Numeral.paddedDigits 16 2 b.toNat

def percentEncodedChar (c : Char) : List Char :=
  if isUnreserved c then [c] else (String.utf8EncodeChar c).flatMap percentEncodedByte

def percentEncoded (s : String) : String :=
  String.ofList (s.toList.flatMap percentEncodedChar)

end CharAtlas.Text
