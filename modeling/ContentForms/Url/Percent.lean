import ContentForms.Text.Digits

/-!
Percent-decoding: a percent sign with two hexadecimal digits after it stands for one byte, and
every other character for the bytes of its UTF-8 form. A percent sign without the digits stands
for itself.
-/

namespace ContentForms.Percent

def encodeUtf8 (c : Char) : List UInt8 :=
  (String.singleton c).toUTF8.toList

def decodeBytes : List Char → List UInt8
  | '%' :: a :: b :: rest =>
      if Text.isHexDigit a && Text.isHexDigit b then
        UInt8.ofNat (Text.ofDigits 16 [a, b]) :: decodeBytes rest
      else encodeUtf8 '%' ++ decodeBytes (a :: b :: rest)
  | c :: rest => encodeUtf8 c ++ decodeBytes rest
  | [] => []

def decode? (cs : List Char) : Option String :=
  String.fromUTF8? (decodeBytes cs).toByteArray

end ContentForms.Percent
