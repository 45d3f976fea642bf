import DiscordBot.Json.Token

/-! Characters written as a percent sign and two hexadecimal digits for each byte. -/

namespace DiscordBot.Url.Percent

def hexDigit (n : Nat) : Char := (Nat.toDigits 16 (n % 16)).headD '0' |>.toUpper

def encodeByte (b : UInt8) : List Char := ['%', hexDigit (b.toNat / 16), hexDigit b.toNat]

def encode (set : List Char) (cs : List Char) : List Char :=
  cs.flatMap fun c =>
    if c.toNat < 0x20 || 0x7e < c.toNat || set.contains c then
      (String.utf8EncodeChar c).flatMap encodeByte
    else [c]

def decodeBytes : List Char → List UInt8
  -- A percent sign without two hexadecimal digits behind it is itself.
  | [] => []
  | '%' :: a :: b :: cs =>
    match Json.hexValue? a, Json.hexValue? b with
    | some m, some n => (m * 16 + n).toUInt8 :: decodeBytes cs
    | _, _ => 0x25 :: decodeBytes (a :: b :: cs)
  | c :: cs => String.utf8EncodeChar c ++ decodeBytes cs

def decode? (cs : List Char) : Option (List Char) :=
  if cs.contains '%' then
    (String.fromUTF8? (decodeBytes cs).toByteArray).map String.toList
  else some cs

end DiscordBot.Url.Percent
