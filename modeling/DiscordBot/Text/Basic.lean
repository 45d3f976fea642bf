/-! Joining and trimming texts. White space is that of Unicode's `White_Space` property. -/

namespace DiscordBot.Text

def joinWith (separator : String) : List String → String
  | [] => ""
  | [s] => s
  | s :: t :: ss => s ++ separator ++ joinWith separator (t :: ss)

def isBlankCode (n : Nat) : Bool :=
  (0x09 ≤ n && n ≤ 0x0D) || n == 0x20 || n == 0x85 || n == 0xA0 || n == 0x1680
    || (0x2000 ≤ n && n ≤ 0x200A) || n == 0x2028 || n == 0x2029 || n == 0x202F
    || n == 0x205F || n == 0x3000

def isBlank (c : Char) : Bool := isBlankCode c.toNat

def trimBoth (p : Char → Bool) (cs : List Char) : List Char :=
  ((cs.dropWhile p).reverse.dropWhile p).reverse

def trimEnd (p : Char → Bool) (cs : List Char) : List Char :=
  (cs.reverse.dropWhile p).reverse

def trimBlank (cs : List Char) : List Char := trimBoth isBlank cs

def isBlankText (s : String) : Bool := s.toList.all isBlank

def dropLeading (c : Char) (s : String) : String := String.ofList (s.toList.dropWhile (· == c))

def dropTrailing (c : Char) (s : String) : String := String.ofList (trimEnd (· == c) s.toList)

end DiscordBot.Text
