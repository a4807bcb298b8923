/-!
Blank characters: the members of the Unicode property White_Space. Trimming, and every test for a
blank text, goes by this set, which is larger than the set of ASCII blanks and smaller than the set
of characters that print nothing.
-/

namespace ContentForms.Text

def isBlank (c : Char) : Bool :=
  let n := c.toNat
  (9 ≤ n && n ≤ 13) || n == 0x20 || n == 0x85 || n == 0xA0 || n == 0x1680 ||
    (0x2000 ≤ n && n ≤ 0x200A) || n == 0x2028 || n == 0x2029 || n == 0x202F || n == 0x205F ||
    n == 0x3000

def trimBy (p : Char → Bool) (cs : List Char) : List Char :=
  ((cs.dropWhile p).reverse.dropWhile p).reverse

def trimChars (cs : List Char) : List Char :=
  trimBy isBlank cs

def trim (s : String) : String :=
  String.ofList (trimChars s.toList)

@[simp] theorem toList_trim (s : String) : (trim s).toList = trimChars s.toList := by
  simp [trim]

end ContentForms.Text
