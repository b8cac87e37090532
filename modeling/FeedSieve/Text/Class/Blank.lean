/-!
# Blank characters

The white space of Unicode, together with the four information separators. It is what surrounds a
number that is read from text, and what the pattern class of spaces accepts.
-/
namespace FeedSieve.Text.Class

def isBlank (c : Char) : Bool :=
  let n := c.toNat
  (9 ≤ n && n ≤ 13) || (28 ≤ n && n ≤ 32) || n == 0x85 || n == 0xA0 || n == 0x1680
    || (0x2000 ≤ n && n ≤ 0x200A) || n == 0x2028 || n == 0x2029 || n == 0x202F || n == 0x205F
    || n == 0x3000

end FeedSieve.Text.Class
