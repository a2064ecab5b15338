/-!
# White space

The Unicode property White_Space, which has had the same 25 members for many versions.

* `isSpace`: membership.
* `isBlankText`: a text of white space only, such as the empty one.
* `trim`: a text without the white space at its ends.
-/

namespace HookPlan.Unicode

def isSpace (c : Char) : Bool :=
  let n := c.toNat
  (0x09 ≤ n && n ≤ 0x0d) || n == 0x20 || n == 0x85 || n == 0xa0 || n == 0x1680
    || (0x2000 ≤ n && n ≤ 0x200a) || n == 0x2028 || n == 0x2029 || n == 0x202f
    || n == 0x205f || n == 0x3000

/-- A text without any character that is not white space. -/
def isBlankText (s : String) : Bool := s.toList.all isSpace

/-- A text without the white space at its ends. -/
def trim (s : String) : String :=
  String.ofList ((s.toList.dropWhile isSpace).reverse.dropWhile isSpace).reverse

end HookPlan.Unicode
