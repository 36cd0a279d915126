/-!
# White space

The characters with the Unicode property `White_Space`. A credential, a user name or a
namespace that consists of such characters only counts as not given.
-/
namespace ClusterGraph.Text

/-- The characters of the Unicode property `White_Space`. -/
def isSpace (c : Char) : Bool :=
  let n := c.toNat
  (9 ≤ n && n ≤ 13) || n == 0x20 || n == 0x85 || n == 0xA0 || n == 0x1680 ||
    (0x2000 ≤ n && n ≤ 0x200A) || n == 0x2028 || n == 0x2029 || n == 0x202F || n == 0x205F ||
    n == 0x3000

/-- No character of the text is visible: it is empty or holds white space only. -/
def isBlank (s : String) : Bool := s.toList.all isSpace

end ClusterGraph.Text
