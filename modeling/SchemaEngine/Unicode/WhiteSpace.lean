import SchemaEngine.Unicode.Ranges

/-!
# White space

The characters with the property White_Space: what trimming removes and what the class
`\s` of a pattern holds.
-/

namespace SchemaEngine
namespace Unicode

/-- The code points with the property White_Space. -/
def whiteSpace : Ranges := [
  (9, 13), (32, 32), (133, 133), (160, 160), (5760, 5760), (8192, 8202), (8232, 8233),
  (8239, 8239), (8287, 8287), (12288, 12288)]

/-- White_Space. -/
def isWhiteSpace (c : Char) : Bool := whiteSpace.covers c.toNat

end Unicode
end SchemaEngine
