import SchemaEngine.Unicode.WhiteSpace

/-!
# Trimming

`trim` drops white space from both ends of a text and leaves what is between
untouched.
-/

namespace SchemaEngine
namespace Text

/-- A list without the elements at its end that satisfy `p`. -/
def dropEndWhile (p : Char → Bool) (cs : List Char) : List Char :=
  (cs.reverse.dropWhile p).reverse

/-- A text without white space at either end. -/
def trim (s : String) : String :=
  String.ofList
    (dropEndWhile Unicode.isWhiteSpace (s.toList.dropWhile Unicode.isWhiteSpace))

end Text
end SchemaEngine
