import SchemaEngine.Unicode.Lowercase
import SchemaEngine.Unicode.Uppercase
import SchemaEngine.Unicode.Cased
import SchemaEngine.Unicode.CaseIgnorable

/-!
# Letter case of texts

Both mappings take each character to its full mapping, which can be several
characters.  Lower case has one rule that looks around: a capital sigma becomes a
final sigma at the end of a word, that is, when the nearest character before it
that is not case-ignorable is cased, and the nearest such character after it is not.
-/

namespace SchemaEngine
namespace Text

/-- The first character that is not case-ignorable is cased. -/
def meetsCased (cs : List Char) : Bool :=
  match cs.dropWhile Unicode.isCaseIgnorable with
  | [] => false
  | c :: _ => Unicode.isCased c

/-- A sigma stands at the end of a word: `before` is the text before it, last
character first, and `after` is the text after it. -/
def isFinalSigma (before after : List Char) : Bool :=
  meetsCased before && !meetsCased after

/-- The lower case of `cs`, where `before` is the text before it, last character
first. -/
def lowerFrom : List Char → List Char → List Char
  | _, [] => []
  | before, c :: cs =>
    (if c = 'Σ' then [if isFinalSigma before cs then 'ς' else 'σ'] else Unicode.lower c)
      ++ lowerFrom (c :: before) cs

/-- A text in lower case. -/
def toLower (s : String) : String := String.ofList (lowerFrom [] s.toList)

/-- A text in upper case. -/
def toUpper (s : String) : String := String.ofList (s.toList.flatMap Unicode.upper)

end Text
end SchemaEngine
