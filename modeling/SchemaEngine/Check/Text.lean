import SchemaEngine.Check.Basic
import SchemaEngine.Pattern.Formats
import SchemaEngine.Text.Trim
import SchemaEngine.Text.LetterCase

/-!
# Checks and transforms of texts

Lengths count characters.  A text matches a pattern when the pattern occurs
somewhere in it.  The transforms leave values that are not texts unchanged.
-/

namespace SchemaEngine
namespace Check

/-- A refinement of texts. -/
def text (p : String → Bool) (requirement : String) : Step :=
  onInput (Condition.text p) (must requirement)

/-- At least `n` characters. -/
def minLength (n : Nat) : Step :=
  text (fun s => decide (n ≤ s.length)) ("be at least " ++ toString n ++ " characters long")

/-- At most `n` characters. -/
def maxLength (n : Nat) : Step :=
  text (fun s => decide (s.length ≤ n)) ("be at most " ++ toString n ++ " characters long")

/-- Exactly `n` characters. -/
def length (n : Nat) : Step :=
  text (fun s => s.length == n) ("be exactly " ++ toString n ++ " characters long")

/-- An occurrence of a pattern, which the message shows as `source`. -/
def pattern (p : Pattern) (source : String) : Step :=
  text p.occursIn ("match pattern '" ++ source ++ "'")

/-- A mail address. -/
def email : Step := text Pattern.email.occursIn "be a valid email address"

/-- A web address. -/
def url : Step := text Pattern.url.occursIn "be a valid URL"

/-- A universally unique identifier. -/
def uuid : Step := text Pattern.uuid.occursIn "be a valid UUID"

/-- A text that begins with another. -/
def startsWith (t : String) : Step :=
  text (fun s => t.toList.isPrefixOf s.toList) ("start with \"" ++ t ++ "\"")

/-- A text that ends with another. -/
def endsWith (t : String) : Step :=
  text (fun s => t.toList.isSuffixOf s.toList) ("end with \"" ++ t ++ "\"")

/-- A transform of texts. -/
def mapText (f : String → String) : Step :=
  .transform fun v =>
    match v with
    | .text s => .text (f s)
    | v => v

/-- Drops white space at both ends of a text. -/
def trim : Step := mapText Text.trim

/-- Puts a text into lower case. -/
def toLower : Step := mapText Text.toLower

/-- Puts a text into upper case. -/
def toUpper : Step := mapText Text.toUpper

end Check
end SchemaEngine
