import SchemaEngine.Unicode.WhiteSpace
import SchemaEngine.Text.Hexadecimal
import SchemaEngine.Pattern.Basic

/-!
# Formats

Three patterns for whole texts: mail addresses, web addresses and universally
unique identifiers.
-/

namespace SchemaEngine
namespace Pattern

/-- The characters before the at-sign of a mail address. -/
def mailboxChar (c : Char) : Bool := c.isAlphanum || "._%+-".toList.contains c

/-- The characters of the host of a mail address. -/
def hostChar (c : Char) : Bool := c.isAlphanum || ".-".toList.contains c

/-- A mail address: a mailbox, an at-sign, a host, and behind a point a domain of at
least two letters. -/
def email : Pattern :=
  seqAll [.anchor .textStart, plus (.char mailboxChar), literal '@', plus (.char hostChar),
    literal '.', .repeated 2 none (.char Char.isAlpha), .anchor .textEnd]

/-- The first character behind the slashes of a web address. -/
def authorityChar (c : Char) : Bool :=
  !(Unicode.isWhiteSpace c || "/$.?#".toList.contains c)

/-- Any character of a line. -/
def lineChar (c : Char) : Bool := c != '\n'

/-- Any character but white space. -/
def solidChar (c : Char) : Bool := !Unicode.isWhiteSpace c

/-- A web address: the scheme and two slashes, a character that can begin an
authority, any character of a line, and no white space from there on. -/
def url : Pattern :=
  seqAll [.anchor .textStart, seqAll ("http".toList.map literal), opt (literal 's'),
    seqAll ("://".toList.map literal), .char authorityChar, .char lineChar,
    star (.char solidChar), .anchor .textEnd]

/-- A number of hexadecimal digits. -/
def hexDigits (n : Nat) : Pattern := times n (.char Text.isHexDigit)

/-- A universally unique identifier: hexadecimal digits in groups of 8, 4, 4, 4 and
12, with a hyphen between each two. -/
def uuid : Pattern :=
  seqAll [.anchor .textStart, hexDigits 8, literal '-', hexDigits 4, literal '-', hexDigits 4,
    literal '-', hexDigits 4, literal '-', hexDigits 12, .anchor .textEnd]

end Pattern
end SchemaEngine
