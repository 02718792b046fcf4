import SyntaxDump.Unicode.NameStart
import SyntaxDump.Unicode.NameContinue

/-!
# Names

A name is a letter or an underscore followed by letters, digits, underscores and the other
characters that may continue a name. A dotted name is a sequence of names joined by points.
-/

namespace SyntaxDump

/-- The two classes of characters that names are made of. The underscore, which may begin a name
too, is not part of `start`. -/
structure NameClasses where
  /-- Characters that may begin a name. -/
  start : Char → Bool
  /-- Characters that may follow. -/
  continue_ : Char → Bool

namespace NameClasses

/-- The classes of the Unicode standard. ASCII characters are decided without the tables. -/
def unicode : NameClasses where
  start c := if c.toNat < 128 then c.isAlpha else Unicode.nameStart.contains c
  continue_ c :=
    if c.toNat < 128 then c.isAlphanum || c == '_' else Unicode.nameContinue.contains c

/-- Whether the characters form a name. -/
def isName (classes : NameClasses) : List Char → Bool
  | [] => false
  | c :: rest => (classes.start c || c == '_') && rest.all classes.continue_

end NameClasses

namespace Name

/-- Whether a text is a name, under given classes of characters. -/
def isIdentifierWith (classes : NameClasses) (s : String) : Bool := classes.isName s.toList

/-- Whether a text is a dotted name, under given classes of characters. -/
def isDottedWith (classes : NameClasses) (s : String) : Bool :=
  (s.toList.splitOn '.').all classes.isName

/-- Whether a text is a name. -/
def isIdentifier (s : String) : Bool := isIdentifierWith .unicode s

/-- Whether a text is a dotted name. -/
def isDotted (s : String) : Bool := isDottedWith .unicode s

end Name

end SyntaxDump
