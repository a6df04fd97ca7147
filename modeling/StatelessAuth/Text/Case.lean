/-
Letter case where names are compared without it.

Names of variables, cookies, headers and truth words are matched by their
small forms; only the ASCII letters matter, and besides the capitals the
Kelvin sign has an ASCII letter as its small form. The name of a log level
is raised to capitals with the full Unicode mapping, of which only the
part that ends in ASCII letters can make a difference: besides the small
letters these are the dotless i, the long s, the sharp s and the ligatures
of f and s.
-/

namespace StatelessAuth.Text

/-- The small form of a character, where it is an ASCII letter. -/
def small (c : Char) : Char :=
  if c.toNat = 0x212A then 'k' else c.toLower

def lower (text : String) : String :=
  String.ofList (text.toList.map small)

/-- Two names that differ at most in the case of their letters. -/
def sameName (a b : String) : Bool :=
  lower a == lower b

/-- The capitals of a character, where they are ASCII letters: a ligature
has as many as letters were joined. -/
def capitals (c : Char) : List Char :=
  match c.toNat with
  | 0x00DF => ['S', 'S']
  | 0x0131 => ['I']
  | 0x017F => ['S']
  | 0xFB00 => ['F', 'F']
  | 0xFB01 => ['F', 'I']
  | 0xFB02 => ['F', 'L']
  | 0xFB03 => ['F', 'F', 'I']
  | 0xFB04 => ['F', 'F', 'L']
  | 0xFB05 => ['S', 'T']
  | 0xFB06 => ['S', 'T']
  | _ => [c.toUpper]

def upper (text : String) : String :=
  String.ofList (text.toList.flatMap capitals)

end StatelessAuth.Text
