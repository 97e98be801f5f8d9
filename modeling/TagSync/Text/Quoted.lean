import TagSync.Text.Hidden

/-!
# Quoted texts

A text between double quotes in which quotes, backslashes and everything that does not show is
spelled as an escape.
-/

set_option autoImplicit false

namespace TagSync.Text.Quoted

def escape (c : Char) : List Char :=
  if c = '\x00' then ['\\', '0']
  else if c = '\t' then ['\\', 't']
  else if c = '\r' then ['\\', 'r']
  else if c = '\n' then ['\\', 'n']
  else if c = '"' then ['\\', '"']
  else if c = '\\' then ['\\', '\\']
  else if isHidden c then ['\\', 'u', '\x7b'] ++ Nat.toDigits 16 c.toNat ++ ['\x7d']
  else [c]

/-- As `escape`, but a single quote is spelled as an escape, too. -/
def escapeBoth (c : Char) : List Char :=
  if c = '\'' then ['\\', '\''] else escape c

def quote (text : String) : String :=
  String.ofList ('"' :: text.toList.flatMap escape ++ ['"'])

/-- The path of a file in quotes; neither kind of quote stands alone in it. -/
def quotePath (path : String) : String :=
  String.ofList ('"' :: path.toList.flatMap escapeBoth ++ ['"'])

end TagSync.Text.Quoted
