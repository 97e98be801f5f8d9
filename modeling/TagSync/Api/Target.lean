/-!
# Request targets

A target is the path of a request and, behind a question mark, its query. Names stand in it as
they are, so a name with a question mark begins the query early, and everything from a number
sign on is not sent. `fault?` says why a target cannot be sent.
-/

set_option autoImplicit false

namespace TagSync.Api

/-- Why a target cannot be sent. -/
inductive TargetFault where
  /-- A character has no place in a target. -/
  | badCharacter
  /-- The target has too many octets. -/
  | tooLong
  deriving DecidableEq, Repr

def TargetFault.message : TargetFault → String
  | .badCharacter => "invalid uri character"
  | .tooLong => "uri too long"

namespace Target

def maxSize : Nat := 65534

/-- Whether a character may stand in a path: no blank, no control, and of the other characters of
ASCII all but angle brackets, the backquote and those that end a path. -/
def isPathChar (c : Char) : Bool :=
  let n := c.toNat
  (0x21 ≤ n && n ≤ 0x22) || (0x24 ≤ n && n ≤ 0x3B) || n == 0x3D || (0x40 ≤ n && n ≤ 0x5F) ||
    (0x61 ≤ n && n ≤ 0x7E) || 0x80 ≤ n

/-- Whether a character may stand in a query: no blank, no control, and of the other characters of
ASCII all but angle brackets, the double quote and the number sign that ends a query. -/
def isQueryChar (c : Char) : Bool :=
  let n := c.toNat
  n == 0x21 || (0x24 ≤ n && n ≤ 0x3B) || n == 0x3D || (0x3F ≤ n && n ≤ 0x7E) || 0x80 ≤ n

def sent (cs : List Char) : List Char :=
  cs.takeWhile (· != '#')

def path (cs : List Char) : List Char :=
  (sent cs).takeWhile (· != '?')

def query (cs : List Char) : List Char :=
  ((sent cs).dropWhile (· != '?')).drop 1

/-- Why a target cannot be sent, if it cannot. -/
def fault? (target : String) : Option TargetFault :=
  if maxSize < target.utf8ByteSize then some .tooLong
  else if (path target.toList).all isPathChar && (query target.toList).all isQueryChar then none
  else some .badCharacter

end Target

end TagSync.Api
