import TagSync.Json.Token
import TagSync.Text.Blank

/-!
# Names of hosts

A host is named by labels with points between them or by a numeric address.
-/

set_option autoImplicit false

namespace TagSync.HostName

open TagSync.Text

/-! ## Labels -/

def isLabelChar (c : Char) : Bool :=
  c.isAlphanum || c = '_' || c = '-'

/-- Whether characters are a label: from one to 63, with no dash at either end. -/
def isLabel (cs : List Char) : Bool :=
  decide (1 ≤ cs.length) && decide (cs.length ≤ 63) && cs.all isLabelChar &&
    cs.head? != some '-' && cs.getLast? != some '-'

/-- Whether characters are labels with points between them and possibly one behind them. The last
label is no number, and there are at most 253 characters. -/
def isName (cs : List Char) : Bool :=
  let labels := pieces '.' cs
  let labels := if labels.getLast? = some [] then labels.dropLast else labels
  decide (cs.length ≤ 253) && !labels.isEmpty && labels.all isLabel &&
    !(labels.getLastD []).all isDigit

/-! ## Addresses -/

/-- Whether characters are a number below 256 without a zero in front. -/
def isByte (cs : List Char) : Bool :=
  !cs.isEmpty && decide (cs.length ≤ 3) && cs.all isDigit && decide (ofDigits cs < 256) &&
    (cs.head? != some '0' || cs.length == 1)

def isAddress4 (cs : List Char) : Bool :=
  let parts := pieces '.' cs
  parts.length == 4 && parts.all isByte

/-- Whether characters are up to four hexadecimal digits. -/
def isGroup (cs : List Char) : Bool :=
  !cs.isEmpty && decide (cs.length ≤ 4) && cs.all fun c => (Json.hexDigit? c).isSome

/-- How many groups stand between colons, if they are in order. Where `short` says so, the last two
may be written as an address of four numbers. -/
def groups? (short : Bool) (cs : List Char) : Option Nat :=
  if cs.isEmpty then some 0
  else
    let parts := pieces ':' cs
    if parts.all isGroup then some parts.length
    else if short && parts.dropLast.all isGroup && isAddress4 (parts.getLastD []) then
      some (parts.length + 1)
    else none

/-- What stands before and behind the first pair of colons. -/
def aroundColons? : List Char → Option (List Char × List Char)
  | ':' :: ':' :: cs => some ([], cs)
  | c :: cs => (aroundColons? cs).map fun (front, back) => (c :: front, back)
  | [] => none

/-- Whether characters are an address of eight groups; a pair of colons stands for at least one of
them. -/
def isAddress6 (cs : List Char) : Bool :=
  match aroundColons? cs with
  | none => groups? true cs == some 8
  | some (front, back) =>
    match groups? false front, groups? true back with
    | some m, some n => decide (m + n ≤ 7)
    | _, _ => false

def isValid (text : String) : Bool :=
  let cs := text.toList
  isName cs || isAddress4 cs || isAddress6 cs

end TagSync.HostName
