/-!
# UTF-8

`Utf8.decode` reads octets as text or says where they stop being text: a `Utf8Fault` holds the
index of the octet that starts the unreadable character and how many octets of it were read
before it was refused, or that the octets end inside a character.
-/

set_option autoImplicit false

namespace TagSync.Text

/-- Why octets are no UTF-8 text. -/
inductive Utf8Fault where
  /-- The character that starts at `index` is refused after `length` of its octets. -/
  | invalid (length index : Nat)
  /-- The octets end inside the character that starts at `index`. -/
  | incomplete (index : Nat)
  deriving DecidableEq, Repr

def Utf8Fault.message : Utf8Fault → String
  | .invalid length index =>
    s!"invalid utf-8 sequence of {length} bytes from index {index}"
  | .incomplete index => s!"incomplete utf-8 byte sequence from index {index}"

namespace Utf8

/-- A character of which some octets are still to come. -/
structure Pending where
  /-- The index of its first octet. -/
  start : Nat
  /-- How many of its octets were read. -/
  seen : Nat
  /-- How many of its octets are still owed. -/
  owed : Nat
  /-- The least value of the next octet. -/
  lo : Nat
  /-- The greatest value of the next octet. -/
  hi : Nat
  /-- The bits that the octets so far stand for. -/
  code : Nat

/-- The character that an octet above the ASCII range starts, if it can start one. The bounds on
the second octet rule out overlong forms, surrogates and code points above 10FFFF. -/
def Pending.ofLead? (index lead : Nat) : Option Pending :=
  if 0xC2 ≤ lead ∧ lead ≤ 0xDF then some ⟨index, 1, 1, 0x80, 0xBF, lead - 0xC0⟩
  else if lead = 0xE0 then some ⟨index, 1, 2, 0xA0, 0xBF, 0⟩
  else if lead = 0xED then some ⟨index, 1, 2, 0x80, 0x9F, 0xD⟩
  else if 0xE1 ≤ lead ∧ lead ≤ 0xEF then some ⟨index, 1, 2, 0x80, 0xBF, lead - 0xE0⟩
  else if lead = 0xF0 then some ⟨index, 1, 3, 0x90, 0xBF, 0⟩
  else if lead = 0xF4 then some ⟨index, 1, 3, 0x80, 0x8F, 4⟩
  else if 0xF1 ≤ lead ∧ lead ≤ 0xF3 then some ⟨index, 1, 3, 0x80, 0xBF, lead - 0xF0⟩
  else none

/-- Reads octets from `index` on, behind the characters `read` (last one first) and inside the
character `pending`. -/
def decodeFrom (read : List Char) (index : Nat) :
    Option Pending → List UInt8 → Except Utf8Fault (List Char)
  | none, [] => .ok read.reverse
  | some p, [] => .error (.incomplete p.start)
  | none, b :: bs =>
    if b.toNat < 0x80 then decodeFrom (Char.ofNat b.toNat :: read) (index + 1) none bs
    else
      match Pending.ofLead? index b.toNat with
      | none => .error (.invalid 1 index)
      | some p => decodeFrom read (index + 1) (some p) bs
  | some p, b :: bs =>
    if b.toNat < p.lo ∨ p.hi < b.toNat then .error (.invalid p.seen p.start)
    else
      let code := p.code * 64 + (b.toNat - 0x80)
      if p.owed = 1 then decodeFrom (Char.ofNat code :: read) (index + 1) none bs
      else
        decodeFrom read (index + 1)
          (some { p with seen := p.seen + 1, owed := p.owed - 1, lo := 0x80, hi := 0xBF, code })
          bs

/-- The text that octets stand for. -/
def decode (octets : List UInt8) : Except Utf8Fault String :=
  (decodeFrom [] 0 none octets).map String.ofList

/-- Octets below 128 stand for one character each. -/
theorem decodeFrom_ascii {text : List Char} (h : ∀ c ∈ text, c.toNat < 0x80) (read : List Char)
    (index : Nat) :
    decodeFrom read index none (text.map fun c => UInt8.ofNat c.toNat) =
      .ok (read.reverse ++ text) := by
  induction text generalizing read index with
  | nil => simp [decodeFrom]
  | cons c text ih =>
      obtain ⟨hc, htext⟩ := List.forall_mem_cons.mp h
      have hoctet : (UInt8.ofNat c.toNat).toNat = c.toNat := by
        rw [UInt8.toNat_ofNat']
        omega
      rw [List.map_cons, decodeFrom, hoctet, if_pos hc, Char.ofNat_toNat, ih htext]
      simp

theorem decode_ascii {text : String} (h : text.toList.all (·.toNat < 0x80) = true) :
    decode (text.toList.map fun c => UInt8.ofNat c.toNat) = .ok text := by
  have hascii : ∀ c ∈ text.toList, c.toNat < 0x80 := by simpa using h
  rw [decode, decodeFrom_ascii hascii, List.reverse_nil, List.nil_append]
  simp [Except.map]

/-- The octets of a text. -/
def encode (text : String) : List UInt8 :=
  text.toUTF8.toList

end Utf8

end TagSync.Text
