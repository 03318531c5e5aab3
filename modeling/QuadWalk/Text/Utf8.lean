/-!
# Characters from bytes

Bytes are read as UTF-8. A byte that is no part of a well-formed character gives `none`, so that a
reader may still skip over it; an overlong form and half of a surrogate pair are not well-formed.
-/

namespace QuadWalk.Text

/-- The six bits that a continuation byte adds, if it is one. -/
def continuation? (b : UInt8) : Option Nat :=
  if 0x80 ≤ b ∧ b < 0xC0 then some (b.toNat - 0x80) else none

/-- The character that a leading byte and continuation bytes stand for. -/
def sequence? (lead : UInt8) (others : List UInt8) : Option Char := do
  let bits ← others.mapM continuation?
  let (start, least) ← match others.length with
    | 1 => if 0xC0 ≤ lead ∧ lead < 0xE0 then some (lead.toNat - 0xC0, 0x80) else none
    | 2 => if 0xE0 ≤ lead ∧ lead < 0xF0 then some (lead.toNat - 0xE0, 0x800) else none
    | 3 => if 0xF0 ≤ lead ∧ lead < 0xF8 then some (lead.toNat - 0xF0, 0x10000) else none
    | _ => none
  let code := bits.foldl (fun n b => 64 * n + b) start
  if least ≤ code ∧ code.isValidChar then some (Char.ofNat code) else none

/-- The character that a byte begins, and how many further bytes belong to it. -/
def charAt? (lead : UInt8) (rest : List UInt8) : Option (Char × Nat) :=
  if lead < 0x80 then some (Char.ofNat lead.toNat, 0)
  else [1, 2, 3].findSome? fun n => (sequence? lead (rest.take n)).map fun c => (c, n)

/-- The characters of a list of bytes after some bytes that belong to the character before. -/
def decodeAfter : Nat → List UInt8 → List (Option Char)
  | _, [] => []
  | skip + 1, _ :: rest => decodeAfter skip rest
  | 0, b :: rest =>
    match charAt? b rest with
    | some (c, skip) => some c :: decodeAfter skip rest
    | none => none :: decodeAfter 0 rest

/-- The characters of a list of bytes. -/
def decode (bytes : List UInt8) : List (Option Char) := decodeAfter 0 bytes

end QuadWalk.Text
