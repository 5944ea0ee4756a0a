import ModelForge.Text.Utf8
/-!
Bytes written with 64 characters: four characters stand for three bytes, and equals signs fill up the
last four. Each sequence of bytes has one written form only.
-/

namespace ModelForge.Text.Base64

/-- The six bits of a character. -/
def value? (c : Char) : Option Nat :=
  if c.isUpper then some (c.toNat - 65)
  else if c.isLower then some (c.toNat - 71)
  else if c.isDigit then some (c.toNat + 4)
  else if c = '+' then some 62
  else if c = '/' then some 63
  else none

def bytes (bits count : Nat) : Bytes :=
  ([bits / 65536 % 256, bits / 256 % 256, bits % 256].take count).map Nat.toUInt8

def group? (cs : List Char) : Option Nat :=
  (cs.mapM value?).map (·.foldl (fun n v => 64 * n + v) 0)

/-- Reads bytes; the bits that a fill leaves over have to be zero. -/
def decode? : List Char → Option Bytes
  | [] => some []
  | [a, b, '=', '='] => (group? [a, b]).bind fun n => if n % 16 = 0 then some (bytes (n * 4096) 1) else none
  | [a, b, c, '='] => (group? [a, b, c]).bind fun n => if n % 4 = 0 then some (bytes (n * 64) 2) else none
  | a :: b :: c :: d :: rest =>
    (group? [a, b, c, d]).bind fun n => (decode? rest).map (bytes n 3 ++ ·)
  | _ => none

end ModelForge.Text.Base64
