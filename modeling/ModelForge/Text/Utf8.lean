/-!
Text as bytes. Reading bytes as UTF-8 finds the first place that is no text and tells how many
bytes are surely wrong there; a lenient reading puts a replacement character in each such place.
-/

namespace ModelForge

abbrev Bytes := List UInt8

namespace Text.Utf8

def encode (s : List Char) : Bytes := s.flatMap String.utf8EncodeChar

/-- Bytes that are no text: where they begin, and their number unless the input ended too soon. -/
structure Invalid where
  index  : Nat
  length : Option Nat
  deriving DecidableEq, Repr

def Invalid.message (e : Invalid) : String :=
  match e.length with
  | some n => s!"invalid utf-8 sequence of {n} bytes from index {e.index}"
  | none => s!"incomplete utf-8 byte sequence from index {e.index}"

/-- What stands at the beginning of some bytes. -/
inductive Unit
  | character (c : Char) (size : Nat)
  | wrong (size : Nat)
  | cut
  deriving DecidableEq, Repr

def isContinuation (b : UInt8) : Bool := 0x80 ≤ b && b ≤ 0xBF

/-- The second bytes that a first byte of three or four bytes allows: no overlong forms, no
surrogates, nothing beyond the last code point. -/
def allowsSecond (first second : UInt8) : Bool :=
  if first = 0xE0 then 0xA0 ≤ second && second ≤ 0xBF
  else if first = 0xED then 0x80 ≤ second && second ≤ 0x9F
  else if first = 0xF0 then 0x90 ≤ second && second ≤ 0xBF
  else if first = 0xF4 then 0x80 ≤ second && second ≤ 0x8F
  else isContinuation second

/-- The payload of a continuation byte. -/
def payload (b : UInt8) : Nat := b.toNat % 64

def unit (first : UInt8) (rest : Bytes) : Unit :=
  if first < 0x80 then .character (Char.ofNat first.toNat) 1
  else if 0xC2 ≤ first && first ≤ 0xDF then
    match rest with
    | [] => .cut
    | b :: _ =>
      if isContinuation b then .character (Char.ofNat ((first.toNat % 32) * 64 + payload b)) 2
      else .wrong 1
  else if 0xE0 ≤ first && first ≤ 0xEF then
    match rest with
    | [] => .cut
    | b :: rest =>
      if !allowsSecond first b then .wrong 1
      else
        match rest with
        | [] => .cut
        | c :: _ =>
          if isContinuation c then
            .character (Char.ofNat (((first.toNat % 16) * 64 + payload b) * 64 + payload c)) 3
          else .wrong 2
  else if 0xF0 ≤ first && first ≤ 0xF4 then
    match rest with
    | [] => .cut
    | b :: rest =>
      if !allowsSecond first b then .wrong 1
      else
        match rest with
        | [] => .cut
        | c :: rest =>
          if !isContinuation c then .wrong 2
          else
            match rest with
            | [] => .cut
            | d :: _ =>
              if isContinuation d then
                .character (Char.ofNat ((((first.toNat % 8) * 64 + payload b) * 64 + payload c) * 64 + payload d)) 4
              else .wrong 3
  else .wrong 1

/-- Reads the bytes from an index on; `skip` of them belong to the character before. -/
def decodeFrom (index skip : Nat) : Bytes → Except Invalid (List Char)
  | [] => .ok []
  | b :: rest =>
    match skip with
    | skip + 1 => decodeFrom (index + 1) skip rest
    | 0 =>
      match unit b rest with
      | .character c size => (decodeFrom (index + 1) (size - 1) rest).map (c :: ·)
      | .wrong size => .error ⟨index, some size⟩
      | .cut => .error ⟨index, none⟩

def decode (bytes : Bytes) : Except Invalid (List Char) := decodeFrom 0 0 bytes

def replacement : Char := '\uFFFD'

def decodeLossyFrom (skip : Nat) : Bytes → List Char
  | [] => []
  | b :: rest =>
    match skip with
    | skip + 1 => decodeLossyFrom skip rest
    | 0 =>
      match unit b rest with
      | .character c size => c :: decodeLossyFrom (size - 1) rest
      | .wrong size => replacement :: decodeLossyFrom (size - 1) rest
      | .cut => [replacement]

/-- Reads the bytes with a replacement character for everything that is no text. -/
def decodeLossy (bytes : Bytes) : List Char := decodeLossyFrom 0 bytes

end Text.Utf8

end ModelForge
