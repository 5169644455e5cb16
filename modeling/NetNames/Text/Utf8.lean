/-!
Bytes read as UTF-8. Well-formed bytes give their characters; of malformed bytes each longest
piece that could start a character stands for one fault.
-/
namespace NetNames.Text

/-- A character begun: its value so far, the bytes owed, and the range of the next one. -/
structure Begun where
  value : Nat
  owed : Nat
  low : UInt8
  high : UInt8

inductive Lead where
  | whole (c : Char)
  | begun (b : Begun)
  | fault

def lead (b : UInt8) : Lead :=
  let n := b.toNat
  if n < 0x80 then .whole (Char.ofNat n)
  else if n < 0xc2 then .fault
  else if n < 0xe0 then .begun ⟨n - 0xc0, 1, 0x80, 0xbf⟩
  else if n == 0xe0 then .begun ⟨0, 2, 0xa0, 0xbf⟩
  else if n == 0xed then .begun ⟨0xd, 2, 0x80, 0x9f⟩
  else if n < 0xf0 then .begun ⟨n - 0xe0, 2, 0x80, 0xbf⟩
  else if n == 0xf0 then .begun ⟨0, 3, 0x90, 0xbf⟩
  else if n < 0xf4 then .begun ⟨n - 0xf0, 3, 0x80, 0xbf⟩
  else if n == 0xf4 then .begun ⟨4, 3, 0x80, 0x8f⟩
  else .fault

/-- The characters of the bytes in order, `none` for a fault. -/
def decodeFrom : Option Begun → List UInt8 → List (Option Char)
  | none, [] => []
  | some _, [] => [none]
  | none, b :: r =>
    match lead b with
    | .whole c => some c :: decodeFrom none r
    | .begun p => decodeFrom (some p) r
    | .fault => none :: decodeFrom none r
  | some p, b :: r =>
    if p.low ≤ b && b ≤ p.high then
      let value := p.value * 64 + (b.toNat - 0x80)
      if p.owed == 1 then some (Char.ofNat value) :: decodeFrom none r
      else decodeFrom (some ⟨value, p.owed - 1, 0x80, 0xbf⟩) r
    else
      none :: match lead b with
        | .whole c => some c :: decodeFrom none r
        | .begun p => decodeFrom (some p) r
        | .fault => none :: decodeFrom none r

/-- Every fault becomes the replacement character. -/
def decodeLossy (bytes : List UInt8) : List Char :=
  (decodeFrom none bytes).map (·.getD '\uFFFD')

def decode? (bytes : List UInt8) : Option (List Char) := (decodeFrom none bytes).mapM id

def encode (s : List Char) : List UInt8 := s.flatMap String.utf8EncodeChar

/-- The number of bytes of the text. -/
def byteCount (s : List Char) : Nat := s.foldl (fun n c => n + c.utf8Size) 0

end NetNames.Text
