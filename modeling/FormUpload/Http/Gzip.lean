import FormUpload.Http.Deflate

/-!
# Packed bodies

A body may come packed in the gzip format: a header, what is compressed, and a
checksum and a length.  `unpack?` opens it if all of these are right.
-/

namespace FormUpload.Http

open FormUpload.Text

/-- The number that two octets spell, the low one first. -/
def word16 (a b : UInt8) : Nat := a.toNat + 256 * b.toNat

/-- One bit of the checksum. -/
def checksumBit (c : Nat) : Nat := if c % 2 = 1 then (c / 2) ^^^ 0xEDB88320 else c / 2

/-- The checksum after one more octet. -/
def checksumOctet (c : Nat) (b : UInt8) : Nat :=
  (List.range 8).foldl (fun c _ => checksumBit c) (c ^^^ b.toNat)

/-- The checksum of some octets. -/
def checksum (s : Bytes) : Nat := s.foldl checksumOctet 0xFFFFFFFF ^^^ 0xFFFFFFFF

/-- The octets after a text that ends in a zero octet. -/
def afterZero? : Bytes → Option Bytes
  | [] => none
  | b :: s => if b = 0 then some s else afterZero? s

/-- The octets after the header of a packed body. -/
def afterGzipHeader? : Bytes → Option Bytes
  | 0x1F :: 0x8B :: 0x08 :: flags :: _ :: _ :: _ :: _ :: _ :: _ :: s => do
      let f := flags.toNat
      let s ← if f / 4 % 2 = 1 then
          match s with
          | a :: b :: r => if word16 a b ≤ r.length then some (r.drop (word16 a b)) else none
          | _ => none
        else some s
      let s ← if f / 8 % 2 = 1 then afterZero? s else some s
      let s ← if f / 16 % 2 = 1 then afterZero? s else some s
      if f / 2 % 2 = 1 then (if 2 ≤ s.length then some (s.drop 2) else none) else some s
  | _ => none

/-- Opens a packed body; an empty one stays empty.  After what is compressed come its
checksum and its length, and nothing else. -/
def unpack? (s : Bytes) : Option Bytes :=
  if s.isEmpty then some []
  else do
    let packed ← afterGzipHeader? s
    let (contents, rest) ← Deflate.inflate? (Deflate.bitsOf packed)
    let (sum, rest) ← Deflate.number? 32 rest
    let (length, rest) ← Deflate.number? 32 rest
    if rest.isEmpty && sum == checksum contents && length == contents.length % 0x100000000 then
      some contents
    else none

end FormUpload.Http
