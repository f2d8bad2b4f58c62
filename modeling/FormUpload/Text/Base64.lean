import FormUpload.Text.Utf8

/-!
# Base64

Three octets as four letters of the standard alphabet; equals signs fill up the last
group.
-/

namespace FormUpload.Text

/-- The letter for six bits. -/
def base64Letter (n : Nat) : Char :=
  if n < 26 then Char.ofNat (0x41 + n)
  else if n < 52 then Char.ofNat (0x61 + (n - 26))
  else if n < 62 then Char.ofNat (0x30 + (n - 52))
  else if n = 62 then '+'
  else '/'

/-- The octets in base64. -/
def base64 : Bytes → List Char
  | [] => []
  | [a] =>
      let n := a.toNat * 65536
      [base64Letter (n / 262144), base64Letter (n / 4096 % 64), '=', '=']
  | [a, b] =>
      let n := a.toNat * 65536 + b.toNat * 256
      [base64Letter (n / 262144), base64Letter (n / 4096 % 64), base64Letter (n / 64 % 64), '=']
  | a :: b :: c :: r =>
      let n := a.toNat * 65536 + b.toNat * 256 + c.toNat
      base64Letter (n / 262144) :: base64Letter (n / 4096 % 64) :: base64Letter (n / 64 % 64)
        :: base64Letter (n % 64) :: base64 r

end FormUpload.Text
