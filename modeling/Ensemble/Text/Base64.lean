/-
# Base64

Three bytes are written as four characters; one or two bytes at the end are padded.
-/

namespace Ensemble.Text

/-- The character for six bits. -/
def base64Char (bits : Nat) : Char :=
  if bits < 26 then Char.ofNat ('A'.toNat + bits)
  else if bits < 52 then Char.ofNat ('a'.toNat + (bits - 26))
  else if bits < 62 then Char.ofNat ('0'.toNat + (bits - 52))
  else if bits = 62 then '+'
  else '/'

/-- The characters for bytes. -/
def base64Chars : List UInt8 → List Char
  | [] => []
  | [a] =>
    let bits := a.toNat * 0x10000
    [base64Char (bits / 0x40000), base64Char (bits / 0x1000 % 0x40), '=', '=']
  | [a, b] =>
    let bits := a.toNat * 0x10000 + b.toNat * 0x100
    [base64Char (bits / 0x40000), base64Char (bits / 0x1000 % 0x40),
      base64Char (bits / 0x40 % 0x40), '=']
  | a :: b :: c :: rest =>
    let bits := a.toNat * 0x10000 + b.toNat * 0x100 + c.toNat
    base64Char (bits / 0x40000) :: base64Char (bits / 0x1000 % 0x40) ::
      base64Char (bits / 0x40 % 0x40) :: base64Char (bits % 0x40) :: base64Chars rest

/-- The text for bytes. -/
def base64 (bytes : List UInt8) : String :=
  String.ofList (base64Chars bytes)

end Ensemble.Text
