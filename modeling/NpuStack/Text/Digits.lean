/-! Digits and columns of the textual output: lower-case hexadecimal, with or
without a fixed number of digits, and columns filled with blanks. -/

set_option autoImplicit false

namespace NpuStack.Text

def hexDigit (value : Nat) : Char :=
  if value < 10 then Char.ofNat ('0'.toNat + value) else Char.ofNat ('a'.toNat + (value - 10))

/-- Exactly `width` hexadecimal digits, most significant first; higher digits are dropped. -/
def hexDigits : (width : Nat) → (value : Nat) → List Char
  | 0, _ => []
  | width + 1, value => hexDigits width (value / 16) ++ [hexDigit (value % 16)]

def hexWidth (value : Nat) : Nat :=
  if value < 16 then 1 else hexWidth (value / 16) + 1

def hexFixed (width value : Nat) : String := String.ofList (hexDigits width value)

def hex (value : Nat) : String := hexFixed (hexWidth value) value

def hexMarked (value : Nat) : String := "0x" ++ hex value

def hexMarkedFixed (width value : Nat) : String := "0x" ++ hexFixed width value

def padRight (width : Nat) (text : String) : String :=
  text ++ String.ofList (List.replicate (width - text.length) ' ')

def padLeft (width : Nat) (text : String) : String :=
  String.ofList (List.replicate (width - text.length) ' ') ++ text

def hexBytes (bytes : ByteArray) : String :=
  String.ofList (bytes.data.toList.flatMap fun byte => hexDigits 2 byte.toNat)

end NpuStack.Text
