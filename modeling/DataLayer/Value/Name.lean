import DataLayer.Fault.Misuse
import DataLayer.Text.Blank
import DataLayer.Text.Case

/-! Values in the places of names and keywords: whether they are blank, and their upper case. -/

namespace DataLayer.Value

open DataLayer.Text

/-- Holds of a value that names nothing: one that counts as nothing, or white space only. -/
def isBlankName (value : Value) : Except Misuse Bool :=
  if !value.isTruthy then .ok true
  else match value.text? with
    | some word => .ok (isBlankText word)
    | none =>
      match value with
      | .bytes row => .ok (row.all isBlankByte)
      | other => .error (.noSuchMember other.kindName "strip")

private def upperByte (byte : UInt8) : UInt8 :=
  if 97 ≤ byte && byte ≤ 122 then byte - 32 else byte

/-- A value in upper case. -/
def upperCase (value : Value) : Except Misuse Value :=
  match value.text? with
  | some word => .ok (.text (upper word))
  | none =>
    match value with
    | .bytes row => .ok (.bytes (row.map upperByte))
    | other => .error (.noSuchMember other.kindName "upper")

end DataLayer.Value
