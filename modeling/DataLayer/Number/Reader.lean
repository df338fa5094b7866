import DataLayer.Number.Binary64
import DataLayer.Number.Decimal

/-! Reading floating-point numbers from their decimal text. -/

namespace DataLayer

/-- The floating-point number nearest to a decimal one. -/
def Decimal.toBinary64 : Decimal → Binary64
  | .finite negative digits exponent => Binary64.ofDecimal negative digits exponent
  | .infinite negative => Binary64.infinity negative
  | .undefined _ _ _ => Binary64.nan

/-- Reads a floating-point number as it is written. -/
def Binary64.ofText? (written : String) : Option Binary64 :=
  (Decimal.ofText? written).map Decimal.toBinary64

end DataLayer
