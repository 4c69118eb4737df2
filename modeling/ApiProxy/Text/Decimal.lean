/-!
# Numbers in texts

A number in a message stands in decimal digits without a sign or leading zeros.
-/

namespace ApiProxy.Text

/-- A number in decimal digits. -/
def decimal (n : Nat) : String := String.ofList (Nat.toDigits 10 n)

end ApiProxy.Text
