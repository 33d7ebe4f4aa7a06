/-!
Base64 with the usual alphabet and padding. Three bytes make four characters;
what is left at the end is filled up with equals signs.
-/

namespace PageHarvest.Text

/-- The characters for the values from 0 to 63. -/
def base64Alphabet : List Char :=
  "ABCDEFGHIJKLMNOPQRSTUVWXYZabcdefghijklmnopqrstuvwxyz0123456789+/".toList

def base64Char (n : Nat) : Char := base64Alphabet.getD n '='

def base64 : List UInt8 → List Char
  | [] => []
  | [a] =>
      let n := a.toNat
      [base64Char (n / 4), base64Char (n % 4 * 16), '=', '=']
  | [a, b] =>
      let n := a.toNat * 256 + b.toNat
      [base64Char (n / 1024), base64Char (n / 16 % 64), base64Char (n % 16 * 4), '=']
  | a :: b :: c :: rest =>
      let n := (a.toNat * 256 + b.toNat) * 256 + c.toNat
      base64Char (n / 262144) :: base64Char (n / 4096 % 64) :: base64Char (n / 64 % 64) ::
        base64Char (n % 64) :: base64 rest

end PageHarvest.Text
