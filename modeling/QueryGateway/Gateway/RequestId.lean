/-!
# Names of requests

A request is named by a random identifier of version 4, written in groups of lower-case hexadecimal digits. Where
names must be foreseeable they are numbered.
-/

namespace QueryGateway.RequestId

/-- The name of the n-th request, from one on. -/
def numbered (n : Nat) : String := "req-" ++ Nat.repr n

/-- The lowest `count` hexadecimal digits of a number, most significant first. -/
def hexDigits (count n : Nat) : List Char :=
  (List.range count).reverse.map fun i => Nat.digitChar (n / Nat.pow 16 i % 16)

/-- The identifier of version 4 with these random bits. Its third group starts with the version, its fourth with the
two bits of the variant. -/
def random (bits : Nat) : String :=
  let group (count shift : Nat) : List Char := hexDigits count (bits / Nat.pow 2 shift)
  String.ofList
    (group 8 90 ++ '-' :: group 4 74 ++ '-' :: '4' :: group 3 62 ++
      '-' :: Nat.digitChar (8 + bits / Nat.pow 2 60 % 4) :: group 3 48 ++ '-' :: group 12 0)

/-- Whether a character is a lower-case hexadecimal digit. -/
def isHex (c : Char) : Bool :=
  c.isDigit || ('a' ≤ c && c ≤ 'f')

/-- Whether a text is an identifier of version 4: groups of 8, 4, 4, 4 and 12 digits, with the version and the variant
in their places. -/
def isRandom (id : String) : Bool :=
  match id.splitOn "-" with
  | [a, b, c, d, e] =>
    [a, b, c, d, e].map String.length = [8, 4, 4, 4, 12] && [a, b, c, d, e].all (·.toList.all isHex) &&
      c.toList.head? = some '4' && (d.toList.head?.any fun x => ['8', '9', 'a', 'b'].contains x)
  | _ => false

end QueryGateway.RequestId
