import ChatScribe.Text.Utf8

/-!
# Host names

A host may be written with percent escapes, in capitals, in other letter shapes, and with characters
that count for nothing. `Host.fold?` reads a host down to the plain small letters of the one host that
matters here: a character that no letter of that host has as a shape stays as it is, so hosts fold to
that host exactly when they name it.
-/

namespace ChatScribe.Url

/-- The host of the pages that hold shared conversations. -/
def shareHost : Text := "gemini.google.com".toList

namespace Host

/-- Other shapes of the letters of the host, and of pairs and groups of them. -/
def shapes : List (String × List Nat) :=
  [ ("o", [0xBA, 0x1D3C, 0x1D52, 0x2092, 0x2134, 0x24C4, 0x24DE, 0xFF2F, 0xFF4F, 0x1D40E,
      0x1D428, 0x1D442, 0x1D45C, 0x1D476, 0x1D490, 0x1D4AA, 0x1D4DE, 0x1D4F8, 0x1D512, 0x1D52C,
      0x1D546, 0x1D560, 0x1D57A, 0x1D594, 0x1D5AE, 0x1D5C8, 0x1D5E2, 0x1D5FC, 0x1D616, 0x1D630,
      0x1D64A, 0x1D664, 0x1D67E, 0x1D698, 0x1F13E]),
    ("l", [0x2E1, 0x1D38, 0x2097, 0x2112, 0x2113, 0x216C, 0x217C, 0x24C1, 0x24DB, 0xFF2C, 0xFF4C,
      0x1D40B, 0x1D425, 0x1D43F, 0x1D459, 0x1D473, 0x1D48D, 0x1D4C1, 0x1D4DB, 0x1D4F5, 0x1D50F,
      0x1D529, 0x1D543, 0x1D55D, 0x1D577, 0x1D591, 0x1D5AB, 0x1D5C5, 0x1D5DF, 0x1D5F9, 0x1D613,
      0x1D62D, 0x1D647, 0x1D661, 0x1D67B, 0x1D695, 0x1F13B]),
    ("e", [0x1D31, 0x1D49, 0x2091, 0x212F, 0x2130, 0x2147, 0x24BA, 0x24D4, 0xFF25, 0xFF45,
      0x1D404, 0x1D41E, 0x1D438, 0x1D452, 0x1D46C, 0x1D486, 0x1D4D4, 0x1D4EE, 0x1D508, 0x1D522,
      0x1D53C, 0x1D556, 0x1D570, 0x1D58A, 0x1D5A4, 0x1D5BE, 0x1D5D8, 0x1D5F2, 0x1D60C, 0x1D626,
      0x1D640, 0x1D65A, 0x1D674, 0x1D68E, 0x1F134]),
    ("g", [0x1D33, 0x1D4D, 0x210A, 0x24BC, 0x24D6, 0xFF27, 0xFF47, 0x1D406, 0x1D420, 0x1D43A,
      0x1D454, 0x1D46E, 0x1D488, 0x1D4A2, 0x1D4D6, 0x1D4F0, 0x1D50A, 0x1D524, 0x1D53E, 0x1D558,
      0x1D572, 0x1D58C, 0x1D5A6, 0x1D5C0, 0x1D5DA, 0x1D5F4, 0x1D60E, 0x1D628, 0x1D642, 0x1D65C,
      0x1D676, 0x1D690, 0x1F136]),
    ("i", [0x1D35, 0x1D62, 0x2071, 0x2110, 0x2111, 0x2139, 0x2148, 0x2160, 0x2170, 0x24BE,
      0x24D8, 0xFF29, 0xFF49, 0x1D408, 0x1D422, 0x1D43C, 0x1D456, 0x1D470, 0x1D48A, 0x1D4BE,
      0x1D4D8, 0x1D4F2, 0x1D526, 0x1D540, 0x1D55A, 0x1D574, 0x1D58E, 0x1D5A8, 0x1D5C2, 0x1D5DC,
      0x1D5F6, 0x1D610, 0x1D62A, 0x1D644, 0x1D65E, 0x1D678, 0x1D692, 0x1F138]),
    ("m", [0x1D39, 0x1D50, 0x2098, 0x2133, 0x216F, 0x217F, 0x24C2, 0x24DC, 0xFF2D, 0xFF4D,
      0x1D40C, 0x1D426, 0x1D440, 0x1D45A, 0x1D474, 0x1D48E, 0x1D4C2, 0x1D4DC, 0x1D4F6, 0x1D510,
      0x1D52A, 0x1D544, 0x1D55E, 0x1D578, 0x1D592, 0x1D5AC, 0x1D5C6, 0x1D5E0, 0x1D5FA, 0x1D614,
      0x1D62E, 0x1D648, 0x1D662, 0x1D67C, 0x1D696, 0x1F13C]),
    ("n", [0x1D3A, 0x207F, 0x2099, 0x2115, 0x24C3, 0x24DD, 0xFF2E, 0xFF4E, 0x1D40D, 0x1D427,
      0x1D441, 0x1D45B, 0x1D475, 0x1D48F, 0x1D4A9, 0x1D4C3, 0x1D4DD, 0x1D4F7, 0x1D511, 0x1D52B,
      0x1D55F, 0x1D579, 0x1D593, 0x1D5AD, 0x1D5C7, 0x1D5E1, 0x1D5FB, 0x1D615, 0x1D62F, 0x1D649,
      0x1D663, 0x1D67D, 0x1D697, 0x1F13D]),
    ("c", [0x1D9C, 0x2102, 0x212D, 0x216D, 0x217D, 0x24B8, 0x24D2, 0xA7F2, 0xFF23, 0xFF43,
      0x1D402, 0x1D41C, 0x1D436, 0x1D450, 0x1D46A, 0x1D484, 0x1D49E, 0x1D4B8, 0x1D4D2, 0x1D4EC,
      0x1D520, 0x1D554, 0x1D56E, 0x1D588, 0x1D5A2, 0x1D5BC, 0x1D5D6, 0x1D5F0, 0x1D60A, 0x1D624,
      0x1D63E, 0x1D658, 0x1D672, 0x1D68C, 0x1F12B, 0x1F132]),
    ("no", [0x2116]),
    ("ii", [0x2161, 0x2171]),
    ("iii", [0x2162, 0x2172]),
    (".", [0x3002, 0xFF0E, 0xFF61]),
    ("mg", [0x338E]),
    ("ml", [0x3396]),
    ("nm", [0x339A]),
    ("mm", [0x339C]),
    ("cm", [0x339D]),
    ("cc", [0x33C4]),
    ("in", [0x33CC]),
    ("lm", [0x33D0]),
    ("ln", [0x33D1]),
    ("log", [0x33D2]),
    ("mil", [0x33D5]),
    ("mol", [0x33D6]),
    ("mc", [0x1F16A])]

/-- Ranges of characters that count for nothing in a host. -/
def silent : List (Nat × Nat) :=
  [(0xAD, 0xAD), (0x34F, 0x34F), (0x180B, 0x180D), (0x180F, 0x180F), (0x200B, 0x200B),
    (0x2060, 0x2060), (0x2064, 0x2064), (0xFE00, 0xFE0F), (0xFEFF, 0xFEFF), (0x1BCA0, 0x1BCA3),
    (0xE0100, 0xE01EF)]

/-- The letters that a character of a host stands for. -/
def foldChar (c : Char) : Text :=
  let n := c.toNat
  if n < 0x80 then [Text.lowerChar c]
  else if silent.any fun (low, high) => low ≤ n && n ≤ high then []
  else
    match shapes.find? fun (_, ns) => ns.contains n with
    | some (letters, _) => letters.toList
    | none => [c]

/-- The bytes of a host with its percent escapes undone. -/
def unescape : List UInt8 → List UInt8
  | 0x25 :: h :: l :: r =>
    let high := Char.ofNat h.toNat
    let low := Char.ofNat l.toNat
    if Text.isHexDigit high && Text.isHexDigit low then
      UInt8.ofNat (16 * Text.hexValue high + Text.hexValue low) :: unescape r
    else 0x25 :: unescape (h :: l :: r)
  | a :: r => a :: unescape r
  | [] => []

/-- The host in plain small letters, if its bytes are a text. -/
def fold? (host : Text) : Option Text :=
  (Utf8.decode? (unescape (Utf8.encode host))).map fun t => t.flatMap foldChar

end Host

end ChatScribe.Url
