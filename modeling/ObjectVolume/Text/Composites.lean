import ObjectVolume.Text.Ranges
/-!
# Composite characters

Some characters stand for a character and a mark, or for two parts of a syllable. Syllables of
Korean are numbered by their parts; all others are listed.
-/
namespace ObjectVolume.Text

/-- A first character with the second ones that it goes together with, each followed by what they
make. -/
structure Family where
  first : Nat
  members : List (Nat × Nat)

namespace Family

def pairs : List Nat → List (Nat × Nat)
  | a :: b :: r => (a, b) :: pairs r
  | _ => []

def ofNumbers : List Nat → Option Family
  | [] => none
  | first :: r => some ⟨first, pairs r⟩

/-- Reads lines in which families are separated by commas. -/
def ofLines (lines : List String) : List Family :=
  lines.flatMap fun line =>
    (line.toList.splitOn ',').filterMap fun cs => ofNumbers ((Ranges.words cs).map hexNumber)

end Family

/-- The composites among the characters of domain names, but for the syllables of Korean. -/
def families : List Family :=
  Family.ofLines [
    "3c 338 226e, 3d 338 2260, 3e 338 226f, 61 300 e0 301 e1 302 e2 303 e3 308 e4 30a e5 304 101",
    "61 306 103 328 105 30c 1ce 30f 201 311 203 307 227 325 1e01 323 1ea1 309 1ea3, 62 307 1e03",
    "62 323 1e05 331 1e07, 63 327 e7 301 107 302 109 307 10b 30c 10d, 64 30c 10f 307 1e0b",
    "64 323 1e0d 331 1e0f 327 1e11 32d 1e13, 65 300 e8 301 e9 302 ea 308 eb 304 113 306 115",
    "65 307 117 328 119 30c 11b 30f 205 311 207 327 229 32d 1e19 330 1e1b 323 1eb9 309 1ebb",
    "65 303 1ebd, 66 307 1e1f, 67 302 11d 306 11f 307 121 327 123 30c 1e7 301 1f5 304 1e21",
    "68 302 125 30c 21f 307 1e23 323 1e25 308 1e27 327 1e29 32e 1e2b 331 1e96, 69 300 ec 301 ed",
    "69 302 ee 308 ef 303 129 304 12b 306 12d 328 12f 30c 1d0 30f 209 311 20b 330 1e2d 309 1ec9",
    "69 323 1ecb, 6a 302 135 30c 1f0, 6b 327 137 30c 1e9 301 1e31 323 1e33 331 1e35, 6c 301 13a",
    "6c 327 13c 30c 13e 323 1e37 331 1e3b 32d 1e3d, 6d 301 1e3f 307 1e41 323 1e43, 6e 303 f1",
    "6e 301 144 327 146 30c 148 300 1f9 307 1e45 323 1e47 331 1e49 32d 1e4b, 6f 300 f2 301 f3",
    "6f 302 f4 303 f5 308 f6 304 14d 306 14f 30b 151 31b 1a1 30c 1d2 328 1eb 30f 20d 311 20f",
    "6f 307 22f 323 1ecd 309 1ecf, 70 301 1e55 307 1e57, 72 301 155 327 157 30c 159 30f 211",
    "72 311 213 307 1e59 323 1e5b 331 1e5f, 73 301 15b 302 15d 327 15f 30c 161 326 219 307 1e61",
    "73 323 1e63, 74 327 163 30c 165 326 21b 307 1e6b 323 1e6d 331 1e6f 32d 1e71 308 1e97",
    "75 300 f9 301 fa 302 fb 308 fc 303 169 304 16b 306 16d 30a 16f 30b 171 328 173 31b 1b0",
    "75 30c 1d4 30f 215 311 217 324 1e73 330 1e75 32d 1e77 323 1ee5 309 1ee7, 76 303 1e7d",
    "76 323 1e7f, 77 302 175 300 1e81 301 1e83 308 1e85 307 1e87 323 1e89 30a 1e98, 78 307 1e8b",
    "78 308 1e8d, 79 301 fd 308 ff 302 177 304 233 307 1e8f 30a 1e99 300 1ef3 323 1ef5 309 1ef7",
    "79 303 1ef9, 7a 301 17a 307 17c 30c 17e 302 1e91 323 1e93 331 1e95, e2 301 1ea5 300 1ea7",
    "e2 309 1ea9 303 1eab, e4 304 1df, e5 301 1fb, e6 304 1e3 301 1fd, e7 301 1e09, ea 301 1ebf",
    "ea 300 1ec1 309 1ec3 303 1ec5, ef 301 1e2f, f4 301 1ed1 300 1ed3 309 1ed5 303 1ed7",
    "f5 304 22d 301 1e4d 308 1e4f, f6 304 22b, f8 301 1ff, fc 304 1d6 301 1d8 30c 1da 300 1dc",
    "103 301 1eaf 300 1eb1 309 1eb3 303 1eb5, 113 300 1e15 301 1e17, 14d 300 1e51 301 1e53",
    "15b 307 1e65, 161 307 1e67, 169 301 1e79, 16b 308 1e7b, 1a1 301 1edb 300 1edd 309 1edf",
    "1a1 303 1ee1 323 1ee3, 1b0 301 1ee9 300 1eeb 309 1eed 303 1eef 323 1ef1, 1eb 304 1ed",
    "227 304 1e1, 229 306 1e1d, 22f 304 231, 292 30c 1ef, 3b1 301 3ac 313 1f00 314 1f01 300 1f70",
    "3b1 306 1fb0 304 1fb1 342 1fb6, 3b5 301 3ad 313 1f10 314 1f11 300 1f72, 3b7 301 3ae 313 1f20",
    "3b7 314 1f21 300 1f74 342 1fc6, 3b9 301 3af 308 3ca 313 1f30 314 1f31 300 1f76 306 1fd0",
    "3b9 304 1fd1 342 1fd6, 3bf 301 3cc 313 1f40 314 1f41 300 1f78, 3c1 313 1fe4 314 1fe5",
    "3c5 308 3cb 301 3cd 313 1f50 314 1f51 300 1f7a 306 1fe0 304 1fe1 342 1fe6, 3c9 301 3ce",
    "3c9 313 1f60 314 1f61 300 1f7c 342 1ff6, 3ca 301 390 300 1fd2 342 1fd7, 3cb 301 3b0 300 1fe2",
    "3cb 342 1fe7, 430 306 4d1 308 4d3, 433 301 453, 435 300 450 308 451 306 4d7, 436 306 4c2",
    "436 308 4dd, 437 308 4df, 438 306 439 300 45d 304 4e3 308 4e5, 43a 301 45c, 43e 308 4e7",
    "443 306 45e 304 4ef 308 4f1 30b 4f3, 447 308 4f5, 44b 308 4f9, 44d 308 4ed, 456 308 457",
    "475 30f 477, 4d9 308 4db, 4e9 308 4eb, 627 653 622 654 623 655 625, 648 654 624, 64a 654 626",
    "6c1 654 6c2, 6d2 654 6d3, 6d5 654 6c0, 928 93c 929, 930 93c 931, 933 93c 934, 9c7 9be 9cb",
    "9c7 9d7 9cc, b47 b56 b48 b3e b4b b57 b4c, b92 bd7 b94, bc6 bbe bca bd7 bcc, bc7 bbe bcb",
    "c46 c56 c48, cbf cd5 cc0, cc6 cd5 cc7 cd6 cc8 cc2 cca, cca cd5 ccb, d46 d3e d4a d57 d4c",
    "d47 d3e d4b, dd9 dca dda dcf ddc ddf dde, ddc dca ddd, 1025 102e 1026, 1b05 1b35 1b06",
    "1b07 1b35 1b08, 1b09 1b35 1b0a, 1b0b 1b35 1b0c, 1b0d 1b35 1b0e, 1b11 1b35 1b12",
    "1b3a 1b35 1b3b, 1b3c 1b35 1b3d, 1b3e 1b35 1b40, 1b3f 1b35 1b41, 1b42 1b35 1b43",
    "1e37 304 1e39, 1e5b 304 1e5d, 1e63 307 1e69, 1ea1 302 1ead 306 1eb7, 1eb9 302 1ec7",
    "1ecd 302 1ed9, 1f00 300 1f02 301 1f04 342 1f06, 1f01 300 1f03 301 1f05 342 1f07",
    "1f10 300 1f12 301 1f14, 1f11 300 1f13 301 1f15, 1f20 300 1f22 301 1f24 342 1f26",
    "1f21 300 1f23 301 1f25 342 1f27, 1f30 300 1f32 301 1f34 342 1f36, 1f31 300 1f33 301 1f35",
    "1f31 342 1f37, 1f40 300 1f42 301 1f44, 1f41 300 1f43 301 1f45, 1f50 300 1f52 301 1f54",
    "1f50 342 1f56, 1f51 300 1f53 301 1f55 342 1f57, 1f60 300 1f62 301 1f64 342 1f66",
    "1f61 300 1f63 301 1f65 342 1f67, 2190 338 219a, 2192 338 219b, 2194 338 21ae, 21d0 338 21cd",
    "21d2 338 21cf, 21d4 338 21ce, 2203 338 2204, 2208 338 2209, 220b 338 220c, 2223 338 2224",
    "2225 338 2226, 223c 338 2241, 2243 338 2244, 2245 338 2247, 2248 338 2249, 224d 338 226d",
    "2261 338 2262, 2264 338 2270, 2265 338 2271, 2272 338 2274, 2273 338 2275, 2276 338 2278",
    "2277 338 2279, 227a 338 2280, 227b 338 2281, 227c 338 22e0, 227d 338 22e1, 2282 338 2284",
    "2283 338 2285, 2286 338 2288, 2287 338 2289, 2291 338 22e2, 2292 338 22e3, 22a2 338 22ac",
    "22a8 338 22ad, 22a9 338 22ae, 22ab 338 22af, 22b2 338 22ea, 22b3 338 22eb, 22b4 338 22ec",
    "22b5 338 22ed, 3046 3099 3094, 304b 3099 304c, 304d 3099 304e, 304f 3099 3050",
    "3051 3099 3052, 3053 3099 3054, 3055 3099 3056, 3057 3099 3058, 3059 3099 305a",
    "305b 3099 305c, 305d 3099 305e, 305f 3099 3060, 3061 3099 3062, 3064 3099 3065",
    "3066 3099 3067, 3068 3099 3069, 306f 3099 3070 309a 3071, 3072 3099 3073 309a 3074",
    "3075 3099 3076 309a 3077, 3078 3099 3079 309a 307a, 307b 3099 307c 309a 307d, 309d 3099 309e",
    "30a6 3099 30f4, 30ab 3099 30ac, 30ad 3099 30ae, 30af 3099 30b0, 30b1 3099 30b2",
    "30b3 3099 30b4, 30b5 3099 30b6, 30b7 3099 30b8, 30b9 3099 30ba, 30bb 3099 30bc",
    "30bd 3099 30be, 30bf 3099 30c0, 30c1 3099 30c2, 30c4 3099 30c5, 30c6 3099 30c7",
    "30c8 3099 30c9, 30cf 3099 30d0 309a 30d1, 30d2 3099 30d3 309a 30d4, 30d5 3099 30d6 309a 30d7",
    "30d8 3099 30d9 309a 30da, 30db 3099 30dc 309a 30dd, 30ef 3099 30f7, 30f0 3099 30f8",
    "30f1 3099 30f9, 30f2 3099 30fa, 30fd 3099 30fe, 11099 110ba 1109a, 1109b 110ba 1109c",
    "110a5 110ba 110ab, 11131 11127 1112e, 11132 11127 1112f, 11347 1133e 1134b 11357 1134c",
    "114b9 114ba 114bb 114b0 114bc 114bd 114be, 115b8 115af 115ba, 115b9 115af 115bb",
    "11935 11930 11938"]

/-! ## Syllables of Korean -/

namespace Hangul

def firstSyllable : Nat := 0xac00
def firstLead : Nat := 0x1100
def firstVowel : Nat := 0x1161
/-- The number before that of the first tail. -/
def noTail : Nat := 0x11a7
def leadCount : Nat := 19
def vowelCount : Nat := 21
/-- Tails, and the absence of one. -/
def tailCount : Nat := 28

def isSyllable (n : Nat) : Bool :=
  firstSyllable ≤ n && n < firstSyllable + leadCount * vowelCount * tailCount

/-- A lead and a vowel make a syllable, and a tail may follow. -/
def compose? (a b : Nat) : Option Nat :=
  if firstLead ≤ a ∧ a < firstLead + leadCount ∧ firstVowel ≤ b ∧ b < firstVowel + vowelCount then
    some (firstSyllable + ((a - firstLead) * vowelCount + (b - firstVowel)) * tailCount)
  else if isSyllable a ∧ (a - firstSyllable) % tailCount = 0 ∧ noTail < b ∧ b < noTail + tailCount then
    some (a + (b - noTail))
  else none

/-- Takes a syllable apart: its tail comes off first. -/
def decompose? (n : Nat) : Option (Nat × Nat) :=
  if isSyllable n then
    let i := n - firstSyllable
    let tail := i % tailCount
    if tail = 0 then
      some (firstLead + i / tailCount / vowelCount, firstVowel + i / tailCount % vowelCount)
    else some (n - tail, noTail + tail)
  else none

end Hangul

/-! ## Composing and taking apart -/

/-- The character that two others make. -/
def compose? (a b : Char) : Option Char :=
  let listed (f : Family) : Option Nat := if f.first = a.toNat then f.members.lookup b.toNat else none
  (families.findSome? listed <|> Hangul.compose? a.toNat b.toNat).map Char.ofNat

/-- The two characters that a composite stands for. -/
def decompose? (c : Char) : Option (Char × Char) :=
  let listed (f : Family) : Option (Nat × Nat) :=
    (f.members.find? (·.2 == c.toNat)).map fun (second, _) => (f.first, second)
  if c.toNat < 0x80 then none
  else (families.findSome? listed <|> Hangul.decompose? c.toNat).map fun (a, b) => (.ofNat a, .ofNat b)

end ObjectVolume.Text
