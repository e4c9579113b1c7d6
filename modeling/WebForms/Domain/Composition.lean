import WebForms.Domain.CombiningClass

/-!
# Composed characters

A letter and its marks may be written as one character or as several. A name is brought to the
one form in which marks are in the order of their classes and joined with their letters wherever
there is a character for both.

## Main definitions

* `decompose`, `compose` — a text with all characters taken apart, with all put together
* `normalize` — the composed form of a text
-/

namespace WebForms.Domain

/-! ### Pairs -/

/-- Each character that is put together from two, behind these two. -/
def pairs : List (List Nat) := Text.hexRows
  "61 300 E0; 61 301 E1; 61 302 E2; 61 303 E3; 61 308 E4; 61 30A E5; 63 327 E7; 65 300 E8; 65 301
   E9; 65 302 EA; 65 308 EB; 69 300 EC; 69 301 ED; 69 302 EE; 69 308 EF; 6E 303 F1; 6F 300 F2; 6F
   301 F3; 6F 302 F4; 6F 303 F5; 6F 308 F6; 75 300 F9; 75 301 FA; 75 302 FB; 75 308 FC; 79 301 FD;
   79 308 FF; 61 304 101; 61 306 103; 61 328 105; 63 301 107; 63 302 109; 63 307 10B; 63 30C 10D;
   64 30C 10F; 65 304 113; 65 306 115; 65 307 117; 65 328 119; 65 30C 11B; 67 302 11D; 67 306 11F;
   67 307 121; 67 327 123; 68 302 125; 69 303 129; 69 304 12B; 69 306 12D; 69 328 12F; 6A 302 135;
   6B 327 137; 6C 301 13A; 6C 327 13C; 6C 30C 13E; 6E 301 144; 6E 327 146; 6E 30C 148; 6F 304 14D;
   6F 306 14F; 6F 30B 151; 72 301 155; 72 327 157; 72 30C 159; 73 301 15B; 73 302 15D; 73 327 15F;
   73 30C 161; 74 327 163; 74 30C 165; 75 303 169; 75 304 16B; 75 306 16D; 75 30A 16F; 75 30B 171;
   75 328 173; 77 302 175; 79 302 177; 7A 301 17A; 7A 307 17C; 7A 30C 17E; 6F 31B 1A1; 75 31B 1B0;
   61 30C 1CE; 69 30C 1D0; 6F 30C 1D2; 75 30C 1D4; FC 304 1D6; FC 301 1D8; FC 30C 1DA; FC 300 1DC;
   E4 304 1DF; 227 304 1E1; E6 304 1E3; 67 30C 1E7; 6B 30C 1E9; 6F 328 1EB; 1EB 304 1ED; 292 30C
   1EF; 6A 30C 1F0; 67 301 1F5; 6E 300 1F9; E5 301 1FB; E6 301 1FD; F8 301 1FF; 61 30F 201; 61 311
   203; 65 30F 205; 65 311 207; 69 30F 209; 69 311 20B; 6F 30F 20D; 6F 311 20F; 72 30F 211; 72 311
   213; 75 30F 215; 75 311 217; 73 326 219; 74 326 21B; 68 30C 21F; 61 307 227; 65 327 229; F6 304
   22B; F5 304 22D; 6F 307 22F; 22F 304 231; 79 304 233; 3CA 301 390; 3B1 301 3AC; 3B5 301 3AD;
   3B7 301 3AE; 3B9 301 3AF; 3CB 301 3B0; 3B9 308 3CA; 3C5 308 3CB; 3BF 301 3CC; 3C5 301 3CD; 3C9
   301 3CE; 438 306 439; 435 300 450; 435 308 451; 433 301 453; 456 308 457; 43A 301 45C; 438 300
   45D; 443 306 45E; 475 30F 477; 436 306 4C2; 430 306 4D1; 430 308 4D3; 435 306 4D7; 4D9 308 4DB;
   436 308 4DD; 437 308 4DF; 438 304 4E3; 438 308 4E5; 43E 308 4E7; 4E9 308 4EB; 44D 308 4ED; 443
   304 4EF; 443 308 4F1; 443 30B 4F3; 447 308 4F5; 44B 308 4F9; 627 653 622; 627 654 623; 648 654
   624; 627 655 625; 64A 654 626; 6D5 654 6C0; 6C1 654 6C2; 6D2 654 6D3; 928 93C 929; 930 93C 931;
   933 93C 934; 9C7 9BE 9CB; 9C7 9D7 9CC; B47 B56 B48; B47 B3E B4B; B47 B57 B4C; B92 BD7 B94; BC6
   BBE BCA; BC7 BBE BCB; BC6 BD7 BCC; C46 C56 C48; CBF CD5 CC0; CC6 CD5 CC7; CC6 CD6 CC8; CC6 CC2
   CCA; CCA CD5 CCB; D46 D3E D4A; D47 D3E D4B; D46 D57 D4C; DD9 DCA DDA; DD9 DCF DDC; DDC DCA DDD;
   DD9 DDF DDE; 1025 102E 1026; 1B05 1B35 1B06; 1B07 1B35 1B08; 1B09 1B35 1B0A; 1B0B 1B35 1B0C;
   1B0D 1B35 1B0E; 1B11 1B35 1B12; 1B3A 1B35 1B3B; 1B3C 1B35 1B3D; 1B3E 1B35 1B40; 1B3F 1B35 1B41;
   1B42 1B35 1B43; 61 325 1E01; 62 307 1E03; 62 323 1E05; 62 331 1E07; E7 301 1E09; 64 307 1E0B;
   64 323 1E0D; 64 331 1E0F; 64 327 1E11; 64 32D 1E13; 113 300 1E15; 113 301 1E17; 65 32D 1E19; 65
   330 1E1B; 229 306 1E1D; 66 307 1E1F; 67 304 1E21; 68 307 1E23; 68 323 1E25; 68 308 1E27; 68 327
   1E29; 68 32E 1E2B; 69 330 1E2D; EF 301 1E2F; 6B 301 1E31; 6B 323 1E33; 6B 331 1E35; 6C 323
   1E37; 1E37 304 1E39; 6C 331 1E3B; 6C 32D 1E3D; 6D 301 1E3F; 6D 307 1E41; 6D 323 1E43; 6E 307
   1E45; 6E 323 1E47; 6E 331 1E49; 6E 32D 1E4B; F5 301 1E4D; F5 308 1E4F; 14D 300 1E51; 14D 301
   1E53; 70 301 1E55; 70 307 1E57; 72 307 1E59; 72 323 1E5B; 1E5B 304 1E5D; 72 331 1E5F; 73 307
   1E61; 73 323 1E63; 15B 307 1E65; 161 307 1E67; 1E63 307 1E69; 74 307 1E6B; 74 323 1E6D; 74 331
   1E6F; 74 32D 1E71; 75 324 1E73; 75 330 1E75; 75 32D 1E77; 169 301 1E79; 16B 308 1E7B; 76 303
   1E7D; 76 323 1E7F; 77 300 1E81; 77 301 1E83; 77 308 1E85; 77 307 1E87; 77 323 1E89; 78 307
   1E8B; 78 308 1E8D; 79 307 1E8F; 7A 302 1E91; 7A 323 1E93; 7A 331 1E95; 68 331 1E96; 74 308
   1E97; 77 30A 1E98; 79 30A 1E99; 61 323 1EA1; 61 309 1EA3; E2 301 1EA5; E2 300 1EA7; E2 309
   1EA9; E2 303 1EAB; 1EA1 302 1EAD; 103 301 1EAF; 103 300 1EB1; 103 309 1EB3; 103 303 1EB5; 1EA1
   306 1EB7; 65 323 1EB9; 65 309 1EBB; 65 303 1EBD; EA 301 1EBF; EA 300 1EC1; EA 309 1EC3; EA 303
   1EC5; 1EB9 302 1EC7; 69 309 1EC9; 69 323 1ECB; 6F 323 1ECD; 6F 309 1ECF; F4 301 1ED1; F4 300
   1ED3; F4 309 1ED5; F4 303 1ED7; 1ECD 302 1ED9; 1A1 301 1EDB; 1A1 300 1EDD; 1A1 309 1EDF; 1A1
   303 1EE1; 1A1 323 1EE3; 75 323 1EE5; 75 309 1EE7; 1B0 301 1EE9; 1B0 300 1EEB; 1B0 309 1EED; 1B0
   303 1EEF; 1B0 323 1EF1; 79 300 1EF3; 79 323 1EF5; 79 309 1EF7; 79 303 1EF9; 3B1 313 1F00; 3B1
   314 1F01; 1F00 300 1F02; 1F01 300 1F03; 1F00 301 1F04; 1F01 301 1F05; 1F00 342 1F06; 1F01 342
   1F07; 3B5 313 1F10; 3B5 314 1F11; 1F10 300 1F12; 1F11 300 1F13; 1F10 301 1F14; 1F11 301 1F15;
   3B7 313 1F20; 3B7 314 1F21; 1F20 300 1F22; 1F21 300 1F23; 1F20 301 1F24; 1F21 301 1F25; 1F20
   342 1F26; 1F21 342 1F27; 3B9 313 1F30; 3B9 314 1F31; 1F30 300 1F32; 1F31 300 1F33; 1F30 301
   1F34; 1F31 301 1F35; 1F30 342 1F36; 1F31 342 1F37; 3BF 313 1F40; 3BF 314 1F41; 1F40 300 1F42;
   1F41 300 1F43; 1F40 301 1F44; 1F41 301 1F45; 3C5 313 1F50; 3C5 314 1F51; 1F50 300 1F52; 1F51
   300 1F53; 1F50 301 1F54; 1F51 301 1F55; 1F50 342 1F56; 1F51 342 1F57; 3C9 313 1F60; 3C9 314
   1F61; 1F60 300 1F62; 1F61 300 1F63; 1F60 301 1F64; 1F61 301 1F65; 1F60 342 1F66; 1F61 342 1F67;
   3B1 300 1F70; 3B5 300 1F72; 3B7 300 1F74; 3B9 300 1F76; 3BF 300 1F78; 3C5 300 1F7A; 3C9 300
   1F7C; 3B1 306 1FB0; 3B1 304 1FB1; 3B1 342 1FB6; 3B7 342 1FC6; 3B9 306 1FD0; 3B9 304 1FD1; 3CA
   300 1FD2; 3B9 342 1FD6; 3CA 342 1FD7; 3C5 306 1FE0; 3C5 304 1FE1; 3CB 300 1FE2; 3C1 313 1FE4;
   3C1 314 1FE5; 3C5 342 1FE6; 3CB 342 1FE7; 3C9 342 1FF6; 2190 338 219A; 2192 338 219B; 2194 338
   21AE; 21D0 338 21CD; 21D4 338 21CE; 21D2 338 21CF; 2203 338 2204; 2208 338 2209; 220B 338 220C;
   2223 338 2224; 2225 338 2226; 223C 338 2241; 2243 338 2244; 2245 338 2247; 2248 338 2249; 3D
   338 2260; 2261 338 2262; 224D 338 226D; 3C 338 226E; 3E 338 226F; 2264 338 2270; 2265 338 2271;
   2272 338 2274; 2273 338 2275; 2276 338 2278; 2277 338 2279; 227A 338 2280; 227B 338 2281; 2282
   338 2284; 2283 338 2285; 2286 338 2288; 2287 338 2289; 22A2 338 22AC; 22A8 338 22AD; 22A9 338
   22AE; 22AB 338 22AF; 227C 338 22E0; 227D 338 22E1; 2291 338 22E2; 2292 338 22E3; 22B2 338 22EA;
   22B3 338 22EB; 22B4 338 22EC; 22B5 338 22ED; 304B 3099 304C; 304D 3099 304E; 304F 3099 3050;
   3051 3099 3052; 3053 3099 3054; 3055 3099 3056; 3057 3099 3058; 3059 3099 305A; 305B 3099 305C;
   305D 3099 305E; 305F 3099 3060; 3061 3099 3062; 3064 3099 3065; 3066 3099 3067; 3068 3099 3069;
   306F 3099 3070; 306F 309A 3071; 3072 3099 3073; 3072 309A 3074; 3075 3099 3076; 3075 309A 3077;
   3078 3099 3079; 3078 309A 307A; 307B 3099 307C; 307B 309A 307D; 3046 3099 3094; 309D 3099 309E;
   30AB 3099 30AC; 30AD 3099 30AE; 30AF 3099 30B0; 30B1 3099 30B2; 30B3 3099 30B4; 30B5 3099 30B6;
   30B7 3099 30B8; 30B9 3099 30BA; 30BB 3099 30BC; 30BD 3099 30BE; 30BF 3099 30C0; 30C1 3099 30C2;
   30C4 3099 30C5; 30C6 3099 30C7; 30C8 3099 30C9; 30CF 3099 30D0; 30CF 309A 30D1; 30D2 3099 30D3;
   30D2 309A 30D4; 30D5 3099 30D6; 30D5 309A 30D7; 30D8 3099 30D9; 30D8 309A 30DA; 30DB 3099 30DC;
   30DB 309A 30DD; 30A6 3099 30F4; 30EF 3099 30F7; 30F0 3099 30F8; 30F1 3099 30F9; 30F2 3099 30FA;
   30FD 3099 30FE; 105D2 307 105C9; 105DA 307 105E4; 11099 110BA 1109A; 1109B 110BA 1109C; 110A5
   110BA 110AB; 11131 11127 1112E; 11132 11127 1112F; 11347 1133E 1134B; 11347 11357 1134C; 11382
   113C9 11383; 11384 113BB 11385; 1138B 113C2 1138E; 11390 113C9 11391; 113C2 113C2 113C5; 113C2
   113B8 113C7; 113C2 113C9 113C8; 114B9 114BA 114BB; 114B9 114B0 114BC; 114B9 114BD 114BE; 115B8
   115AF 115BA; 115B9 115AF 115BB; 11935 11930 11938; 1611E 1611E 16121; 1611E 16129 16122; 1611E
   1611F 16123; 16129 1611F 16124; 1611E 16120 16125; 16121 1611F 16126; 16122 1611F 16127; 16121
   16120 16128; 16D67 16D67 16D68; 16D63 16D67 16D69; 16D69 16D67 16D6A"

/-- The composed characters, each with its two parts. -/
def parts : Array (Nat × Nat × Nat) :=
  (pairs.filterMap fun
    | [a, b, c] => some (c, a, b)
    | _ => none).toArray

/-! ### Syllables

The syllables of Korean are put together by arithmetic: 19 initials, 21 vowels and 27 finals. -/

/-- The parts of a syllable: a syllable without its final and the final, or initial and vowel. -/
def syllableParts? (n : Nat) : Option (Nat × Nat) :=
  if 0xAC00 ≤ n ∧ n < 0xAC00 + 11172 then
    let i := n - 0xAC00
    if i % 28 = 0 then some (0x1100 + i / 588, 0x1161 + i % 588 / 28)
    else some (n - i % 28, 0x11A7 + i % 28)
  else none

/-- The syllable that is put together from two parts. -/
def syllable? (a b : Nat) : Option Nat :=
  if 0x1100 ≤ a ∧ a < 0x1113 ∧ 0x1161 ≤ b ∧ b < 0x1176 then
    some (0xAC00 + ((a - 0x1100) * 21 + (b - 0x1161)) * 28)
  else if 0xAC00 ≤ a ∧ a < 0xAC00 + 11172 ∧ (a - 0xAC00) % 28 = 0 ∧ 0x11A8 ≤ b ∧ b < 0x11C3 then
    some (a + (b - 0x11A7))
  else none

/-! ### Taking apart and putting together -/

/-- The two parts of a character, if it has parts. -/
def parts? (n : Nat) : Option (Nat × Nat) :=
  if n < 0xC0 then none
  else (syllableParts? n).or ((parts.find? (·.1 == n)).map (·.2))

/-- The character that is put together from `a` and `b`. -/
def pair? (a b : Nat) : Option Nat :=
  if b < 0x300 then none
  else (syllable? a b).or ((parts.find? fun p => p.2 == (a, b)).map (·.1))

/-- A code point taken apart as far as it goes. Only a first part of a lower number has parts. -/
def decomposeFrom (n : Nat) : List Nat :=
  match parts? n with
  | some (a, b) => if a < n then decomposeFrom a ++ [b] else [a, b]
  | none => [n]
termination_by n

/-- Puts a mark in front of others that are in order: behind those of lower classes. -/
def insertMark (c : Char) : List Char → List Char
  | [] => [c]
  | d :: ds =>
    if combiningClass d ≠ 0 ∧ combiningClass d < combiningClass c then d :: insertMark c ds
    else c :: d :: ds

/-- A text with its marks in order. -/
def orderMarks (cs : List Char) : List Char := cs.foldr insertMark []

/-- A text with all characters taken apart and its marks in order. -/
def decompose (cs : List Char) : List Char :=
  orderMarks (cs.flatMap fun c => (decomposeFrom c.toNat).map Char.ofNat)

/-- Puts together the characters from `letter` on; `marks` stand behind it, last one first, and
have not been joined with it. A character is joined with the letter unless a mark between them is
of no lower class. -/
def composeFrom (letter : Char) (marks : List Char) : List Char → List Char
  | [] => letter :: marks.reverse
  | c :: cs =>
    let free := marks.head?.all fun m => combiningClass m < combiningClass c
    match if free then pair? letter.toNat c.toNat else none with
    | some n => composeFrom (Char.ofNat n) marks cs
    | none =>
      if combiningClass c = 0 then letter :: marks.reverse ++ composeFrom c [] cs
      else composeFrom letter (c :: marks) cs

/-- A text with all characters put together. Marks without a letter stay. -/
def compose (cs : List Char) : List Char :=
  let front := cs.takeWhile (combiningClass · ≠ 0)
  match cs.dropWhile (combiningClass · ≠ 0) with
  | [] => front
  | c :: rest => front ++ composeFrom c [] rest

/-- The composed form of a text. -/
def normalize (cs : List Char) : List Char := compose (decompose cs)

end WebForms.Domain
