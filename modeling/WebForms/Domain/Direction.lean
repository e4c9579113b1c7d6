import WebForms.Text.Table

/-!
# Writing direction

Some scripts run from right to left. A name with a label in such a script is read safely only if
every label keeps to one direction, so that no character seems to belong to another label.

## Main definitions

* `Direction` — how a character takes part in the direction of a line
* `runsLeft` — a label that makes its name one of mixed direction
* `keepsDirection` — the rule for the labels of such a name
-/

namespace WebForms.Domain

/-- How a character takes part in the direction of a line. -/
inductive Direction where
  | right
  | left
  | arabicLetter
  | arabicNumber
  | number
  | numberSign
  | separator
  | terminator
  | neutral
  | boundary
  | mark
  deriving DecidableEq, Repr

/-- The boundaries of the letters that run to the left. -/
def leftBounds : Array Nat := Text.hexBounds
  "5BE 5BF 5C0 5C1 5C3 5C4 5C6 5C7 5D0 5F5 7C0 7EB 7F4 7F6 7FA 7FB 7FE 816 81A 81B 824 825 828 829
   830 859 85E 85F 10800 1091C 10920 10A01 10A10 10A36 10A40 10AE5 10AEB 10B36 10B40 10D00 10D40
   10D50 10D6E 10D90 10E80 10EAA 10EAD 10EB2 10F00 10F28 10F70 10F82 10F86 10FF7 1E800 1E8D0 1E922
   1E944 1E94B 1E960"

/-- The boundaries of the letters of the Arabic and related scripts. -/
def arabicLetterBounds : Array Nat := Text.hexBounds
  "608 609 60B 60C 60D 60E 61B 64B 66D 670 671 6D6 6E5 6E7 6EE 6F0 6FA 711 712 730 74D 7A6 7B1 7B2
   860 890 8A0 8CA FBB2 FBC3 FE73 FE74 10D00 10D24 10EC2 10ED9 10F30 10F46 10F51 10F5A 1EC71 1ED3E"

/-- The boundaries of the Arabic digits and their like. -/
def arabicNumberBounds : Array Nat := Text.hexBounds
  "660 66A 66B 66D 10D30 10D3A 10E60 10E7F"

/-- The boundaries of the other digits that count as such. -/
def numberBounds : Array Nat := Text.hexBounds
  "6F0 6FA 102E1 102FC"

/-- The boundaries of the signs that stand between digits. -/
def separatorBounds : Array Nat := Text.hexBounds
  "60C 60D 2044 2045"

/-- The boundaries of the signs that stand beside digits. -/
def terminatorBounds : Array Nat := Text.hexBounds
  "A2 A6 B0 B2 58F 590 609 60B 66A 66B 9F2 9F4 9FB 9FC AF1 AF2 BF9 BFA E3F E40 17DB 17DC 2030 2033
   20A0 20C2 212E 212F 2213 2214 A838 A83A 11FDD 11FE1 1E2FF 1E300"

/-- The boundaries of the symbols. -/
def neutralBounds : Array Nat := Text.hexBounds
  "A1 A2 A6 AF B6 D8 F7 F8 2B9 2BB 2C2 2D0 2D2 2EE 2EF 300 375 376 3F6 3F7 58A 58F 606 608 60E 610
   6DE 6DF 6E9 6EA 7F6 7FA BF3 BF9 BFA BFB C78 C7F F3A F3E 1390 139A 1400 1401 169B 169D 17F0 180B
   1940 1946 19DE 1A00 1B4E 1B50 1B7F 1B80 2010 2028 2035 2044 2045 205F 2104 212A 213A 214E 218A
   2212 2214 2336 237B 2395 2396 26AC 26AD 2800 2900 2C00 2CE5 2CEB 2CF9 2D00 2E00 3005 3008 3021
   3030 3031 3037 3038 303D 3040 30A0 30A1 30FB 30FC 31C0 31E6 4DC0 4E00 A490 A4C7 A60D A610 A673
   A674 A67E A680 A700 A722 A788 A789 A828 A82C A874 A878 AB6A AB6C FBC3 FE00 FE45 FE47 10101
   10102 10140 1018D 10190 101A1 1091F 10920 10B39 10B40 11052 11066 113D4 113D9 11660 1166D 11BE1
   11BE2 11FD5 11FDD 11FE1 11FF2 16D6D 16D70 16FE2 16FE3 1CC00 1CEF1 1D1E9 1D242 1D245 1D246 1D300
   1D357 1E5FF 1E600 1EEF0 1F130 1F16D 1F170 1F1AD 1F1AE 1F260 1FBFB"

/-- The boundaries of the marks that take no space. -/
def spacelessBounds : Array Nat := Text.hexBounds
  "300 370 483 48A 591 5BE 5BF 5C0 5C1 5C3 5C4 5C6 5C7 5C8 610 61B 64B 660 670 671 6D6 6DD 6DF 6E5
   6E7 6E9 6EA 6EE 711 712 730 74B 7A6 7B1 7EB 7F4 7FD 7FE 816 81A 81B 824 825 828 829 82E 859 85C
   897 8A0 8CA 903 93A 93B 93C 93D 941 949 94D 94E 951 958 962 964 981 982 9BC 9BD 9C1 9C5 9CD 9CE
   9E2 9E4 9FE A03 A3C A3D A41 A52 A70 A72 A75 A76 A81 A83 ABC ABD AC1 AC9 ACD ACE AE2 AE4 AFA B02
   B3C B3D B3F B40 B41 B45 B4D B57 B62 B64 B82 B83 BC0 BC1 BCD BCE C00 C01 C04 C05 C3C C3D C3E C41
   C46 C57 C62 C64 C81 C82 CBC CBD CCC CCE CE2 CE4 D00 D02 D3B D3D D41 D45 D4D D4E D62 D64 D81 D82
   DCA DCB DD2 DD7 E31 E32 E34 E3B E47 E4F EB1 EB2 EB4 EBD EC8 ECF F18 F1A F35 F36 F37 F38 F39 F3A
   F71 F7F F80 F85 F86 F88 F8D FBD FC6 FC7 102D 1031 1032 1038 1039 103B 103D 103F 1058 105A 105E
   1061 1071 1075 1082 1083 1085 1087 108D 108E 109D 109E 135D 1360 1712 1715 1732 1734 1752 1754
   1772 1774 17B7 17BE 17C6 17C7 17C9 17D4 17DD 17DE 1885 1887 18A9 18AA 1920 1923 1927 1929 1932
   1933 1939 193C 1A17 1A19 1A1B 1A1C 1A56 1A57 1A58 1A61 1A62 1A63 1A65 1A6D 1A73 1A80 1AB0 1B04
   1B34 1B35 1B36 1B3B 1B3C 1B3D 1B42 1B43 1B6B 1B74 1B80 1B82 1BA2 1BA6 1BA8 1BAA 1BAB 1BAE 1BE6
   1BE7 1BE8 1BEA 1BED 1BEE 1BEF 1BF2 1C2C 1C34 1C36 1C38 1CD0 1CD3 1CD4 1CE1 1CE2 1CE9 1CED 1CEE
   1CF4 1CF5 1CF8 1CFA 1DC0 1E00 20D0 20F1 2CEF 2CF2 2D7F 2D80 2DE0 2E00 302A 302E 3099 309B A66F
   A673 A674 A67E A69E A6A0 A6F0 A6F2 A802 A803 A806 A807 A80B A80C A825 A827 A82C A82D A8C4 A8C6
   A8E0 A8F2 A8FF A900 A926 A92E A947 A952 A980 A983 A9B3 A9B4 A9B6 A9BA A9BC A9BE A9E5 A9E6 AA29
   AA2F AA31 AA33 AA35 AA37 AA43 AA44 AA4C AA4D AA7C AA7D AAB0 AAB1 AAB2 AAB5 AAB7 AAB9 AABE AAC0
   AAC1 AAC2 AAEC AAEE AAF6 AAF7 ABE5 ABE6 ABE8 ABE9 ABED ABEE FB1E FB1F FE20 FE30 101FD 101FE
   102E0 102E1 10376 1037B 10A01 10A10 10A38 10A40 10AE5 10AE7 10D24 10D28 10D69 10D6E 10EAB 10EAD
   10EFA 10F00 10F46 10F51 10F82 10F86 11001 11002 11038 11047 11070 11071 11073 11075 1107F 11082
   110B3 110B7 110B9 110BB 110C2 110C3 11100 11103 11127 1112C 1112D 11135 11173 11174 11180 11182
   111B6 111BF 111C9 111CD 111CF 111D0 1122F 11232 11234 11235 11236 11238 1123E 1123F 11241 11242
   112DF 112E0 112E3 112EB 11300 11302 1133B 1133D 11340 11341 11366 11375 113BB 113C1 113CE 113CF
   113D0 113D1 113D2 113D3 113E1 113E3 11438 11440 11442 11445 11446 11447 1145E 1145F 114B3 114B9
   114BA 114BB 114BF 114C1 114C2 114C4 115B2 115B6 115BC 115BE 115BF 115C1 115DC 115DE 11633 1163B
   1163D 1163E 1163F 11641 116AB 116AC 116AD 116AE 116B0 116B6 116B7 116B8 1171D 11720 11722 11726
   11727 1172C 1182F 11838 11839 1183B 1193B 1193D 1193E 1193F 11943 11944 119D4 119DC 119E0 119E1
   11A01 11A07 11A09 11A0B 11A33 11A39 11A3B 11A3F 11A47 11A48 11A51 11A57 11A59 11A5C 11A8A 11A97
   11A98 11A9A 11B60 11B61 11B62 11B65 11B66 11B67 11C30 11C3E 11C92 11CA8 11CAA 11CB1 11CB2 11CB4
   11CB5 11CB7 11D31 11D46 11D47 11D48 11D90 11D92 11D95 11D96 11D97 11D98 11EF3 11EF5 11F00 11F02
   11F36 11F3B 11F40 11F41 11F42 11F43 11F5A 11F5B 13440 13441 13447 13456 1611E 1612A 1612D 16130
   16AF0 16AF5 16B30 16B37 16F4F 16F50 16F8F 16F93 16FE4 16FE5 1BC9D 1BC9F 1CF00 1CF47 1D167 1D16A
   1D17B 1D183 1D185 1D18C 1D1AA 1D1AE 1D242 1D245 1DA00 1DA37 1DA3B 1DA6D 1DA75 1DA76 1DA84 1DA85
   1DA9B 1DAB0 1E000 1E090 1E130 1E137 1E2AE 1E2AF 1E2EC 1E2F0 1E4EC 1E4F0 1E5EE 1E5F0 1E6E3 1E6E4
   1E6E6 1E6E7 1E6EE 1E6F0 1E6F5 1E6F6 1E8D0 1E8D7 1E944 1E94B"

/-- The direction of a character of ASCII. -/
def asciiDirection (c : Char) : Direction :=
  if c.isAlpha then .right
  else if c.isDigit then .number
  else if c = '+' ∨ c = '-' then .numberSign
  else if c = ',' ∨ c = '.' ∨ c = '/' ∨ c = ':' then .separator
  else if c = '#' ∨ c = '$' ∨ c = '%' then .terminator
  else .neutral

/-- The direction of a character. -/
def direction (c : Char) : Direction :=
  let n := c.toNat
  if n < 128 then asciiDirection c
  else if Text.insideBounds leftBounds n then .left
  else if Text.insideBounds arabicLetterBounds n then .arabicLetter
  else if Text.insideBounds spacelessBounds n then .mark
  else if Text.insideBounds arabicNumberBounds n then .arabicNumber
  else if Text.insideBounds numberBounds n then .number
  else if Text.insideBounds separatorBounds n then .separator
  else if Text.insideBounds terminatorBounds n then .terminator
  else if Text.insideBounds neutralBounds n then .neutral
  else if n = 0x2212 then .numberSign
  else if n = 0x200C ∨ n = 0x200D then .boundary
  else .right

/-- The label holds a character that runs to the left. -/
def runsLeft (label : List Char) : Bool :=
  label.any fun c => [Direction.left, .arabicLetter, .arabicNumber].contains (direction c)

/-- The last of the directions that is no mark is one of those in `ends`. -/
def endsIn (ends ds : List Direction) : Bool :=
  ((ds.reverse.dropWhile (· == .mark)).head?).any (ends.contains ·)

/-- What may stand in a label of either direction. -/
def shared : List Direction :=
  [.number, .numberSign, .separator, .terminator, .neutral, .boundary, .mark]

/-- The directions of the characters of a label go together: it begins with a letter, which gives
the direction, holds no letter of the other direction, ends with a letter or digit, and does not
mix two kinds of digits. An empty label has no direction. -/
def keepsDirection (label : List Char) : Bool :=
  let ds := label.map direction
  match ds with
  | [] => true
  | .right :: _ =>
    ds.all (fun d => d == .right || shared.contains d) && endsIn [.right, .number] ds
  | d :: _ =>
    (d == .left || d == .arabicLetter) &&
      ds.all (fun d => [.left, .arabicLetter, .arabicNumber].contains d || shared.contains d) &&
      endsIn [.left, .arabicLetter, .number, .arabicNumber] ds &&
      !(ds.contains .number && ds.contains .arabicNumber)

end WebForms.Domain
