import WebForms.Text.Table

/-!
# Combining classes

The marks behind a letter are put in order by their classes: marks of different classes do not
meet on the page, so that their order does not matter, while those of one class keep theirs.

## Main definitions

* `combiningClass` — the class of a character; zero for all that are no such marks
-/

namespace WebForms.Domain

/-- The classes, each with the boundaries of its members. -/
def classRows : List (List Nat) := Text.hexRows
  "1 334 339 1CD4 1CD5 1CE2 1CE9 20D2 20D4 20D8 20DB 20E5 20E7 20EA 20EC 10A39 10A3A 16AF0 16AF5
   1BC9E 1BC9F 1D167 1D16A; 6 16FF0 16FF2; 7 93C 93D 9BC 9BD A3C A3D ABC ABD B3C B3D C3C C3D CBC
   CBD 1037 1038 1B34 1B35 1BE6 1BE7 1C37 1C38 A9B3 A9B4 110BA 110BB 11173 11174 111CA 111CB 11236
   11237 112E9 112EA 1133B 1133D 11446 11447 114C3 114C4 115C0 115C1 116B7 116B8 1183A 1183B 11943
   11944 11D42 11D43 1E94A 1E94B; 8 3099 309B; 9 94D 94E 9CD 9CE A4D A4E ACD ACE B4D B4E BCD BCE
   C4D C4E CCD CCE D3B D3D D4D D4E DCA DCB E3A E3B EBA EBB F84 F85 1039 103B 1714 1716 1734 1735
   17D2 17D3 1A60 1A61 1B44 1B45 1BAA 1BAC 1BF2 1BF4 2D7F 2D80 A806 A807 A82C A82D A8C4 A8C5 A953
   A954 A9C0 A9C1 AAF6 AAF7 ABED ABEE 10A3F 10A40 11046 11047 11070 11071 1107F 11080 110B9 110BA
   11133 11135 111C0 111C1 11235 11236 112EA 112EB 1134D 1134E 113CE 113D1 11442 11443 114C2 114C3
   115BF 115C0 1163F 11640 116B6 116B7 1172B 1172C 11839 1183A 1193D 1193F 119E0 119E1 11A34 11A35
   11A47 11A48 11A99 11A9A 11C3F 11C40 11D44 11D46 11D97 11D98 11F41 11F43 1612F 16130; A 5B0 5B1;
   B 5B1 5B2; C 5B2 5B3; D 5B3 5B4; E 5B4 5B5; F 5B5 5B6; 10 5B6 5B7; 11 5B7 5B8; 12 5B8 5B9 5C7
   5C8; 13 5B9 5BB; 14 5BB 5BC; 15 5BC 5BD; 16 5BD 5BE; 17 5BF 5C0; 18 5C1 5C2; 19 5C2 5C3; 1A
   FB1E FB1F; 1B 64B 64C 8F0 8F1; 1C 64C 64D 8F1 8F2; 1D 64D 64E 8F2 8F3; 1E 618 619 64E 64F; 1F
   619 61A 64F 650; 20 61A 61B 650 651; 21 651 652; 22 652 653; 23 670 671; 24 711 712; 54 C55
   C56; 5B C56 C57; 67 E38 E3A; 6B E48 E4C; 76 EB8 EBA; 7A EC8 ECC; 81 F71 F72; 82 F72 F73 F7A F7E
   F80 F81; 84 F74 F75; CA 321 323 327 329 1DD0 1DD1; D6 1DCE 1DCF; D8 31B 31C F39 F3A 1D165 1D167
   1D16E 1D173; DA 1DFA 1DFB 302A 302B; DC 316 31A 31C 321 323 327 329 334 339 33D 347 34A 34D 34F
   353 357 359 35B 591 592 596 597 59B 59C 5A2 5A8 5AA 5AB 5C5 5C6 655 657 65C 65D 65F 660 6E3 6E4
   6EA 6EB 6ED 6EE 731 732 734 735 737 73A 73B 73D 73E 73F 742 743 744 745 746 747 748 749 7F2 7F3
   7FD 7FE 859 85C 899 89C 8CF 8D4 8E3 8E4 8E6 8E7 8E9 8EA 8ED 8F0 8F6 8F7 8F9 8FB 952 953 F18 F1A
   F35 F36 F37 F38 FC6 FC7 108D 108E 193B 193C 1A18 1A19 1A7F 1A80 1AB5 1ABB 1ABD 1ABE 1ABF 1AC1
   1AC3 1AC5 1ACA 1ACB 1ADD 1ADE 1AE6 1AE7 1B6C 1B6D 1CD5 1CDA 1CDC 1CE0 1CED 1CEE 1DC2 1DC3 1DCA
   1DCB 1DCF 1DD0 1DF9 1DFA 1DFD 1DFE 1DFF 1E00 20E8 20E9 20EC 20F0 A92B A92E AAB4 AAB5 FE27 FE2E
   101FD 101FE 102E0 102E1 10A0D 10A0E 10A3A 10A3B 10AE6 10AE7 10EFA 10EFC 10EFD 10F00 10F46 10F48
   10F4B 10F4C 10F4D 10F51 10F83 10F84 10F85 10F86 1D17B 1D183 1D18A 1D18C 1E4EE 1E4EF 1E5EF 1E5F0
   1E8D0 1E8D7; DE 59A 59B 5AD 5AE 1939 193A 302D 302E; E0 302E 3030; E2 1D16D 1D16E; E4 5AE 5AF
   18A9 18AA 1DF7 1DF9 302B 302C; E6 300 315 33D 347 34A 34D 350 353 357 358 35B 35C 363 370 483
   488 592 596 597 59A 59C 5A2 5A8 5AA 5AB 5AD 5AF 5B0 5C4 5C5 610 618 653 655 657 65C 65D 65F 6D6
   6DD 6DF 6E3 6E4 6E5 6E7 6E9 6EB 6ED 730 731 732 734 735 737 73A 73B 73D 73E 73F 742 743 744 745
   746 747 748 749 74B 7EB 7F2 7F3 7F4 816 81A 81B 824 825 828 829 82E 897 899 89C 8A0 8CA 8CF 8D4
   8E2 8E4 8E6 8E7 8E9 8EA 8ED 8F3 8F6 8F7 8F9 8FB 900 951 952 953 955 9FE 9FF F82 F84 F86 F88
   135D 1360 17DD 17DE 193A 193B 1A17 1A18 1A75 1A7D 1AB0 1AB5 1ABB 1ABD 1AC1 1AC3 1AC5 1ACA 1ACB
   1ADD 1AE0 1AE6 1AE7 1AEB 1B6B 1B6C 1B6D 1B74 1CD0 1CD3 1CDA 1CDC 1CE0 1CE1 1CF4 1CF5 1CF8 1CFA
   1DC0 1DC2 1DC3 1DCA 1DCB 1DCD 1DD1 1DF6 1DFB 1DFC 1DFE 1DFF 20D0 20D2 20D4 20D8 20DB 20DD 20E1
   20E2 20E7 20E8 20E9 20EA 20F0 20F1 2CEF 2CF2 2DE0 2E00 A66F A670 A674 A67E A69E A6A0 A6F0 A6F2
   A8E0 A8F2 AAB0 AAB1 AAB2 AAB4 AAB7 AAB9 AABE AAC0 AAC1 AAC2 FE20 FE27 FE2E FE30 10376 1037B
   10A0F 10A10 10A38 10A39 10AE5 10AE6 10D24 10D28 10D69 10D6E 10EAB 10EAD 10F48 10F4B 10F4C 10F4D
   10F82 10F83 10F84 10F85 11100 11103 11366 11375 1145E 1145F 16B30 16B37 1D185 1D18A 1D1AA 1D1AE
   1D242 1D245 1E000 1E090 1E130 1E137 1E2AE 1E2AF 1E2EC 1E2F0 1E4EF 1E4F0 1E5EE 1E5EF 1E6E3 1E6E4
   1E6E6 1E6E7 1E6EE 1E6F0 1E6F5 1E6F6 1E944 1E94A; E8 315 316 31A 31B 358 359 1DF6 1DF7 302C 302D
   1E4EC 1E4EE; E9 35C 35D 35F 360 362 363 1DFC 1DFD; EA 35D 35F 360 362 1AEB 1AEC 1DCD 1DCE"

/-- The classes with the boundaries of their members. -/
def classBounds : Array (Nat × Array Nat) :=
  (classRows.filterMap fun row => row.head?.map (·, row.tail.toArray)).toArray

/-- The combining class of a character. -/
def combiningClass (c : Char) : Nat :=
  if c.toNat < 0x300 then 0
  else ((classBounds.find? fun k => Text.insideBounds k.2 c.toNat).map (·.1)).getD 0

end WebForms.Domain
