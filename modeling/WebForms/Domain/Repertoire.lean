import WebForms.Text.Table

/-!
# The characters of domain names

A label of a domain name may hold the letters, digits, marks and symbols of many scripts, in the
one form that Unicode's compatibility processing leaves alone (Unicode 17). The two join controls
belong to them; whether they may stand where they stand is another question.

## Main definitions

* `isRegistered` — the characters beyond ASCII that may stand in a label
* `isMark` — the marks among them, with which no label begins
-/

namespace WebForms.Domain

/-- The boundaries of the characters beyond ASCII that may stand in a label. -/
def registeredBounds : Array Nat := Text.hexBounds
  "A1 A8 A9 AA AB AD AE AF B0 B2 B6 B8 BB BC BF C0 D7 D8 DF 100 101 102 103 104 105 106 107 108
   109 10A 10B 10C 10D 10E 10F 110 111 112 113 114 115 116 117 118 119 11A 11B 11C 11D 11E 11F 120
   121 122 123 124 125 126 127 128 129 12A 12B 12C 12D 12E 12F 130 131 132 135 136 137 139 13A 13B
   13C 13D 13E 13F 142 143 144 145 146 147 148 149 14B 14C 14D 14E 14F 150 151 152 153 154 155 156
   157 158 159 15A 15B 15C 15D 15E 15F 160 161 162 163 164 165 166 167 168 169 16A 16B 16C 16D 16E
   16F 170 171 172 173 174 175 176 177 178 17A 17B 17C 17D 17E 17F 180 181 183 184 185 186 188 189
   18C 18E 192 193 195 196 199 19C 19E 19F 1A1 1A2 1A3 1A4 1A5 1A6 1A8 1A9 1AA 1AC 1AD 1AE 1B0 1B1
   1B4 1B5 1B6 1B7 1B9 1BC 1BD 1C4 1CE 1CF 1D0 1D1 1D2 1D3 1D4 1D5 1D6 1D7 1D8 1D9 1DA 1DB 1DC 1DE
   1DF 1E0 1E1 1E2 1E3 1E4 1E5 1E6 1E7 1E8 1E9 1EA 1EB 1EC 1ED 1EE 1EF 1F1 1F5 1F6 1F9 1FA 1FB 1FC
   1FD 1FE 1FF 200 201 202 203 204 205 206 207 208 209 20A 20B 20C 20D 20E 20F 210 211 212 213 214
   215 216 217 218 219 21A 21B 21C 21D 21E 21F 220 221 222 223 224 225 226 227 228 229 22A 22B 22C
   22D 22E 22F 230 231 232 233 23A 23C 23D 23F 241 242 243 247 248 249 24A 24B 24C 24D 24E 24F 2B0
   2B9 2D8 2DE 2E0 2E5 340 342 343 346 34F 350 370 371 372 373 374 375 376 377 378 37B 37E 390 391
   3AC 3CF 3D7 3D8 3D9 3DA 3DB 3DC 3DD 3DE 3DF 3E0 3E1 3E2 3E3 3E4 3E5 3E6 3E7 3E8 3E9 3EA 3EB 3EC
   3ED 3EE 3EF 3F0 3F3 3F4 3F6 3F7 3F8 3F9 3FB 3FD 430 460 461 462 463 464 465 466 467 468 469 46A
   46B 46C 46D 46E 46F 470 471 472 473 474 475 476 477 478 479 47A 47B 47C 47D 47E 47F 480 481 48A
   48B 48C 48D 48E 48F 490 491 492 493 494 495 496 497 498 499 49A 49B 49C 49D 49E 49F 4A0 4A1 4A2
   4A3 4A4 4A5 4A6 4A7 4A8 4A9 4AA 4AB 4AC 4AD 4AE 4AF 4B0 4B1 4B2 4B3 4B4 4B5 4B6 4B7 4B8 4B9 4BA
   4BB 4BC 4BD 4BE 4BF 4C0 4C2 4C3 4C4 4C5 4C6 4C7 4C8 4C9 4CA 4CB 4CC 4CD 4CE 4D0 4D1 4D2 4D3 4D4
   4D5 4D6 4D7 4D8 4D9 4DA 4DB 4DC 4DD 4DE 4DF 4E0 4E1 4E2 4E3 4E4 4E5 4E6 4E7 4E8 4E9 4EA 4EB 4EC
   4ED 4EE 4EF 4F0 4F1 4F2 4F3 4F4 4F5 4F6 4F7 4F8 4F9 4FA 4FB 4FC 4FD 4FE 4FF 500 501 502 503 504
   505 506 507 508 509 50A 50B 50C 50D 50E 50F 510 511 512 513 514 515 516 517 518 519 51A 51B 51C
   51D 51E 51F 520 521 522 523 524 525 526 527 528 529 52A 52B 52C 52D 52E 52F 530 559 587 588 58B
   58D 590 591 5C8 5D0 5EB 5EF 5F5 606 61C 61D 675 679 6DD 6DE 70E 710 74B 74D 7B2 7C0 7FB 7FD 82E
   830 83F 840 85C 85E 85F 860 86B 870 890 897 8E2 8E3 958 960 984 985 98D 98F 991 993 9A9 9AA 9B1
   9B2 9B3 9B6 9BA 9BC 9C5 9C7 9C9 9CB 9CF 9D7 9D8 9E0 9E4 9E6 9FF A01 A04 A05 A0B A0F A11 A13 A29
   A2A A31 A32 A33 A35 A36 A38 A3A A3C A3D A3E A43 A47 A49 A4B A4E A51 A52 A5C A5D A66 A77 A81 A84
   A85 A8E A8F A92 A93 AA9 AAA AB1 AB2 AB4 AB5 ABA ABC AC6 AC7 ACA ACB ACE AD0 AD1 AE0 AE4 AE6 AF2
   AF9 B00 B01 B04 B05 B0D B0F B11 B13 B29 B2A B31 B32 B34 B35 B3A B3C B45 B47 B49 B4B B4E B55 B58
   B5F B64 B66 B78 B82 B84 B85 B8B B8E B91 B92 B96 B99 B9B B9C B9D B9E BA0 BA3 BA5 BA8 BAB BAE BBA
   BBE BC3 BC6 BC9 BCA BCE BD0 BD1 BD7 BD8 BE6 BFB C00 C0D C0E C11 C12 C29 C2A C3A C3C C45 C46 C49
   C4A C4E C55 C57 C58 C5B C5C C5E C60 C64 C66 C70 C77 C8D C8E C91 C92 CA9 CAA CB4 CB5 CBA CBC CC5
   CC6 CC9 CCA CCE CD5 CD7 CDC CDF CE0 CE4 CE6 CF0 CF1 CF4 D00 D0D D0E D11 D12 D45 D46 D49 D4A D50
   D54 D64 D66 D80 D81 D84 D85 D97 D9A DB2 DB3 DBC DBD DBE DC0 DC7 DCA DCB DCF DD5 DD6 DD7 DD8 DE0
   DE6 DF0 DF2 DF5 E01 E33 E34 E3B E3F E5C E81 E83 E84 E85 E86 E8B E8C EA4 EA5 EA6 EA7 EB3 EB4 EBE
   EC0 EC5 EC6 EC7 EC8 ECF ED0 EDA EDE EE0 F00 F0C F0D F43 F44 F48 F49 F4D F4E F52 F53 F57 F58 F5C
   F5D F69 F6A F6D F71 F73 F74 F75 F7A F81 F82 F93 F94 F98 F99 F9D F9E FA2 FA3 FA7 FA8 FAC FAD FB9
   FBA FBD FBE FCD FCE FDB 1000 10A0 10D0 10FC 10FD 115F 1161 1249 124A 124E 1250 1257 1258 1259
   125A 125E 1260 1289 128A 128E 1290 12B1 12B2 12B6 12B8 12BF 12C0 12C1 12C2 12C6 12C8 12D7 12D8
   1311 1312 1316 1318 135B 135D 137D 1380 139A 13A0 13F6 1400 1680 1681 169D 16A0 16F9 1700 1716
   171F 1737 1740 1754 1760 176D 176E 1771 1772 1774 1780 17B4 17B6 17DE 17E0 17EA 17F0 17FA 1800
   180B 1810 181A 1820 1879 1880 18AB 18B0 18F6 1900 191F 1920 192C 1930 193C 1940 1941 1944 196E
   1970 1975 1980 19AC 19B0 19CA 19D0 19DB 19DE 1A1C 1A1E 1A5F 1A60 1A7D 1A7F 1A8A 1A90 1A9A 1AA0
   1AAE 1AB0 1ADE 1AE0 1AEC 1B00 1B4D 1B4E 1BF4 1BFC 1C38 1C3B 1C4A 1C4D 1C80 1C8A 1C8B 1CC0 1CC8
   1CD0 1CFB 1D00 1D2C 1D2F 1D30 1D3B 1D3C 1D4E 1D4F 1D6B 1D78 1D79 1D9B 1DC0 1E00 1E01 1E02 1E03
   1E04 1E05 1E06 1E07 1E08 1E09 1E0A 1E0B 1E0C 1E0D 1E0E 1E0F 1E10 1E11 1E12 1E13 1E14 1E15 1E16
   1E17 1E18 1E19 1E1A 1E1B 1E1C 1E1D 1E1E 1E1F 1E20 1E21 1E22 1E23 1E24 1E25 1E26 1E27 1E28 1E29
   1E2A 1E2B 1E2C 1E2D 1E2E 1E2F 1E30 1E31 1E32 1E33 1E34 1E35 1E36 1E37 1E38 1E39 1E3A 1E3B 1E3C
   1E3D 1E3E 1E3F 1E40 1E41 1E42 1E43 1E44 1E45 1E46 1E47 1E48 1E49 1E4A 1E4B 1E4C 1E4D 1E4E 1E4F
   1E50 1E51 1E52 1E53 1E54 1E55 1E56 1E57 1E58 1E59 1E5A 1E5B 1E5C 1E5D 1E5E 1E5F 1E60 1E61 1E62
   1E63 1E64 1E65 1E66 1E67 1E68 1E69 1E6A 1E6B 1E6C 1E6D 1E6E 1E6F 1E70 1E71 1E72 1E73 1E74 1E75
   1E76 1E77 1E78 1E79 1E7A 1E7B 1E7C 1E7D 1E7E 1E7F 1E80 1E81 1E82 1E83 1E84 1E85 1E86 1E87 1E88
   1E89 1E8A 1E8B 1E8C 1E8D 1E8E 1E8F 1E90 1E91 1E92 1E93 1E94 1E95 1E9A 1E9C 1E9E 1E9F 1EA0 1EA1
   1EA2 1EA3 1EA4 1EA5 1EA6 1EA7 1EA8 1EA9 1EAA 1EAB 1EAC 1EAD 1EAE 1EAF 1EB0 1EB1 1EB2 1EB3 1EB4
   1EB5 1EB6 1EB7 1EB8 1EB9 1EBA 1EBB 1EBC 1EBD 1EBE 1EBF 1EC0 1EC1 1EC2 1EC3 1EC4 1EC5 1EC6 1EC7
   1EC8 1EC9 1ECA 1ECB 1ECC 1ECD 1ECE 1ECF 1ED0 1ED1 1ED2 1ED3 1ED4 1ED5 1ED6 1ED7 1ED8 1ED9 1EDA
   1EDB 1EDC 1EDD 1EDE 1EDF 1EE0 1EE1 1EE2 1EE3 1EE4 1EE5 1EE6 1EE7 1EE8 1EE9 1EEA 1EEB 1EEC 1EED
   1EEE 1EEF 1EF0 1EF1 1EF2 1EF3 1EF4 1EF5 1EF6 1EF7 1EF8 1EF9 1EFA 1EFB 1EFC 1EFD 1EFE 1EFF 1F08
   1F10 1F16 1F20 1F28 1F30 1F38 1F40 1F46 1F50 1F58 1F60 1F68 1F70 1F71 1F72 1F73 1F74 1F75 1F76
   1F77 1F78 1F79 1F7A 1F7B 1F7C 1F7D 1FB0 1FB2 1FB6 1FB7 1FC6 1FC7 1FD0 1FD3 1FD6 1FD8 1FE0 1FE3
   1FE4 1FE8 1FF6 1FF7 200C 200E 2010 2011 2012 2017 2018 2024 2027 2028 2030 2033 2035 2036 2038
   203C 203D 203E 203F 2047 204A 2057 2058 205F 20A0 20A8 20A9 20C2 20D0 20F1 2104 2105 2108 2109
   2114 2115 2117 2119 211E 2120 2123 2124 2125 2126 2127 2128 2129 212A 212E 212F 213A 213B 2141
   2145 214A 2150 2180 2183 2184 2189 218A 218C 2190 222C 222E 222F 2231 2329 232B 242A 2440 244B
   24EB 2A0C 2A0D 2A74 2A77 2ADC 2ADD 2B74 2B76 2C00 2C30 2C60 2C61 2C62 2C65 2C67 2C68 2C69 2C6A
   2C6B 2C6C 2C6D 2C71 2C72 2C73 2C75 2C76 2C7C 2C81 2C82 2C83 2C84 2C85 2C86 2C87 2C88 2C89 2C8A
   2C8B 2C8C 2C8D 2C8E 2C8F 2C90 2C91 2C92 2C93 2C94 2C95 2C96 2C97 2C98 2C99 2C9A 2C9B 2C9C 2C9D
   2C9E 2C9F 2CA0 2CA1 2CA2 2CA3 2CA4 2CA5 2CA6 2CA7 2CA8 2CA9 2CAA 2CAB 2CAC 2CAD 2CAE 2CAF 2CB0
   2CB1 2CB2 2CB3 2CB4 2CB5 2CB6 2CB7 2CB8 2CB9 2CBA 2CBB 2CBC 2CBD 2CBE 2CBF 2CC0 2CC1 2CC2 2CC3
   2CC4 2CC5 2CC6 2CC7 2CC8 2CC9 2CCA 2CCB 2CCC 2CCD 2CCE 2CCF 2CD0 2CD1 2CD2 2CD3 2CD4 2CD5 2CD6
   2CD7 2CD8 2CD9 2CDA 2CDB 2CDC 2CDD 2CDE 2CDF 2CE0 2CE1 2CE2 2CE3 2CEB 2CEC 2CED 2CEE 2CF2 2CF3
   2CF4 2CF9 2D26 2D27 2D28 2D2D 2D2E 2D30 2D68 2D70 2D71 2D7F 2D97 2DA0 2DA7 2DA8 2DAF 2DB0 2DB7
   2DB8 2DBF 2DC0 2DC7 2DC8 2DCF 2DD0 2DD7 2DD8 2DDF 2DE0 2E5E 2E80 2E9A 2E9B 2E9F 2EA0 2EF3 3001
   3002 3003 3036 3037 3038 303B 3040 3041 3097 3099 309B 309D 309F 30A0 30FF 3105 3130 3190 3192
   31A0 31E6 31F0 3200 3248 3250 327F 3280 3400 A48D A490 A4C7 A4D0 A62C A641 A642 A643 A644 A645
   A646 A647 A648 A649 A64A A64B A64C A64D A64E A64F A650 A651 A652 A653 A654 A655 A656 A657 A658
   A659 A65A A65B A65C A65D A65E A65F A660 A661 A662 A663 A664 A665 A666 A667 A668 A669 A66A A66B
   A66C A66D A680 A681 A682 A683 A684 A685 A686 A687 A688 A689 A68A A68B A68C A68D A68E A68F A690
   A691 A692 A693 A694 A695 A696 A697 A698 A699 A69A A69B A69C A69E A6F8 A700 A722 A723 A724 A725
   A726 A727 A728 A729 A72A A72B A72C A72D A72E A72F A732 A733 A734 A735 A736 A737 A738 A739 A73A
   A73B A73C A73D A73E A73F A740 A741 A742 A743 A744 A745 A746 A747 A748 A749 A74A A74B A74C A74D
   A74E A74F A750 A751 A752 A753 A754 A755 A756 A757 A758 A759 A75A A75B A75C A75D A75E A75F A760
   A761 A762 A763 A764 A765 A766 A767 A768 A769 A76A A76B A76C A76D A76E A76F A770 A771 A779 A77A
   A77B A77C A77D A77F A780 A781 A782 A783 A784 A785 A786 A787 A78B A78C A78D A78E A790 A791 A792
   A793 A796 A797 A798 A799 A79A A79B A79C A79D A79E A79F A7A0 A7A1 A7A2 A7A3 A7A4 A7A5 A7A6 A7A7
   A7A8 A7A9 A7AA A7AF A7B0 A7B5 A7B6 A7B7 A7B8 A7B9 A7BA A7BB A7BC A7BD A7BE A7BF A7C0 A7C1 A7C2
   A7C3 A7C4 A7C8 A7C9 A7CA A7CB A7CD A7CE A7CF A7D0 A7D1 A7D2 A7D3 A7D4 A7D5 A7D6 A7D7 A7D8 A7D9
   A7DA A7DB A7DC A7F6 A7F8 A7FA A82D A830 A83A A840 A878 A880 A8C6 A8CE A8DA A8E0 A954 A95F A97D
   A980 A9CE A9CF A9DA A9DE A9FF AA00 AA37 AA40 AA4E AA50 AA5A AA5C AAC3 AADB AAF7 AB01 AB07 AB09
   AB0F AB11 AB17 AB20 AB27 AB28 AB2F AB30 AB5C AB60 AB69 AB6A AB6C ABC0 ABEE ABF0 ABFA AC00 D7A4
   D7B0 D7C7 D7CB D7FC FA0E FA10 FA11 FA12 FA13 FA15 FA1F FA20 FA21 FA22 FA23 FA25 FA27 FA2A FB1E
   FB1F FBB2 FBD3 FD3E FD50 FD90 FD92 FDC8 FDD0 FDFD FE00 FE20 FE30 FE45 FE47 FE73 FE74 10000
   1000C 1000D 10027 10028 1003B 1003C 1003E 1003F 1004E 10050 1005E 10080 100FB 10100 10103 10107
   10134 10137 1018F 10190 1019D 101A0 101A1 101D0 101FE 10280 1029D 102A0 102D1 102E0 102FC 10300
   10324 1032D 1034B 10350 1037B 10380 1039E 1039F 103C4 103C8 103D6 10428 1049E 104A0 104AA 104D8
   104FC 10500 10528 10530 10564 1056F 10570 10597 105A2 105A3 105B2 105B3 105BA 105BB 105BD 105C0
   105F4 10600 10737 10740 10756 10760 10768 10780 10781 10800 10806 10808 10809 1080A 10836 10837
   10839 1083C 1083D 1083F 10856 10857 1089F 108A7 108B0 108E0 108F3 108F4 108F6 108FB 1091C 1091F
   1093A 1093F 1095A 10980 109B8 109BC 109D0 109D2 10A04 10A05 10A07 10A0C 10A14 10A15 10A18 10A19
   10A36 10A38 10A3B 10A3F 10A49 10A50 10A59 10A60 10AA0 10AC0 10AE7 10AEB 10AF7 10B00 10B36 10B39
   10B56 10B58 10B73 10B78 10B92 10B99 10B9D 10BA9 10BB0 10C00 10C49 10CC0 10CF3 10CFA 10D28 10D30
   10D3A 10D40 10D50 10D69 10D86 10D8E 10D90 10E60 10E7F 10E80 10EAA 10EAB 10EAE 10EB0 10EB2 10EC2
   10EC8 10ED0 10ED9 10EFA 10F28 10F30 10F5A 10F70 10F8A 10FB0 10FCC 10FE0 10FF7 11000 1104E 11052
   11076 1107F 110BD 110BE 110C3 110D0 110E9 110F0 110FA 11100 11135 11136 11148 11150 11177 11180
   111E0 111E1 111F5 11200 11212 11213 11242 11280 11287 11288 11289 1128A 1128E 1128F 1129E 1129F
   112AA 112B0 112EB 112F0 112FA 11300 11304 11305 1130D 1130F 11311 11313 11329 1132A 11331 11332
   11334 11335 1133A 1133B 11345 11347 11349 1134B 1134E 11350 11351 11357 11358 1135D 11364 11366
   1136D 11370 11375 11380 1138A 1138B 1138C 1138E 1138F 11390 113B6 113B7 113C1 113C2 113C3 113C5
   113C6 113C7 113CB 113CC 113D6 113D7 113D9 113E1 113E3 11400 1145C 1145D 11462 11480 114C8 114D0
   114DA 11580 115B6 115B8 115DE 11600 11645 11650 1165A 11660 1166D 11680 116BA 116C0 116CA 116D0
   116E4 11700 1171B 1171D 1172C 11730 11747 11800 1183C 118C0 118F3 118FF 11907 11909 1190A 1190C
   11914 11915 11917 11918 11936 11937 11939 1193B 11947 11950 1195A 119A0 119A8 119AA 119D8 119DA
   119E5 11A00 11A48 11A50 11AA3 11AB0 11AF9 11B00 11B0A 11B60 11B68 11BC0 11BE2 11BF0 11BFA 11C00
   11C09 11C0A 11C37 11C38 11C46 11C50 11C6D 11C70 11C90 11C92 11CA8 11CA9 11CB7 11D00 11D07 11D08
   11D0A 11D0B 11D37 11D3A 11D3B 11D3C 11D3E 11D3F 11D48 11D50 11D5A 11D60 11D66 11D67 11D69 11D6A
   11D8F 11D90 11D92 11D93 11D99 11DA0 11DAA 11DB0 11DDC 11DE0 11DEA 11EE0 11EF9 11F00 11F11 11F12
   11F3B 11F3E 11F5B 11FB0 11FB1 11FC0 11FF2 11FFF 1239A 12400 1246F 12470 12475 12480 12544 12F90
   12FF3 13000 13430 13440 13456 13460 143FB 14400 14647 16100 1613A 16800 16A39 16A40 16A5F 16A60
   16A6A 16A6E 16ABF 16AC0 16ACA 16AD0 16AEE 16AF0 16AF6 16B00 16B46 16B50 16B5A 16B5B 16B62 16B63
   16B78 16B7D 16B90 16D40 16D7A 16E60 16E9B 16EBB 16ED4 16F00 16F4B 16F4F 16F88 16F8F 16FA0 16FE0
   16FE5 16FF0 16FF7 17000 18CD6 18CFF 18D1F 18D80 18DF3 1AFF0 1AFF4 1AFF5 1AFFC 1AFFD 1AFFF 1B000
   1B123 1B132 1B133 1B150 1B153 1B155 1B156 1B164 1B168 1B170 1B2FC 1BC00 1BC6B 1BC70 1BC7D 1BC80
   1BC89 1BC90 1BC9A 1BC9C 1BCA0 1CC00 1CCD6 1CCFA 1CCFD 1CD00 1CEB4 1CEBA 1CED1 1CEE0 1CEF1 1CF00
   1CF2E 1CF30 1CF47 1CF50 1CFC4 1D000 1D0F6 1D100 1D127 1D129 1D15E 1D165 1D173 1D17B 1D1BB 1D1C1
   1D1EB 1D200 1D246 1D2C0 1D2D4 1D2E0 1D2F4 1D300 1D357 1D360 1D379 1D800 1DA8C 1DA9B 1DAA0 1DAA1
   1DAB0 1DF00 1DF1F 1DF25 1DF2B 1E000 1E007 1E008 1E019 1E01B 1E022 1E023 1E025 1E026 1E02B 1E08F
   1E090 1E100 1E12D 1E130 1E13E 1E140 1E14A 1E14E 1E150 1E290 1E2AF 1E2C0 1E2FA 1E2FF 1E300 1E4D0
   1E4FA 1E5D0 1E5FB 1E5FF 1E600 1E6C0 1E6DF 1E6E0 1E6F6 1E6FE 1E700 1E7E0 1E7E7 1E7E8 1E7EC 1E7ED
   1E7EF 1E7F0 1E7FF 1E800 1E8C5 1E8C7 1E8D7 1E922 1E94C 1E950 1E95A 1E95E 1E960 1EC71 1ECB5 1ED01
   1ED3E 1EEF0 1EEF2 1F000 1F02C 1F030 1F094 1F0A0 1F0AF 1F0B1 1F0C0 1F0C1 1F0D0 1F0D1 1F0F6 1F10B
   1F110 1F12F 1F130 1F150 1F16A 1F16D 1F190 1F191 1F1AE 1F1E6 1F200 1F260 1F266 1F300 1F6D9 1F6DC
   1F6ED 1F6F0 1F6FD 1F700 1F7DA 1F7E0 1F7EC 1F7F0 1F7F1 1F800 1F80C 1F810 1F848 1F850 1F85A 1F860
   1F888 1F890 1F8AE 1F8B0 1F8BC 1F8C0 1F8C2 1F8D0 1F8D9 1F900 1FA58 1FA60 1FA6E 1FA70 1FA7D 1FA80
   1FA8B 1FA8E 1FAC7 1FAC8 1FAC9 1FACD 1FADD 1FADF 1FAEB 1FAEF 1FAF9 1FB00 1FB93 1FB94 1FBF0 1FBFA
   1FBFB 20000 2A6E0 2A700 2B81E 2B820 2CEAE 2CEB0 2EBE1 2EBF0 2EE5E 30000 3134B 31350 3347A"

/-- The character beyond ASCII may stand in a label. -/
def isRegistered (c : Char) : Bool := Text.insideBounds registeredBounds c.toNat

/-- The boundaries of the combining marks among them. -/
def markBounds : Array Nat := Text.hexBounds
  "300 370 483 48A 591 5BE 5BF 5C0 5C1 5C3 5C4 5C6 5C7 5C8 610 61B 64B 660 670 671 6D6 6DD 6DF 6E5
   6E7 6E9 6EA 6EE 711 712 730 74B 7A6 7B1 7EB 7F4 7FD 7FE 816 81A 81B 824 825 828 829 82E 859 85C
   897 8A0 8CA 904 93A 93D 93E 950 951 958 962 964 981 984 9BC 9BD 9BE 9CE 9D7 9D8 9E2 9E4 9FE A04
   A3C A52 A70 A72 A75 A76 A81 A84 ABC ABD ABE ACE AE2 AE4 AFA B04 B3C B3D B3E B58 B62 B64 B82 B83
   BBE BCE BD7 BD8 C00 C05 C3C C3D C3E C57 C62 C64 C81 C84 CBC CBD CBE CD7 CE2 CE4 CF3 D04 D3B D3D
   D3E D4E D57 D58 D62 D64 D81 D84 DCA DE0 DF2 DF4 E31 E32 E34 E3B E47 E4F EB1 EB2 EB4 EBD EC8 ECF
   F18 F1A F35 F36 F37 F38 F39 F3A F3E F40 F71 F85 F86 F88 F8D FBD FC6 FC7 102B 103F 1056 105A
   105E 1061 1062 1065 1067 106E 1071 1075 1082 108E 108F 1090 109A 109E 135D 1360 1712 1716 1732
   1735 1752 1754 1772 1774 17B6 17D4 17DD 17DE 1885 1887 18A9 18AA 1920 193C 1A17 1A1C 1A55 1A80
   1AB0 1B05 1B34 1B45 1B6B 1B74 1B80 1B83 1BA1 1BAE 1BE6 1BF4 1C24 1C38 1CD0 1CD3 1CD4 1CE9 1CED
   1CEE 1CF4 1CF5 1CF7 1CFA 1DC0 1E00 20D0 20F1 2CEF 2CF2 2D7F 2D80 2DE0 2E00 302A 3030 3099 309B
   A66F A673 A674 A67E A69E A6A0 A6F0 A6F2 A802 A803 A806 A807 A80B A80C A823 A828 A82C A82D A880
   A882 A8B4 A8C6 A8E0 A8F2 A8FF A900 A926 A92E A947 A954 A980 A984 A9B3 A9C1 A9E5 A9E6 AA29 AA37
   AA43 AA44 AA4C AA4E AA7B AA7E AAB0 AAB1 AAB2 AAB5 AAB7 AAB9 AABE AAC0 AAC1 AAC2 AAEB AAF0 AAF5
   AAF7 ABE3 ABEB ABEC ABEE FB1E FB1F FE20 FE30 101FD 101FE 102E0 102E1 10376 1037B 10A01 10A10
   10A38 10A40 10AE5 10AE7 10D24 10D28 10D69 10D6E 10EAB 10EAD 10EFA 10F00 10F46 10F51 10F82 10F86
   11000 11003 11038 11047 11070 11071 11073 11075 1107F 11083 110B0 110BB 110C2 110C3 11100 11103
   11127 11135 11145 11147 11173 11174 11180 11183 111B3 111C1 111C9 111CD 111CE 111D0 1122C 11238
   1123E 1123F 11241 11242 112DF 112EB 11300 11304 1133B 1133D 1133E 1134E 11357 11358 11362 11375
   113B8 113D1 113D2 113D3 113E1 113E3 11435 11447 1145E 1145F 114B0 114C4 115AF 115C1 115DC 115DE
   11630 11641 116AB 116B8 1171D 1172C 1182C 1183B 11930 1193F 11940 11941 11942 11944 119D1 119E1
   119E4 119E5 11A01 11A0B 11A33 11A3A 11A3B 11A3F 11A47 11A48 11A51 11A5C 11A8A 11A9A 11B60 11B68
   11C2F 11C40 11C92 11CB7 11D31 11D46 11D47 11D48 11D8A 11D98 11EF3 11EF7 11F00 11F02 11F03 11F04
   11F34 11F43 11F5A 11F5B 13440 13441 13447 13456 1611E 16130 16AF0 16AF5 16B30 16B37 16F4F 16F50
   16F51 16F93 16FE4 16FF2 1BC9D 1BC9F 1CF00 1CF47 1D165 1D16A 1D16D 1D183 1D185 1D18C 1D1AA 1D1AE
   1D242 1D245 1DA00 1DA37 1DA3B 1DA6D 1DA75 1DA76 1DA84 1DA85 1DA9B 1DAB0 1E000 1E090 1E130 1E137
   1E2AE 1E2AF 1E2EC 1E2F0 1E4EC 1E4F0 1E5EE 1E5F0 1E6E3 1E6E4 1E6E6 1E6E7 1E6EE 1E6F0 1E6F5 1E6F6
   1E8D0 1E8D7 1E944 1E94B"

/-- A combining mark. -/
def isMark (c : Char) : Bool := Text.insideBounds markBounds c.toNat

end WebForms.Domain
