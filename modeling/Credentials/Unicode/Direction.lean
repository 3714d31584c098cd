import Credentials.Unicode.Table

/-!
# Direction and joining of characters

The properties that decide whether the characters of a host label may stand beside each other: the
direction in which they are written, whether they are marks, and how letters join their neighbours.
The tables follow version 14 of Unicode.
-/

namespace Credentials.Unicode

/-- The direction classes that occur in host names. -/
inductive Direction where
  | leftToRight
  | rightToLeft
  | arabicLetter
  | europeanNumber
  | arabicNumber
  | europeanSeparator
  | commonSeparator
  | europeanTerminator
  | neutral
  | boundary
  | mark
deriving DecidableEq, Repr

/-- The classes in the order in which the table numbers them. -/
def Direction.all : List Direction :=
  [.leftToRight, .rightToLeft, .arabicLetter, .europeanNumber, .arabicNumber, .europeanSeparator,
    .commonSeparator, .europeanTerminator, .neutral, .boundary, .mark]

/-- Characters that are not written from left to right, with the number of their class. -/
def directionTable : Table := .parse "
a1:8 a2-a5:7 a6-ae:8 b0-b1:7 b6-d7:8 f7:8 2b9-2ba:8 2c2-2cf:8 2d2-2ed:8 2ef-2ff:8 300-36f:a 375:8
3f6:8 483-489:a 58a-58e:8 58f:7 591-5bd:a 5be:1 5bf:a 5c0:1 5c1-5c2:a 5c3:1 5c4-5c5:a 5c6:1 5c7:a
5d0-5f4:1 606-607:8 608:2 609-60a:7 60b:2 60c:6 60d:2 60e-60f:8 610-61a:a 61b-64a:2 64b-65f:a
660-669:4 66a:7 66b-66c:4 66d-66f:2 670:a 671-6d5:2 6d6-6dc:a 6de:8 6df-6e4:a 6e5-6e6:2 6e7-6e8:a
6e9:8 6ea-6ed:a 6ee-6ef:2 6f0-6f9:3 6fa-710:2 711:a 712-72f:2 730-74a:a 74d-7a5:2 7a6-7b0:a 7b1:2
7c0-7ea:1 7eb-7f3:a 7f4-7f5:1 7f6-7f9:8 7fa:1 7fd:a 7fe-815:1 816-819:a 81a:1 81b-823:a 824:1
825-827:a 828:1 829-82d:a 830-858:1 859-85b:a 85e:1 860-88e:2 898-89f:a 8a0-8c9:2 8ca-902:a 93a:a
93c:a 941-948:a 94d:a 951-957:a 962-963:a 981:a 9bc:a 9c1-9c4:a 9cd:a 9e2-9e3:a 9f2-9f3:7 9fb:7
9fe-a02:a a3c:a a41-a51:a a70-a71:a a75:a a81-a82:a abc:a ac1-ac8:a acd:a ae2-ae3:a af1:7
afa-b01:a b3c:a b3f:a b41-b44:a b4d-b56:a b62-b63:a b82:a bc0:a bcd:a bf3-bf8:8 bf9:7 bfa:8 c00:a
c04:a c3c:a c3e-c40:a c46-c56:a c62-c63:a c78-c7e:8 c81:a cbc:a ccc-ccd:a ce2-ce3:a d00-d01:a
d3b-d3c:a d41-d44:a d4d:a d62-d63:a d81:a dca:a dd2-dd6:a e31:a e34-e3a:a e3f:7 e47-e4e:a eb1:a
eb4-ebc:a ec8-ecd:a f18-f19:a f35:a f37:a f39:a f3a-f3d:8 f71-f7e:a f80-f84:a f86-f87:a f8d-fbc:a
fc6:a 102d-1030:a 1032-1037:a 1039-103a:a 103d-103e:a 1058-1059:a 105e-1060:a 1071-1074:a 1082:a
1085-1086:a 108d:a 109d:a 135d-135f:a 1390-1399:8 1400:8 169b-169c:8 1712-1714:a 1732-1733:a
1752-1753:a 1772-1773:a 17b7-17bd:a 17c6:a 17c9-17d3:a 17db:7 17dd:a 17f0-180a:8 1885-1886:a
18a9:a 1920-1922:a 1927-1928:a 1932:a 1939-193b:a 1940-1945:8 19de-19ff:8 1a17-1a18:a 1a1b:a
1a56:a 1a58-1a60:a 1a62:a 1a65-1a6c:a 1a73-1a7f:a 1ab0-1b03:a 1b34:a 1b36-1b3a:a 1b3c:a 1b42:a
1b6b-1b73:a 1b80-1b81:a 1ba2-1ba5:a 1ba8-1ba9:a 1bab-1bad:a 1be6:a 1be8-1be9:a 1bed:a 1bef-1bf1:a
1c2c-1c33:a 1c36-1c37:a 1cd0-1cd2:a 1cd4-1ce0:a 1ce2-1ce8:a 1ced:a 1cf4:a 1cf8-1cf9:a 1dc0-1dff:a
200c-200d:9 2010-2027:8 2030-2032:7 2035-2043:8 2044:6 2045-205e:8 20a0-20c0:7 20d0-20f0:a
2104-2129:8 212e:7 213a-214d:8 218a-2211:8 2212:5 2213:7 2214-2335:8 237b-2394:8 2396-26ab:8
26ad-27ff:8 2900-2bff:8 2ce5-2cea:8 2cef-2cf1:a 2cf9-2cff:8 2d7f:a 2de0-2dff:a 2e00-3004:8
3008-3020:8 302a-302d:a 3030:8 3037:8 303d-303f:8 3099-309a:a 30a0:8 30fb:8 31c0-31e3:8
4dc0-4dff:8 a490-a4c6:8 a60d-a60f:8 a66f-a672:a a673:8 a674-a67d:a a67e-a67f:8 a69e-a69f:a
a6f0-a6f1:a a700-a721:8 a788:8 a802:a a806:a a80b:a a825-a826:a a828-a82b:8 a82c:a a838-a839:7
a874-a877:8 a8c4-a8c5:a a8e0-a8f1:a a8ff:a a926-a92d:a a947-a951:a a980-a982:a a9b3:a a9b6-a9b9:a
a9bc-a9bd:a a9e5:a aa29-aa2e:a aa31-aa32:a aa35-aa36:a aa43:a aa4c:a aa7c:a aab0:a aab2-aab4:a
aab7-aab8:a aabe-aabf:a aac1:a aaec-aaed:a aaf6:a ab6a-ab6b:8 abe5:a abe8:a abed:a fb1e:a
fbb2-fbc2:2 fd3e-fdff:8 fe20-fe2f:a fe45-fe46:8 fe73:2 10101:8 10140-1018c:8 10190-101a0:8 101fd:a
102e0:a 102e1-102fb:3 10376-1037a:a 10800-1091b:1 1091f:8 10920-10a00:1 10a01-10a0f:a
10a10-10a35:1 10a38-10a3f:a 10a40-10ae4:1 10ae5-10ae6:a 10aeb-10b35:1 10b39-10b3f:8 10b40-10cff:1
10d00-10d23:2 10d24-10d27:a 10d30-10e7e:4 10e80-10ea9:1 10eab-10eac:a 10ead-10f27:1 10f30-10f45:2
10f46-10f50:a 10f51-10f59:2 10f70-10f81:1 10f82-10f85:a 10f86-10ff6:1 11001:a 11038-11046:a
11052-11065:8 11070:a 11073-11074:a 1107f-11081:a 110b3-110b6:a 110b9-110ba:a 110c2:a
11100-11102:a 11127-1112b:a 1112d-11134:a 11173:a 11180-11181:a 111b6-111be:a 111c9-111cc:a
111cf:a 1122f-11231:a 11234:a 11236-11237:a 1123e:a 112df:a 112e3-112ea:a 11300-11301:a
1133b-1133c:a 11340:a 11366-11374:a 11438-1143f:a 11442-11444:a 11446:a 1145e:a 114b3-114b8:a
114ba:a 114bf-114c0:a 114c2-114c3:a 115b2-115b5:a 115bc-115bd:a 115bf-115c0:a 115dc-115dd:a
11633-1163a:a 1163d:a 1163f-11640:a 11660-1166c:8 116ab:a 116ad:a 116b0-116b5:a 116b7:a
1171d-1171f:a 11722-11725:a 11727-1172b:a 1182f-11837:a 11839-1183a:a 1193b-1193c:a 1193e:a
11943:a 119d4-119db:a 119e0:a 11a01-11a06:a 11a09-11a0a:a 11a33-11a38:a 11a3b-11a3e:a 11a47:a
11a51-11a56:a 11a59-11a5b:a 11a8a-11a96:a 11a98-11a99:a 11c30-11c3d:a 11c92-11ca7:a 11caa-11cb0:a
11cb2-11cb3:a 11cb5-11cb6:a 11d31-11d45:a 11d47:a 11d90-11d91:a 11d95:a 11d97:a 11ef3-11ef4:a
11fd5-11fdc:8 11fdd-11fe0:7 11fe1-11ff1:8 16af0-16af4:a 16b30-16b36:a 16f4f:a 16f8f-16f92:a
16fe2:8 16fe4:a 1bc9d-1bc9e:a 1cf00-1cf46:a 1d167-1d169:a 1d17b-1d182:a 1d185-1d18b:a
1d1aa-1d1ad:a 1d1e9-1d241:8 1d242-1d244:a 1d245:8 1d300-1d356:8 1da00-1da36:a 1da3b-1da6c:a
1da75:a 1da84:a 1da9b-1daaf:a 1e000-1e02a:a 1e130-1e136:a 1e2ae:a 1e2ec-1e2ef:a 1e2ff:7
1e800-1e8cf:1 1e8d0-1e8d6:a 1e922-1e943:1 1e944-1e94a:a 1e94b-1e95f:1 1ec71-1ed3d:2 1eef0-1f12f:8
1f16d-1f16f:8 1f1ad:8 1f260-1fbca:8
"

/-- The direction class of a character. -/
def direction (c : Char) : Direction :=
  if c.isAlpha then .leftToRight
  else if c.isDigit then .europeanNumber
  else if c = '-' || c = '+' then .europeanSeparator
  else if c = ',' || c = '.' || c = '/' || c = ':' then .commonSeparator
  else if c = '#' || c = '$' || c = '\x25' then .europeanTerminator
  else if c.toNat < 0x80 then .neutral
  else ((directionTable.find? c).bind (·.data.head?)).bind (Direction.all[·]?) |>.getD .leftToRight

/-- Characters that combine with the one before. -/
def markTable : Table := .parse "
300-33f 342 346-34e 350-36f 483-489 591-5bd 5bf 5c1-5c2 5c4-5c5 5c7 610-61a 64b-65f 670 6d6-6dc
6df-6e4 6e7-6e8 6ea-6ed 711 730-74a 7a6-7b0 7eb-7f3 7fd 816-819 81b-823 825-827 829-82d 859-85b
898-89f 8ca-8e1 8e3-903 93a-93c 93e-94f 951-957 962-963 981-983 9bc 9be-9c4 9c7-9c8 9cb-9cd 9d7
9e2-9e3 9fe a01-a03 a3c a3e-a42 a47-a48 a4b-a4d a51 a70-a71 a75 a81-a83 abc abe-ac5 ac7-ac9
acb-acd ae2-ae3 afa-aff b01-b03 b3c b3e-b44 b47-b48 b4b-b4d b55-b57 b62-b63 b82 bbe-bc2 bc6-bc8
bca-bcd bd7 c00-c04 c3c c3e-c44 c46-c48 c4a-c4d c55-c56 c62-c63 c81-c83 cbc cbe-cc4 cc6-cc8
cca-ccd cd5-cd6 ce2-ce3 d00-d03 d3b-d3c d3e-d44 d46-d48 d4a-d4d d57 d62-d63 d81-d83 dca dcf-dd4
dd6 dd8-ddf df2-df3 e31 e34-e3a e47-e4e eb1 eb4-ebc ec8-ecd f18-f19 f35 f37 f39 f3e-f3f f71-f72
f74 f7a-f80 f82-f84 f86-f87 f8d-f92 f94-f97 f99-f9c f9e-fa1 fa3-fa6 fa8-fab fad-fb8 fba-fbc fc6
102b-103e 1056-1059 105e-1060 1062-1064 1067-106d 1071-1074 1082-108d 108f 109a-109d 135d-135f
1712-1715 1732-1734 1752-1753 1772-1773 17b6-17d3 17dd 1885-1886 18a9 1920-192b 1930-193b
1a17-1a1b 1a55-1a5e 1a60-1a7c 1a7f 1ab0-1ace 1b00-1b04 1b34-1b44 1b6b-1b73 1b80-1b82 1ba1-1bad
1be6-1bf3 1c24-1c37 1cd0-1cd2 1cd4-1ce8 1ced 1cf4 1cf7-1cf9 1dc0-1dff 20d0-20f0 2cef-2cf1 2d7f
2de0-2dff 302a-302f 3099-309a a66f-a672 a674-a67d a69e-a69f a6f0-a6f1 a802 a806 a80b a823-a827
a82c a880-a881 a8b4-a8c5 a8e0-a8f1 a8ff a926-a92d a947-a953 a980-a983 a9b3-a9c0 a9e5 aa29-aa36
aa43 aa4c-aa4d aa7b-aa7d aab0 aab2-aab4 aab7-aab8 aabe-aabf aac1 aaeb-aaef aaf5-aaf6 abe3-abea
abec-abed fb1e fe20-fe2f 101fd 102e0 10376-1037a 10a01-10a03 10a05-10a06 10a0c-10a0f 10a38-10a3a
10a3f 10ae5-10ae6 10d24-10d27 10eab-10eac 10f46-10f50 10f82-10f85 11000-11002 11038-11046 11070
11073-11074 1107f-11082 110b0-110ba 110c2 11100-11102 11127-11134 11145-11146 11173 11180-11182
111b3-111c0 111c9-111cc 111ce-111cf 1122c-11237 1123e 112df-112ea 11300-11303 1133b-1133c
1133e-11344 11347-11348 1134b-1134d 11357 11362-11363 11366-1136c 11370-11374 11435-11446 1145e
114b0-114c3 115af-115b5 115b8-115c0 115dc-115dd 11630-11640 116ab-116b7 1171d-1172b 1182c-1183a
11930-11935 11937-11938 1193b-1193e 11940 11942-11943 119d1-119d7 119da-119e0 119e4 11a01-11a0a
11a33-11a39 11a3b-11a3e 11a47 11a51-11a5b 11a8a-11a99 11c2f-11c36 11c38-11c3f 11c92-11ca7
11ca9-11cb6 11d31-11d36 11d3a 11d3c-11d3d 11d3f-11d45 11d47 11d8a-11d8e 11d90-11d91 11d93-11d97
11ef3-11ef6 16af0-16af4 16b30-16b36 16f4f 16f51-16f87 16f8f-16f92 16fe4 16ff0-16ff1 1bc9d-1bc9e
1cf00-1cf2d 1cf30-1cf46 1d165-1d169 1d16d-1d172 1d17b-1d182 1d185-1d18b 1d1aa-1d1ad 1d242-1d244
1da00-1da36 1da3b-1da6c 1da75 1da84 1da9b-1da9f 1daa1-1daaf 1e000-1e006 1e008-1e018 1e01b-1e021
1e023-1e024 1e026-1e02a 1e130-1e136 1e2ae 1e2ec-1e2ef 1e8d0-1e8d6 1e944-1e94a
"

/-- Whether a character combines with the one before. -/
def isMark (c : Char) : Bool := 0x300 ≤ c.toNat && markTable.contains c

/-- Letters that join the letters on both sides. -/
def joiningBothTable : Table := .parse "
626 628 62a-62e 633-63a 641-647 649-64a 679-67b 67e-680 683-684 686-687 6a4 6a6 6a9 6ad 6af 6b1
6b3 6bb 6be 6c1 6cc 6d0
"

/-- Letters that join the letter before them only. -/
def joiningBeforeTable : Table := .parse "
622-625 627 629 62f-632 648 671 688 68c-68e 691 698 6ba 6c0 6c5-6c9 6cb 6d2-6d3
"

end Credentials.Unicode
