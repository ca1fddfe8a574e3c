import ServerActions.Text.Table

/-!
# Directions of writing

In which direction a character is written, and how it goes with those around it.

## Main definitions

* `Direction`, `direction` — the kinds of characters, and the kind of a character of a host name.
-/

namespace ServerActions.Text

/-- The kinds of characters by the direction in which they are written. -/
inductive Direction
  | leftToRight
  | rightToLeft
  | arabicLetter
  | arabicNumber
  | europeanNumber
  | separator
  | neutral
  | boundary
  | mark
  deriving DecidableEq, Repr

/-- The kinds by their numbers in the table, from one on. -/
def directionKinds : List Direction :=
  [.rightToLeft, .arabicLetter, .arabicNumber, .europeanNumber, .separator, .neutral, .boundary,
   .mark]

/-- The kinds of those characters of host names that are not written from left to right. -/
def directions : Table := .ofText
  "2d=5 30-39=4 b7=6 2b9-2ba=6 2c6-2cf=6 2ec=6 300-33f=8 342=8 346-34e=8 350-36f=8 375=6
   483-487=8 591-5bd=8 5bf=8 5c1-5c2=8 5c4-5c5=8 5c7=8 5d0-5ea=1 5ef-5f4=1 610-61a=8 620-63f=2
   641-64a=2 64b-65f=8 660-669=3 66e-66f=2 670=8 671-674=2 679-6d3=2 6d5=2 6d6-6dc=8 6df-6e4=8
   6e5-6e6=2 6e7-6e8=8 6ea-6ed=8 6ee-6ef=2 6f0-6f9=4 6fa-6ff=2 710=2 711=8 712-72f=2 730-74a=8
   74d-7a5=2 7a6-7b0=8 7b1=2 7c0-7ea=1 7eb-7f3=8 7f4-7f5=1 7fd=8 800-815=1 816-819=8 81a=1
   81b-823=8 824=1 825-827=8 828=1 829-82d=8 840-858=1 859-85b=8 860-86a=2 870-887=2 889-88e=2
   898-89f=8 8a0-8c9=2 8ca-8e1=8 8e3-902=8 93a=8 93c=8 941-948=8 94d=8 951-957=8 962-963=8 981=8
   9bc=8 9c1-9c4=8 9cd=8 9e2-9e3=8 9fe=8 a01-a02=8 a3c=8 a41-a42=8 a47-a48=8 a4b-a4d=8 a51=8
   a70-a71=8 a75=8 a81-a82=8 abc=8 ac1-ac5=8 ac7-ac8=8 acd=8 ae2-ae3=8 afa-aff=8 b01=8 b3c=8
   b3f=8 b41-b44=8 b4d=8 b55-b56=8 b62-b63=8 b82=8 bc0=8 bcd=8 c00=8 c04=8 c3c=8 c3e-c40=8
   c46-c48=8 c4a-c4d=8 c55-c56=8 c62-c63=8 c81=8 cbc=8 ccc-ccd=8 ce2-ce3=8 d00-d01=8 d3b-d3c=8
   d41-d44=8 d4d=8 d62-d63=8 d81=8 dca=8 dd2-dd4=8 dd6=8 e31=8 e34-e3a=8 e47-e4e=8 eb1=8
   eb4-ebc=8 ec8-ecd=8 f18-f19=8 f35=8 f37=8 f39=8 f71-f72=8 f74=8 f7a-f7e=8 f80=8 f82-f84=8
   f86-f87=8 f8d-f92=8 f94-f97=8 f99-f9c=8 f9e-fa1=8 fa3-fa6=8 fa8-fab=8 fad-fb8=8 fba-fbc=8
   fc6=8 102d-1030=8 1032-1037=8 1039-103a=8 103d-103e=8 1058-1059=8 105e-1060=8 1071-1074=8
   1082=8 1085-1086=8 108d=8 109d=8 135d-135f=8 1712-1714=8 1732-1733=8 1752-1753=8 1772-1773=8
   17b7-17bd=8 17c6=8 17c9-17d3=8 17dd=8 1885-1886=8 18a9=8 1920-1922=8 1927-1928=8 1932=8
   1939-193b=8 1a17-1a18=8 1a1b=8 1a56=8 1a58-1a5e=8 1a60=8 1a62=8 1a65-1a6c=8 1a73-1a7c=8
   1a7f=8 1ab0-1abd=8 1abf-1ace=8 1b00-1b03=8 1b34=8 1b36-1b3a=8 1b3c=8 1b42=8 1b6b-1b73=8
   1b80-1b81=8 1ba2-1ba5=8 1ba8-1ba9=8 1bab-1bad=8 1be6=8 1be8-1be9=8 1bed=8 1bef-1bf1=8
   1c2c-1c33=8 1c36-1c37=8 1cd0-1cd2=8 1cd4-1ce0=8 1ce2-1ce8=8 1ced=8 1cf4=8 1cf8-1cf9=8
   1dc0-1dff=8 200c-200d=7 2cef-2cf1=8 2d7f=8 2de0-2dff=8 2e2f=6 302a-302d=8 3099-309a=8 30fb=6
   a66f=8 a674-a67d=8 a67f=6 a69e-a69f=8 a6f0-a6f1=8 a717-a71f=6 a788=6 a802=8 a806=8 a80b=8
   a825-a826=8 a82c=8 a8c4-a8c5=8 a8e0-a8f1=8 a8ff=8 a926-a92d=8 a947-a951=8 a980-a982=8 a9b3=8
   a9b6-a9b9=8 a9bc-a9bd=8 a9e5=8 aa29-aa2e=8 aa31-aa32=8 aa35-aa36=8 aa43=8 aa4c=8 aa7c=8
   aab0=8 aab2-aab4=8 aab7-aab8=8 aabe-aabf=8 aac1=8 aaec-aaed=8 aaf6=8 abe5=8 abe8=8 abed=8
   fb1e=8 fe20-fe2f=8 fe73=2 101fd=8 102e0=8 10376-1037a=8 10800-10805=1 10808=1 1080a-10835=1
   10837-10838=1 1083c=1 1083f-10855=1 10860-10876=1 10880-1089e=1 108e0-108f2=1 108f4-108f5=1
   10900-10915=1 10920-10939=1 10980-109b7=1 109be-109bf=1 10a00=1 10a01-10a03=8 10a05-10a06=8
   10a0c-10a0f=8 10a10-10a13=1 10a15-10a17=1 10a19-10a35=1 10a38-10a3a=8 10a3f=8 10a60-10a7c=1
   10a80-10a9c=1 10ac0-10ac7=1 10ac9-10ae4=1 10ae5-10ae6=8 10b00-10b35=1 10b40-10b55=1
   10b60-10b72=1 10b80-10b91=1 10c00-10c48=1 10cc0-10cf2=1 10d00-10d23=2 10d24-10d27=8
   10d30-10d39=3 10e80-10ea9=1 10eab-10eac=8 10eb0-10eb1=1 10f00-10f1c=1 10f27=1 10f30-10f45=2
   10f46-10f50=8 10f70-10f81=1 10f82-10f85=8 10fb0-10fc4=1 10fe0-10ff6=1 11001=8 11038-11046=8
   11070=8 11073-11074=8 1107f-11081=8 110b3-110b6=8 110b9-110ba=8 110c2=8 11100-11102=8
   11127-1112b=8 1112d-11134=8 11173=8 11180-11181=8 111b6-111be=8 111c9-111cc=8 111cf=8
   1122f-11231=8 11234=8 11236-11237=8 1123e=8 112df=8 112e3-112ea=8 11300-11301=8 1133b-1133c=8
   11340=8 11366-1136c=8 11370-11374=8 11438-1143f=8 11442-11444=8 11446=8 1145e=8 114b3-114b8=8
   114ba=8 114bf-114c0=8 114c2-114c3=8 115b2-115b5=8 115bc-115bd=8 115bf-115c0=8 115dc-115dd=8
   11633-1163a=8 1163d=8 1163f-11640=8 116ab=8 116ad=8 116b0-116b5=8 116b7=8 1171d-1171f=8
   11722-11725=8 11727-1172b=8 1182f-11837=8 11839-1183a=8 1193b-1193c=8 1193e=8 11943=8
   119d4-119d7=8 119da-119db=8 119e0=8 11a01-11a06=8 11a09-11a0a=8 11a33-11a38=8 11a3b-11a3e=8
   11a47=8 11a51-11a56=8 11a59-11a5b=8 11a8a-11a96=8 11a98-11a99=8 11c30-11c36=8 11c38-11c3d=8
   11c92-11ca7=8 11caa-11cb0=8 11cb2-11cb3=8 11cb5-11cb6=8 11d31-11d36=8 11d3a=8 11d3c-11d3d=8
   11d3f-11d45=8 11d47=8 11d90-11d91=8 11d95=8 11d97=8 11ef3-11ef4=8 16af0-16af4=8 16b30-16b36=8
   16f4f=8 16f8f-16f92=8 16fe4=8 1bc9d-1bc9e=8 1cf00-1cf2d=8 1cf30-1cf46=8 1da00-1da36=8
   1da3b-1da6c=8 1da75=8 1da84=8 1da9b-1da9f=8 1daa1-1daaf=8 1e000-1e006=8 1e008-1e018=8
   1e01b-1e021=8 1e023-1e024=8 1e026-1e02a=8 1e130-1e136=8 1e2ae=8 1e2ec-1e2ef=8 1e800-1e8c4=1
   1e8d0-1e8d6=8 1e922-1e943=1 1e944-1e94a=8 1e94b=1 1e950-1e959=1"

/-- The kind of a character of a host name. -/
def direction (c : Char) : Direction :=
  match directions.get? c.toNat with
  | some n => (directionKinds[n - 1]?).getD .leftToRight
  | none => .leftToRight

end ServerActions.Text
