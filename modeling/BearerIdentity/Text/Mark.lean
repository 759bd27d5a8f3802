import BearerIdentity.Text.Chart

set_option autoImplicit false

/- The characters that combine with the one before them, and their canonical combining classes, which
say how marks on one character may be exchanged. A mark of class zero keeps its place. -/

namespace BearerIdentity.Mark

/-- The marks without a width of their own, with their classes. -/
def nonspacing : Chart := .ofText "
300-314=e6 315=e8 316-319=dc 31a=e8 31b=d8 31c-320=dc 321-322=ca 323-326=dc 327-328=ca 329-333=dc
334-338=1 339-33c=dc 33d-344=e6 345=f0 346=e6 347-349=dc 34a-34c=e6 34d-34e=dc 34f 350-352=e6
353-356=dc 357=e6 358=e8 359-35a=dc 35b=e6 35c=e9 35d-35e=ea 35f=e9 360-361=ea 362=e9 363-36f=e6
483-487=e6 488-489 591=dc 592-595=e6 596=dc 597-599=e6 59a=de 59b=dc 59c-5a1=e6 5a2-5a7=dc
5a8-5a9=e6 5aa=dc 5ab-5ac=e6 5ad=de 5ae=e4 5af=e6 5b0=a 5b1=b 5b2=c 5b3=d 5b4=e 5b5=f 5b6=10
5b7=11 5b8=12 5b9-5ba=13 5bb=14 5bc=15 5bd=16 5bf=17 5c1=18 5c2=19 5c4=e6 5c5=dc 5c7=12 610-617=e6
618=1e 619=1f 61a=20 64b=1b 64c=1c 64d=1d 64e=1e 64f=1f 650=20 651=21 652=22 653-654=e6 655-656=dc
657-65b=e6 65c=dc 65d-65e=e6 65f=dc 670=23 6d6-6dc=e6 6df-6e2=e6 6e3=dc 6e4=e6 6e7-6e8=e6 6ea=dc
6eb-6ec=e6 6ed=dc 711=24 730=e6 731=dc 732-733=e6 734=dc 735-736=e6 737-739=dc 73a=e6 73b-73c=dc
73d=e6 73e=dc 73f-741=e6 742=dc 743=e6 744=dc 745=e6 746=dc 747=e6 748=dc 749-74a=e6 7a6-7b0
7eb-7f1=e6 7f2=dc 7f3=e6 7fd=dc 816-819=e6 81b-823=e6 825-827=e6 829-82d=e6 859-85b=dc 897-898=e6
899-89b=dc 89c-89f=e6 8ca-8ce=e6 8cf-8d3=dc 8d4-8e1=e6 8e3=dc 8e4-8e5=e6 8e6=dc 8e7-8e8=e6 8e9=dc
8ea-8ec=e6 8ed-8ef=dc 8f0=1b 8f1=1c 8f2=1d 8f3-8f5=e6 8f6=dc 8f7-8f8=e6 8f9-8fa=dc 8fb-8ff=e6
900-902 93a 93c=7 941-948 94d=9 951=e6 952=dc 953-954=e6 955-957 962-963 981 9bc=7 9c1-9c4 9cd=9
9e2-9e3 9fe=e6 a01-a02 a3c=7 a41-a42 a47-a48 a4b-a4c a4d=9 a51 a70-a71 a75 a81-a82 abc=7 ac1-ac5
ac7-ac8 acd=9 ae2-ae3 afa-aff b01 b3c=7 b3f b41-b44 b4d=9 b55-b56 b62-b63 b82 bc0 bcd=9 c00 c04
c3c=7 c3e-c40 c46-c48 c4a-c4c c4d=9 c55=54 c56=5b c62-c63 c81 cbc=7 cbf cc6 ccc ccd=9 ce2-ce3
d00-d01 d3b-d3c=9 d41-d44 d4d=9 d62-d63 d81 dca=9 dd2-dd4 dd6 e31 e34-e37 e38-e39=67 e3a=9 e47
e48-e4b=6b e4c-e4e eb1 eb4-eb7 eb8-eb9=76 eba=9 ebb-ebc ec8-ecb=7a ecc-ece f18-f19=dc f35=dc
f37=dc f39=d8 f71=81 f72=82 f73 f74=84 f75-f79 f7a-f7d=82 f7e f80=82 f81 f82-f83=e6 f84=9
f86-f87=e6 f8d-f97 f99-fbc fc6=dc 102d-1030 1032-1036 1037=7 1039-103a=9 103d-103e 1058-1059
105e-1060 1071-1074 1082 1085-1086 108d=dc 109d 135d-135f=e6 1712-1713 1714=9 1732-1733 1752-1753
1772-1773 17b4-17b5 17b7-17bd 17c6 17c9-17d1 17d2=9 17d3 17dd=e6 180b-180d 180f 1885-1886 18a9=e4
1920-1922 1927-1928 1932 1939=de 193a=e6 193b=dc 1a17=e6 1a18=dc 1a1b 1a56 1a58-1a5e 1a60=9 1a62
1a65-1a6c 1a73-1a74 1a75-1a7c=e6 1a7f=dc 1ab0-1ab4=e6 1ab5-1aba=dc 1abb-1abc=e6 1abd=dc 1abe
1abf-1ac0=dc 1ac1-1ac2=e6 1ac3-1ac4=dc 1ac5-1ac9=e6 1aca=dc 1acb-1adc=e6 1add=dc 1ae0-1ae5=e6
1ae6=dc 1ae7-1aea=e6 1aeb=ea 1b00-1b03 1b34=7 1b36-1b3a 1b3c 1b42 1b6b=e6 1b6c=dc 1b6d-1b73=e6
1b80-1b81 1ba2-1ba5 1ba8-1ba9 1bab=9 1bac-1bad 1be6=7 1be8-1be9 1bed 1bef-1bf1 1c2c-1c33 1c36
1c37=7 1cd0-1cd2=e6 1cd4=1 1cd5-1cd9=dc 1cda-1cdb=e6 1cdc-1cdf=dc 1ce0=e6 1ce2-1ce8=1 1ced=dc
1cf4=e6 1cf8-1cf9=e6 1dc0-1dc1=e6 1dc2=dc 1dc3-1dc9=e6 1dca=dc 1dcb-1dcc=e6 1dcd=ea 1dce=d6
1dcf=dc 1dd0=ca 1dd1-1df5=e6 1df6=e8 1df7-1df8=e4 1df9=dc 1dfa=da 1dfb=e6 1dfc=e9 1dfd=dc 1dfe=e6
1dff=dc 20d0-20d1=e6 20d2-20d3=1 20d4-20d7=e6 20d8-20da=1 20db-20dc=e6 20dd-20e0 20e1=e6 20e2-20e4
20e5-20e6=1 20e7=e6 20e8=dc 20e9=e6 20ea-20eb=1 20ec-20ef=dc 20f0=e6 2cef-2cf1=e6 2d7f=9
2de0-2dff=e6 302a=da 302b=e4 302c=e8 302d=de 3099-309a=8 a66f=e6 a670-a672 a674-a67d=e6
a69e-a69f=e6 a6f0-a6f1=e6 a802 a806=9 a80b a825-a826 a82c=9 a8c4=9 a8c5 a8e0-a8f1=e6 a8ff
a926-a92a a92b-a92d=dc a947-a951 a980-a982 a9b3=7 a9b6-a9b9 a9bc-a9bd a9e5 aa29-aa2e aa31-aa32
aa35-aa36 aa43 aa4c aa7c aab0=e6 aab2-aab3=e6 aab4=dc aab7-aab8=e6 aabe-aabf=e6 aac1=e6 aaec-aaed
aaf6=9 abe5 abe8 abed=9 fb1e=1a fe00-fe0f fe20-fe26=e6 fe27-fe2d=dc fe2e-fe2f=e6 101fd=dc 102e0=dc
10376-1037a=e6 10a01-10a03 10a05-10a06 10a0c 10a0d=dc 10a0e 10a0f=e6 10a38=e6 10a39=1 10a3a=dc
10a3f=9 10ae5=e6 10ae6=dc 10d24-10d27=e6 10d69-10d6d=e6 10eab-10eac=e6 10efa-10efb=dc 10efc
10efd-10eff=dc 10f46-10f47=dc 10f48-10f4a=e6 10f4b=dc 10f4c=e6 10f4d-10f50=dc 10f82=e6 10f83=dc
10f84=e6 10f85=dc 11001 11038-11045 11046=9 11070=9 11073-11074 1107f=9 11080-11081 110b3-110b6
110b9=9 110ba=7 110c2 11100-11102=e6 11127-1112b 1112d-11132 11133-11134=9 11173=7 11180-11181
111b6-111be 111c9 111ca=7 111cb-111cc 111cf 1122f-11231 11234 11236=7 11237 1123e 11241 112df
112e3-112e8 112e9=7 112ea=9 11300-11301 1133b-1133c=7 11340 11366-1136c=e6 11370-11374=e6
113bb-113c0 113ce=9 113d0=9 113d2 113e1-113e2 11438-1143f 11442=9 11443-11444 11446=7 1145e=e6
114b3-114b8 114ba 114bf-114c0 114c2=9 114c3=7 115b2-115b5 115bc-115bd 115bf=9 115c0=7 115dc-115dd
11633-1163a 1163d 1163f=9 11640 116ab 116ad 116b0-116b5 116b7=7 1171d 1171f 11722-11725
11727-1172a 1172b=9 1182f-11837 11839=9 1183a=7 1193b-1193c 1193e=9 11943=7 119d4-119d7
119da-119db 119e0=9 11a01-11a0a 11a33 11a34=9 11a35-11a38 11a3b-11a3e 11a47=9 11a51-11a56
11a59-11a5b 11a8a-11a96 11a98 11a99=9 11b60 11b62-11b64 11b66 11c30-11c36 11c38-11c3d 11c3f=9
11c92-11ca7 11caa-11cb0 11cb2-11cb3 11cb5-11cb6 11d31-11d36 11d3a 11d3c-11d3d 11d3f-11d41 11d42=7
11d43 11d44-11d45=9 11d47 11d90-11d91 11d95 11d97=9 11ef3-11ef4 11f00-11f01 11f36-11f3a 11f40
11f42=9 11f5a 13440 13447-13455 1611e-16129 1612d-1612e 1612f=9 16af0-16af4=1 16b30-16b36=e6 16f4f
16f8f-16f92 16fe4 1bc9d 1bc9e=1 1cf00-1cf2d 1cf30-1cf46 1d167-1d169=1 1d17b-1d182=dc
1d185-1d189=e6 1d18a-1d18b=dc 1d1aa-1d1ad=e6 1d242-1d244=e6 1da00-1da36 1da3b-1da6c 1da75 1da84
1da9b-1da9f 1daa1-1daaf 1e000-1e006=e6 1e008-1e018=e6 1e01b-1e021=e6 1e023-1e024=e6 1e026-1e02a=e6
1e08f=e6 1e130-1e136=e6 1e2ae=e6 1e2ec-1e2ef=e6 1e4ec-1e4ed=e8 1e4ee=dc 1e4ef=e6 1e5ee=e6 1e5ef=dc
1e6e3=e6 1e6e6=e6 1e6ee-1e6ef=e6 1e6f5=e6 1e8d0-1e8d6=dc 1e944-1e949=e6 1e94a=7 e0100-e01ef"

/-- The marks with a width of their own, with their classes. -/
def spacing : Chart := .ofText "
903 93b 93e-940 949-94c 94e-94f 982-983 9be-9c0 9c7-9c8 9cb-9cc 9d7 a03 a3e-a40 a83 abe-ac0 ac9
acb-acc b02-b03 b3e b40 b47-b48 b4b-b4c b57 bbe-bbf bc1-bc2 bc6-bc8 bca-bcc bd7 c01-c03 c41-c44
c82-c83 cbe cc0-cc4 cc7-cc8 cca-ccb cd5-cd6 cf3 d02-d03 d3e-d40 d46-d48 d4a-d4c d57 d82-d83
dcf-dd1 dd8-ddf df2-df3 f3e-f3f f7f 102b-102c 1031 1038 103b-103c 1056-1057 1062-1064 1067-106d
1083-1084 1087-108c 108f 109a-109c 1715=9 1734=9 17b6 17be-17c5 17c7-17c8 1923-1926 1929-192b
1930-1931 1933-1938 1a19-1a1a 1a55 1a57 1a61 1a63-1a64 1a6d-1a72 1b04 1b35 1b3b 1b3d-1b41 1b43
1b44=9 1b82 1ba1 1ba6-1ba7 1baa=9 1be7 1bea-1bec 1bee 1bf2-1bf3=9 1c24-1c2b 1c34-1c35 1ce1 1cf7
302e-302f=e0 a823-a824 a827 a880-a881 a8b4-a8c3 a952 a953=9 a983 a9b4-a9b5 a9ba-a9bb a9be-a9bf
a9c0=9 aa2f-aa30 aa33-aa34 aa4d aa7b aa7d aaeb aaee-aaef aaf5 abe3-abe4 abe6-abe7 abe9-abea abec
11000 11002 11082 110b0-110b2 110b7-110b8 1112c 11145-11146 11182 111b3-111b5 111bf 111c0=9 111ce
1122c-1122e 11232-11233 11235=9 112e0-112e2 11302-11303 1133e-1133f 11341-11344 11347-11348
1134b-1134c 1134d=9 11357 11362-11363 113b8-113ba 113c2 113c5 113c7-113ca 113cc-113cd 113cf=9
11435-11437 11440-11441 11445 114b0-114b2 114b9 114bb-114be 114c1 115af-115b1 115b8-115bb 115be
11630-11632 1163b-1163c 1163e 116ac 116ae-116af 116b6=9 1171e 11720-11721 11726 1182c-1182e 11838
11930-11935 11937-11938 1193d=9 11940 11942 119d1-119d3 119dc-119df 119e4 11a39 11a57-11a58 11a97
11b61 11b65 11b67 11c2f 11c3e 11ca9 11cb1 11cb4 11d8a-11d8e 11d93-11d94 11d96 11ef5-11ef6 11f03
11f34-11f35 11f3e-11f3f 11f41=9 1612a-1612c 16f51-16f87 16ff0-16ff1=6 1d165-1d166=d8 1d16d=e2
1d16e-1d172=d8"

def isNonspacing (c : Char) : Bool :=
  0x300 ≤ c.toNat && nonspacing.contains c

def isMark (c : Char) : Bool :=
  0x300 ≤ c.toNat && (nonspacing.contains c || spacing.contains c)

def combiningClass (c : Char) : Nat :=
  if c.toNat < 0x300 then 0
  else if nonspacing.contains c then nonspacing.number c
  else spacing.number c

/-- A sign that takes the vowel from a letter. -/
def isVirama (c : Char) : Bool :=
  combiningClass c = 9

end BearerIdentity.Mark
