import Overdue.Text.Table

/-!
# Folding

What becomes of the characters of a domain name before it is compared with others: letters lose
their case, characters that only look different are replaced, some are left out, and some may not
stand in a name at all.
-/

namespace Overdue.Domain

/-- The characters that may not stand in a name. -/
def refused : List (Nat × Nat) := Text.Table.ranges [
  "80-a0 a8 af b4 b8 2d8-2dd 378-37a 380-385 38b 38d 3a2 530 557-558 58b-58c 590 5c8-5cf 5eb-5ee",
  "5f5-605 61c 6dd 70e-70f 74b-74c 7b2-7bf 7fb-7fc 82e-82f 83f 85c-85d 85f 86b-86f 890-896 8e2",
  "984 98d-98e 991-992 9a9 9b1 9b3-9b5 9ba-9bb 9c5-9c6 9c9-9ca 9cf-9d6 9d8-9db 9de 9e4-9e5",
  "9ff-a00 a04 a0b-a0e a11-a12 a29 a31 a34 a37 a3a-a3b a3d a43-a46 a49-a4a a4e-a50 a52-a58 a5d",
  "a5f-a65 a77-a80 a84 a8e a92 aa9 ab1 ab4 aba-abb ac6 aca ace-acf ad1-adf ae4-ae5 af2-af8 b00",
  "b04 b0d-b0e b11-b12 b29 b31 b34 b3a-b3b b45-b46 b49-b4a b4e-b54 b58-b5b b5e b64-b65 b78-b81",
  "b84 b8b-b8d b91 b96-b98 b9b b9d ba0-ba2 ba5-ba7 bab-bad bba-bbd bc3-bc5 bc9 bce-bcf bd1-bd6",
  "bd8-be5 bfb-bff c0d c11 c29 c3a-c3b c45 c49 c4e-c54 c57 c5b c5e-c5f c64-c65 c70-c76 c8d c91",
  "ca9 cb4 cba-cbb cc5 cc9 cce-cd4 cd7-cdb cdf ce4-ce5 cf0 cf4-cff d0d d11 d45 d49 d50-d53",
  "d64-d65 d80 d84 d97-d99 db2 dbc dbe-dbf dc7-dc9 dcb-dce dd5 dd7 de0-de5 df0-df1 df5-e00",
  "e3b-e3e e5c-e80 e83 e85 e8b ea4 ea6 ebe-ebf ec5 ec7 ecf eda-edb ee0-eff f48 f6d-f70 f98 fbd",
  "fcd fdb-fff 10c6 10c8-10cc 10ce-10cf 1249 124e-124f 1257 1259 125e-125f 1289 128e-128f 12b1",
  "12b6-12b7 12bf 12c1 12c6-12c7 12d7 1311 1316-1317 135b-135c 137d-137f 139a-139f 13f6-13f7",
  "13fe-13ff 1680 169d-169f 16f9-16ff 1716-171e 1737-173f 1754-175f 176d 1771 1774-177f 17de-17df",
  "17ea-17ef 17fa-17ff 181a-181f 1879-187f 18ab-18af 18f6-18ff 191f 192c-192f 193c-193f 1941-1943",
  "196e-196f 1975-197f 19ac-19af 19ca-19cf 19db-19dd 1a1c-1a1d 1a5f 1a7d-1a7e 1a8a-1a8f 1a9a-1a9f",
  "1aae-1aaf 1ade-1adf 1aec-1aff 1b4d 1bf4-1bfb 1c38-1c3a 1c4a-1c4c 1c8b-1c8f 1cbb-1cbc 1cc8-1ccf",
  "1cfb-1cff 1f16-1f17 1f1e-1f1f 1f46-1f47 1f4e-1f4f 1f58 1f5a 1f5c 1f5e 1f7e-1f7f 1fb5 1fbd",
  "1fbf-1fc1 1fc5 1fcd-1fcf 1fd4-1fd5 1fdc-1fdf 1fed-1ff1 1ff5 1ffd-200a 200e-200f 2017 2024-2026",
  "2028-202f 203e 2047-2049 205f 2065-2069 2072-2073 208f 209d-209f 20c2-20cf 20f1-2101 2105-2106",
  "218c-218f 242a-243f 244b-245f 2488-249b 2a74 2b74-2b75 2cf4-2cf8 2d26 2d28-2d2c 2d2e-2d2f",
  "2d68-2d6e 2d71-2d7e 2d97-2d9f 2da7 2daf 2db7 2dbf 2dc7 2dcf 2dd7 2ddf 2e5e-2e7f 2e9a 2ef4-2eff",
  "2fd6-3000 3040 3097-3098 309b-309c 3100-3104 3130 318f 31e6-31ef 321f 33c2 33c7 33d8 a48d-a48f",
  "a4c7-a4cf a62c-a63f a6f8-a6ff a7dd-a7f0 a82d-a82f a83a-a83f a878-a87f a8c6-a8cd a8da-a8df",
  "a954-a95e a97d-a97f a9ce a9da-a9dd a9ff aa37-aa3f aa4e-aa4f aa5a-aa5b aac3-aada aaf7-ab00",
  "ab07-ab08 ab0f-ab10 ab17-ab1f ab27 ab2f ab6c-ab6f abee-abef abfa-abff d7a4-d7af d7c7-d7ca",
  "d7fc-f8ff fa6e-fa6f fada-faff fb07-fb12 fb18-fb1c fb37 fb3d fb3f fb42 fb45 fc5e-fc63 fdd0-fdef",
  "fdfa-fdfb fe12-fe13 fe16 fe19-fe1f fe30 fe37-fe38 fe47-fe4c fe52-fe53 fe55-fe56 fe5b-fe5c fe5f",
  "fe67-fe68 fe6a-fe70 fe72 fe74-fe76 fe78 fe7a fe7c fe7e fefd-fefe ff00 ff02-ff03 ff05 ff0f ff1a",
  "ff1f-ff20 ff3b-ff3e ff40 ff5b-ff5d ffbf-ffc1 ffc8-ffc9 ffd0-ffd1 ffd8-ffd9 ffdd-ffdf ffe3 ffe7",
  "ffef-ffff 1000c 10027 1003b 1003e 1004e-1004f 1005e-1007f 100fb-100ff 10103-10106 10134-10136",
  "1018f 1019d-1019f 101a1-101cf 101fe-1027f 1029d-1029f 102d1-102df 102fc-102ff 10324-1032c",
  "1034b-1034f 1037b-1037f 1039e 103c4-103c7 103d6-103ff 1049e-1049f 104aa-104af 104d4-104d7",
  "104fc-104ff 10528-1052f 10564-1056e 1057b 1058b 10593 10596 105a2 105b2 105ba 105bd-105bf",
  "105f4-105ff 10737-1073f 10756-1075f 10768-1077f 10786 107b1 107bb-107ff 10806-10807 10809",
  "10836 10839-1083b 1083d-1083e 10856 1089f-108a6 108b0-108df 108f3 108f6-108fa 1091c-1091e",
  "1093a-1093e 1095a-1097f 109b8-109bb 109d0-109d1 10a04 10a07-10a0b 10a14 10a18 10a36-10a37",
  "10a3b-10a3e 10a49-10a4f 10a59-10a5f 10aa0-10abf 10ae7-10aea 10af7-10aff 10b36-10b38",
  "10b56-10b57 10b73-10b77 10b92-10b98 10b9d-10ba8 10bb0-10bff 10c49-10c7f 10cb3-10cbf",
  "10cf3-10cf9 10d28-10d2f 10d3a-10d3f 10d66-10d68 10d86-10d8d 10d90-10e5f 10e7f 10eaa",
  "10eae-10eaf 10eb2-10ec1 10ec8-10ecf 10ed9-10ef9 10f28-10f2f 10f5a-10f6f 10f8a-10faf",
  "10fcc-10fdf 10ff7-10fff 1104e-11051 11076-1107e 110bd 110c3-110cf 110e9-110ef 110fa-110ff",
  "11135 11148-1114f 11177-1117f 111e0 111f5-111ff 11212 11242-1127f 11287 11289 1128e 1129e",
  "112aa-112af 112eb-112ef 112fa-112ff 11304 1130d-1130e 11311-11312 11329 11331 11334 1133a",
  "11345-11346 11349-1134a 1134e-1134f 11351-11356 11358-1135c 11364-11365 1136d-1136f",
  "11375-1137f 1138a 1138c-1138d 1138f 113b6 113c1 113c3-113c4 113c6 113cb 113d6 113d9-113e0",
  "113e3-113ff 1145c 11462-1147f 114c8-114cf 114da-1157f 115b6-115b7 115de-115ff 11645-1164f",
  "1165a-1165f 1166d-1167f 116ba-116bf 116ca-116cf 116e4-116ff 1171b-1171c 1172c-1172f",
  "11747-117ff 1183c-1189f 118f3-118fe 11907-11908 1190a-1190b 11914 11917 11936 11939-1193a",
  "11947-1194f 1195a-1199f 119a8-119a9 119d8-119d9 119e5-119ff 11a48-11a4f 11aa3-11aaf",
  "11af9-11aff 11b0a-11b5f 11b68-11bbf 11be2-11bef 11bfa-11bff 11c09 11c37 11c46-11c4f",
  "11c6d-11c6f 11c90-11c91 11ca8 11cb7-11cff 11d07 11d0a 11d37-11d39 11d3b 11d3e 11d48-11d4f",
  "11d5a-11d5f 11d66 11d69 11d8f 11d92 11d99-11d9f 11daa-11daf 11ddc-11ddf 11dea-11edf",
  "11ef9-11eff 11f11 11f3b-11f3d 11f5b-11faf 11fb1-11fbf 11ff2-11ffe 1239a-123ff 1246f",
  "12475-1247f 12544-12f8f 12ff3-12fff 13430-1343f 13456-1345f 143fb-143ff 14647-160ff",
  "1613a-167ff 16a39-16a3f 16a5f 16a6a-16a6d 16abf 16aca-16acf 16aee-16aef 16af6-16aff",
  "16b46-16b4f 16b5a 16b62 16b78-16b7c 16b90-16d3f 16d7a-16e3f 16e9b-16e9f 16eb9-16eba",
  "16ed4-16eff 16f4b-16f4e 16f88-16f8e 16fa0-16fdf 16fe5-16fef 16ff7-16fff 18cd6-18cfe",
  "18d1f-18d7f 18df3-1afef 1aff4 1affc 1afff 1b123-1b131 1b133-1b14f 1b153-1b154 1b156-1b163",
  "1b168-1b16f 1b2fc-1bbff 1bc6b-1bc6f 1bc7d-1bc7f 1bc89-1bc8f 1bc9a-1bc9b 1bca4-1cbff",
  "1ccfd-1ccff 1ceb4-1ceb9 1ced1-1cedf 1cef1-1ceff 1cf2e-1cf2f 1cf47-1cf4f 1cfc4-1cfff",
  "1d0f6-1d0ff 1d127-1d128 1d1eb-1d1ff 1d246-1d2bf 1d2d4-1d2df 1d2f4-1d2ff 1d357-1d35f",
  "1d379-1d3ff 1d455 1d49d 1d4a0-1d4a1 1d4a3-1d4a4 1d4a7-1d4a8 1d4ad 1d4ba 1d4bc 1d4c4 1d506",
  "1d50b-1d50c 1d515 1d51d 1d53a 1d53f 1d545 1d547-1d549 1d551 1d6a6-1d6a7 1d7cc-1d7cd",
  "1da8c-1da9a 1daa0 1dab0-1deff 1df1f-1df24 1df2b-1dfff 1e007 1e019-1e01a 1e022 1e025",
  "1e02b-1e02f 1e06e-1e08e 1e090-1e0ff 1e12d-1e12f 1e13e-1e13f 1e14a-1e14d 1e150-1e28f",
  "1e2af-1e2bf 1e2fa-1e2fe 1e300-1e4cf 1e4fa-1e5cf 1e5fb-1e5fe 1e600-1e6bf 1e6df 1e6f6-1e6fd",
  "1e700-1e7df 1e7e7 1e7ec 1e7ef 1e7ff 1e8c5-1e8c6 1e8d7-1e8ff 1e94c-1e94f 1e95a-1e95d",
  "1e960-1ec70 1ecb5-1ed00 1ed3e-1edff 1ee04 1ee20 1ee23 1ee25-1ee26 1ee28 1ee33 1ee38 1ee3a",
  "1ee3c-1ee41 1ee43-1ee46 1ee48 1ee4a 1ee4c 1ee50 1ee53 1ee55-1ee56 1ee58 1ee5a 1ee5c 1ee5e",
  "1ee60 1ee63 1ee65-1ee66 1ee6b 1ee73 1ee78 1ee7d 1ee7f 1ee8a 1ee9c-1eea0 1eea4 1eeaa",
  "1eebc-1eeef 1eef2-1efff 1f02c-1f02f 1f094-1f09f 1f0af-1f0b0 1f0c0 1f0d0 1f0f6-1f100",
  "1f1ae-1f1e5 1f203-1f20f 1f23c-1f23f 1f249-1f24f 1f252-1f25f 1f266-1f2ff 1f6d9-1f6db",
  "1f6ed-1f6ef 1f6fd-1f6ff 1f7da-1f7df 1f7ec-1f7ef 1f7f1-1f7ff 1f80c-1f80f 1f848-1f84f",
  "1f85a-1f85f 1f888-1f88f 1f8ae-1f8af 1f8bc-1f8bf 1f8c2-1f8cf 1f8d9-1f8ff 1fa58-1fa5f",
  "1fa6e-1fa6f 1fa7d-1fa7f 1fa8b-1fa8d 1fac7 1fac9-1facc 1fadd-1fade 1faeb-1faee 1faf9-1faff",
  "1fb93 1fbfb-1ffff 2a6e0-2a6ff 2b81e-2b81f 2ceae-2ceaf 2ebe1-2ebef 2ee5e-2f7ff 2fa1e-2ffff",
  "3134b-3134f 3347a-e00ff e01f0-10ffff"]

/-- The characters that are left out. -/
def dropped : List (Nat × Nat) := Text.Table.ranges [
  "ad 34f 115f-1160 17b4-17b5 180b-180f 200b 2060-2064 206a-206f 3164 fe00-fe0f feff ffa0",
  "1bca0-1bca3 1d173-1d17a e0100-e01ef"]

/-- The characters that are replaced by others outside ASCII, all of one kind. The tables of kinds
have each of them where the others are, so that whether a text is a name can be told without
replacing it. -/
def varied : List (Nat × Nat) := Text.Table.ranges [
  "b5 c0-d6 d8-de 100 102 104 106 108 10a 10c 10e 110 112 114 116 118 11a 11c 11e 120 122 124 126",
  "128 12a 12c 12e 130 134 136 139 13b 13d 141 143 145 147 149-14a 14c 14e 150 152 154 156 158",
  "15a 15c 15e 160 162 164 166 168 16a 16c 16e 170 172 174 176 178-179 17b 17d 181-182 184",
  "186-187 189-18b 18e-191 193-194 196-198 19c-19d 19f-1a0 1a2 1a4 1a6-1a7 1a9 1ac 1ae-1af",
  "1b1-1b3 1b5 1b7-1b8 1bc 1c4-1cd 1cf 1d1 1d3 1d5 1d7 1d9 1db 1de 1e0 1e2 1e4 1e6 1e8 1ea 1ec",
  "1ee 1f4 1f6-1f8 1fa 1fc 1fe 200 202 204 206 208 20a 20c 20e 210 212 214 216 218 21a 21c 21e",
  "220 222 224 226 228 22a 22c 22e 230 232 23a-23b 23d-23e 241 243-246 248 24a 24c 24e 2b1-2b6",
  "2e0-2e4 340-341 343-345 370 372 374 376 37f-38f 391-3ab 3cf-3d6 3d8 3da 3dc 3de 3e0 3e2 3e4",
  "3e6 3e8 3ea 3ec 3ee 3f0-3f2 3f4-3f5 3f7 3f9-3fa 3fd-42f 460 462 464 466 468 46a 46c 46e 470",
  "472 474 476 478 47a 47c 47e 480 48a 48c 48e 490 492 494 496 498 49a 49c 49e 4a0 4a2 4a4 4a6",
  "4a8 4aa 4ac 4ae 4b0 4b2 4b4 4b6 4b8 4ba 4bc 4be 4c0-4c1 4c3 4c5 4c7 4c9 4cb 4cd 4d0 4d2 4d4",
  "4d6 4d8 4da 4dc 4de 4e0 4e2 4e4 4e6 4e8 4ea 4ec 4ee 4f0 4f2 4f4 4f6 4f8 4fa 4fc 4fe 500 502",
  "504 506 508 50a 50c 50e 510 512 514 516 518 51a 51c 51e 520 522 524 526 528 52a 52c 52e",
  "531-556 587 675-678 958-95f 9dc-9df a33 a36 a59-a5b a5e b5c-b5d e33 eb3 edc-edd f0c f43 f4d",
  "f52 f57 f5c f69 f73 f75-f79 f81 f93 f9d fa2 fa7 fac fb9 10a0-10cd 10fc 13f8-13fd 1c80-1c89",
  "1c90-1cbf 1d2d 1d32 1d3d-1d4c 1d51-1d6a 1d78 1d9b-1dbf 1e00 1e02 1e04 1e06 1e08 1e0a 1e0c 1e0e",
  "1e10 1e12 1e14 1e16 1e18 1e1a 1e1c 1e1e 1e20 1e22 1e24 1e26 1e28 1e2a 1e2c 1e2e 1e30 1e32 1e34",
  "1e36 1e38 1e3a 1e3c 1e3e 1e40 1e42 1e44 1e46 1e48 1e4a 1e4c 1e4e 1e50 1e52 1e54 1e56 1e58 1e5a",
  "1e5c 1e5e 1e60 1e62 1e64 1e66 1e68 1e6a 1e6c 1e6e 1e70 1e72 1e74 1e76 1e78 1e7a 1e7c 1e7e 1e80",
  "1e82 1e84 1e86 1e88 1e8a 1e8c 1e8e 1e90 1e92 1e94 1e9a-1e9b 1e9e 1ea0 1ea2 1ea4 1ea6 1ea8 1eaa",
  "1eac 1eae 1eb0 1eb2 1eb4 1eb6 1eb8 1eba 1ebc 1ebe 1ec0 1ec2 1ec4 1ec6 1ec8 1eca 1ecc 1ece 1ed0",
  "1ed2 1ed4 1ed6 1ed8 1eda 1edc 1ede 1ee0 1ee2 1ee4 1ee6 1ee8 1eea 1eec 1eee 1ef0 1ef2 1ef4 1ef6",
  "1ef8 1efa 1efc 1efe 1f08-1f0f 1f18-1f1d 1f28-1f2f 1f38-1f3f 1f48-1f4d 1f59-1f5f 1f68-1f6f 1f71",
  "1f73 1f75 1f77 1f79 1f7b 1f7d-1faf 1fb2-1fb4 1fb7-1fc4 1fc7-1fcc 1fd3 1fd8-1fdb 1fe3 1fe8-1ff4",
  "1ff7-1ffc 2011 2033-2034 2036-2037 2057 207b-2094 2107 210f 2126 212b 2132-2138 213c-2140 2183",
  "222c-222d 222f-2230 2329-232a 2a0c 2adc 2c00-2c2f 2c60 2c62-2c64 2c67 2c69 2c6b 2c6d-2c70 2c72",
  "2c75 2c7e-2c80 2c82 2c84 2c86 2c88 2c8a 2c8c 2c8e 2c90 2c92 2c94 2c96 2c98 2c9a 2c9c 2c9e 2ca0",
  "2ca2 2ca4 2ca6 2ca8 2caa 2cac 2cae 2cb0 2cb2 2cb4 2cb6 2cb8 2cba 2cbc 2cbe 2cc0 2cc2 2cc4 2cc6",
  "2cc8 2cca 2ccc 2cce 2cd0 2cd2 2cd4 2cd6 2cd8 2cda 2cdc 2cde 2ce0 2ce2 2ceb 2ced 2cf2 2d6f 2e9f",
  "2ef3-2fd5 3036 3038-303a 309f 30ff 3131-318e 3192-319f 3244-3247 3260-327e 3280-33c1 a640 a642",
  "a644 a646 a648 a64a a64c a64e a650 a652 a654 a656 a658 a65a a65c a65e a660 a662 a664 a666 a668",
  "a66a a66c a680 a682 a684 a686 a688 a68a a68c a68e a690 a692 a694 a696 a698 a69a a69c-a69d a722",
  "a724 a726 a728 a72a a72c a72e a732 a734 a736 a738 a73a a73c a73e a740 a742 a744 a746 a748 a74a",
  "a74c a74e a750 a752 a754 a756 a758 a75a a75c a75e a760 a762 a764 a766 a768 a76a a76c a76e a770",
  "a779 a77b a77d-a77e a780 a782 a784 a786 a78b a78d a790 a792 a796 a798 a79a a79c a79e a7a0 a7a2",
  "a7a4 a7a6 a7a8 a7aa-a7ae a7b0-a7b4 a7b6 a7b8 a7ba a7bc a7be a7c0 a7c2 a7c4-a7c7 a7c9 a7cb-a7cc",
  "a7ce a7d0 a7d2 a7d4 a7d6 a7d8 a7da a7dc-a7f5 a7f8-a7f9 ab5c-ab5f ab69 ab70-abbf f900-fa0d fa10",
  "fa12 fa15-fa1e fa20 fa22 fa25-fa26 fa2a-fb1d fb1f-fbb1 fbd3-fd3d fd50-fd8f fd92-fdc7 fdf0-fdfc",
  "fe11-fe18 fe31-fe44 fe51-fe71 fe77-ffee 10400-10427 104b0-104d3 10570-10595 10781-107ba",
  "10c80-10cb2 10d50-10d65 118a0-118bf 16e40-16e5f 16ea0-16eb8 1d15e-1d164 1d1bb-1d1c0",
  "1d6a4-1d7cb 1e030-1e06d 1e900-1e921 1ee00-1eebb 1f200-1f251 2f800-2fa1d"]

/-- The characters that are replaced by text in ASCII or of several kinds. For a range it is the
character that replaces the first one, and the others follow in order. -/
def replaced : List ((Nat × Nat) × List Char) := Text.Table.replacements [
  "aa:a b2-b3:2 b9:1 ba:o bc:1⁄4 bd:1⁄2 be:3⁄4 132:ij 133:ij 13f:l· 140:l· 17f:s 1c7:lj 1c8:lj",
  "1c9:lj 1ca:nj 1cb:nj 1cc:nj 1f1:dz 1f2:dz 1f3:dz 2b0:h 2b2:j 2b3:r 2b7:w 2b8:y 2e1:l 2e2:s",
  "2e3:x 37e:; 1d2c:a 1d2e:b 1d30-1d31:d 1d33-1d3a:g 1d3c:o 1d3e:p 1d3f:r 1d40-1d41:t 1d42:w",
  "1d43:a 1d47:b 1d48-1d49:d 1d4d:g 1d4f:k 1d50:m 1d52:o 1d56:p 1d57-1d58:t 1d5b:v 1d62:i 1d63:r",
  "1d64-1d65:u 1d9c:c 1da0:f 1dbb:z 203c:!! 2070:0 2071:i 2074-2079:4 207a:+ 207c:= 207d-207e:(",
  "207f:n 2080-2089:0 208a:+ 208c:= 208d-208e:( 2090:a 2091:e 2092:o 2093:x 2095:h 2096-2099:k",
  "209a:p 209b-209c:s 20a8:rs 2102:c 2103:°c 2109:°f 210a-210b:g 210c:h 210d:h 210e:h 2110:i",
  "2111:i 2112:l 2113:l 2115:n 2116:no 2119-211b:p 211c:r 211d:r 2120:sm 2121:tel 2122:tm 2124:z",
  "2128:z 212a:k 212c-212d:b 212f:e 2130-2131:e 2133:m 2134:o 2139:i 213b:fax 2145:d 2146-2147:d",
  "2148-2149:i 2150:1⁄7 2151:1⁄9 2152:1⁄10 2153:1⁄3 2154:2⁄3 2155:1⁄5 2156:2⁄5 2157:3⁄5 2158:4⁄5",
  "2159:1⁄6 215a:5⁄6 215b:1⁄8 215c:3⁄8 215d:5⁄8 215e:7⁄8 215f:1⁄ 2160:i 2161:ii 2162:iii 2163:iv",
  "2164:v 2165:vi 2166:vii 2167:viii 2168:ix 2169:x 216a:xi 216b:xii 216c:l 216d-216e:c 216f:m",
  "2170:i 2171:ii 2172:iii 2173:iv 2174:v 2175:vi 2176:vii 2177:viii 2178:ix 2179:x 217a:xi",
  "217b:xii 217c:l 217d-217e:c 217f:m 2189:0⁄3 2460-2468:1 2469:10 246a:11 246b:12 246c:13",
  "246d:14 246e:15 246f:16 2470:17 2471:18 2472:19 2473:20 2474:(1) 2475:(2) 2476:(3) 2477:(4)",
  "2478:(5) 2479:(6) 247a:(7) 247b:(8) 247c:(9) 247d:(10) 247e:(11) 247f:(12) 2480:(13) 2481:(14)",
  "2482:(15) 2483:(16) 2484:(17) 2485:(18) 2486:(19) 2487:(20) 249c:(a) 249d:(b) 249e:(c)",
  "249f:(d) 24a0:(e) 24a1:(f) 24a2:(g) 24a3:(h) 24a4:(i) 24a5:(j) 24a6:(k) 24a7:(l) 24a8:(m)",
  "24a9:(n) 24aa:(o) 24ab:(p) 24ac:(q) 24ad:(r) 24ae:(s) 24af:(t) 24b0:(u) 24b1:(v) 24b2:(w)",
  "24b3:(x) 24b4:(y) 24b5:(z) 24b6-24cf:a 24d0-24e9:a 24ea:0 2a75:== 2a76:=== 2c7c:j 2c7d:v",
  "3002:. 3200:(ᄀ) 3201:(ᄂ) 3202:(ᄃ) 3203:(ᄅ) 3204:(ᄆ) 3205:(ᄇ) 3206:(ᄉ) 3207:(ᄋ) 3208:(ᄌ)",
  "3209:(ᄎ) 320a:(ᄏ) 320b:(ᄐ) 320c:(ᄑ) 320d:(ᄒ) 320e:(가) 320f:(나) 3210:(다) 3211:(라) 3212:(마)",
  "3213:(바) 3214:(사) 3215:(아) 3216:(자) 3217:(차) 3218:(카) 3219:(타) 321a:(파) 321b:(하) 321c:(주)",
  "321d:(오전) 321e:(오후) 3220:(一) 3221:(二) 3222:(三) 3223:(四) 3224:(五) 3225:(六) 3226:(七) 3227:(八)",
  "3228:(九) 3229:(十) 322a:(月) 322b:(火) 322c:(水) 322d:(木) 322e:(金) 322f:(土) 3230:(日) 3231:(株)",
  "3232:(有) 3233:(社) 3234:(名) 3235:(特) 3236:(財) 3237:(祝) 3238:(労) 3239:(代) 323a:(呼) 323b:(学)",
  "323c:(監) 323d:(企) 323e:(資) 323f:(協) 3240:(祭) 3241:(休) 3242:(自) 3243:(至) 3250:pte 3251:21",
  "3252:22 3253:23 3254:24 3255:25 3256:26 3257:27 3258:28 3259:29 325a:30 325b:31 325c:32",
  "325d:33 325e:34 325f:35 32b1:36 32b2:37 32b3:38 32b4:39 32b5:40 32b6:41 32b7:42 32b8:43",
  "32b9:44 32ba:45 32bb:46 32bc:47 32bd:48 32be:49 32bf:50 32c0:1月 32c1:2月 32c2:3月 32c3:4月",
  "32c4:5月 32c5:6月 32c6:7月 32c7:8月 32c8:9月 32c9:10月 32ca:11月 32cb:12月 32cc:hg 32cd:erg 32ce:ev",
  "32cf:ltd 3358:0点 3359:1点 335a:2点 335b:3点 335c:4点 335d:5点 335e:6点 335f:7点 3360:8点 3361:9点",
  "3362:10点 3363:11点 3364:12点 3365:13点 3366:14点 3367:15点 3368:16点 3369:17点 336a:18点 336b:19点",
  "336c:20点 336d:21点 336e:22点 336f:23点 3370:24点 3371:hpa 3372:da 3373:au 3374:bar 3375:ov 3376:pc",
  "3377:dm 3378:dm2 3379:dm3 337a:iu 3380:pa 3381:na 3383:ma 3384:ka 3385:kb 3386:mb 3387:gb",
  "3388:cal 3389:kcal 338a:pf 338b:nf 338e:mg 338f:kg 3390:hz 3391:khz 3392:mhz 3393:ghz 3394:thz",
  "3396:ml 3397:dl 3398:kl 3399:fm 339a:nm 339c:mm 339d:cm 339e:km 339f:mm2 33a0:cm2 33a1:m2",
  "33a2:km2 33a3:mm3 33a4:cm3 33a5:m3 33a6:km3 33a7:m∕s 33a8:m∕s2 33a9:pa 33aa:kpa 33ab:mpa",
  "33ac:gpa 33ad:rad 33ae:rad∕s 33af:rad∕s2 33b0:ps 33b1:ns 33b3:ms 33b4:pv 33b5:nv 33b7:mv",
  "33b8:kv 33b9:mv 33ba:pw 33bb:nw 33bd:mw 33be:kw 33bf:mw 33c3:bq 33c4:cc 33c5:cd 33c6:c∕kg",
  "33c8:db 33c9:gy 33ca:ha 33cb:hp 33cc:in 33cd:kk 33ce:km 33cf:kt 33d0:lm 33d1:ln 33d2:log",
  "33d3:lx 33d4:mb 33d5:mil 33d6:mol 33d7:ph 33d9:ppm 33da:pr 33db:sr 33dc:sv 33dd:wb 33de:v∕m",
  "33df:a∕m 33e0:1日 33e1:2日 33e2:3日 33e3:4日 33e4:5日 33e5:6日 33e6:7日 33e7:8日 33e8:9日 33e9:10日",
  "33ea:11日 33eb:12日 33ec:13日 33ed:14日 33ee:15日 33ef:16日 33f0:17日 33f1:18日 33f2:19日 33f3:20日",
  "33f4:21日 33f5:22日 33f6:23日 33f7:24日 33f8:25日 33f9:26日 33fa:27日 33fb:28日 33fc:29日 33fd:30日",
  "33fe:31日 33ff:gal a7f1:s a7f2:c a7f3:f a7f4:q fb00:ff fb01:fi fb02:fl fb03:ffi fb04:ffl",
  "fb05:st fb06:st fb29:+ fe10:, fe14:; fe15:! fe33:_ fe34:_ fe35-fe36:( fe4d:_ fe4e:_ fe4f:_",
  "fe50:, fe54:; fe57:! fe59-fe5a:( fe60:& fe61-fe62:* fe63:- fe64:< fe65:> fe66:= fe69:$ ff01:!",
  "ff04:$ ff06-ff0e:& ff10-ff19:0 ff1b-ff1e:; ff21-ff3a:a ff3f:_ ff41-ff5a:a ff5e:~ ff61:.",
  "107a5:q 1ccd6-1ccef:a 1ccf0-1ccf9:0 1d400-1d419:a 1d41a-1d433:a 1d434-1d44d:a 1d44e-1d454:a",
  "1d456-1d467:i 1d468-1d481:a 1d482-1d49b:a 1d49c:a 1d49e-1d49f:c 1d4a2:g 1d4a5-1d4a6:j",
  "1d4a9-1d4ac:n 1d4ae-1d4b5:s 1d4b6-1d4b9:a 1d4bb:f 1d4bd-1d4c3:h 1d4c5-1d4cf:p 1d4d0-1d4e9:a",
  "1d4ea-1d503:a 1d504-1d505:a 1d507-1d50a:d 1d50d-1d514:j 1d516-1d51c:s 1d51e-1d537:a",
  "1d538-1d539:a 1d53b-1d53e:d 1d540-1d544:i 1d546:o 1d54a-1d550:s 1d552-1d56b:a 1d56c-1d585:a",
  "1d586-1d59f:a 1d5a0-1d5b9:a 1d5ba-1d5d3:a 1d5d4-1d5ed:a 1d5ee-1d607:a 1d608-1d621:a",
  "1d622-1d63b:a 1d63c-1d655:a 1d656-1d66f:a 1d670-1d689:a 1d68a-1d6a3:a 1d7ce-1d7d7:0",
  "1d7d8-1d7e1:0 1d7e2-1d7eb:0 1d7ec-1d7f5:0 1d7f6-1d7ff:0 1f101:0, 1f102:1, 1f103:2, 1f104:3,",
  "1f105:4, 1f106:5, 1f107:6, 1f108:7, 1f109:8, 1f10a:9, 1f110:(a) 1f111:(b) 1f112:(c) 1f113:(d)",
  "1f114:(e) 1f115:(f) 1f116:(g) 1f117:(h) 1f118:(i) 1f119:(j) 1f11a:(k) 1f11b:(l) 1f11c:(m)",
  "1f11d:(n) 1f11e:(o) 1f11f:(p) 1f120:(q) 1f121:(r) 1f122:(s) 1f123:(t) 1f124:(u) 1f125:(v)",
  "1f126:(w) 1f127:(x) 1f128:(y) 1f129:(z) 1f12a:〔s〕 1f12b:c 1f12c:r 1f12d:cd 1f12e:wz",
  "1f130-1f149:a 1f14a:hv 1f14b:mv 1f14c:sd 1f14d:ss 1f14e:ppv 1f14f:wc 1f16a:mc 1f16b:md",
  "1f16c:mr 1f190:dj 1f240:〔本〕 1f241:〔三〕 1f242:〔二〕 1f243:〔安〕 1f244:〔点〕 1f245:〔打〕 1f246:〔盗〕",
  "1f247:〔勝〕 1f248:〔敗〕 1fbf0-1fbf9:0"]

/-- The text that replaces a character. -/
def replacement? (c : Char) : Option (List Char) :=
  (replaced.find? fun (range, _) => Text.Table.isWithin c.toNat range).map
    fun ((low, high), text) =>
      if low = high then text else text.map fun d => Char.ofNat (d.toNat + (c.toNat - low))

/-- What becomes of a character, unless it may not stand in a name. -/
def foldChar? (c : Char) : Option (List Char) :=
  if c.toNat < 0x80 then some [c.toLower]
  else if Text.Table.covers refused c then none
  else if Text.Table.covers dropped c then some []
  else some ((replacement? c).getD [c])

/-- Whether nothing becomes of a character. -/
def isFinal (c : Char) : Bool :=
  foldChar? c == some [c] && !Text.Table.covers varied c

end Overdue.Domain
