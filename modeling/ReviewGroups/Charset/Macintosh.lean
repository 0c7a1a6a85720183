/-
Module: ReviewGroups.Charset.Macintosh
Purpose: The pages of the Macintosh.
Trusted boundary: the tables
Main exports: Page.macintosh
-/
import ReviewGroups.Charset.Page

namespace ReviewGroups.Charset

/-- The pages of the Macintosh. -/
def Page.macintosh : List Page := [
    { names := ["mac_arabic"]
      rows := [
        "0-7F C4 A0 C7 C9 D1 D6 DC E1 E0 E2 E4 6BA AB E7 E9 E8 EA-EB ED 2026 EE-EF F1 F3 BB F4",
        "F6-F7 FA F9 FB-FC 20-24 66A 26-2B 60C 2D-2F 660-669 3A 61B 3C-3E 61F 274A 621-63A",
        "5B-5F 640-652 67E 679 686 6D5 6A4 6AF 688 691 7B-7D 698 6D2"] },
    { names := ["mac_croatian"]
      rows := [
        "0-7F C4-C5 C7 C9 D1 D6 DC E1 E0 E2 E4 E3 E5 E7 E9 E8 EA-EB ED EC EE-EF F1 F3 F2 F4 F6",
        "F5 FA F9 FB-FC 2020 B0 A2-A3 A7 2022 B6 DF AE 160 2122 B4 A8 2260 17D D8 221E B1",
        "2264-2265 2206 B5 2202 2211 220F 161 222B AA BA 3A9 17E F8 BF A1 AC 221A 192 2248 106",
        "AB 10C 2026 A0 C0 C3 D5 152-153 110 2014 201C-201D 2018-2019 F7 25CA F8FF A9 2044 20AC",
        "2039-203A C6 BB 2013 B7 201A 201E 2030 C2 107 C1 10D C8 CD-CF CC D3-D4 111 D2 DA-DB D9",
        "131 2C6 2DC AF 3C0 CB 2DA B8 CA E6 2C7"] },
    { names := ["mac_cyrillic"]
      aliases := ["maccyrillic"]
      rows := [
        "0-7F 410-42F 2020 B0 490 A3 A7 2022 B6 406 AE A9 2122 402 452 2260 403 453 221E B1",
        "2264-2265 456 B5 491 408 404 454 407 457 409 459 40A 45A 458 405 AC 221A 192 2248 2206",
        "AB BB 2026 A0 40B 45B 40C 45C 455 2013-2014 201C-201D 2018-2019 F7 201E 40E 45E 40F",
        "45F 2116 401 451 44F 430-44E 20AC"] },
    { names := ["mac_farsi"]
      rows := [
        "0-7F C4 A0 C7 C9 D1 D6 DC E1 E0 E2 E4 6BA AB E7 E9 E8 EA-EB ED 2026 EE-EF F1 F3 BB F4",
        "F6-F7 FA F9 FB-FC 20-24 66A 26-2B 60C 2D-2F 6F0-6F9 3A 61B 3C-3E 61F 274A 621-63A",
        "5B-5F 640-652 67E 679 686 6D5 6A4 6AF 688 691 7B-7D 698 6D2"] },
    { names := ["mac_greek"]
      aliases := ["macgreek"]
      rows := [
        "0-7F C4 B9 B2 C9 B3 D6 DC 385 E0 E2 E4 384 A8 E7 E9 E8 EA-EB A3 2122 EE-EF 2022 BD",
        "2030 F4 F6 A6 20AC F9 FB-FC 2020 393-394 398 39B 39E 3A0 DF AE A9 3A3 3AA A7 2260 B0",
        "B7 391 B1 2264-2265 A5 392 395-397 399-39A 39C 3A6 3AB 3A8-3A9 3AC 39D AC 39F 3A1 2248",
        "3A4 AB BB 2026 A0 3A5 3A7 386 388 153 2013 2015 201C-201D 2018-2019 F7 389-38A 38C 38E",
        "3AD-3AF 3CC 38F 3CD 3B1-3B2 3C8 3B4-3B5 3C6 3B3 3B7 3B9 3BE 3BA-3BD 3BF-3C0 3CE 3C1",
        "3C3-3C4 3B8 3C9 3C2 3C7 3C5 3B6 3CA-3CB 390 3B0 AD"] },
    { names := ["mac_iceland"]
      aliases := ["maciceland"]
      rows := [
        "0-7F C4-C5 C7 C9 D1 D6 DC E1 E0 E2 E4 E3 E5 E7 E9 E8 EA-EB ED EC EE-EF F1 F3 F2 F4 F6",
        "F5 FA F9 FB-FC DD B0 A2-A3 A7 2022 B6 DF AE A9 2122 B4 A8 2260 C6 D8 221E B1 2264-2265",
        "A5 B5 2202 2211 220F 3C0 222B AA BA 3A9 E6 F8 BF A1 AC 221A 192 2248 2206 AB BB 2026",
        "A0 C0 C3 D5 152-153 2013-2014 201C-201D 2018-2019 F7 25CA FF 178 2044 20AC D0 F0 DE FE",
        "FD B7 201A 201E 2030 C2 CA C1 CB C8 CD-CF CC D3-D4 F8FF D2 DA-DB D9 131 2C6 2DC AF",
        "2D8-2DA B8 2DD 2DB 2C7"] },
    { names := ["mac_latin2"]
      aliases := ["mac_centeuro", "maccentraleurope", "maclatin2"]
      rows := [
        "0-7F C4 100-101 C9 104 D6 DC E1 105 10C E4 10D 106-107 E9 179-17A 10E ED 10F 112-113",
        "116 F3 117 F4 F6 F5 FA 11A-11B FC 2020 B0 118 A3 A7 2022 B6 DF AE A9 2122 119 A8 2260",
        "123 12E-12F 12A 2264-2265 12B 136 2202 2211 142 13B-13E 139-13A 145-146 143 AC 221A",
        "144 147 2206 AB BB 2026 A0 148 150 D5 151 14C 2013-2014 201C-201D 2018-2019 F7 25CA",
        "14D 154-155 158 2039-203A 159 156-157 160 201A 201E 161 15A-15B C1 164-165 CD 17D-17E",
        "16A D3-D4 16B 16E DA 16F-173 DD FD 137 17B 141 17C 122 2C7"] },
    { names := ["mac_roman"]
      aliases := ["macintosh", "macroman"]
      rows := [
        "0-7F C4-C5 C7 C9 D1 D6 DC E1 E0 E2 E4 E3 E5 E7 E9 E8 EA-EB ED EC EE-EF F1 F3 F2 F4 F6",
        "F5 FA F9 FB-FC 2020 B0 A2-A3 A7 2022 B6 DF AE A9 2122 B4 A8 2260 C6 D8 221E B1",
        "2264-2265 A5 B5 2202 2211 220F 3C0 222B AA BA 3A9 E6 F8 BF A1 AC 221A 192 2248 2206 AB",
        "BB 2026 A0 C0 C3 D5 152-153 2013-2014 201C-201D 2018-2019 F7 25CA FF 178 2044 20AC",
        "2039-203A FB01-FB02 2021 B7 201A 201E 2030 C2 CA C1 CB C8 CD-CF CC D3-D4 F8FF D2 DA-DB",
        "D9 131 2C6 2DC AF 2D8-2DA B8 2DD 2DB 2C7"] },
    { names := ["mac_romanian"]
      rows := [
        "0-7F C4-C5 C7 C9 D1 D6 DC E1 E0 E2 E4 E3 E5 E7 E9 E8 EA-EB ED EC EE-EF F1 F3 F2 F4 F6",
        "F5 FA F9 FB-FC 2020 B0 A2-A3 A7 2022 B6 DF AE A9 2122 B4 A8 2260 102 218 221E B1",
        "2264-2265 A5 B5 2202 2211 220F 3C0 222B AA BA 3A9 103 219 BF A1 AC 221A 192 2248 2206",
        "AB BB 2026 A0 C0 C3 D5 152-153 2013-2014 201C-201D 2018-2019 F7 25CA FF 178 2044 20AC",
        "2039-203A 21A-21B 2021 B7 201A 201E 2030 C2 CA C1 CB C8 CD-CF CC D3-D4 F8FF D2 DA-DB",
        "D9 131 2C6 2DC AF 2D8-2DA B8 2DD 2DB 2C7"] },
    { names := ["mac_turkish"]
      aliases := ["macturkish"]
      rows := [
        "0-7F C4-C5 C7 C9 D1 D6 DC E1 E0 E2 E4 E3 E5 E7 E9 E8 EA-EB ED EC EE-EF F1 F3 F2 F4 F6",
        "F5 FA F9 FB-FC 2020 B0 A2-A3 A7 2022 B6 DF AE A9 2122 B4 A8 2260 C6 D8 221E B1",
        "2264-2265 A5 B5 2202 2211 220F 3C0 222B AA BA 3A9 E6 F8 BF A1 AC 221A 192 2248 2206 AB",
        "BB 2026 A0 C0 C3 D5 152-153 2013-2014 201C-201D 2018-2019 F7 25CA FF 178 11E-11F",
        "130-131 15E-15F 2021 B7 201A 201E 2030 C2 CA C1 CB C8 CD-CF CC D3-D4 F8FF D2 DA-DB D9",
        "F8A0 2C6 2DC AF 2D8-2DA B8 2DD 2DB 2C7"] }]

end ReviewGroups.Charset
