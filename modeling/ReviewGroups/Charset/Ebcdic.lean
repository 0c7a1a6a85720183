/-
Module: ReviewGroups.Charset.Ebcdic
Purpose: The pages of mainframes, in which letters do not follow one another.
Trusted boundary: the tables
Main exports: Page.ebcdic
-/
import ReviewGroups.Charset.Page

namespace ReviewGroups.Charset

/-- The pages of mainframes, in which letters do not follow one another. -/
def Page.ebcdic : List Page := [
    { names := ["cp037"]
      aliases := ["037", "csibm037", "ebcdic_cp_ca", "ebcdic_cp_nl", "ebcdic_cp_us",
                  "ebcdic_cp_wt", "ibm037", "ibm039"]
      rows := [
        "0-3 9C 9 86 7F 97 8D-8E B-13 9D 85 8 87 18-19 92 8F 1C-1F 80-84 A 17 1B 88-8C 5-7",
        "90-91 16 93-96 4 98-9B 14-15 9E 1A 20 A0 E2 E4 E0-E1 E3 E5 E7 F1 A2 2E 3C 28 2B 7C 26",
        "E9-EB E8 ED-EF EC DF 21 24 2A 29 3B AC 2D 2F C2 C4 C0-C1 C3 C5 C7 D1 A6 2C 25 5F 3E-3F",
        "F8 C9-CB C8 CD-CF CC 60 3A 23 40 27 3D 22 D8 61-69 AB BB F0 FD-FE B1 B0 6A-72 AA BA E6",
        "B8 C6 A4 B5 7E 73-7A A1 BF D0 DD-DE AE 5E A3 A5 B7 A9 A7 B6 BC-BE 5B 5D AF A8 B4 D7 7B",
        "41-49 AD F4 F6 F2-F3 F5 7D 4A-52 B9 FB-FC F9-FA FF 5C F7 53-5A B2 D4 D6 D2-D3 D5 30-39",
        "B3 DB-DC D9-DA 9F"] },
    { names := ["cp273"]
      aliases := ["273", "csibm273", "ibm273"]
      rows := [
        "0-3 9C 9 86 7F 97 8D-8E B-13 9D 85 8 87 18-19 92 8F 1C-1F 80-84 A 17 1B 88-8C 5-7",
        "90-91 16 93-96 4 98-9B 14-15 9E 1A 20 A0 E2 7B E0-E1 E3 E5 E7 F1 C4 2E 3C 28 2B 21 26",
        "E9-EB E8 ED-EF EC 7E DC 24 2A 29 3B 5E 2D 2F C2 5B C0-C1 C3 C5 C7 D1 F6 2C 25 5F 3E-3F",
        "F8 C9-CB C8 CD-CF CC 60 3A 23 A7 27 3D 22 D8 61-69 AB BB F0 FD-FE B1 B0 6A-72 AA BA E6",
        "B8 C6 A4 B5 DF 73-7A A1 BF D0 DD-DE AE A2-A3 A5 B7 A9 40 B6 BC-BE AC 7C 203E A8 B4 D7",
        "E4 41-49 AD F4 A6 F2-F3 F5 FC 4A-52 B9 FB 7D F9-FA FF D6 F7 53-5A B2 D4 5C D2-D3 D5",
        "30-39 B3 DB 5D D9-DA 9F"] },
    { names := ["cp424"]
      aliases := ["424", "csibm424", "ebcdic_cp_he", "ibm424"]
      rows := [
        "0-3 9C 9 86 7F 97 8D-8E B-13 9D 85 8 87 18-19 92 8F 1C-1F 80-84 A 17 1B 88-8C 5-7",
        "90-91 16 93-96 4 98-9B 14-15 9E 1A 20 5D0-5D8 A2 2E 3C 28 2B 7C 26 5D9-5E1 21 24 2A 29",
        "3B AC 2D 2F 5E2-5E9 A6 2C 25 5F 3E-3F FFFD 5EA FFFD FFFD A0 FFFD FFFD FFFD 2017 60 3A",
        "23 40 27 3D 22 FFFD 61-69 AB BB FFFD FFFD FFFD B1 B0 6A-72 FFFD FFFD FFFD B8 FFFD A4",
        "B5 7E 73-7A FFFD FFFD FFFD FFFD FFFD AE 5E A3 A5 B7 A9 A7 B6 BC-BE 5B 5D AF A8 B4 D7",
        "7B 41-49 AD FFFD FFFD FFFD FFFD FFFD 7D 4A-52 B9 FFFD FFFD FFFD FFFD FFFD 5C F7 53-5A",
        "B2 FFFD FFFD FFFD FFFD FFFD 30-39 B3 FFFD FFFD FFFD FFFD 9F"] },
    { names := ["cp500"]
      aliases := ["500", "csibm500", "ebcdic_cp_be", "ebcdic_cp_ch", "ibm500"]
      rows := [
        "0-3 9C 9 86 7F 97 8D-8E B-13 9D 85 8 87 18-19 92 8F 1C-1F 80-84 A 17 1B 88-8C 5-7",
        "90-91 16 93-96 4 98-9B 14-15 9E 1A 20 A0 E2 E4 E0-E1 E3 E5 E7 F1 5B 2E 3C 28 2B 21 26",
        "E9-EB E8 ED-EF EC DF 5D 24 2A 29 3B 5E 2D 2F C2 C4 C0-C1 C3 C5 C7 D1 A6 2C 25 5F 3E-3F",
        "F8 C9-CB C8 CD-CF CC 60 3A 23 40 27 3D 22 D8 61-69 AB BB F0 FD-FE B1 B0 6A-72 AA BA E6",
        "B8 C6 A4 B5 7E 73-7A A1 BF D0 DD-DE AE A2-A3 A5 B7 A9 A7 B6 BC-BE AC 7C AF A8 B4 D7 7B",
        "41-49 AD F4 F6 F2-F3 F5 7D 4A-52 B9 FB-FC F9-FA FF 5C F7 53-5A B2 D4 D6 D2-D3 D5 30-39",
        "B3 DB-DC D9-DA 9F"] },
    { names := ["cp875"]
      rows := [
        "0-3 9C 9 86 7F 97 8D-8E B-13 9D 85 8 87 18-19 92 8F 1C-1F 80-84 A 17 1B 88-8C 5-7",
        "90-91 16 93-96 4 98-9B 14-15 9E 1A 20 391-399 5B 2E 3C 28 2B 21 26 39A-3A1 3A3 5D 24",
        "2A 29 3B 5E 2D 2F 3A4-3AB 7C 2C 25 5F 3E-3F A8 386 388-389 A0 38A 38C 38E-38F 60 3A 23",
        "40 27 3D 22 385 61-69 3B1-3B6 B0 6A-72 3B7-3BC B4 7E 73-7A 3BD-3C1 3C3 A3 3AC-3AE 3CA",
        "3AF 3CC-3CD 3CB 3CE 3C2 3C4-3C8 7B 41-49 AD 3C9 390 3B0 2018 2015 7D 4A-52 B1 BD 1A",
        "387 2019 A6 5C 1A 53-5A B2 A7 1A 1A AB-AC 30-39 B3 A9 1A 1A BB 9F"] },
    { names := ["cp1026"]
      aliases := ["1026", "csibm1026", "ibm1026"]
      rows := [
        "0-3 9C 9 86 7F 97 8D-8E B-13 9D 85 8 87 18-19 92 8F 1C-1F 80-84 A 17 1B 88-8C 5-7",
        "90-91 16 93-96 4 98-9B 14-15 9E 1A 20 A0 E2 E4 E0-E1 E3 E5 7B F1 C7 2E 3C 28 2B 21 26",
        "E9-EB E8 ED-EF EC DF 11E 130 2A 29 3B 5E 2D 2F C2 C4 C0-C1 C3 C5 5B D1 15F 2C 25 5F",
        "3E-3F F8 C9-CB C8 CD-CF CC 131 3A D6 15E 27 3D DC D8 61-69 AB BB 7D 60 A6 B1 B0 6A-72",
        "AA BA E6 B8 C6 A4 B5 F6 73-7A A1 BF 5D 24 40 AE A2-A3 A5 B7 A9 A7 B6 BC-BE AC 7C AF A8",
        "B4 D7 E7 41-49 AD F4 7E F2-F3 F5 11F 4A-52 B9 FB 5C F9-FA FF FC F7 53-5A B2 D4 23",
        "D2-D3 D5 30-39 B3 DB 22 D9-DA 9F"] },
    { names := ["cp1140"]
      aliases := ["1140", "ibm1140"]
      rows := [
        "0-3 9C 9 86 7F 97 8D-8E B-13 9D 85 8 87 18-19 92 8F 1C-1F 80-84 A 17 1B 88-8C 5-7",
        "90-91 16 93-96 4 98-9B 14-15 9E 1A 20 A0 E2 E4 E0-E1 E3 E5 E7 F1 A2 2E 3C 28 2B 7C 26",
        "E9-EB E8 ED-EF EC DF 21 24 2A 29 3B AC 2D 2F C2 C4 C0-C1 C3 C5 C7 D1 A6 2C 25 5F 3E-3F",
        "F8 C9-CB C8 CD-CF CC 60 3A 23 40 27 3D 22 D8 61-69 AB BB F0 FD-FE B1 B0 6A-72 AA BA E6",
        "B8 C6 20AC B5 7E 73-7A A1 BF D0 DD-DE AE 5E A3 A5 B7 A9 A7 B6 BC-BE 5B 5D AF A8 B4 D7",
        "7B 41-49 AD F4 F6 F2-F3 F5 7D 4A-52 B9 FB-FC F9-FA FF 5C F7 53-5A B2 D4 D6 D2-D3 D5",
        "30-39 B3 DB-DC D9-DA 9F"] }]

end ReviewGroups.Charset
