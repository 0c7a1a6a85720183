/-
Module: ReviewGroups.Charset.Iso8859
Purpose: The parts of ISO 8859, which keep ASCII below 0x80 and controls up to 0x9F, and ASCII
  itself.
Trusted boundary: the tables
Main exports: Page.iso8859
-/
import ReviewGroups.Charset.Page

namespace ReviewGroups.Charset

/-- The parts of ISO 8859, which keep ASCII below 0x80 and controls up to 0x9F, and ASCII itself. -/
def Page.iso8859 : List Page := [
    { names := ["ascii"]
      aliases := ["646", "ansi_x3.4_1968", "ansi_x3.4_1986", "ansi_x3_4_1968", "cp367", "csascii",
                  "ibm367", "iso646_us", "iso_646.irv_1991", "iso_ir_6", "us", "us_ascii"]
      rows := [
        "0-7F"] },
    { names := ["latin_1", "iso8859_1", "charmap"]
      aliases := ["8859", "cp819", "csisolatin1", "ibm819", "iso8859", "iso8859_1", "iso_8859_1",
                  "iso_8859_1_1987", "iso_ir_100", "l1", "latin", "latin1"]
      rows := [
        "0-FF"] },
    { names := ["iso8859_2"]
      aliases := ["csisolatin2", "iso_8859_2", "iso_8859_2_1987", "iso_ir_101", "l2", "latin2"]
      rows := [
        "0-A0 104 2D8 141 A4 13D 15A A7-A8 160 15E 164 179 AD 17D 17B B0 105 2DB 142 B4 13E 15B",
        "2C7 B8 161 15F 165 17A 2DD 17E 17C 154 C1-C2 102 C4 139 106 C7 10C C9 118 CB 11A CD-CE",
        "10E 110 143 147 D3-D4 150 D6-D7 158 16E DA 170 DC-DD 162 DF 155 E1-E2 103 E4 13A 107",
        "E7 10D E9 119 EB 11B ED-EE 10F 111 144 148 F3-F4 151 F6-F7 159 16F FA 171 FC-FD 163",
        "2D9"] },
    { names := ["iso8859_3"]
      aliases := ["csisolatin3", "iso_8859_3", "iso_8859_3_1988", "iso_ir_109", "l3", "latin3"]
      rows := [
        "0-A0 126 2D8 A3-A4 FFFD 124 A7-A8 130 15E 11E 134 AD FFFD 17B B0 127 B2-B5 125 B7-B8",
        "131 15F 11F 135 BD FFFD 17C C0-C2 FFFD C4 10A 108 C7-CF FFFD D1-D4 120 D6-D7 11C D9-DC",
        "16C 15C DF-E2 FFFD E4 10B 109 E7-EF FFFD F1-F4 121 F6-F7 11D F9-FC 16D 15D 2D9"] },
    { names := ["iso8859_4"]
      aliases := ["csisolatin4", "iso_8859_4", "iso_8859_4_1988", "iso_ir_110", "l4", "latin4"]
      rows := [
        "0-A0 104 138 156 A4 128 13B A7-A8 160 112 122 166 AD 17D AF-B0 105 2DB 157 B4 129 13C",
        "2C7 B8 161 113 123 167 14A 17E 14B 100 C1-C6 12E 10C C9 118 CB 116 CD-CE 12A 110 145",
        "14C 136 D4-D8 172 DA-DC 168 16A DF 101 E1-E6 12F 10D E9 119 EB 117 ED-EE 12B 111 146",
        "14D 137 F4-F8 173 FA-FC 169 16B 2D9"] },
    { names := ["iso8859_5"]
      aliases := ["csisolatincyrillic", "cyrillic", "iso_8859_5", "iso_8859_5_1988", "iso_ir_144"]
      rows := [
        "0-A0 401-40C AD 40E-44F 2116 451-45C A7 45E-45F"] },
    { names := ["iso8859_6"]
      aliases := ["arabic", "asmo_708", "csisolatinarabic", "ecma_114", "iso_8859_6",
                  "iso_8859_6_1987", "iso_ir_127"]
      rows := [
        "0-A0 FFFD FFFD FFFD A4 FFFD FFFD FFFD FFFD FFFD FFFD FFFD 60C AD FFFD FFFD FFFD FFFD",
        "FFFD FFFD FFFD FFFD FFFD FFFD FFFD FFFD FFFD 61B FFFD FFFD FFFD 61F FFFD 621-63A FFFD",
        "FFFD FFFD FFFD FFFD 640-652"] },
    { names := ["iso8859_7"]
      aliases := ["csisolatingreek", "ecma_118", "elot_928", "greek", "greek8", "iso_8859_7",
                  "iso_8859_7_1987", "iso_ir_126"]
      rows := [
        "0-A0 2018-2019 A3 20AC 20AF A6-A9 37A AB-AD FFFD 2015 B0-B3 384-386 B7 388-38A BB 38C",
        "BD 38E-3A1 FFFD 3A3-3CE"] },
    { names := ["iso8859_8"]
      aliases := ["csisolatinhebrew", "hebrew", "iso_8859_8", "iso_8859_8_1988", "iso_ir_138"]
      rows := [
        "0-A0 FFFD A2-A9 D7 AB-B9 F7 BB-BE FFFD FFFD FFFD FFFD FFFD FFFD FFFD FFFD FFFD FFFD",
        "FFFD FFFD FFFD FFFD FFFD FFFD FFFD FFFD FFFD FFFD FFFD FFFD FFFD FFFD FFFD FFFD FFFD",
        "FFFD FFFD FFFD FFFD FFFD 2017 5D0-5EA FFFD FFFD 200E-200F"] },
    { names := ["iso8859_9"]
      aliases := ["csisolatin5", "iso_8859_9", "iso_8859_9_1989", "iso_ir_148", "l5", "latin5"]
      rows := [
        "0-CF 11E D1-DC 130 15E DF-EF 11F F1-FC 131 15F FF"] },
    { names := ["iso8859_10"]
      aliases := ["csisolatin6", "iso_8859_10", "iso_8859_10_1992", "iso_ir_157", "l6", "latin6"]
      rows := [
        "0-A0 104 112 122 12A 128 136 A7 13B 110 160 166 17D AD 16A 14A B0 105 113 123 12B 129",
        "137 B7 13C 111 161 167 17E 2015 16B 14B 100 C1-C6 12E 10C C9 118 CB 116 CD-D0 145 14C",
        "D3-D6 168 D8 172 DA-DF 101 E1-E6 12F 10D E9 119 EB 117 ED-F0 146 14D F3-F6 169 F8 173",
        "FA-FE 138"] },
    { names := ["iso8859_11"]
      aliases := ["iso_8859_11", "iso_8859_11_2001", "thai"]
      rows := [
        "0-A0 E01-E3A FFFD FFFD FFFD FFFD E3F-E5B"] },
    { names := ["iso8859_13"]
      aliases := ["iso_8859_13", "l7", "latin7"]
      rows := [
        "0-A0 201D A2-A4 201E A6-A7 D8 A9 156 AB-AE C6 B0-B3 201C B5-B7 F8 B9 157 BB-BE E6 104",
        "12E 100 106 C4-C5 118 112 10C C9 179 116 122 136 12A 13B 160 143 145 D3 14C D5-D7 172",
        "141 15A 16A DC 17B 17D DF 105 12F 101 107 E4-E5 119 113 10D E9 17A 117 123 137 12B 13C",
        "161 144 146 F3 14D F5-F7 173 142 15B 16B FC 17C 17E 2019"] },
    { names := ["iso8859_14"]
      aliases := ["iso_8859_14", "iso_8859_14_1998", "iso_celtic", "iso_ir_199", "l8", "latin8"]
      rows := [
        "0-A0 1E02-1E03 A3 10A-10B 1E0A A7 1E80 A9 1E82 1E0B 1EF2 AD-AE 178 1E1E-1E1F 120-121",
        "1E40-1E41 B6 1E56 1E81 1E57 1E83 1E60 1EF3 1E84-1E85 1E61 C0-CF 174 D1-D6 1E6A D8-DD",
        "176 DF-EF 175 F1-F6 1E6B F8-FD 177 FF"] },
    { names := ["iso8859_15"]
      aliases := ["iso_8859_15", "l9", "latin9"]
      rows := [
        "0-A3 20AC A5 160 A7 161 A9-B3 17D B5-B7 17E B9-BB 152-153 178 BF-FF"] },
    { names := ["iso8859_16"]
      aliases := ["iso_8859_16", "iso_8859_16_2001", "iso_ir_226", "l10", "latin10"]
      rows := [
        "0-A0 104-105 141 20AC 201E 160 A7 161 A9 218 AB 179 AD 17A-17B B0-B1 10C 142 17D 201D",
        "B6-B7 17E 10D 219 BB 152-153 178 17C C0-C2 102 C4 106 C6-CF 110 143 D2-D4 150 D6 15A",
        "170 D9-DC 118 21A DF-E2 103 E4 107 E6-EF 111 144 F2-F4 151 F6 15B 171 F9-FC 119 21B FF"] }]

end ReviewGroups.Charset
