/-
Module: ReviewGroups.Charset.Regional
Purpose: Pages of single regions and makers.
Trusted boundary: the tables
Main exports: Page.regional
-/
import ReviewGroups.Charset.Page

namespace ReviewGroups.Charset

/-- Pages of single regions and makers. -/
def Page.regional : List Page := [
    { names := ["koi8_r"]
      aliases := ["cskoi8r"]
      rows := [
        "0-7F 2500 2502 250C 2510 2514 2518 251C 2524 252C 2534 253C 2580 2584 2588 258C",
        "2590-2593 2320 25A0 2219-221A 2248 2264-2265 A0 2321 B0 B2 B7 F7 2550-2552 451",
        "2553-2561 401 2562-256C A9 44E 430-431 446 434-435 444 433 445 438-43F 44F 440-443 436",
        "432 44C 44B 437 448 44D 449 447 44A 42E 410-411 426 414-415 424 413 425 418-41F 42F",
        "420-423 416 412 42C 42B 417 428 42D 429 427 42A"] },
    { names := ["koi8_t"]
      rows := [
        "0-7F 49B 493 201A 492 201E 2026 2020-2021 FFFD 2030 4B3 2039 4B2 4B7 4B6 FFFD 49A",
        "2018-2019 201C-201D 2022 2013-2014 FFFD 2122 FFFD 203A FFFD FFFD FFFD FFFD FFFD 4EF",
        "4EE 451 A4 4E3 A6-A7 FFFD FFFD FFFD AB-AE FFFD B0-B2 401 FFFD 4E2 B6-B7 FFFD 2116 FFFD",
        "BB FFFD FFFD FFFD A9 44E 430-431 446 434-435 444 433 445 438-43F 44F 440-443 436 432",
        "44C 44B 437 448 44D 449 447 44A 42E 410-411 426 414-415 424 413 425 418-41F 42F",
        "420-423 416 412 42C 42B 417 428 42D 429 427 42A"] },
    { names := ["koi8_u"]
      rows := [
        "0-7F 2500 2502 250C 2510 2514 2518 251C 2524 252C 2534 253C 2580 2584 2588 258C",
        "2590-2593 2320 25A0 2219-221A 2248 2264-2265 A0 2321 B0 B2 B7 F7 2550-2552 451 454",
        "2554 456-457 2557-255B 491 255D-2561 401 404 2563 406-407 2566-256A 490 256C A9 44E",
        "430-431 446 434-435 444 433 445 438-43F 44F 440-443 436 432 44C 44B 437 448 44D 449",
        "447 44A 42E 410-411 426 414-415 424 413 425 418-41F 42F 420-423 416 412 42C 42B 417",
        "428 42D 429 427 42A"] },
    { names := ["ptcp154"]
      aliases := ["cp154", "csptcp154", "cyrillic_asian", "pt154"]
      rows := [
        "0-7F 496 492 4EE 493 201E 2026 4B6 4AE 4B2 4AF 4A0 4E2 4A2 49A 4BA 4B8 497 2018-2019",
        "201C-201D 2022 2013-2014 4B3 4B7 4A1 4E3 4A3 49B 4BB 4B9 A0 40E 45E 408 4E8 498 4B0 A7",
        "401 A9 4D8 AB-AC 4EF AE 49C B0 4B1 406 456 499 4E9 B6-B7 451 2116 4D9 BB 458 4AA-4AB",
        "49D 410-44F"] },
    { names := ["tis_620"]
      aliases := ["iso_ir_166", "tis620", "tis_620_0", "tis_620_2529_0", "tis_620_2529_1"]
      rows := [
        "0-9F FFFD E01-E3A FFFD FFFD FFFD FFFD E3F-E5B"] },
    { names := ["cp1006"]
      rows := [
        "0-A0 6F0-6F9 60C 61B AD 61F FE81 FE8D-FE8E FE8E-FE8F FE91 FB56 FB58 FE93 FE95 FE97",
        "FB66 FB68 FE99 FE9B FE9D FE9F FB7A FB7C FEA1 FEA3 FEA5 FEA7 FEA9 FB84 FEAB FEAD FB8C",
        "FEAF FB8A FEB1 FEB3 FEB5 FEB7 FEB9 FEBB FEBD FEBF FEC1 FEC5 FEC9-FED1 FED3 FED5 FED7",
        "FED9 FEDB FB92 FB94 FEDD FEDF-FEE1 FEE3 FB9E FEE5 FEE7 FE85 FEED FBA6 FBA8-FBAA FE80",
        "FE89-FE8B FEF1-FEF3 FBB0 FBAE FE7C-FE7D"] },
    { names := ["hp_roman8"]
      aliases := ["cp1051", "csHPRoman8", "ibm1051", "r8", "roman8"]
      rows := [
        "0-A0 C0 C2 C8 CA-CB CE-CF B4 2CB 2C6 A8 2DC D9 DB 20A4 AF DD FD B0 C7 E7 D1 F1 A1 BF",
        "A4 A3 A5 A7 192 A2 E2 EA F4 FB E1 E9 F3 FA E0 E8 F2 F9 E4 EB F6 FC C5 EE D8 C6 E5 ED",
        "F8 E6 C4 EC D6 DC C9 EF DF D4 C1 C3 E3 D0 F0 CD CC D3 D2 D5 F5 160-161 DA 178 FF DE FE",
        "B7 B5-B6 BE 2014 BC-BD AA BA AB 25A0 BB B1"] },
    { names := ["palmos"]
      rows := [
        "0-7F 20AC 81 201A 192 201E 2026 2020-2021 2C6 2030 160 2039 152 2666 2663 2665 2660",
        "2018-2019 201C-201D 2022 2013-2014 2DC 2122 161 9B 153 9D-9E 178 A0-FF"] }]

end ReviewGroups.Charset
