/-
  TagAudit.Unicode.CaseMap — lower case, and the folding of case.

  `lowercaseRuns` and `foldRuns` list the code points whose lower case form, or simple case
  folding, is another single code point, with the distance to it; data of the Unicode
  standard, version 15.0.
-/

import TagAudit.Unicode.CodeSet

namespace TagAudit.Unicode

/-- Lower case forms of one character. -/
def lowercaseRuns : List Shift := Shift.ofText <|
      "41-5a+32 c0-d6+32 d8-de+32 100-12e/2+1 132-136/2+1 139-147/2+1 14a-176/2+1 178~121 " ++
      "179-17d/2+1 181+210 182+1 184+1 186+206 187+1 189-18a+205 18b+1 18e+79 18f+202 190+203 " ++
      "191+1 193+205 194+207 196+211 197+209 198+1 19c+211 19d+213 19f+214 1a0-1a4/2+1 1a6+218 " ++
      "1a7+1 1a9+218 1ac+1 1ae+218 1af+1 1b1-1b2+217 1b3+1 1b5+1 1b7+219 1b8+1 1bc+1 1c4+2 1c5+1 " ++
      "1c7+2 1c8+1 1ca+2 1cb-1db/2+1 1de-1ee/2+1 1f1+2 1f2+1 1f4+1 1f6~97 1f7~56 1f8-21e/2+1 " ++
      "220~130 222-232/2+1 23a+10795 23b+1 23d~163 23e+10792 241+1 243~195 244+69 245+71 " ++
      "246-24e/2+1 370+1 372+1 376+1 37f+116 386+38 388-38a+37 38c+64 38e-38f+63 391-3a1+32 " ++
      "3a3-3ab+32 3cf+8 3d8-3ee/2+1 3f4~60 3f7+1 3f9~7 3fa+1 3fd-3ff~130 400-40f+80 410-42f+32 " ++
      "460-480/2+1 48a-4be/2+1 4c0+15 4c1-4cd/2+1 4d0-52e/2+1 531-556+48 10a0-10c5+7264 10c7+7264 " ++
      "10cd+7264 13a0-13ef+38864 13f0-13f5+8 1c90-1cba~3008 1cbd-1cbf~3008 1e00-1e94/2+1 " ++
      "1e9e~7615 1ea0-1efe/2+1 1f08-1f0f~8 1f18-1f1d~8 1f28-1f2f~8 1f38-1f3f~8 1f48-1f4d~8 " ++
      "1f59-1f5f/2~8 1f68-1f6f~8 1f88-1f8f~8 1f98-1f9f~8 1fa8-1faf~8 1fb8-1fb9~8 1fba-1fbb~74 " ++
      "1fbc~9 1fc8-1fcb~86 1fcc~9 1fd8-1fd9~8 1fda-1fdb~100 1fe8-1fe9~8 1fea-1feb~112 1fec~7 " ++
      "1ff8-1ff9~128 1ffa-1ffb~126 1ffc~9 2126~7517 212a~8383 212b~8262 2132+28 2160-216f+16 " ++
      "2183+1 24b6-24cf+26 2c00-2c2f+48 2c60+1 2c62~10743 2c63~3814 2c64~10727 2c67-2c6b/2+1 " ++
      "2c6d~10780 2c6e~10749 2c6f~10783 2c70~10782 2c72+1 2c75+1 2c7e-2c7f~10815 2c80-2ce2/2+1 " ++
      "2ceb+1 2ced+1 2cf2+1 a640-a66c/2+1 a680-a69a/2+1 a722-a72e/2+1 a732-a76e/2+1 a779+1 a77b+1 " ++
      "a77d~35332 a77e-a786/2+1 a78b+1 a78d~42280 a790+1 a792+1 a796-a7a8/2+1 a7aa~42308 " ++
      "a7ab~42319 a7ac~42315 a7ad~42305 a7ae~42308 a7b0~42258 a7b1~42282 a7b2~42261 a7b3+928 " ++
      "a7b4-a7c2/2+1 a7c4~48 a7c5~42307 a7c6~35384 a7c7+1 a7c9+1 a7d0+1 a7d6+1 a7d8+1 a7f5+1 " ++
      "ff21-ff3a+32 10400-10427+40 104b0-104d3+40 10570-10594/2+39 10571-10579/2+39 " ++
      "1057d-10589/2+39 1058d-10591/2+39 10595+39 10c80-10cb2+64 118a0-118bf+32 16e40-16e5f+32 " ++
      "1e900-1e921+34"

/-- Simple case folding. -/
def foldRuns : List Shift := Shift.ofText <|
      "41-5a+32 b5+775 c0-d6+32 d8-de+32 100-12e/2+1 132-136/2+1 139-147/2+1 14a-176/2+1 178~121 " ++
      "179-17d/2+1 17f~268 181+210 182+1 184+1 186+206 187+1 189-18a+205 18b+1 18e+79 18f+202 " ++
      "190+203 191+1 193+205 194+207 196+211 197+209 198+1 19c+211 19d+213 19f+214 1a0-1a4/2+1 " ++
      "1a6+218 1a7+1 1a9+218 1ac+1 1ae+218 1af+1 1b1-1b2+217 1b3+1 1b5+1 1b7+219 1b8+1 1bc+1 " ++
      "1c4+2 1c5+1 1c7+2 1c8+1 1ca+2 1cb-1db/2+1 1de-1ee/2+1 1f1+2 1f2+1 1f4+1 1f6~97 1f7~56 " ++
      "1f8-21e/2+1 220~130 222-232/2+1 23a+10795 23b+1 23d~163 23e+10792 241+1 243~195 244+69 " ++
      "245+71 246-24e/2+1 345+116 370+1 372+1 376+1 37f+116 386+38 388-38a+37 38c+64 38e-38f+63 " ++
      "391-3a1+32 3a3-3ab+32 3c2+1 3cf+8 3d0~30 3d1~25 3d5~15 3d6~22 3d8-3ee/2+1 3f0~54 3f1~48 " ++
      "3f4~60 3f5~64 3f7+1 3f9~7 3fa+1 3fd-3ff~130 400-40f+80 410-42f+32 460-480/2+1 48a-4be/2+1 " ++
      "4c0+15 4c1-4cd/2+1 4d0-52e/2+1 531-556+48 10a0-10c5+7264 10c7+7264 10cd+7264 13f8-13fd~8 " ++
      "1c80~6222 1c81~6221 1c82~6212 1c83-1c84~6210 1c85~6211 1c86~6204 1c87~6180 1c88+35267 " ++
      "1c90-1cba~3008 1cbd-1cbf~3008 1e00-1e94/2+1 1e9b~58 1e9e~7615 1ea0-1efe/2+1 1f08-1f0f~8 " ++
      "1f18-1f1d~8 1f28-1f2f~8 1f38-1f3f~8 1f48-1f4d~8 1f59-1f5f/2~8 1f68-1f6f~8 1f88-1f8f~8 " ++
      "1f98-1f9f~8 1fa8-1faf~8 1fb8-1fb9~8 1fba-1fbb~74 1fbc~9 1fbe~7173 1fc8-1fcb~86 1fcc~9 " ++
      "1fd8-1fd9~8 1fda-1fdb~100 1fe8-1fe9~8 1fea-1feb~112 1fec~7 1ff8-1ff9~128 1ffa-1ffb~126 " ++
      "1ffc~9 2126~7517 212a~8383 212b~8262 2132+28 2160-216f+16 2183+1 24b6-24cf+26 2c00-2c2f+48 " ++
      "2c60+1 2c62~10743 2c63~3814 2c64~10727 2c67-2c6b/2+1 2c6d~10780 2c6e~10749 2c6f~10783 " ++
      "2c70~10782 2c72+1 2c75+1 2c7e-2c7f~10815 2c80-2ce2/2+1 2ceb+1 2ced+1 2cf2+1 a640-a66c/2+1 " ++
      "a680-a69a/2+1 a722-a72e/2+1 a732-a76e/2+1 a779+1 a77b+1 a77d~35332 a77e-a786/2+1 a78b+1 " ++
      "a78d~42280 a790+1 a792+1 a796-a7a8/2+1 a7aa~42308 a7ab~42319 a7ac~42315 a7ad~42305 " ++
      "a7ae~42308 a7b0~42258 a7b1~42282 a7b2~42261 a7b3+928 a7b4-a7c2/2+1 a7c4~48 a7c5~42307 " ++
      "a7c6~35384 a7c7+1 a7c9+1 a7d0+1 a7d6+1 a7d8+1 a7f5+1 ab70-abbf~38864 ff21-ff3a+32 " ++
      "10400-10427+40 104b0-104d3+40 10570-10594/2+39 10571-10579/2+39 1057d-10589/2+39 " ++
      "1058d-10591/2+39 10595+39 10c80-10cb2+64 118a0-118bf+32 16e40-16e5f+32 1e900-1e921+34"

def lowercaseCode (n : Nat) : Nat :=
  if n < 128 then if 65 ≤ n ∧ n ≤ 90 then n + 32 else n else Shift.apply lowercaseRuns n

/-- The code point that stands for all that differ from `n` only in case. -/
def foldCode (n : Nat) : Nat := Shift.apply foldRuns n

/-- The code points that differ from `n` at most in case. -/
def foldClass (n : Nat) : List Nat :=
  let t := foldCode n
  t :: Shift.sources foldRuns t

end TagAudit.Unicode
