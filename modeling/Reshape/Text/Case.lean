import Reshape.Text.Property

namespace Reshape.Text

/-- The code points whose upper case is one code point. -/
def upperMap : CodeMap :=
  .ofLines [
    "61-7a:1:41 b5:39c e0-f6:1:c0 f8-fe:1:d8 ff:178 101-12f:2:100 131:49 133-137:2:132",
    "13a-148:2:139 14b-177:2:14a 17a-17e:2:179 17f:53 180:243 183-185:2:182 188:187 18c:18b",
    "192:191 195:1f6 199:198 19a:23d 19b:a7dc 19e:220 1a1-1a5:2:1a0 1a8:1a7 1ad:1ac 1b0:1af",
    "1b4-1b6:2:1b3 1b9:1b8 1bd:1bc 1bf:1f7 1c5:1c4 1c6:1c4 1c8:1c7 1c9:1c7 1cb:1ca 1cc:1ca",
    "1ce-1dc:2:1cd 1dd:18e 1df-1ef:2:1de 1f2:1f1 1f3:1f1 1f5:1f4 1f9-21f:2:1f8 223-233:2:222",
    "23c:23b 23f-240:1:2c7e 242:241 247-24f:2:246 250:2c6f 251:2c6d 252:2c70 253:181 254:186",
    "256-257:1:189 259:18f 25b:190 25c:a7ab 260:193 261:a7ac 263:194 264:a7cb 265:a78d",
    "266:a7aa 268:197 269:196 26a:a7ae 26b:2c62 26c:a7ad 26f:19c 271:2c6e 272:19d 275:19f",
    "27d:2c64 280:1a6 282:a7c5 283:1a9 287:a7b1 288:1ae 289:244 28a-28b:1:1b1 28c:245 292:1b7",
    "29d:a7b2 29e:a7b0 345:399 371-373:2:370 377:376 37b-37d:1:3fd 3ac:386 3ad-3af:1:388",
    "3b1-3c1:1:391 3c2:3a3 3c3-3cb:1:3a3 3cc:38c 3cd-3ce:1:38e 3d0:392 3d1:398 3d5:3a6",
    "3d6:3a0 3d7:3cf 3d9-3ef:2:3d8 3f0:39a 3f1:3a1 3f2:3f9 3f3:37f 3f5:395 3f8:3f7 3fb:3fa",
    "430-44f:1:410 450-45f:1:400 461-481:2:460 48b-4bf:2:48a 4c2-4ce:2:4c1 4cf:4c0",
    "4d1-52f:2:4d0 561-586:1:531 10d0-10fa:1:1c90 10fd-10ff:1:1cbd 13f8-13fd:1:13f0 1c80:412",
    "1c81:414 1c82:41e 1c83-1c84:1:421 1c85:422 1c86:42a 1c87:462 1c88:a64a 1c8a:1c89",
    "1d79:a77d 1d7d:2c63 1d8e:a7c6 1e01-1e95:2:1e00 1e9b:1e60 1ea1-1eff:2:1ea0",
    "1f00-1f07:1:1f08 1f10-1f15:1:1f18 1f20-1f27:1:1f28 1f30-1f37:1:1f38 1f40-1f45:1:1f48",
    "1f51-1f57:2:1f59 1f60-1f67:1:1f68 1f70-1f71:1:1fba 1f72-1f75:1:1fc8 1f76-1f77:1:1fda",
    "1f78-1f79:1:1ff8 1f7a-1f7b:1:1fea 1f7c-1f7d:1:1ffa 1fb0-1fb1:1:1fb8 1fbe:399",
    "1fd0-1fd1:1:1fd8 1fe0-1fe1:1:1fe8 1fe5:1fec 214e:2132 2170-217f:1:2160 2184:2183",
    "24d0-24e9:1:24b6 2c30-2c5f:1:2c00 2c61:2c60 2c65:23a 2c66:23e 2c68-2c6c:2:2c67 2c73:2c72",
    "2c76:2c75 2c81-2ce3:2:2c80 2cec-2cee:2:2ceb 2cf3:2cf2 2d00-2d25:1:10a0 2d27:10c7",
    "2d2d:10cd a641-a66d:2:a640 a681-a69b:2:a680 a723-a72f:2:a722 a733-a76f:2:a732",
    "a77a-a77c:2:a779 a77f-a787:2:a77e a78c:a78b a791-a793:2:a790 a794:a7c4 a797-a7a9:2:a796",
    "a7b5-a7c3:2:a7b4 a7c8-a7ca:2:a7c7 a7cd-a7db:2:a7cc a7f6:a7f5 ab53:a7b3 ab70-abbf:1:13a0",
    "ff41-ff5a:1:ff21 10428-1044f:1:10400 104d8-104fb:1:104b0 10597-105a1:1:10570",
    "105a3-105b1:1:1057c 105b3-105b9:1:1058c 105bb-105bc:1:10594 10cc0-10cf2:1:10c80",
    "10d70-10d85:1:10d50 118c0-118df:1:118a0 16e60-16e7f:1:16e40 16ebb-16ed3:1:16ea0",
    "1e922-1e943:1:1e900"]

/-- The code points whose lower case is one code point. -/
def lowerMap : CodeMap :=
  .ofLines [
    "41-5a:1:61 c0-d6:1:e0 d8-de:1:f8 100-12e:2:101 132-136:2:133 139-147:2:13a 14a-176:2:14b",
    "178:ff 179-17d:2:17a 181:253 182-184:2:183 186:254 187:188 189-18a:1:256 18b:18c 18e:1dd",
    "18f:259 190:25b 191:192 193:260 194:263 196:269 197:268 198:199 19c:26f 19d:272 19f:275",
    "1a0-1a4:2:1a1 1a6:280 1a7:1a8 1a9:283 1ac:1ad 1ae:288 1af:1b0 1b1-1b2:1:28a",
    "1b3-1b5:2:1b4 1b7:292 1b8:1b9 1bc:1bd 1c4:1c6 1c5:1c6 1c7:1c9 1c8:1c9 1ca:1cc",
    "1cb-1db:2:1cc 1de-1ee:2:1df 1f1:1f3 1f2-1f4:2:1f3 1f6:195 1f7:1bf 1f8-21e:2:1f9 220:19e",
    "222-232:2:223 23a:2c65 23b:23c 23d:19a 23e:2c66 241:242 243:180 244:289 245:28c",
    "246-24e:2:247 370-372:2:371 376:377 37f:3f3 386:3ac 388-38a:1:3ad 38c:3cc 38e-38f:1:3cd",
    "391-3a1:1:3b1 3a3-3ab:1:3c3 3cf:3d7 3d8-3ee:2:3d9 3f4:3b8 3f7:3f8 3f9:3f2 3fa:3fb",
    "3fd-3ff:1:37b 400-40f:1:450 410-42f:1:430 460-480:2:461 48a-4be:2:48b 4c0:4cf",
    "4c1-4cd:2:4c2 4d0-52e:2:4d1 531-556:1:561 10a0-10c5:1:2d00 10c7:2d27 10cd:2d2d",
    "13a0-13ef:1:ab70 13f0-13f5:1:13f8 1c89:1c8a 1c90-1cba:1:10d0 1cbd-1cbf:1:10fd",
    "1e00-1e94:2:1e01 1e9e:df 1ea0-1efe:2:1ea1 1f08-1f0f:1:1f00 1f18-1f1d:1:1f10",
    "1f28-1f2f:1:1f20 1f38-1f3f:1:1f30 1f48-1f4d:1:1f40 1f59-1f5f:2:1f51 1f68-1f6f:1:1f60",
    "1f88-1f8f:1:1f80 1f98-1f9f:1:1f90 1fa8-1faf:1:1fa0 1fb8-1fb9:1:1fb0 1fba-1fbb:1:1f70",
    "1fbc:1fb3 1fc8-1fcb:1:1f72 1fcc:1fc3 1fd8-1fd9:1:1fd0 1fda-1fdb:1:1f76 1fe8-1fe9:1:1fe0",
    "1fea-1feb:1:1f7a 1fec:1fe5 1ff8-1ff9:1:1f78 1ffa-1ffb:1:1f7c 1ffc:1ff3 2126:3c9 212a:6b",
    "212b:e5 2132:214e 2160-216f:1:2170 2183:2184 24b6-24cf:1:24d0 2c00-2c2f:1:2c30 2c60:2c61",
    "2c62:26b 2c63:1d7d 2c64:27d 2c67-2c6b:2:2c68 2c6d:251 2c6e:271 2c6f:250 2c70:252",
    "2c72:2c73 2c75:2c76 2c7e-2c7f:1:23f 2c80-2ce2:2:2c81 2ceb-2ced:2:2cec 2cf2:2cf3",
    "a640-a66c:2:a641 a680-a69a:2:a681 a722-a72e:2:a723 a732-a76e:2:a733 a779-a77b:2:a77a",
    "a77d:1d79 a77e-a786:2:a77f a78b:a78c a78d:265 a790-a792:2:a791 a796-a7a8:2:a797 a7aa:266",
    "a7ab:25c a7ac:261 a7ad:26c a7ae:26a a7b0:29e a7b1:287 a7b2:29d a7b3:ab53",
    "a7b4-a7c2:2:a7b5 a7c4:a794 a7c5:282 a7c6:1d8e a7c7-a7c9:2:a7c8 a7cb:264 a7cc-a7da:2:a7cd",
    "a7dc:19b a7f5:a7f6 ff21-ff3a:1:ff41 10400-10427:1:10428 104b0-104d3:1:104d8",
    "10570-1057a:1:10597 1057c-1058a:1:105a3 1058c-10592:1:105b3 10594-10595:1:105bb",
    "10c80-10cb2:1:10cc0 10d50-10d65:1:10d70 118a0-118bf:1:118c0 16e40-16e5f:1:16e60",
    "16ea0-16eb8:1:16ebb 1e900-1e921:1:1e922"]

/-- The code points whose upper case is more than one code point: `df:53.53`. -/
def longUpperWords : List String :=
  [
    "df:53.53 149:2bc.4e 1f0:4a.30c 390:399.308.301 3b0:3a5.308.301 587:535.552",
    "1e96:48.331 1e97:54.308 1e98:57.30a 1e99:59.30a 1e9a:41.2be 1f50:3a5.313",
    "1f52:3a5.313.300 1f54:3a5.313.301 1f56:3a5.313.342 1f80:1f08.399 1f81:1f09.399",
    "1f82:1f0a.399 1f83:1f0b.399 1f84:1f0c.399 1f85:1f0d.399 1f86:1f0e.399 1f87:1f0f.399",
    "1f88:1f08.399 1f89:1f09.399 1f8a:1f0a.399 1f8b:1f0b.399 1f8c:1f0c.399 1f8d:1f0d.399",
    "1f8e:1f0e.399 1f8f:1f0f.399 1f90:1f28.399 1f91:1f29.399 1f92:1f2a.399 1f93:1f2b.399",
    "1f94:1f2c.399 1f95:1f2d.399 1f96:1f2e.399 1f97:1f2f.399 1f98:1f28.399 1f99:1f29.399",
    "1f9a:1f2a.399 1f9b:1f2b.399 1f9c:1f2c.399 1f9d:1f2d.399 1f9e:1f2e.399 1f9f:1f2f.399",
    "1fa0:1f68.399 1fa1:1f69.399 1fa2:1f6a.399 1fa3:1f6b.399 1fa4:1f6c.399 1fa5:1f6d.399",
    "1fa6:1f6e.399 1fa7:1f6f.399 1fa8:1f68.399 1fa9:1f69.399 1faa:1f6a.399 1fab:1f6b.399",
    "1fac:1f6c.399 1fad:1f6d.399 1fae:1f6e.399 1faf:1f6f.399 1fb2:1fba.399 1fb3:391.399",
    "1fb4:386.399 1fb6:391.342 1fb7:391.342.399 1fbc:391.399 1fc2:1fca.399 1fc3:397.399",
    "1fc4:389.399 1fc6:397.342 1fc7:397.342.399 1fcc:397.399 1fd2:399.308.300",
    "1fd3:399.308.301 1fd6:399.342 1fd7:399.308.342 1fe2:3a5.308.300 1fe3:3a5.308.301",
    "1fe4:3a1.313 1fe6:3a5.342 1fe7:3a5.308.342 1ff2:1ffa.399 1ff3:3a9.399 1ff4:38f.399",
    "1ff6:3a9.342 1ff7:3a9.342.399 1ffc:3a9.399 fb00:46.46 fb01:46.49 fb02:46.4c",
    "fb03:46.46.49 fb04:46.46.4c fb05:53.54 fb06:53.54 fb13:544.546 fb14:544.535",
    "fb15:544.53b fb16:54e.546 fb17:544.53d"]

/-- Reads the entries of a table of longer mappings. -/
def readLongMap (lines : List String) : List (Nat × List Char) :=
  lines.flatMap fun line => (line.splitOn " ").filterMap fun word =>
    match word.splitOn ":" with
    | [code, image] =>
      some (hexValue code, (image.splitOn ".").map fun c => Char.ofNat (hexValue c))
    | _ => none

/-- The code points whose upper case is more than one character, with that. -/
def longUpper : List (Nat × List Char) :=
  readLongMap longUpperWords

def upperChar (c : Char) : List Char :=
  match longUpper.lookup c.toNat with
  | some image => image
  | none => [upperMap.apply c]

/-- The lower case of a character; a capital I with a dot keeps its dot. -/
def lowerChar (c : Char) : List Char :=
  if c = '\u0130' then ['i', '\u0307'] else [lowerMap.apply c]

/-- Whether the first character that is not ignored has case. -/
def nextIsCased (cs : List Char) : Bool :=
  match cs.dropWhile isCaseIgnorable with
  | c :: _ => isCased c
  | [] => false

/-- The lower case of characters, where `before` stands in front of them in reverse. A
capital sigma at the end of a word becomes the final sigma. -/
def lowerChars (before : List Char) : List Char → List Char
  | [] => []
  | c :: rest =>
    (if c = '\u03a3' then
      [if nextIsCased before && !nextIsCased rest then '\u03c2' else '\u03c3']
    else lowerChar c) ++ lowerChars (c :: before) rest

def upper (s : String) : String :=
  String.ofList (s.toList.flatMap upperChar)

def lower (s : String) : String :=
  String.ofList (lowerChars [] s.toList)

end Reshape.Text
