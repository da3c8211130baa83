/-!
# Domain name mapping table

What becomes of each character of a domain name before the name is looked at any further. The data is
that of the Unicode standard for internationalised names.

## Main definitions

* `Jukebox.Url.mappingData`: the fate of the characters from each point on.

## Design notes

The points are written as hexadecimal distances from the point before. `V` says that the characters stay,
`X` that they are not allowed; anything else is what they are replaced with, which may be nothing.
-/

namespace Jukebox.Url

/-- The fate of the characters from each point on. -/
def mappingData : List String := [
  "0:V 41:61 1:62 1:63 1:64 1:65 1:66 1:67 1:68 1:69 1:6a 1:6b 1:6c 1:6d 1:6e 1:6f 1:70 1:71",
  "1:72 1:73 1:74 1:75 1:76 1:77 1:78 1:79 1:7a 1:V 25:X 20:20 1:V 7:20.308 1:V 1:61 1:V 2: 1:V",
  "1:20.304 1:V 2:32 1:33 1:20.301 1:3bc 1:V 2:20.327 1:31 1:6f 1:V 1:31.2044.34 1:31.2044.32",
  "1:33.2044.34 1:V 1:e0 1:e1 1:e2 1:e3 1:e4 1:e5 1:e6 1:e7 1:e8 1:e9 1:ea 1:eb 1:ec 1:ed 1:ee",
  "1:ef 1:f0 1:f1 1:f2 1:f3 1:f4 1:f5 1:f6 1:V 1:f8 1:f9 1:fa 1:fb 1:fc 1:fd 1:fe 1:V 21:101",
  "1:V 1:103 1:V 1:105 1:V 1:107 1:V 1:109 1:V 1:10b 1:V 1:10d 1:V 1:10f 1:V 1:111 1:V 1:113",
  "1:V 1:115 1:V 1:117 1:V 1:119 1:V 1:11b 1:V 1:11d 1:V 1:11f 1:V 1:121 1:V 1:123 1:V 1:125",
  "1:V 1:127 1:V 1:129 1:V 1:12b 1:V 1:12d 1:V 1:12f 1:V 1:69.307 1:V 1:69.6a 2:135 1:V 1:137",
  "1:V 2:13a 1:V 1:13c 1:V 1:13e 1:V 1:6c.b7 2:142 1:V 1:144 1:V 1:146 1:V 1:148 1:V 1:2bc.6e",
  "1:14b 1:V 1:14d 1:V 1:14f 1:V 1:151 1:V 1:153 1:V 1:155 1:V 1:157 1:V 1:159 1:V 1:15b 1:V",
  "1:15d 1:V 1:15f 1:V 1:161 1:V 1:163 1:V 1:165 1:V 1:167 1:V 1:169 1:V 1:16b 1:V 1:16d 1:V",
  "1:16f 1:V 1:171 1:V 1:173 1:V 1:175 1:V 1:177 1:V 1:ff 1:17a 1:V 1:17c 1:V 1:17e 1:V 1:73",
  "1:V 1:253 1:183 1:V 1:185 1:V 1:254 1:188 1:V 1:256 1:257 1:18c 1:V 2:1dd 1:259 1:25b 1:192",
  "1:V 1:260 1:263 1:V 1:269 1:268 1:199 1:V 3:26f 1:272 1:V 1:275 1:1a1 1:V 1:1a3 1:V 1:1a5",
  "1:V 1:280 1:1a8 1:V 1:283 1:V 2:1ad 1:V 1:288 1:1b0 1:V 1:28a 1:28b 1:1b4 1:V 1:1b6 1:V",
  "1:292 1:1b9 1:V 3:1bd 1:V 7:64.17e 3:6c.6a 3:6e.6a 3:1ce 1:V 1:1d0 1:V 1:1d2 1:V 1:1d4 1:V",
  "1:1d6 1:V 1:1d8 1:V 1:1da 1:V 1:1dc 1:V 2:1df 1:V 1:1e1 1:V 1:1e3 1:V 1:1e5 1:V 1:1e7 1:V",
  "1:1e9 1:V 1:1eb 1:V 1:1ed 1:V 1:1ef 1:V 2:64.7a 3:1f5 1:V 1:195 1:1bf 1:1f9 1:V 1:1fb 1:V",
  "1:1fd 1:V 1:1ff 1:V 1:201 1:V 1:203 1:V 1:205 1:V 1:207 1:V 1:209 1:V 1:20b 1:V 1:20d 1:V",
  "1:20f 1:V 1:211 1:V 1:213 1:V 1:215 1:V 1:217 1:V 1:219 1:V 1:21b 1:V 1:21d 1:V 1:21f 1:V",
  "1:19e 1:V 1:223 1:V 1:225 1:V 1:227 1:V 1:229 1:V 1:22b 1:V 1:22d 1:V 1:22f 1:V 1:231 1:V",
  "1:233 1:V 7:2c65 1:23c 1:V 1:19a 1:2c66 1:V 2:242 1:V 1:180 1:289 1:28c 1:247 1:V 1:249 1:V",
  "1:24b 1:V 1:24d 1:V 1:24f 1:V 61:68 1:266 1:6a 1:72 1:279 1:27b 1:281 1:77 1:79 1:V",
  "1f:20.306 1:20.307 1:20.30a 1:20.328 1:20.303 1:20.30b 1:V 2:263 1:6c 1:73 1:78 1:295 1:V",
  "5b:300 1:301 1:V 1:313 1:308.301 1:3b9 1:V 9: 1:V 20:371 1:V 1:373 1:V 1:2b9 1:V 1:377 1:V",
  "1:X 2:20.3b9 1:V 3:3b 1:3f3 1:X 4:20.301 1:20.308.301 1:3ac 1:b7 1:3ad 1:3ae 1:3af 1:X 1:3cc",
  "1:X 1:3cd 1:3ce 1:V 1:3b1 1:3b2 1:3b3 1:3b4 1:3b5 1:3b6 1:3b7 1:3b8 1:3b9 1:3ba 1:3bb 1:3bc",
  "1:3bd 1:3be 1:3bf 1:3c0 1:3c1 1:X 1:3c3 1:3c4 1:3c5 1:3c6 1:3c7 1:3c8 1:3c9 1:3ca 1:3cb 1:V",
  "23:3d7 1:3b2 1:3b8 1:3c5 1:3cd 1:3cb 1:3c6 1:3c0 1:V 1:3d9 1:V 1:3db 1:V 1:3dd 1:V 1:3df 1:V",
  "1:3e1 1:V 1:3e3 1:V 1:3e5 1:V 1:3e7 1:V 1:3e9 1:V 1:3eb 1:V 1:3ed 1:V 1:3ef 1:V 1:3ba 1:3c1",
  "1:3c3 1:V 1:3b8 1:3b5 1:V 1:3f8 1:V 1:3c3 1:3fb 1:V 2:37b 1:37c 1:37d 1:450 1:451 1:452",
  "1:453 1:454 1:455 1:456 1:457 1:458 1:459 1:45a 1:45b 1:45c 1:45d 1:45e 1:45f 1:430 1:431",
  "1:432 1:433 1:434 1:435 1:436 1:437 1:438 1:439 1:43a 1:43b 1:43c 1:43d 1:43e 1:43f 1:440",
  "1:441 1:442 1:443 1:444 1:445 1:446 1:447 1:448 1:449 1:44a 1:44b 1:44c 1:44d 1:44e 1:44f",
  "1:V 30:461 1:V 1:463 1:V 1:465 1:V 1:467 1:V 1:469 1:V 1:46b 1:V 1:46d 1:V 1:46f 1:V 1:471",
  "1:V 1:473 1:V 1:475 1:V 1:477 1:V 1:479 1:V 1:47b 1:V 1:47d 1:V 1:47f 1:V 1:481 1:V 9:48b",
  "1:V 1:48d 1:V 1:48f 1:V 1:491 1:V 1:493 1:V 1:495 1:V 1:497 1:V 1:499 1:V 1:49b 1:V 1:49d",
  "1:V 1:49f 1:V 1:4a1 1:V 1:4a3 1:V 1:4a5 1:V 1:4a7 1:V 1:4a9 1:V 1:4ab 1:V 1:4ad 1:V 1:4af",
  "1:V 1:4b1 1:V 1:4b3 1:V 1:4b5 1:V 1:4b7 1:V 1:4b9 1:V 1:4bb 1:V 1:4bd 1:V 1:4bf 1:V 1:4cf",
  "1:4c2 1:V 1:4c4 1:V 1:4c6 1:V 1:4c8 1:V 1:4ca 1:V 1:4cc 1:V 1:4ce 1:V 2:4d1 1:V 1:4d3 1:V",
  "1:4d5 1:V 1:4d7 1:V 1:4d9 1:V 1:4db 1:V 1:4dd 1:V 1:4df 1:V 1:4e1 1:V 1:4e3 1:V 1:4e5 1:V",
  "1:4e7 1:V 1:4e9 1:V 1:4eb 1:V 1:4ed 1:V 1:4ef 1:V 1:4f1 1:V 1:4f3 1:V 1:4f5 1:V 1:4f7 1:V",
  "1:4f9 1:V 1:4fb 1:V 1:4fd 1:V 1:4ff 1:V 1:501 1:V 1:503 1:V 1:505 1:V 1:507 1:V 1:509 1:V",
  "1:50b 1:V 1:50d 1:V 1:50f 1:V 1:511 1:V 1:513 1:V 1:515 1:V 1:517 1:V 1:519 1:V 1:51b 1:V",
  "1:51d 1:V 1:51f 1:V 1:521 1:V 1:523 1:V 1:525 1:V 1:527 1:V 1:529 1:V 1:52b 1:V 1:52d 1:V",
  "1:52f 1:V 1:X 1:561 1:562 1:563 1:564 1:565 1:566 1:567 1:568 1:569 1:56a 1:56b 1:56c 1:56d",
  "1:56e 1:56f 1:570 1:571 1:572 1:573 1:574 1:575 1:576 1:577 1:578 1:579 1:57a 1:57b 1:57c",
  "1:57d 1:57e 1:57f 1:580 1:581 1:582 1:583 1:584 1:585 1:586 1:X 2:V 2e:565.582 1:V 3:X 2:V",
  "3:X 1:V 37:X 8:V 1b:X 4:V 6:X 11:V 16:X 1:V 58:627.674 1:648.674 1:6c7.674 1:64a.674 1:V",
  "64:X 1:V 30:X 2:V 3b:X 2:V 65:X e:V 3b:X 2:V 31:X 2:V f:X 1:V 1c:X 2:V 1:X 1:V b:X 5:V 20:X",
  "7:V 4b:X 1:V 75:915.93c 1:916.93c 1:917.93c 1:91c.93c 1:921.93c 1:922.93c 1:92b.93c",
  "1:92f.93c 1:V 24:X 1:V 8:X 2:V 2:X 2:V 16:X 1:V 7:X 1:V 1:X 3:V 4:X 2:V 9:X 2:V 2:X 2:V 4:X",
  "8:V 1:X 4:9a1.9bc 1:9a2.9bc 1:X 1:9af.9bc 1:V 4:X 2:V 19:X 2:V 3:X 1:V 6:X 4:V 2:X 2:V 16:X",
  "1:V 7:X 1:V 1:a32.a3c 1:X 1:V 1:a38.a3c 1:X 1:V 2:X 2:V 1:X 1:V 5:X 4:V 2:X 2:V 3:X 3:V 1:X",
  "7:a16.a3c 1:a17.a3c 1:a1c.a3c 1:V 1:X 1:a2b.a3c 1:X 7:V 11:X a:V 3:X 1:V 9:X 1:V 3:X 1:V",
  "16:X 1:V 7:X 1:V 2:X 1:V 5:X 2:V a:X 1:V 3:X 1:V 3:X 2:V 1:X f:V 4:X 2:V c:X 7:V 7:X 1:V 3:X",
  "1:V 8:X 2:V 2:X 2:V 16:X 1:V 7:X 1:V 2:X 1:V 5:X 2:V 9:X 2:V 2:X 2:V 3:X 7:V 3:X 4:b21.b3c",
  "1:b22.b3c 1:X 1:V 5:X 2:V 12:X a:V 2:X 1:V 6:X 3:V 3:X 1:V 4:X 3:V 2:X 1:V 1:X 1:V 2:X 3:V",
  "2:X 3:V 3:X 3:V c:X 4:V 5:X 3:V 3:X 1:V 4:X 2:V 1:X 6:V 1:X e:V 15:X 5:V d:X 1:V 3:X 1:V",
  "17:X 1:V 10:X 2:V 9:X 1:V 3:X 1:V 4:X 7:V 2:X 1:V 3:X 1:V 2:X 2:V 4:X 2:V a:X 7:V 16:X 1:V",
  "3:X 1:V 17:X 1:V a:X 1:V 5:X 2:V 9:X 1:V 3:X 1:V 4:X 7:V 2:X 5:V 3:X 1:V 4:X 2:V a:X 1:V 3:X",
  "c:V d:X 1:V 3:X 1:V 33:X 1:V 3:X 1:V 6:X 4:V 10:X 2:V 1a:X 1:V 3:X 1:V 12:X 3:V 18:X 1:V 9:X",
  "1:V 1:X 2:V 7:X 3:V 1:X 4:V 6:X 1:V 1:X 1:V 8:X 6:V a:X 2:V 3:X c:V 32:e4d.e32 1:V 7:X 4:V",
  "1d:X 25:V 2:X 1:V 1:X 1:V 5:X 1:V 18:X 1:V 1:X 1:V c:ecd.eb2 1:V a:X 2:V 5:X 1:V 1:X 1:V 7:X",
  "1:V a:X 2:eab.e99 1:eab.ea1 1:V 2:X 20:V c:f0b 1:V 36:f42.fb7 1:V 4:X 1:V 4:f4c.fb7 1:V",
  "4:f51.fb7 1:V 4:f56.fb7 1:V 4:f5b.fb7 1:V c:f40.fb5 1:V 3:X 4:V 2:f71.f72 1:V 1:f71.f74",
  "1:fb2.f80 1:fb2.f71.f80 1:fb3.f80 1:fb3.f71.f80 1:V 7:f71.f80 1:V 11:f92.fb7 1:V 4:X 1:V",
  "4:f9c.fb7 1:V 4:fa1.fb7 1:V 4:fa6.fb7 1:V 4:fab.fb7 1:V c:f90.fb5 1:V 3:X 1:V f:X 1:V d:X",
  "25:V a0:2d00 1:2d01 1:2d02 1:2d03 1:2d04 1:2d05 1:2d06 1:2d07 1:2d08 1:2d09 1:2d0a 1:2d0b",
  "1:2d0c 1:2d0d 1:2d0e 1:2d0f 1:2d10 1:2d11 1:2d12 1:2d13 1:2d14 1:2d15 1:2d16 1:2d17 1:2d18",
  "1:2d19 1:2d1a 1:2d1b 1:2d1c 1:2d1d 1:2d1e 1:2d1f 1:2d20 1:2d21 1:2d22 1:2d23 1:2d24 1:2d25",
  "1:X 1:2d27 1:X 5:2d2d 1:X 2:V 2c:10dc 1:V 62: 2:V e8:X 1:V 4:X 2:V 7:X 1:V 1:X 1:V 4:X 2:V",
  "29:X 1:V 4:X 2:V 21:X 1:V 4:X 2:V 7:X 1:V 1:X 1:V 4:X 2:V f:X 1:V 39:X 1:V 4:X 2:V 43:X 2:V",
  "20:X 3:V 1a:X 6:V 56:X 2:13f0 1:13f1 1:13f2 1:13f3 1:13f4 1:13f5 1:X 2:V 280:X 1:V 1c:X 3:V",
  "59:X 7:V 16:X 9:V 18:X 9:V 14:X c:V d:X 1:V 3:X 1:V 2:X c:V 34: 2:V 28:X 2:V a:X 6:V a:X 6:V",
  "b: 5:V a:X 6:V 59:X 7:V 2b:X 5:V 46:X a:V 1f:X 1:V c:X 4:V c:X 4:V 1:X 3:V 2a:X 2:V 5:X b:V",
  "2c:X 4:V 1a:X 6:V b:X 3:V 3e:X 2:V 41:X 1:V 1d:X 2:V b:X 6:V a:X 6:V e:X 2:V 2e:X 2:V c:X",
  "14:V 4d:X 1:V a6:X 8:V 3c:X 3:V f:X 3:V 33:432 1:434 1:43e 1:441 1:442 2:44a 1:463 1:a64b",
  "1:1c8a 1:V 1:X 5:10d0 1:10d1 1:10d2 1:10d3 1:10d4 1:10d5 1:10d6 1:10d7 1:10d8 1:10d9 1:10da",
  "1:10db 1:10dc 1:10dd 1:10de 1:10df 1:10e0 1:10e1 1:10e2 1:10e3 1:10e4 1:10e5 1:10e6 1:10e7",
  "1:10e8 1:10e9 1:10ea 1:10eb 1:10ec 1:10ed 1:10ee 1:10ef 1:10f0 1:10f1 1:10f2 1:10f3 1:10f4",
  "1:10f5 1:10f6 1:10f7 1:10f8 1:10f9 1:10fa 1:X 2:10fd 1:10fe 1:10ff 1:V 8:X 8:V 2b:X 5:V",
  "2c:61 1:e6 1:62 1:V 1:64 1:65 1:1dd 1:67 1:68 1:69 1:6a 1:6b 1:6c 1:6d 1:6e 1:V 1:6f 1:223",
  "1:70 1:72 1:74 1:75 1:77 1:61 1:250 1:251 1:1d02 1:62 1:64 1:65 1:259 1:25b 1:25c 1:67 1:V",
  "1:6b 1:6d 1:14b 1:6f 1:254 1:1d16 1:1d17 1:70 1:74 1:75 1:1d1d 1:26f 1:76 1:1d25 1:3b2 1:3b3",
  "1:3b4 1:3c6 1:3c7 1:69 1:72 1:75 1:76 1:3b2 1:3b3 1:3c1 1:3c6 1:3c7 1:V d:43d 1:V 22:252",
  "1:63 1:255 1:f0 1:25c 1:66 1:25f 1:261 1:265 1:268 1:269 1:26a 1:1d7b 1:29d 1:26d 1:1d85",
  "1:29f 1:271 1:270 1:272 1:273 1:274 1:275 1:278 1:282 1:283 1:1ab 1:289 1:28a 1:1d1c 1:28b",
  "1:28c 1:7a 1:290 1:291 1:292 1:3b8 1:V 40:1e01 1:V 1:1e03 1:V 1:1e05 1:V 1:1e07 1:V 1:1e09",
  "1:V 1:1e0b 1:V 1:1e0d 1:V 1:1e0f 1:V 1:1e11 1:V 1:1e13 1:V 1:1e15 1:V 1:1e17 1:V 1:1e19 1:V",
  "1:1e1b 1:V 1:1e1d 1:V 1:1e1f 1:V 1:1e21 1:V 1:1e23 1:V 1:1e25 1:V 1:1e27 1:V 1:1e29 1:V",
  "1:1e2b 1:V 1:1e2d 1:V 1:1e2f 1:V 1:1e31 1:V 1:1e33 1:V 1:1e35 1:V 1:1e37 1:V 1:1e39 1:V",
  "1:1e3b 1:V 1:1e3d 1:V 1:1e3f 1:V 1:1e41 1:V 1:1e43 1:V 1:1e45 1:V 1:1e47 1:V 1:1e49 1:V",
  "1:1e4b 1:V 1:1e4d 1:V 1:1e4f 1:V 1:1e51 1:V 1:1e53 1:V 1:1e55 1:V 1:1e57 1:V 1:1e59 1:V",
  "1:1e5b 1:V 1:1e5d 1:V 1:1e5f 1:V 1:1e61 1:V 1:1e63 1:V 1:1e65 1:V 1:1e67 1:V 1:1e69 1:V",
  "1:1e6b 1:V 1:1e6d 1:V 1:1e6f 1:V 1:1e71 1:V 1:1e73 1:V 1:1e75 1:V 1:1e77 1:V 1:1e79 1:V",
  "1:1e7b 1:V 1:1e7d 1:V 1:1e7f 1:V 1:1e81 1:V 1:1e83 1:V 1:1e85 1:V 1:1e87 1:V 1:1e89 1:V",
  "1:1e8b 1:V 1:1e8d 1:V 1:1e8f 1:V 1:1e91 1:V 1:1e93 1:V 1:1e95 1:V 5:61.2be 1:1e61 1:V 2:df",
  "1:V 1:1ea1 1:V 1:1ea3 1:V 1:1ea5 1:V 1:1ea7 1:V 1:1ea9 1:V 1:1eab 1:V 1:1ead 1:V 1:1eaf 1:V",
  "1:1eb1 1:V 1:1eb3 1:V 1:1eb5 1:V 1:1eb7 1:V 1:1eb9 1:V 1:1ebb 1:V 1:1ebd 1:V 1:1ebf 1:V",
  "1:1ec1 1:V 1:1ec3 1:V 1:1ec5 1:V 1:1ec7 1:V 1:1ec9 1:V 1:1ecb 1:V 1:1ecd 1:V 1:1ecf 1:V",
  "1:1ed1 1:V 1:1ed3 1:V 1:1ed5 1:V 1:1ed7 1:V 1:1ed9 1:V 1:1edb 1:V 1:1edd 1:V 1:1edf 1:V",
  "1:1ee1 1:V 1:1ee3 1:V 1:1ee5 1:V 1:1ee7 1:V 1:1ee9 1:V 1:1eeb 1:V 1:1eed 1:V 1:1eef 1:V",
  "1:1ef1 1:V 1:1ef3 1:V 1:1ef5 1:V 1:1ef7 1:V 1:1ef9 1:V 1:1efb 1:V 1:1efd 1:V 1:1eff 1:V",
  "9:1f00 1:1f01 1:1f02 1:1f03 1:1f04 1:1f05 1:1f06 1:1f07 1:V 6:X 2:1f10 1:1f11 1:1f12 1:1f13",
  "1:1f14 1:1f15 1:X 2:V 8:1f20 1:1f21 1:1f22 1:1f23 1:1f24 1:1f25 1:1f26 1:1f27 1:V 8:1f30",
  "1:1f31 1:1f32 1:1f33 1:1f34 1:1f35 1:1f36 1:1f37 1:V 6:X 2:1f40 1:1f41 1:1f42 1:1f43 1:1f44",
  "1:1f45 1:X 2:V 8:X 1:1f51 1:X 1:1f53 1:X 1:1f55 1:X 1:1f57 1:V 8:1f60 1:1f61 1:1f62 1:1f63",
  "1:1f64 1:1f65 1:1f66 1:1f67 1:V 1:3ac 1:V 1:3ad 1:V 1:3ae 1:V 1:3af 1:V 1:3cc 1:V 1:3cd 1:V",
  "1:3ce 1:X 2:1f00.3b9 1:1f01.3b9 1:1f02.3b9 1:1f03.3b9 1:1f04.3b9 1:1f05.3b9 1:1f06.3b9",
  "1:1f07.3b9 1:1f00.3b9 1:1f01.3b9 1:1f02.3b9 1:1f03.3b9 1:1f04.3b9 1:1f05.3b9 1:1f06.3b9",
  "1:1f07.3b9 1:1f20.3b9 1:1f21.3b9 1:1f22.3b9 1:1f23.3b9 1:1f24.3b9 1:1f25.3b9 1:1f26.3b9",
  "1:1f27.3b9 1:1f20.3b9 1:1f21.3b9 1:1f22.3b9 1:1f23.3b9 1:1f24.3b9 1:1f25.3b9 1:1f26.3b9",
  "1:1f27.3b9 1:1f60.3b9 1:1f61.3b9 1:1f62.3b9 1:1f63.3b9 1:1f64.3b9 1:1f65.3b9 1:1f66.3b9",
  "1:1f67.3b9 1:1f60.3b9 1:1f61.3b9 1:1f62.3b9 1:1f63.3b9 1:1f64.3b9 1:1f65.3b9 1:1f66.3b9",
  "1:1f67.3b9 1:V 2:1f70.3b9 1:3b1.3b9 1:3ac.3b9 1:X 1:V 1:1fb6.3b9 1:1fb0 1:1fb1 1:1f70 1:3ac",
  "1:3b1.3b9 1:20.313 1:3b9 1:20.313 1:20.342 1:20.308.342 1:1f74.3b9 1:3b7.3b9 1:3ae.3b9 1:X",
  "1:V 1:1fc6.3b9 1:1f72 1:3ad 1:1f74 1:3ae 1:3b7.3b9 1:20.313.300 1:20.313.301 1:20.313.342",
  "1:V 3:390 1:X 2:V 2:1fd0 1:1fd1 1:1f76 1:3af 1:X 1:20.314.300 1:20.314.301 1:20.314.342 1:V",
  "3:3b0 1:V 4:1fe0 1:1fe1 1:1f7a 1:3cd 1:1fe5 1:20.308.300 1:20.308.301 1:60 1:X 2:1f7c.3b9",
  "1:3c9.3b9 1:3ce.3b9 1:X 1:V 1:1ff6.3b9 1:1f78 1:3cc 1:1f7c 1:3ce 1:3c9.3b9 1:20.301 1:20.314",
  "1:X 1:20 b: 1:V 2:X 2:V 1:2010 1:V 5:20.333 1:V c:X 3:V 1:X 7:20 1:V 3:2032.2032",
  "1:2032.2032.2032 1:V 1:2035.2035 1:2035.2035.2035 1:V 4:21.21 1:V 1:20.305 1:V 8:3f.3f",
  "1:3f.21 1:21.3f 1:V d:2032.2032.2032.2032 1:V 7:20 1: 5:X 5: 6:30 1:69 1:X 2:34 1:35 1:36",
  "1:37 1:38 1:39 1:2b 1:2212 1:3d 1:28 1:29 1:6e 1:30 1:31 1:32 1:33 1:34 1:35 1:36 1:37 1:38",
  "1:39 1:2b 1:2212 1:3d 1:28 1:29 1:X 1:61 1:65 1:6f 1:78 1:259 1:68 1:6b 1:6c 1:6d 1:6e 1:70",
  "1:73 1:74 1:X 3:V 8:72.73 1:V 19:X e:V 21:X f:61.2f.63 1:61.2f.73 1:63 1:b0.63 1:V",
  "1:63.2f.6f 1:63.2f.75 1:25b 1:V 1:b0.66 1:67 1:68 4:127 1:69 2:6c 2:V 1:6e 1:6e.6f 1:V 2:70",
  "1:71 1:72 3:V 2:73.6d 1:74.65.6c 1:74.6d 1:V 1:7a 1:V 1:3c9 1:V 1:7a 1:V 1:6b 1:e5 1:62 1:63",
  "1:V 1:65 2:66 1:214e 1:6d 1:6f 1:5d0 1:5d1 1:5d2 1:5d3 1:69 1:V 1:66.61.78 1:3c0 1:3b3 2:3c0",
  "1:2211 1:V 4:64 2:65 1:69 1:6a 1:V 6:31.2044.37 1:31.2044.39 1:31.2044.31.30 1:31.2044.33",
  "1:32.2044.33 1:31.2044.35 1:32.2044.35 1:33.2044.35 1:34.2044.35 1:31.2044.36 1:35.2044.36",
  "1:31.2044.38 1:33.2044.38 1:35.2044.38 1:37.2044.38 1:31.2044 1:69 1:69.69 1:69.69.69",
  "1:69.76 1:76 1:76.69 1:76.69.69 1:76.69.69.69 1:69.78 1:78 1:78.69 1:78.69.69 1:6c 1:63 1:64",
  "1:6d 1:69 1:69.69 1:69.69.69 1:69.76 1:76 1:76.69 1:76.69.69 1:76.69.69.69 1:69.78 1:78",
  "1:78.69 1:78.69.69 1:6c 1:63 1:64 1:6d 1:V 3:2184 1:V 5:30.2044.33 1:V 2:X 4:V 9c:222b.222b",
  "1:222b.222b.222b 1:V 1:222e.222e 1:222e.222e.222e 1:V f8:3008 1:3009 1:V ff:X 16:V b:X 15:31",
  "1:32 1:33 1:34 1:35 1:36 1:37 1:38 1:39 1:31.30 1:31.31 1:31.32 1:31.33 1:31.34 1:31.35",
  "1:31.36 1:31.37 1:31.38 1:31.39 1:32.30 1:28.31.29 1:28.32.29 1:28.33.29 1:28.34.29",
  "1:28.35.29 1:28.36.29 1:28.37.29 1:28.38.29 1:28.39.29 1:28.31.30.29 1:28.31.31.29",
  "1:28.31.32.29 1:28.31.33.29 1:28.31.34.29 1:28.31.35.29 1:28.31.36.29 1:28.31.37.29",
  "1:28.31.38.29 1:28.31.39.29 1:28.32.30.29 1:X 14:28.61.29 1:28.62.29 1:28.63.29 1:28.64.29",
  "1:28.65.29 1:28.66.29 1:28.67.29 1:28.68.29 1:28.69.29 1:28.6a.29 1:28.6b.29 1:28.6c.29",
  "1:28.6d.29 1:28.6e.29 1:28.6f.29 1:28.70.29 1:28.71.29 1:28.72.29 1:28.73.29 1:28.74.29",
  "1:28.75.29 1:28.76.29 1:28.77.29 1:28.78.29 1:28.79.29 1:28.7a.29 1:61 1:62 1:63 1:64 1:65",
  "1:66 1:67 1:68 1:69 1:6a 1:6b 1:6c 1:6d 1:6e 1:6f 1:70 1:71 1:72 1:73 1:74 1:75 1:76 1:77",
  "1:78 1:79 1:7a 1:61 1:62 1:63 1:64 1:65 1:66 1:67 1:68 1:69 1:6a 1:6b 1:6c 1:6d 1:6e 1:6f",
  "1:70 1:71 1:72 1:73 1:74 1:75 1:76 1:77 1:78 1:79 1:7a 1:30 1:V 521:222b.222b.222b.222b 1:V",
  "67:3a.3a.3d 1:3d.3d 1:3d.3d.3d 1:V 65:2add.338 1:V 97:X 2:V 8a:2c30 1:2c31 1:2c32 1:2c33",
  "1:2c34 1:2c35 1:2c36 1:2c37 1:2c38 1:2c39 1:2c3a 1:2c3b 1:2c3c 1:2c3d 1:2c3e 1:2c3f 1:2c40",
  "1:2c41 1:2c42 1:2c43 1:2c44 1:2c45 1:2c46 1:2c47 1:2c48 1:2c49 1:2c4a 1:2c4b 1:2c4c 1:2c4d",
  "1:2c4e 1:2c4f 1:2c50 1:2c51 1:2c52 1:2c53 1:2c54 1:2c55 1:2c56 1:2c57 1:2c58 1:2c59 1:2c5a",
  "1:2c5b 1:2c5c 1:2c5d 1:2c5e 1:2c5f 1:V 30:2c61 1:V 1:26b 1:1d7d 1:27d 1:V 2:2c68 1:V 1:2c6a",
  "1:V 1:2c6c 1:V 1:251 1:271 1:250 1:252 1:V 1:2c73 1:V 2:2c76 1:V 6:6a 1:76 1:23f 1:240",
  "1:2c81 1:V 1:2c83 1:V 1:2c85 1:V 1:2c87 1:V 1:2c89 1:V 1:2c8b 1:V 1:2c8d 1:V 1:2c8f 1:V",
  "1:2c91 1:V 1:2c93 1:V 1:2c95 1:V 1:2c97 1:V 1:2c99 1:V 1:2c9b 1:V 1:2c9d 1:V 1:2c9f 1:V",
  "1:2ca1 1:V 1:2ca3 1:V 1:2ca5 1:V 1:2ca7 1:V 1:2ca9 1:V 1:2cab 1:V 1:2cad 1:V 1:2caf 1:V",
  "1:2cb1 1:V 1:2cb3 1:V 1:2cb5 1:V 1:2cb7 1:V 1:2cb9 1:V 1:2cbb 1:V 1:2cbd 1:V 1:2cbf 1:V",
  "1:2cc1 1:V 1:2cc3 1:V 1:2cc5 1:V 1:2cc7 1:V 1:2cc9 1:V 1:2ccb 1:V 1:2ccd 1:V 1:2ccf 1:V",
  "1:2cd1 1:V 1:2cd3 1:V 1:2cd5 1:V 1:2cd7 1:V 1:2cd9 1:V 1:2cdb 1:V 1:2cdd 1:V 1:2cdf 1:V",
  "1:2ce1 1:V 1:2ce3 1:V 8:2cec 1:V 1:2cee 1:V 4:2cf3 1:V 1:X 5:V 2d:X 1:V 1:X 5:V 1:X 2:V 38:X",
  "7:2d61 1:V 1:X e:V 18:X 9:V 7:X 1:V 7:X 1:V 7:X 1:V 7:X 1:V 7:X 1:V 7:X 1:V 7:X 1:V 7:X 1:V",
  "7e:X 22:V 1a:X 1:V 4:6bcd 1:V 53:9f9f 1:X c:4e00 1:4e28 1:4e36 1:4e3f 1:4e59 1:4e85 1:4e8c",
  "1:4ea0 1:4eba 1:513f 1:5165 1:516b 1:5182 1:5196 1:51ab 1:51e0 1:51f5 1:5200 1:529b 1:52f9",
  "1:5315 1:531a 1:5338 1:5341 1:535c 1:5369 1:5382 1:53b6 1:53c8 1:53e3 1:56d7 1:571f 1:58eb",
  "1:5902 1:590a 1:5915 1:5927 1:5973 1:5b50 1:5b80 1:5bf8 1:5c0f 1:5c22 1:5c38 1:5c6e 1:5c71",
  "1:5ddb 1:5de5 1:5df1 1:5dfe 1:5e72 1:5e7a 1:5e7f 1:5ef4 1:5efe 1:5f0b 1:5f13 1:5f50 1:5f61",
  "1:5f73 1:5fc3 1:6208 1:6236 1:624b 1:652f 1:6534 1:6587 1:6597 1:65a4 1:65b9 1:65e0 1:65e5",
  "1:66f0 1:6708 1:6728 1:6b20 1:6b62 1:6b79 1:6bb3 1:6bcb 1:6bd4 1:6bdb 1:6c0f 1:6c14 1:6c34",
  "1:706b 1:722a 1:7236 1:723b 1:723f 1:7247 1:7259 1:725b 1:72ac 1:7384 1:7389 1:74dc 1:74e6",
  "1:7518 1:751f 1:7528 1:7530 1:758b 1:7592 1:7676 1:767d 1:76ae 1:76bf 1:76ee 1:77db 1:77e2",
  "1:77f3 1:793a 1:79b8 1:79be 1:7a74 1:7acb 1:7af9 1:7c73 1:7cf8 1:7f36 1:7f51 1:7f8a 1:7fbd",
  "1:8001 1:800c 1:8012 1:8033 1:807f 1:8089 1:81e3 1:81ea 1:81f3 1:81fc 1:820c 1:821b 1:821f",
  "1:826e 1:8272 1:8278 1:864d 1:866b 1:8840 1:884c 1:8863 1:897e 1:898b 1:89d2 1:8a00 1:8c37",
  "1:8c46 1:8c55 1:8c78 1:8c9d 1:8d64 1:8d70 1:8db3 1:8eab 1:8eca 1:8f9b 1:8fb0 1:8fb5 1:9091",
  "1:9149 1:91c6 1:91cc 1:91d1 1:9577 1:9580 1:961c 1:96b6 1:96b9 1:96e8 1:9751 1:975e 1:9762",
  "1:9769 1:97cb 1:97ed 1:97f3 1:9801 1:98a8 1:98db 1:98df 1:9996 1:9999 1:99ac 1:9aa8 1:9ad8",
  "1:9adf 1:9b25 1:9b2f 1:9b32 1:9b3c 1:9b5a 1:9ce5 1:9e75 1:9e7f 1:9ea5 1:9ebb 1:9ec3 1:9ecd",
  "1:9ed1 1:9ef9 1:9efd 1:9f0e 1:9f13 1:9f20 1:9f3b 1:9f4a 1:9f52 1:9f8d 1:9f9c 1:9fa0 1:X",
  "2a:20 1:V 1:2e 1:V 33:3012 1:V 1:5341 1:5344 1:5345 1:V 5:X 1:V 56:X 2:V 2:20.3099 1:20.309a",
  "1:V 2:3088.308a 1:V 5f:30b3.30c8 1:X 5:V 2b:X 1:1100 1:1101 1:11aa 1:1102 1:11ac 1:11ad",
  "1:1103 1:1104 1:1105 1:11b0 1:11b1 1:11b2 1:11b3 1:11b4 1:11b5 1:111a 1:1106 1:1107 1:1108",
  "1:1121 1:1109 1:110a 1:110b 1:110c 1:110d 1:110e 1:110f 1:1110 1:1111 1:1112 1:1161 1:1162",
  "1:1163 1:1164 1:1165 1:1166 1:1167 1:1168 1:1169 1:116a 1:116b 1:116c 1:116d 1:116e 1:116f",
  "1:1170 1:1171 1:1172 1:1173 1:1174 1:1175 1: 1:1114 1:1115 1:11c7 1:11c8 1:11cc 1:11ce",
  "1:11d3 1:11d7 1:11d9 1:111c 1:11dd 1:11df 1:111d 1:111e 1:1120 1:1122 1:1123 1:1127 1:1129",
  "1:112b 1:112c 1:112d 1:112e 1:112f 1:1132 1:1136 1:1140 1:1147 1:114c 1:11f1 1:11f2 1:1157",
  "1:1158 1:1159 1:1184 1:1185 1:1188 1:1191 1:1192 1:1194 1:119e 1:11a1 1:X 1:V 2:4e00 1:4e8c",
  "1:4e09 1:56db 1:4e0a 1:4e2d 1:4e0b 1:7532 1:4e59 1:4e19 1:4e01 1:5929 1:5730 1:4eba 1:V 46:X",
  "a:V 10:28.1100.29 1:28.1102.29 1:28.1103.29 1:28.1105.29 1:28.1106.29 1:28.1107.29",
  "1:28.1109.29 1:28.110b.29 1:28.110c.29 1:28.110e.29 1:28.110f.29 1:28.1110.29 1:28.1111.29",
  "1:28.1112.29 1:28.ac00.29 1:28.b098.29 1:28.b2e4.29 1:28.b77c.29 1:28.b9c8.29 1:28.bc14.29",
  "1:28.c0ac.29 1:28.c544.29 1:28.c790.29 1:28.cc28.29 1:28.ce74.29 1:28.d0c0.29 1:28.d30c.29",
  "1:28.d558.29 1:28.c8fc.29 1:28.c624.c804.29 1:28.c624.d6c4.29 1:X 1:28.4e00.29 1:28.4e8c.29",
  "1:28.4e09.29 1:28.56db.29 1:28.4e94.29 1:28.516d.29 1:28.4e03.29 1:28.516b.29 1:28.4e5d.29",
  "1:28.5341.29 1:28.6708.29 1:28.706b.29 1:28.6c34.29 1:28.6728.29 1:28.91d1.29 1:28.571f.29",
  "1:28.65e5.29 1:28.682a.29 1:28.6709.29 1:28.793e.29 1:28.540d.29 1:28.7279.29 1:28.8ca1.29",
  "1:28.795d.29 1:28.52b4.29 1:28.4ee3.29 1:28.547c.29 1:28.5b66.29 1:28.76e3.29 1:28.4f01.29",
  "1:28.8cc7.29 1:28.5354.29 1:28.796d.29 1:28.4f11.29 1:28.81ea.29 1:28.81f3.29 1:554f 1:5e7c",
  "1:6587 1:7b8f 1:V 8:70.74.65 1:32.31 1:32.32 1:32.33 1:32.34 1:32.35 1:32.36 1:32.37 1:32.38",
  "1:32.39 1:33.30 1:33.31 1:33.32 1:33.33 1:33.34 1:33.35 1:1100 1:1102 1:1103 1:1105 1:1106",
  "1:1107 1:1109 1:110b 1:110c 1:110e 1:110f 1:1110 1:1111 1:1112 1:ac00 1:b098 1:b2e4 1:b77c",
  "1:b9c8 1:bc14 1:c0ac 1:c544 1:c790 1:cc28 1:ce74 1:d0c0 1:d30c 1:d558 1:cc38.ace0",
  "1:c8fc.c758 1:c6b0 1:V 1:4e00 1:4e8c 1:4e09 1:56db 1:4e94 1:516d 1:4e03 1:516b 1:4e5d 1:5341",
  "1:6708 1:706b 1:6c34 1:6728 1:91d1 1:571f 1:65e5 1:682a 1:6709 1:793e 1:540d 1:7279 1:8ca1",
  "1:795d 1:52b4 1:79d8 1:7537 1:5973 1:9069 1:512a 1:5370 1:6ce8 1:9805 1:4f11 1:5199 1:6b63",
  "1:4e0a 1:4e2d 1:4e0b 1:5de6 1:53f3 1:533b 1:5b97 1:5b66 1:76e3 1:4f01 1:8cc7 1:5354 1:591c",
  "1:33.36 1:33.37 1:33.38 1:33.39 1:34.30 1:34.31 1:34.32 1:34.33 1:34.34 1:34.35 1:34.36",
  "1:34.37 1:34.38 1:34.39 1:35.30 1:31.6708 1:32.6708 1:33.6708 1:34.6708 1:35.6708 1:36.6708",
  "1:37.6708 1:38.6708 1:39.6708 1:31.30.6708 1:31.31.6708 1:31.32.6708 1:68.67 1:65.72.67",
  "1:65.76 1:6c.74.64 1:30a2 1:30a4 1:30a6 1:30a8 1:30aa 1:30ab 1:30ad 1:30af 1:30b1 1:30b3",
  "1:30b5 1:30b7 1:30b9 1:30bb 1:30bd 1:30bf 1:30c1 1:30c4 1:30c6 1:30c8 1:30ca 1:30cb 1:30cc",
  "1:30cd 1:30ce 1:30cf 1:30d2 1:30d5 1:30d8 1:30db 1:30de 1:30df 1:30e0 1:30e1 1:30e2 1:30e4",
  "1:30e6 1:30e8 1:30e9 1:30ea 1:30eb 1:30ec 1:30ed 1:30ef 1:30f0 1:30f1 1:30f2 1:4ee4.548c",
  "1:30a2.30d1.30fc.30c8 1:30a2.30eb.30d5.30a1 1:30a2.30f3.30da.30a2 1:30a2.30fc.30eb",
  "1:30a4.30cb.30f3.30b0 1:30a4.30f3.30c1 1:30a6.30a9.30f3 1:30a8.30b9.30af.30fc.30c9",
  "1:30a8.30fc.30ab.30fc 1:30aa.30f3.30b9 1:30aa.30fc.30e0 1:30ab.30a4.30ea",
  "1:30ab.30e9.30c3.30c8 1:30ab.30ed.30ea.30fc 1:30ac.30ed.30f3 1:30ac.30f3.30de 1:30ae.30ac",
  "1:30ae.30cb.30fc 1:30ad.30e5.30ea.30fc 1:30ae.30eb.30c0.30fc 1:30ad.30ed",
  "1:30ad.30ed.30b0.30e9.30e0 1:30ad.30ed.30e1.30fc.30c8.30eb 1:30ad.30ed.30ef.30c3.30c8",
  "1:30b0.30e9.30e0 1:30b0.30e9.30e0.30c8.30f3 1:30af.30eb.30bc.30a4.30ed 1:30af.30ed.30fc.30cd",
  "1:30b1.30fc.30b9 1:30b3.30eb.30ca 1:30b3.30fc.30dd 1:30b5.30a4.30af.30eb",
  "1:30b5.30f3.30c1.30fc.30e0 1:30b7.30ea.30f3.30b0 1:30bb.30f3.30c1 1:30bb.30f3.30c8",
  "1:30c0.30fc.30b9 1:30c7.30b7 1:30c9.30eb 1:30c8.30f3 1:30ca.30ce 1:30ce.30c3.30c8",
  "1:30cf.30a4.30c4 1:30d1.30fc.30bb.30f3.30c8 1:30d1.30fc.30c4 1:30d0.30fc.30ec.30eb",
  "1:30d4.30a2.30b9.30c8.30eb 1:30d4.30af.30eb 1:30d4.30b3 1:30d3.30eb",
  "1:30d5.30a1.30e9.30c3.30c9 1:30d5.30a3.30fc.30c8 1:30d6.30c3.30b7.30a7.30eb 1:30d5.30e9.30f3",
  "1:30d8.30af.30bf.30fc.30eb 1:30da.30bd 1:30da.30cb.30d2 1:30d8.30eb.30c4 1:30da.30f3.30b9",
  "1:30da.30fc.30b8 1:30d9.30fc.30bf 1:30dd.30a4.30f3.30c8 1:30dc.30eb.30c8 1:30db.30f3",
  "1:30dd.30f3.30c9 1:30db.30fc.30eb 1:30db.30fc.30f3 1:30de.30a4.30af.30ed 1:30de.30a4.30eb",
  "1:30de.30c3.30cf 1:30de.30eb.30af 1:30de.30f3.30b7.30e7.30f3 1:30df.30af.30ed.30f3",
  "1:30df.30ea 1:30df.30ea.30d0.30fc.30eb 1:30e1.30ac 1:30e1.30ac.30c8.30f3",
  "1:30e1.30fc.30c8.30eb 1:30e4.30fc.30c9 1:30e4.30fc.30eb 1:30e6.30a2.30f3",
  "1:30ea.30c3.30c8.30eb 1:30ea.30e9 1:30eb.30d4.30fc 1:30eb.30fc.30d6.30eb 1:30ec.30e0",
  "1:30ec.30f3.30c8.30b2.30f3 1:30ef.30c3.30c8 1:30.70b9 1:31.70b9 1:32.70b9 1:33.70b9",
  "1:34.70b9 1:35.70b9 1:36.70b9 1:37.70b9 1:38.70b9 1:39.70b9 1:31.30.70b9 1:31.31.70b9",
  "1:31.32.70b9 1:31.33.70b9 1:31.34.70b9 1:31.35.70b9 1:31.36.70b9 1:31.37.70b9 1:31.38.70b9",
  "1:31.39.70b9 1:32.30.70b9 1:32.31.70b9 1:32.32.70b9 1:32.33.70b9 1:32.34.70b9 1:68.70.61",
  "1:64.61 1:61.75 1:62.61.72 1:6f.76 1:70.63 1:64.6d 1:64.6d.32 1:64.6d.33 1:69.75 1:5e73.6210",
  "1:662d.548c 1:5927.6b63 1:660e.6cbb 1:682a.5f0f.4f1a.793e 1:70.61 1:6e.61 1:3bc.61 1:6d.61",
  "1:6b.61 1:6b.62 1:6d.62 1:67.62 1:63.61.6c 1:6b.63.61.6c 1:70.66 1:6e.66 1:3bc.66 1:3bc.67",
  "1:6d.67 1:6b.67 1:68.7a 1:6b.68.7a 1:6d.68.7a 1:67.68.7a 1:74.68.7a 1:3bc.6c 1:6d.6c 1:64.6c",
  "1:6b.6c 1:66.6d 1:6e.6d 1:3bc.6d 1:6d.6d 1:63.6d 1:6b.6d 1:6d.6d.32 1:63.6d.32 1:6d.32",
  "1:6b.6d.32 1:6d.6d.33 1:63.6d.33 1:6d.33 1:6b.6d.33 1:6d.2215.73 1:6d.2215.73.32 1:70.61",
  "1:6b.70.61 1:6d.70.61 1:67.70.61 1:72.61.64 1:72.61.64.2215.73 1:72.61.64.2215.73.32 1:70.73",
  "1:6e.73 1:3bc.73 1:6d.73 1:70.76 1:6e.76 1:3bc.76 1:6d.76 1:6b.76 1:6d.76 1:70.77 1:6e.77",
  "1:3bc.77 1:6d.77 1:6b.77 1:6d.77 1:6b.3c9 1:6d.3c9 1:X 1:62.71 1:63.63 1:63.64",
  "1:63.2215.6b.67 1:X 1:64.62 1:67.79 1:68.61 1:68.70 1:69.6e 1:6b.6b 1:6b.6d 1:6b.74 1:6c.6d",
  "1:6c.6e 1:6c.6f.67 1:6c.78 1:6d.62 1:6d.69.6c 1:6d.6f.6c 1:70.68 1:X 1:70.70.6d 1:70.72",
  "1:73.72 1:73.76 1:77.62 1:76.2215.6d 1:61.2215.6d 1:31.65e5 1:32.65e5 1:33.65e5 1:34.65e5",
  "1:35.65e5 1:36.65e5 1:37.65e5 1:38.65e5 1:39.65e5 1:31.30.65e5 1:31.31.65e5 1:31.32.65e5",
  "1:31.33.65e5 1:31.34.65e5 1:31.35.65e5 1:31.36.65e5 1:31.37.65e5 1:31.38.65e5 1:31.39.65e5",
  "1:32.30.65e5 1:32.31.65e5 1:32.32.65e5 1:32.33.65e5 1:32.34.65e5 1:32.35.65e5 1:32.36.65e5",
  "1:32.37.65e5 1:32.38.65e5 1:32.39.65e5 1:33.30.65e5 1:33.31.65e5 1:67.61.6c 1:V 708d:X 3:V",
  "37:X 9:V 15c:X 14:a641 1:V 1:a643 1:V 1:a645 1:V 1:a647 1:V 1:a649 1:V 1:a64b 1:V 1:a64d 1:V",
  "1:a64f 1:V 1:a651 1:V 1:a653 1:V 1:a655 1:V 1:a657 1:V 1:a659 1:V 1:a65b 1:V 1:a65d 1:V",
  "1:a65f 1:V 1:a661 1:V 1:a663 1:V 1:a665 1:V 1:a667 1:V 1:a669 1:V 1:a66b 1:V 1:a66d 1:V",
  "13:a681 1:V 1:a683 1:V 1:a685 1:V 1:a687 1:V 1:a689 1:V 1:a68b 1:V 1:a68d 1:V 1:a68f 1:V",
  "1:a691 1:V 1:a693 1:V 1:a695 1:V 1:a697 1:V 1:a699 1:V 1:a69b 1:V 1:44a 1:44c 1:V 5a:X 8:V",
  "22:a723 1:V 1:a725 1:V 1:a727 1:V 1:a729 1:V 1:a72b 1:V 1:a72d 1:V 1:a72f 1:V 3:a733 1:V",
  "1:a735 1:V 1:a737 1:V 1:a739 1:V 1:a73b 1:V 1:a73d 1:V 1:a73f 1:V 1:a741 1:V 1:a743 1:V",
  "1:a745 1:V 1:a747 1:V 1:a749 1:V 1:a74b 1:V 1:a74d 1:V 1:a74f 1:V 1:a751 1:V 1:a753 1:V",
  "1:a755 1:V 1:a757 1:V 1:a759 1:V 1:a75b 1:V 1:a75d 1:V 1:a75f 1:V 1:a761 1:V 1:a763 1:V",
  "1:a765 1:V 1:a767 1:V 1:a769 1:V 1:a76b 1:V 1:a76d 1:V 1:a76f 1:V 1:a76f 1:V 8:a77a 1:V",
  "1:a77c 1:V 1:1d79 1:a77f 1:V 1:a781 1:V 1:a783 1:V 1:a785 1:V 1:a787 1:V 4:a78c 1:V 1:265",
  "1:V 2:a791 1:V 1:a793 1:V 3:a797 1:V 1:a799 1:V 1:a79b 1:V 1:a79d 1:V 1:a79f 1:V 1:a7a1 1:V",
  "1:a7a3 1:V 1:a7a5 1:V 1:a7a7 1:V 1:a7a9 1:V 1:266 1:25c 1:261 1:26c 1:26a 1:V 1:29e 1:287",
  "1:29d 1:ab53 1:a7b5 1:V 1:a7b7 1:V 1:a7b9 1:V 1:a7bb 1:V 1:a7bd 1:V 1:a7bf 1:V 1:a7c1 1:V",
  "1:a7c3 1:V 1:a794 1:282 1:1d8e 1:a7c8 1:V 1:a7ca 1:V 1:264 1:a7cd 1:V 1:a7cf 1:V 1:a7d1 1:V",
  "1:a7d3 1:V 1:a7d5 1:V 1:a7d7 1:V 1:a7d9 1:V 1:a7db 1:V 1:19b 1:X 14:73 1:63 1:66 1:71 1:a7f6",
  "1:V 2:127 1:153 1:V 33:X 3:V a:X 6:V 38:X 8:V 46:X 8:V c:X 6:V 74:X b:V 1e:X 3:V 4e:X 1:V",
  "b:X 4:V 21:X 1:V 37:X 9:V e:X 2:V a:X 2:V 67:X 18:V 1c:X a:V 6:X 2:V 6:X 2:V 6:X 9:V 7:X 1:V",
  "7:X 1:V 2c:a727 1:ab37 1:26b 1:ab52 1:V 9:28d 1:V 2:X 4:13a0 1:13a1 1:13a2 1:13a3 1:13a4",
  "1:13a5 1:13a6 1:13a7 1:13a8 1:13a9 1:13aa 1:13ab 1:13ac 1:13ad 1:13ae 1:13af 1:13b0 1:13b1",
  "1:13b2 1:13b3 1:13b4 1:13b5 1:13b6 1:13b7 1:13b8 1:13b9 1:13ba 1:13bb 1:13bc 1:13bd 1:13be",
  "1:13bf 1:13c0 1:13c1 1:13c2 1:13c3 1:13c4 1:13c5 1:13c6 1:13c7 1:13c8 1:13c9 1:13ca 1:13cb",
  "1:13cc 1:13cd 1:13ce 1:13cf 1:13d0 1:13d1 1:13d2 1:13d3 1:13d4 1:13d5 1:13d6 1:13d7 1:13d8",
  "1:13d9 1:13da 1:13db 1:13dc 1:13dd 1:13de 1:13df 1:13e0 1:13e1 1:13e2 1:13e3 1:13e4 1:13e5",
  "1:13e6 1:13e7 1:13e8 1:13e9 1:13ea 1:13eb 1:13ec 1:13ed 1:13ee 1:13ef 1:V 2e:X 2:V a:X 6:V",
  "2ba4:X c:V 17:X 4:V 31:X 2104:8c48 1:66f4 1:8eca 1:8cc8 1:6ed1 1:4e32 1:53e5 1:9f9c 2:5951",
  "1:91d1 1:5587 1:5948 1:61f6 1:7669 1:7f85 1:863f 1:87ba 1:88f8 1:908f 1:6a02 1:6d1b 1:70d9",
  "1:73de 1:843d 1:916a 1:99f1 1:4e82 1:5375 1:6b04 1:721b 1:862d 1:9e1e 1:5d50 1:6feb 1:85cd",
  "1:8964 1:62c9 1:81d8 1:881f 1:5eca 1:6717 1:6d6a 1:72fc 1:90ce 1:4f86 1:51b7 1:52de 1:64c4",
  "1:6ad3 1:7210 1:76e7 1:8001 1:8606 1:865c 1:8def 1:9732 1:9b6f 1:9dfa 1:788c 1:797f 1:7da0",
  "1:83c9 1:9304 1:9e7f 1:8ad6 1:58df 1:5f04 1:7c60 1:807e 1:7262 1:78ca 1:8cc2 1:96f7 1:58d8",
  "1:5c62 1:6a13 1:6dda 1:6f0f 1:7d2f 1:7e37 1:964b 1:52d2 1:808b 1:51dc 1:51cc 1:7a1c 1:7dbe",
  "1:83f1 1:9675 1:8b80 1:62cf 1:6a02 1:8afe 1:4e39 1:5be7 1:6012 1:7387 1:7570 1:5317 1:78fb",
  "1:4fbf 1:5fa9 1:4e0d 1:6ccc 1:6578 1:7d22 1:53c3 1:585e 1:7701 1:8449 1:8aaa 1:6bba 1:8fb0",
  "1:6c88 1:62fe 1:82e5 1:63a0 1:7565 1:4eae 1:5169 1:51c9 1:6881 1:7ce7 1:826f 1:8ad2 1:91cf",
  "1:52f5 1:5442 1:5973 1:5eec 1:65c5 1:6ffe 1:792a 1:95ad 1:9a6a 1:9e97 1:9ece 1:529b 1:66c6",
  "1:6b77 1:8f62 1:5e74 1:6190 1:6200 1:649a 1:6f23 1:7149 1:7489 1:79ca 1:7df4 1:806f 1:8f26",
  "1:84ee 1:9023 1:934a 1:5217 1:52a3 1:54bd 1:70c8 1:88c2 1:8aaa 1:5ec9 1:5ff5 1:637b 1:6bae",
  "1:7c3e 1:7375 1:4ee4 1:56f9 1:5be7 1:5dba 1:601c 1:73b2 1:7469 1:7f9a 1:8046 1:9234 1:96f6",
  "1:9748 1:9818 1:4f8b 1:79ae 1:91b4 1:96b8 1:60e1 1:4e86 1:50da 1:5bee 1:5c3f 1:6599 1:6a02",
  "1:71ce 1:7642 1:84fc 1:907c 1:9f8d 1:6688 1:962e 1:5289 1:677b 1:67f3 1:6d41 1:6e9c 1:7409",
  "1:7559 1:786b 1:7d10 1:985e 1:516d 1:622e 1:9678 1:502b 1:5d19 1:6dea 1:8f2a 1:5f8b 1:6144",
  "1:6817 1:7387 1:9686 1:5229 1:540f 1:5c65 1:6613 1:674e 1:68a8 1:6ce5 1:7406 1:75e2 1:7f79",
  "1:88cf 1:88e1 1:91cc 1:96e2 1:533f 1:6eba 1:541d 1:71d0 1:7498 1:85fa 1:96a3 1:9c57 1:9e9f",
  "1:6797 1:6dcb 1:81e8 1:7acb 1:7b20 1:7c92 1:72c0 1:7099 1:8b58 1:4ec0 1:8336 1:523a 1:5207",
  "1:5ea6 1:62d3 1:7cd6 1:5b85 1:6d1e 1:66b4 1:8f3b 1:884c 1:964d 1:898b 1:5ed3 1:5140 1:55c0",
  "1:V 2:585a 1:V 1:6674 1:V 2:51de 1:732a 1:76ca 1:793c 1:795e 1:7965 1:798f 1:9756 1:7cbe",
  "1:7fbd 1:V 1:8612 1:V 1:8af8 1:V 2:9038 1:90fd 1:V 3:98ef 1:98fc 1:9928 1:9db4 1:90de 1:96b7",
  "1:4fae 1:50e7 1:514d 1:52c9 1:52e4 1:5351 1:559d 1:5606 1:5668 1:5840 1:58a8 1:5c64 1:5c6e",
  "1:6094 1:6168 1:618e 1:61f2 1:654f 1:65e2 1:6691 1:6885 1:6d77 1:6e1a 1:6f22 1:716e 1:722b",
  "1:7422 1:7891 1:793e 1:7949 1:7948 1:7950 1:7956 1:795d 1:798d 1:798e 1:7a40 1:7a81 1:7bc0",
  "1:7df4 1:7e09 1:7e41 1:7f72 1:8005 1:81ed 1:8279 2:8457 1:8910 1:8996 1:8b01 1:8b39 1:8cd3",
  "1:8d08 1:8fb6 1:9038 1:96e3 1:97ff 1:983b 1:6075 1:242ee 1:8218 1:X 2:4e26 1:51b5 1:5168",
  "1:4f80 1:5145 1:5180 1:52c7 1:52fa 1:559d 1:5555 1:5599 1:55e2 1:585a 1:58b3 1:5944 1:5954",
  "1:5a62 1:5b28 1:5ed2 1:5ed9 1:5f69 1:5fad 1:60d8 1:614e 1:6108 1:618e 1:6160 1:61f2 1:6234",
  "1:63c4 1:641c 1:6452 1:6556 1:6674 1:6717 1:671b 1:6756 1:6b79 1:6bba 1:6d41 1:6edb 1:6ecb",
  "1:6f22 1:701e 1:716e 1:77a7 1:7235 1:72af 1:732a 1:7471 1:7506 1:753b 1:761d 1:761f 1:76ca",
  "1:76db 1:76f4 1:774a 1:7740 1:78cc 1:7ab1 1:7bc0 1:7c7b 1:7d5b 1:7df4 1:7f3e 1:8005 1:8352",
  "1:83ef 1:8779 1:8941 1:8986 1:8996 1:8abf 1:8af8 1:8acb 1:8b01 1:8afe 1:8aed 1:8b39 1:8b8a",
  "1:8d08 1:8f38 1:9072 1:9199 1:9276 1:967c 1:96e3 1:9756 1:97db 1:97ff 1:980b 1:983b 1:9b12",
  "1:9f9c 1:2284a 1:22844 1:233d5 1:3b9d 1:4018 1:4039 1:25249 1:25cd0 1:27ed3 1:9f43 1:9f8e",
  "1:X 26:66.66 1:66.69 1:66.6c 1:66.66.69 1:66.66.6c 1:73.74 2:X c:574.576 1:574.565 1:574.56b",
  "1:57e.576 1:574.56d 1:X 5:5d9.5b4 1:V 1:5f2.5b7 1:5e2 1:5d0 1:5d3 1:5d4 1:5db 1:5dc 1:5dd",
  "1:5e8 1:5ea 1:2b 1:5e9.5c1 1:5e9.5c2 1:5e9.5bc.5c1 1:5e9.5bc.5c2 1:5d0.5b7 1:5d0.5b8",
  "1:5d0.5bc 1:5d1.5bc 1:5d2.5bc 1:5d3.5bc 1:5d4.5bc 1:5d5.5bc 1:5d6.5bc 1:X 1:5d8.5bc",
  "1:5d9.5bc 1:5da.5bc 1:5db.5bc 1:5dc.5bc 1:X 1:5de.5bc 1:X 1:5e0.5bc 1:5e1.5bc 1:X 1:5e3.5bc",
  "1:5e4.5bc 1:X 1:5e6.5bc 1:5e7.5bc 1:5e8.5bc 1:5e9.5bc 1:5ea.5bc 1:5d5.5b9 1:5d1.5bf",
  "1:5db.5bf 1:5e4.5bf 1:5d0.5dc 1:671 2:67b 4:67e 4:680 4:67a 4:67f 4:679 4:6a4 4:6a6 4:684",
  "4:683 4:686 4:687 4:68d 2:68c 2:68e 2:688 2:698 2:691 2:6a9 4:6af 4:6b3 4:6b1 4:6ba 2:6bb",
  "4:6c0 2:6c1 4:6be 4:6d2 2:6d3 2:V 21:6ad 4:6c7 2:6c6 2:6c8 2:6c7.674 1:6cb 2:6c5 2:6c9 2:6d0",
  "4:649 2:626.627 2:626.6d5 2:626.648 2:626.6c7 2:626.6c6 2:626.6c8 2:626.6d0 3:626.649 3:6cc",
  "4:626.62c 1:626.62d 1:626.645 1:626.649 1:626.64a 1:628.62c 1:628.62d 1:628.62e 1:628.645",
  "1:628.649 1:628.64a 1:62a.62c 1:62a.62d 1:62a.62e 1:62a.645 1:62a.649 1:62a.64a 1:62b.62c",
  "1:62b.645 1:62b.649 1:62b.64a 1:62c.62d 1:62c.645 1:62d.62c 1:62d.645 1:62e.62c 1:62e.62d",
  "1:62e.645 1:633.62c 1:633.62d 1:633.62e 1:633.645 1:635.62d 1:635.645 1:636.62c 1:636.62d",
  "1:636.62e 1:636.645 1:637.62d 1:637.645 1:638.645 1:639.62c 1:639.645 1:63a.62c 1:63a.645",
  "1:641.62c 1:641.62d 1:641.62e 1:641.645 1:641.649 1:641.64a 1:642.62d 1:642.645 1:642.649",
  "1:642.64a 1:643.627 1:643.62c 1:643.62d 1:643.62e 1:643.644 1:643.645 1:643.649 1:643.64a",
  "1:644.62c 1:644.62d 1:644.62e 1:644.645 1:644.649 1:644.64a 1:645.62c 1:645.62d 1:645.62e",
  "1:645.645 1:645.649 1:645.64a 1:646.62c 1:646.62d 1:646.62e 1:646.645 1:646.649 1:646.64a",
  "1:647.62c 1:647.645 1:647.649 1:647.64a 1:64a.62c 1:64a.62d 1:64a.62e 1:64a.645 1:64a.649",
  "1:64a.64a 1:630.670 1:631.670 1:649.670 1:20.64c.651 1:20.64d.651 1:20.64e.651 1:20.64f.651",
  "1:20.650.651 1:20.651.670 1:626.631 1:626.632 1:626.645 1:626.646 1:626.649 1:626.64a",
  "1:628.631 1:628.632 1:628.645 1:628.646 1:628.649 1:628.64a 1:62a.631 1:62a.632 1:62a.645",
  "1:62a.646 1:62a.649 1:62a.64a 1:62b.631 1:62b.632 1:62b.645 1:62b.646 1:62b.649 1:62b.64a",
  "1:641.649 1:641.64a 1:642.649 1:642.64a 1:643.627 1:643.644 1:643.645 1:643.649 1:643.64a",
  "1:644.645 1:644.649 1:644.64a 1:645.627 1:645.645 1:646.631 1:646.632 1:646.645 1:646.646",
  "1:646.649 1:646.64a 1:649.670 1:64a.631 1:64a.632 1:64a.645 1:64a.646 1:64a.649 1:64a.64a",
  "1:626.62c 1:626.62d 1:626.62e 1:626.645 1:626.647 1:628.62c 1:628.62d 1:628.62e 1:628.645",
  "1:628.647 1:62a.62c 1:62a.62d 1:62a.62e 1:62a.645 1:62a.647 1:62b.645 1:62c.62d 1:62c.645",
  "1:62d.62c 1:62d.645 1:62e.62c 1:62e.645 1:633.62c 1:633.62d 1:633.62e 1:633.645 1:635.62d",
  "1:635.62e 1:635.645 1:636.62c 1:636.62d 1:636.62e 1:636.645 1:637.62d 1:638.645 1:639.62c",
  "1:639.645 1:63a.62c 1:63a.645 1:641.62c 1:641.62d 1:641.62e 1:641.645 1:642.62d 1:642.645",
  "1:643.62c 1:643.62d 1:643.62e 1:643.644 1:643.645 1:644.62c 1:644.62d 1:644.62e 1:644.645",
  "1:644.647 1:645.62c 1:645.62d 1:645.62e 1:645.645 1:646.62c 1:646.62d 1:646.62e 1:646.645",
  "1:646.647 1:647.62c 1:647.645 1:647.670 1:64a.62c 1:64a.62d 1:64a.62e 1:64a.645 1:64a.647",
  "1:626.645 1:626.647 1:628.645 1:628.647 1:62a.645 1:62a.647 1:62b.645 1:62b.647 1:633.645",
  "1:633.647 1:634.645 1:634.647 1:643.644 1:643.645 1:644.645 1:646.645 1:646.647 1:64a.645",
  "1:64a.647 1:640.64e.651 1:640.64f.651 1:640.650.651 1:637.649 1:637.64a 1:639.649 1:639.64a",
  "1:63a.649 1:63a.64a 1:633.649 1:633.64a 1:634.649 1:634.64a 1:62d.649 1:62d.64a 1:62c.649",
  "1:62c.64a 1:62e.649 1:62e.64a 1:635.649 1:635.64a 1:636.649 1:636.64a 1:634.62c 1:634.62d",
  "1:634.62e 1:634.645 1:634.631 1:633.631 1:635.631 1:636.631 1:637.649 1:637.64a 1:639.649",
  "1:639.64a 1:63a.649 1:63a.64a 1:633.649 1:633.64a 1:634.649 1:634.64a 1:62d.649 1:62d.64a",
  "1:62c.649 1:62c.64a 1:62e.649 1:62e.64a 1:635.649 1:635.64a 1:636.649 1:636.64a 1:634.62c",
  "1:634.62d 1:634.62e 1:634.645 1:634.631 1:633.631 1:635.631 1:636.631 1:634.62c 1:634.62d",
  "1:634.62e 1:634.645 1:633.647 1:634.647 1:637.645 1:633.62c 1:633.62d 1:633.62e 1:634.62c",
  "1:634.62d 1:634.62e 1:637.645 1:638.645 1:627.64b 2:V 12:62a.62c.645 1:62a.62d.62c",
  "2:62a.62d.645 1:62a.62e.645 1:62a.645.62c 1:62a.645.62d 1:62a.645.62e 1:62c.645.62d",
  "2:62d.645.64a 1:62d.645.649 1:633.62d.62c 1:633.62c.62d 1:633.62c.649 1:633.645.62d",
  "2:633.645.62c 1:633.645.645 2:635.62d.62d 2:635.645.645 1:634.62d.645 2:634.62c.64a",
  "1:634.645.62e 2:634.645.645 2:636.62d.649 1:636.62e.645 2:637.645.62d 2:637.645.645",
  "1:637.645.64a 1:639.62c.645 1:639.645.645 2:639.645.649 1:63a.645.645 1:63a.645.64a",
  "1:63a.645.649 1:641.62e.645 2:642.645.62d 1:642.645.645 1:644.62d.645 1:644.62d.64a",
  "1:644.62d.649 1:644.62c.62c 2:644.62e.645 2:644.645.62d 2:645.62d.62c 1:645.62d.645",
  "1:645.62d.64a 1:645.62c.62d 1:645.62c.645 1:645.62e.62c 1:645.62e.645 1:V 2:645.62c.62e",
  "1:647.645.62c 1:647.645.645 1:646.62d.645 1:646.62d.649 1:646.62c.645 2:646.62c.649",
  "1:646.645.64a 1:646.645.649 1:64a.645.645 2:628.62e.64a 1:62a.62c.64a 1:62a.62c.649",
  "1:62a.62e.64a 1:62a.62e.649 1:62a.645.64a 1:62a.645.649 1:62c.645.64a 1:62c.62d.649",
  "1:62c.645.649 1:633.62e.649 1:635.62d.64a 1:634.62d.64a 1:636.62d.64a 1:644.62c.64a",
  "1:644.645.64a 1:64a.62d.64a 1:64a.62c.64a 1:64a.645.64a 1:645.645.64a 1:642.645.64a",
  "1:646.62d.64a 1:642.645.62d 1:644.62d.645 1:639.645.64a 1:643.645.64a 1:646.62c.62d",
  "1:645.62e.64a 1:644.62c.645 1:643.645.645 1:644.62c.645 1:646.62c.62d 1:62c.62d.64a",
  "1:62d.62c.64a 1:645.62c.64a 1:641.645.64a 1:628.62d.64a 1:643.645.645 1:639.62c.645",
  "1:635.645.645 1:633.62e.64a 1:646.62c.64a 1:V 8:X 20:635.644.6d2 1:642.644.6d2",
  "1:627.644.644.647 1:627.643.628.631 1:645.62d.645.62f 1:635.644.639.645 1:631.633.648.644",
  "1:639.644.64a.647 1:648.633.644.645 1:635.644.649",
  "1:635.644.649.20.627.644.644.647.20.639.644.64a.647.20.648.633.644.645",
  "1:62c.644.20.62c.644.627.644.647 1:631.6cc.627.644 1:V 3: 10:2c 1:3001 1:X 1:3a 1:3b 1:21",
  "1:3f 1:3016 1:3017 1:X 7:V 10:X 1:2014 1:2013 1:5f 2:28 1:29 1:7b 1:7d 1:3014 1:3015 1:3010",
  "1:3011 1:300a 1:300b 1:3008 1:3009 1:300c 1:300d 1:300e 1:300f 1:V 2:5b 1:5d 1:20.305 4:5f",
  "3:2c 1:3001 1:X 2:3b 1:3a 1:3f 1:21 1:2014 1:28 1:29 1:7b 1:7d 1:3014 1:3015 1:23 1:26 1:2a",
  "1:2b 1:2d 1:3c 1:3e 1:3d 1:X 1:5c 1:24 1:25 1:40 1:X 4:20.64b 1:640.64b 1:20.64c 1:V",
  "1:20.64d 1:X 1:20.64e 1:640.64e 1:20.64f 1:640.64f 1:20.650 1:640.650 1:20.651 1:640.651",
  "1:20.652 1:640.652 1:621 1:622 2:623 2:624 2:625 2:626 4:627 2:628 4:629 2:62a 4:62b 4:62c",
  "4:62d 4:62e 4:62f 2:630 2:631 2:632 2:633 4:634 4:635 4:636 4:637 4:638 4:639 4:63a 4:641",
  "4:642 4:643 4:644 4:645 4:646 4:647 4:648 2:649 2:64a 4:644.622 2:644.623 2:644.625",
  "2:644.627 2:X 2: 1:X 1:21 1:22 1:23 1:24 1:25 1:26 1:27 1:28 1:29 1:2a 1:2b 1:2c 1:2d 1:2e",
  "1:2f 1:30 1:31 1:32 1:33 1:34 1:35 1:36 1:37 1:38 1:39 1:3a 1:3b 1:3c 1:3d 1:3e 1:3f 1:40",
  "1:61 1:62 1:63 1:64 1:65 1:66 1:67 1:68 1:69 1:6a 1:6b 1:6c 1:6d 1:6e 1:6f 1:70 1:71 1:72",
  "1:73 1:74 1:75 1:76 1:77 1:78 1:79 1:7a 1:5b 1:5c 1:5d 1:5e 1:5f 1:60 1:61 1:62 1:63 1:64",
  "1:65 1:66 1:67 1:68 1:69 1:6a 1:6b 1:6c 1:6d 1:6e 1:6f 1:70 1:71 1:72 1:73 1:74 1:75 1:76",
  "1:77 1:78 1:79 1:7a 1:7b 1:7c 1:7d 1:7e 1:2985 1:2986 1:2e 1:300c 1:300d 1:3001 1:30fb",
  "1:30f2 1:30a1 1:30a3 1:30a5 1:30a7 1:30a9 1:30e3 1:30e5 1:30e7 1:30c3 1:30fc 1:30a2 1:30a4",
  "1:30a6 1:30a8 1:30aa 1:30ab 1:30ad 1:30af 1:30b1 1:30b3 1:30b5 1:30b7 1:30b9 1:30bb 1:30bd",
  "1:30bf 1:30c1 1:30c4 1:30c6 1:30c8 1:30ca 1:30cb 1:30cc 1:30cd 1:30ce 1:30cf 1:30d2 1:30d5",
  "1:30d8 1:30db 1:30de 1:30df 1:30e0 1:30e1 1:30e2 1:30e4 1:30e6 1:30e8 1:30e9 1:30ea 1:30eb",
  "1:30ec 1:30ed 1:30ef 1:30f3 1:3099 1:309a 1: 1:1100 1:1101 1:11aa 1:1102 1:11ac 1:11ad",
  "1:1103 1:1104 1:1105 1:11b0 1:11b1 1:11b2 1:11b3 1:11b4 1:11b5 1:111a 1:1106 1:1107 1:1108",
  "1:1121 1:1109 1:110a 1:110b 1:110c 1:110d 1:110e 1:110f 1:1110 1:1111 1:1112 1:X 3:1161",
  "1:1162 1:1163 1:1164 1:1165 1:1166 1:X 2:1167 1:1168 1:1169 1:116a 1:116b 1:116c 1:X 2:116d",
  "1:116e 1:116f 1:1170 1:1171 1:1172 1:X 2:1173 1:1174 1:1175 1:X 3:a2 1:a3 1:ac 1:20.304 1:a6",
  "1:a5 1:20a9 1:X 1:2502 1:2190 1:2191 1:2192 1:2193 1:25a0 1:25cb 1:X 11:V c:X 1:V 1a:X 1:V",
  "13:X 1:V 2:X 1:V f:X 2:V e:X 22:V 7b:X 5:V 3:X 4:V 2d:X 3:V 58:X 1:V d:X 3:V 1:X 2f:V 2e:X",
  "82:V 1d:X 3:V 31:X f:V 1c:X 4:V 24:X 9:V 1e:X 5:V 2b:X 5:V 1e:X 1:V 25:X 4:V e:X 2a:10428",
  "1:10429 1:1042a 1:1042b 1:1042c 1:1042d 1:1042e 1:1042f 1:10430 1:10431 1:10432 1:10433",
  "1:10434 1:10435 1:10436 1:10437 1:10438 1:10439 1:1043a 1:1043b 1:1043c 1:1043d 1:1043e",
  "1:1043f 1:10440 1:10441 1:10442 1:10443 1:10444 1:10445 1:10446 1:10447 1:10448 1:10449",
  "1:1044a 1:1044b 1:1044c 1:1044d 1:1044e 1:1044f 1:V 76:X 2:V a:X 6:104d8 1:104d9 1:104da",
  "1:104db 1:104dc 1:104dd 1:104de 1:104df 1:104e0 1:104e1 1:104e2 1:104e3 1:104e4 1:104e5",
  "1:104e6 1:104e7 1:104e8 1:104e9 1:104ea 1:104eb 1:104ec 1:104ed 1:104ee 1:104ef 1:104f0",
  "1:104f1 1:104f2 1:104f3 1:104f4 1:104f5 1:104f6 1:104f7 1:104f8 1:104f9 1:104fa 1:104fb 1:X",
  "4:V 24:X 4:V 28:X 8:V 34:X b:V 1:10597 1:10598 1:10599 1:1059a 1:1059b 1:1059c 1:1059d",
  "1:1059e 1:1059f 1:105a0 1:105a1 1:X 1:105a3 1:105a4 1:105a5 1:105a6 1:105a7 1:105a8 1:105a9",
  "1:105aa 1:105ab 1:105ac 1:105ad 1:105ae 1:105af 1:105b0 1:105b1 1:X 1:105b3 1:105b4 1:105b5",
  "1:105b6 1:105b7 1:105b8 1:105b9 1:X 1:105bb 1:105bc 1:X 1:V b:X 1:V f:X 1:V 7:X 1:V 2:X 3:V",
  "34:X c:V 137:X 9:V 16:X a:V 8:X 18:V 1:2d0 1:2d1 1:e6 1:299 1:253 1:X 1:2a3 1:ab66 1:2a5",
  "1:2a4 1:256 1:257 1:1d91 1:258 1:25e 1:2a9 1:264 1:262 1:260 1:29b 1:127 1:29c 1:267 1:284",
  "1:2aa 1:2ab 1:26c 1:1df04 1:a78e 1:26e 1:1df05 1:28e 1:1df06 1:f8 1:276 1:277 1:71 1:27a",
  "1:1df08 1:27d 1:27e 1:280 1:2a8 1:2a6 1:ab67 1:2a7 1:288 1:2c71 1:X 1:28f 1:2a1 1:2a2 1:298",
  "1:1c0 1:1c1 1:1c2 1:1df0a 1:1df1e 1:X 45:V 6:X 2:V 1:X 1:V 2c:X 1:V 2:X 3:V 1:X 2:V 17:X 1:V",
  "48:X 8:V 9:X 30:V 13:X 1:V 2:X 5:V 21:X 3:V 1b:X 5:V 1b:X 26:V 38:X 4:V 14:X 2:V 32:X 1:V",
  "2:X 5:V 8:X 1:V 3:X 1:V 1d:X 2:V 3:X 4:V a:X 7:V 9:X 7:V 40:X 20:V 27:X 4:V c:X 9:V 36:X 3:V",
  "1d:X 2:V 1b:X 5:V 1a:X 7:V 4:X c:V 7:X 50:V 49:X 37:10cc0 1:10cc1 1:10cc2 1:10cc3 1:10cc4",
  "1:10cc5 1:10cc6 1:10cc7 1:10cc8 1:10cc9 1:10cca 1:10ccb 1:10ccc 1:10ccd 1:10cce 1:10ccf",
  "1:10cd0 1:10cd1 1:10cd2 1:10cd3 1:10cd4 1:10cd5 1:10cd6 1:10cd7 1:10cd8 1:10cd9 1:10cda",
  "1:10cdb 1:10cdc 1:10cdd 1:10cde 1:10cdf 1:10ce0 1:10ce1 1:10ce2 1:10ce3 1:10ce4 1:10ce5",
  "1:10ce6 1:10ce7 1:10ce8 1:10ce9 1:10cea 1:10ceb 1:10cec 1:10ced 1:10cee 1:10cef 1:10cf0",
  "1:10cf1 1:10cf2 1:X d:V 33:X 7:V 2e:X 8:V a:X 6:V 10:10d70 1:10d71 1:10d72 1:10d73 1:10d74",
  "1:10d75 1:10d76 1:10d77 1:10d78 1:10d79 1:10d7a 1:10d7b 1:10d7c 1:10d7d 1:10d7e 1:10d7f",
  "1:10d80 1:10d81 1:10d82 1:10d83 1:10d84 1:10d85 1:X 3:V 1d:X 8:V 2:X d0:V 1f:X 1:V 2a:X 1:V",
  "3:X 2:V 2:X 10:V 6:X 8:V 9:X 21:V 2e:X 8:V 2a:X 16:V 1a:X 26:V 1c:X 14:V 17:X 9:V 4e:X 4:V",
  "24:X 9:V 3e:X 1:V 5:X d:V 19:X 7:V a:X 6:V 35:X 1:V 12:X 8:V 27:X 9:V 60:X 1:V 14:X b:V 12:X",
  "1:V 2f:X 3e:V 7:X 1:V 1:X 1:V 4:X 1:V f:X 1:V b:X 6:V 3b:X 5:V a:X 6:V 4:X 1:V 8:X 2:V 2:X",
  "2:V 16:X 1:V 7:X 1:V 2:X 1:V 5:X 1:V a:X 2:V 2:X 2:V 3:X 2:V 1:X 6:V 1:X 5:V 7:X 2:V 7:X 3:V",
  "5:X b:V a:X 1:V 1:X 2:V 1:X 1:V 26:X 1:V a:X 1:V 1:X 2:V 1:X 1:V 4:X 1:V a:X 1:V 2:X 8:V 2:X",
  "1d:V 5c:X 1:V 5:X 1e:V 48:X 8:V a:X a6:V 36:X 2:V 26:X 22:V 45:X b:V a:X 6:V d:X 13:V 3a:X",
  "6:V a:X 6:V 14:X 1c:V 1b:X 2:V f:X 4:V 17:X b9:V 3c:X 64:118c0 1:118c1 1:118c2 1:118c3",
  "1:118c4 1:118c5 1:118c6 1:118c7 1:118c8 1:118c9 1:118ca 1:118cb 1:118cc 1:118cd 1:118ce",
  "1:118cf 1:118d0 1:118d1 1:118d2 1:118d3 1:118d4 1:118d5 1:118d6 1:118d7 1:118d8 1:118d9",
  "1:118da 1:118db 1:118dc 1:118dd 1:118de 1:118df 1:V 33:X c:V 8:X 2:V 1:X 2:V 8:X 1:V 2:X 1:V",
  "1e:X 1:V 2:X 2:V c:X 9:V a:X 46:V 8:X 2:V 2e:X 2:V b:X 1b:V 48:X 8:V 53:X d:V 49:X 7:V a:X",
  "56:V 8:X 58:V 22:X e:V a:X 6:V 9:X 1:V 2d:X 1:V e:X a:V 1d:X 3:V 20:X 2:V 16:X 1:V e:X 49:V",
  "7:X 1:V 2:X 1:V 2c:X 3:V 1:X 1:V 2:X 1:V 9:X 8:V a:X 6:V 6:X 1:V 2:X 1:V 25:X 1:V 2:X 1:V",
  "6:X 7:V a:X 6:V 2c:X 4:V a:X f6:V 19:X 7:V 11:X 1:V 29:X 3:V 1d:X 55:V 1:X f:V 32:X d:V",
  "39b:X 66:V 6f:X 1:V 5:X b:V c4:X a4c:V 63:X d:V 430:X 10:V 16:X a:V f9b:X 5:V 247:X 1ab9:V",
  "3a:X 6c6:V 239:X 7:V 1f:X 1:V a:X 4:V 51:X 1:V a:X 6:V 1e:X 2:V 6:X a:V 46:X a:V a:X 1:V 7:X",
  "1:V 15:X 5:V 13:X 1b0:V 3a:X c6:16e60 1:16e61 1:16e62 1:16e63 1:16e64 1:16e65 1:16e66",
  "1:16e67 1:16e68 1:16e69 1:16e6a 1:16e6b 1:16e6c 1:16e6d 1:16e6e 1:16e6f 1:16e70 1:16e71",
  "1:16e72 1:16e73 1:16e74 1:16e75 1:16e76 1:16e77 1:16e78 1:16e79 1:16e7a 1:16e7b 1:16e7c",
  "1:16e7d 1:16e7e 1:16e7f 1:V 3b:X 5:16ebb 1:16ebc 1:16ebd 1:16ebe 1:16ebf 1:16ec0 1:16ec1",
  "1:16ec2 1:16ec3 1:16ec4 1:16ec5 1:16ec6 1:16ec7 1:16ec8 1:16ec9 1:16eca 1:16ecb 1:16ecc",
  "1:16ecd 1:16ece 1:16ecf 1:16ed0 1:16ed1 1:16ed2 1:16ed3 1:X 2:V 19:X 2c:V 4b:X 4:V 39:X 7:V",
  "11:X 40:V 5:X b:V 7:X 9:V 1cd6:X 29:V 20:X 61:V 73:X 21fd:V 4:X 1:V 7:X 1:V 2:X 1:V 123:X",
  "f:V 1:X 1d:V 3:X 2:V 1:X e:V 4:X 8:V 18c:X 904:V 6b:X 5:V d:X 3:V 9:X 7:V a:X 2:V 4: 4:X",
  "f5c:V d6:61 1:62 1:63 1:64 1:65 1:66 1:67 1:68 1:69 1:6a 1:6b 1:6c 1:6d 1:6e 1:6f 1:70 1:71",
  "1:72 1:73 1:74 1:75 1:76 1:77 1:78 1:79 1:7a 1:30 1:31 1:32 1:33 1:34 1:35 1:36 1:37 1:38",
  "1:39 1:V 3:X 3:V 1b4:X 6:V 17:X f:V 11:X f:V 2e:X 2:V 17:X 9:V 74:X 3c:V f6:X a:V 27:X 2:V",
  "35:1d157.1d165 1:1d158.1d165 1:1d158.1d165.1d16e 1:1d158.1d165.1d16f 1:1d158.1d165.1d170",
  "1:1d158.1d165.1d171 1:1d158.1d165.1d172 1:V e: 8:V 40:1d1b9.1d165 1:1d1ba.1d165",
  "1:1d1b9.1d165.1d16e 1:1d1ba.1d165.1d16e 1:1d1b9.1d165.1d16f 1:1d1ba.1d165.1d16f 1:V 2a:X",
  "15:V 46:X 7a:V 14:X c:V 14:X c:V 57:X 9:V 19:X 87:61 1:62 1:63 1:64 1:65 1:66 1:67 1:68 1:69",
  "1:6a 1:6b 1:6c 1:6d 1:6e 1:6f 1:70 1:71 1:72 1:73 1:74 1:75 1:76 1:77 1:78 1:79 1:7a 1:61",
  "1:62 1:63 1:64 1:65 1:66 1:67 1:68 1:69 1:6a 1:6b 1:6c 1:6d 1:6e 1:6f 1:70 1:71 1:72 1:73",
  "1:74 1:75 1:76 1:77 1:78 1:79 1:7a 1:61 1:62 1:63 1:64 1:65 1:66 1:67 1:68 1:69 1:6a 1:6b",
  "1:6c 1:6d 1:6e 1:6f 1:70 1:71 1:72 1:73 1:74 1:75 1:76 1:77 1:78 1:79 1:7a 1:61 1:62 1:63",
  "1:64 1:65 1:66 1:67 1:X 1:69 1:6a 1:6b 1:6c 1:6d 1:6e 1:6f 1:70 1:71 1:72 1:73 1:74 1:75",
  "1:76 1:77 1:78 1:79 1:7a 1:61 1:62 1:63 1:64 1:65 1:66 1:67 1:68 1:69 1:6a 1:6b 1:6c 1:6d",
  "1:6e 1:6f 1:70 1:71 1:72 1:73 1:74 1:75 1:76 1:77 1:78 1:79 1:7a 1:61 1:62 1:63 1:64 1:65",
  "1:66 1:67 1:68 1:69 1:6a 1:6b 1:6c 1:6d 1:6e 1:6f 1:70 1:71 1:72 1:73 1:74 1:75 1:76 1:77",
  "1:78 1:79 1:7a 1:61 1:X 1:63 1:64 1:X 2:67 1:X 2:6a 1:6b 1:X 2:6e 1:6f 1:70 1:71 1:X 1:73",
  "1:74 1:75 1:76 1:77 1:78 1:79 1:7a 1:61 1:62 1:63 1:64 1:X 1:66 1:X 1:68 1:69 1:6a 1:6b 1:6c",
  "1:6d 1:6e 1:X 1:70 1:71 1:72 1:73 1:74 1:75 1:76 1:77 1:78 1:79 1:7a 1:61 1:62 1:63 1:64",
  "1:65 1:66 1:67 1:68 1:69 1:6a 1:6b 1:6c 1:6d 1:6e 1:6f 1:70 1:71 1:72 1:73 1:74 1:75 1:76",
  "1:77 1:78 1:79 1:7a 1:61 1:62 1:63 1:64 1:65 1:66 1:67 1:68 1:69 1:6a 1:6b 1:6c 1:6d 1:6e",
  "1:6f 1:70 1:71 1:72 1:73 1:74 1:75 1:76 1:77 1:78 1:79 1:7a 1:61 1:62 1:X 1:64 1:65 1:66",
  "1:67 1:X 2:6a 1:6b 1:6c 1:6d 1:6e 1:6f 1:70 1:71 1:X 1:73 1:74 1:75 1:76 1:77 1:78 1:79 1:X",
  "1:61 1:62 1:63 1:64 1:65 1:66 1:67 1:68 1:69 1:6a 1:6b 1:6c 1:6d 1:6e 1:6f 1:70 1:71 1:72",
  "1:73 1:74 1:75 1:76 1:77 1:78 1:79 1:7a 1:61 1:62 1:X 1:64 1:65 1:66 1:67 1:X 1:69 1:6a 1:6b",
  "1:6c 1:6d 1:X 1:6f 1:X 3:73 1:74 1:75 1:76 1:77 1:78 1:79 1:X 1:61 1:62 1:63 1:64 1:65 1:66",
  "1:67 1:68 1:69 1:6a 1:6b 1:6c 1:6d 1:6e 1:6f 1:70 1:71 1:72 1:73 1:74 1:75 1:76 1:77 1:78",
  "1:79 1:7a 1:61 1:62 1:63 1:64 1:65 1:66 1:67 1:68 1:69 1:6a 1:6b 1:6c 1:6d 1:6e 1:6f 1:70",
  "1:71 1:72 1:73 1:74 1:75 1:76 1:77 1:78 1:79 1:7a 1:61 1:62 1:63 1:64 1:65 1:66 1:67 1:68",
  "1:69 1:6a 1:6b 1:6c 1:6d 1:6e 1:6f 1:70 1:71 1:72 1:73 1:74 1:75 1:76 1:77 1:78 1:79 1:7a",
  "1:61 1:62 1:63 1:64 1:65 1:66 1:67 1:68 1:69 1:6a 1:6b 1:6c 1:6d 1:6e 1:6f 1:70 1:71 1:72",
  "1:73 1:74 1:75 1:76 1:77 1:78 1:79 1:7a 1:61 1:62 1:63 1:64 1:65 1:66 1:67 1:68 1:69 1:6a",
  "1:6b 1:6c 1:6d 1:6e 1:6f 1:70 1:71 1:72 1:73 1:74 1:75 1:76 1:77 1:78 1:79 1:7a 1:61 1:62",
  "1:63 1:64 1:65 1:66 1:67 1:68 1:69 1:6a 1:6b 1:6c 1:6d 1:6e 1:6f 1:70 1:71 1:72 1:73 1:74",
  "1:75 1:76 1:77 1:78 1:79 1:7a 1:61 1:62 1:63 1:64 1:65 1:66 1:67 1:68 1:69 1:6a 1:6b 1:6c",
  "1:6d 1:6e 1:6f 1:70 1:71 1:72 1:73 1:74 1:75 1:76 1:77 1:78 1:79 1:7a 1:61 1:62 1:63 1:64",
  "1:65 1:66 1:67 1:68 1:69 1:6a 1:6b 1:6c 1:6d 1:6e 1:6f 1:70 1:71 1:72 1:73 1:74 1:75 1:76",
  "1:77 1:78 1:79 1:7a 1:61 1:62 1:63 1:64 1:65 1:66 1:67 1:68 1:69 1:6a 1:6b 1:6c 1:6d 1:6e",
  "1:6f 1:70 1:71 1:72 1:73 1:74 1:75 1:76 1:77 1:78 1:79 1:7a 1:61 1:62 1:63 1:64 1:65 1:66",
  "1:67 1:68 1:69 1:6a 1:6b 1:6c 1:6d 1:6e 1:6f 1:70 1:71 1:72 1:73 1:74 1:75 1:76 1:77 1:78",
  "1:79 1:7a 1:61 1:62 1:63 1:64 1:65 1:66 1:67 1:68 1:69 1:6a 1:6b 1:6c 1:6d 1:6e 1:6f 1:70",
  "1:71 1:72 1:73 1:74 1:75 1:76 1:77 1:78 1:79 1:7a 1:61 1:62 1:63 1:64 1:65 1:66 1:67 1:68",
  "1:69 1:6a 1:6b 1:6c 1:6d 1:6e 1:6f 1:70 1:71 1:72 1:73 1:74 1:75 1:76 1:77 1:78 1:79 1:7a",
  "1:61 1:62 1:63 1:64 1:65 1:66 1:67 1:68 1:69 1:6a 1:6b 1:6c 1:6d 1:6e 1:6f 1:70 1:71 1:72",
  "1:73 1:74 1:75 1:76 1:77 1:78 1:79 1:7a 1:131 1:237 1:X 2:3b1 1:3b2 1:3b3 1:3b4 1:3b5 1:3b6",
  "1:3b7 1:3b8 1:3b9 1:3ba 1:3bb 1:3bc 1:3bd 1:3be 1:3bf 1:3c0 1:3c1 1:3b8 1:3c3 1:3c4 1:3c5",
  "1:3c6 1:3c7 1:3c8 1:3c9 1:2207 1:3b1 1:3b2 1:3b3 1:3b4 1:3b5 1:3b6 1:3b7 1:3b8 1:3b9 1:3ba",
  "1:3bb 1:3bc 1:3bd 1:3be 1:3bf 1:3c0 1:3c1 1:3c3 2:3c4 1:3c5 1:3c6 1:3c7 1:3c8 1:3c9 1:2202",
  "1:3b5 1:3b8 1:3ba 1:3c6 1:3c1 1:3c0 1:3b1 1:3b2 1:3b3 1:3b4 1:3b5 1:3b6 1:3b7 1:3b8 1:3b9",
  "1:3ba 1:3bb 1:3bc 1:3bd 1:3be 1:3bf 1:3c0 1:3c1 1:3b8 1:3c3 1:3c4 1:3c5 1:3c6 1:3c7 1:3c8",
  "1:3c9 1:2207 1:3b1 1:3b2 1:3b3 1:3b4 1:3b5 1:3b6 1:3b7 1:3b8 1:3b9 1:3ba 1:3bb 1:3bc 1:3bd",
  "1:3be 1:3bf 1:3c0 1:3c1 1:3c3 2:3c4 1:3c5 1:3c6 1:3c7 1:3c8 1:3c9 1:2202 1:3b5 1:3b8 1:3ba",
  "1:3c6 1:3c1 1:3c0 1:3b1 1:3b2 1:3b3 1:3b4 1:3b5 1:3b6 1:3b7 1:3b8 1:3b9 1:3ba 1:3bb 1:3bc",
  "1:3bd 1:3be 1:3bf 1:3c0 1:3c1 1:3b8 1:3c3 1:3c4 1:3c5 1:3c6 1:3c7 1:3c8 1:3c9 1:2207 1:3b1",
  "1:3b2 1:3b3 1:3b4 1:3b5 1:3b6 1:3b7 1:3b8 1:3b9 1:3ba 1:3bb 1:3bc 1:3bd 1:3be 1:3bf 1:3c0",
  "1:3c1 1:3c3 2:3c4 1:3c5 1:3c6 1:3c7 1:3c8 1:3c9 1:2202 1:3b5 1:3b8 1:3ba 1:3c6 1:3c1 1:3c0",
  "1:3b1 1:3b2 1:3b3 1:3b4 1:3b5 1:3b6 1:3b7 1:3b8 1:3b9 1:3ba 1:3bb 1:3bc 1:3bd 1:3be 1:3bf",
  "1:3c0 1:3c1 1:3b8 1:3c3 1:3c4 1:3c5 1:3c6 1:3c7 1:3c8 1:3c9 1:2207 1:3b1 1:3b2 1:3b3 1:3b4",
  "1:3b5 1:3b6 1:3b7 1:3b8 1:3b9 1:3ba 1:3bb 1:3bc 1:3bd 1:3be 1:3bf 1:3c0 1:3c1 1:3c3 2:3c4",
  "1:3c5 1:3c6 1:3c7 1:3c8 1:3c9 1:2202 1:3b5 1:3b8 1:3ba 1:3c6 1:3c1 1:3c0 1:3b1 1:3b2 1:3b3",
  "1:3b4 1:3b5 1:3b6 1:3b7 1:3b8 1:3b9 1:3ba 1:3bb 1:3bc 1:3bd 1:3be 1:3bf 1:3c0 1:3c1 1:3b8",
  "1:3c3 1:3c4 1:3c5 1:3c6 1:3c7 1:3c8 1:3c9 1:2207 1:3b1 1:3b2 1:3b3 1:3b4 1:3b5 1:3b6 1:3b7",
  "1:3b8 1:3b9 1:3ba 1:3bb 1:3bc 1:3bd 1:3be 1:3bf 1:3c0 1:3c1 1:3c3 2:3c4 1:3c5 1:3c6 1:3c7",
  "1:3c8 1:3c9 1:2202 1:3b5 1:3b8 1:3ba 1:3c6 1:3c1 1:3c0 1:3dd 2:X 2:30 1:31 1:32 1:33 1:34",
  "1:35 1:36 1:37 1:38 1:39 1:30 1:31 1:32 1:33 1:34 1:35 1:36 1:37 1:38 1:39 1:30 1:31 1:32",
  "1:33 1:34 1:35 1:36 1:37 1:38 1:39 1:30 1:31 1:32 1:33 1:34 1:35 1:36 1:37 1:38 1:39 1:30",
  "1:31 1:32 1:33 1:34 1:35 1:36 1:37 1:38 1:39 1:V 28c:X f:V 5:X 1:V f:X 450:V 1f:X 6:V 6:X",
  "d5:V 7:X 1:V 11:X 2:V 7:X 1:V 2:X 1:V 5:X 5:430 1:431 1:432 1:433 1:434 1:435 1:436 1:437",
  "1:438 1:43a 1:43b 1:43c 1:43e 1:43f 1:440 1:441 1:442 1:443 1:444 1:445 1:446 1:447 1:448",
  "1:44b 1:44d 1:44e 1:a689 1:4d9 1:456 1:458 1:4e9 1:4af 1:4cf 1:430 1:431 1:432 1:433 1:434",
  "1:435 1:436 1:437 1:438 1:43a 1:43b 1:43e 1:43f 1:441 1:443 1:444 1:445 1:446 1:447 1:448",
  "1:44a 1:44b 1:491 1:456 1:455 1:45f 1:4ab 1:a651 1:4b1 1:X 21:V 1:X 70:V 2d:X 3:V e:X 2:V",
  "a:X 4:V 2:X 140:V 1f:X 11:V 3a:X 5:V 1:X 1d0:V 2a:X d6:V 2b:X 4:V 1:X c0:V 1f:X 1:V 16:X 8:V",
  "2:X e0:V 7:X 1:V 4:X 1:V 2:X 1:V f:X 1:V c5:X 2:V 10:X 29:1e922 1:1e923 1:1e924 1:1e925",
  "1:1e926 1:1e927 1:1e928 1:1e929 1:1e92a 1:1e92b 1:1e92c 1:1e92d 1:1e92e 1:1e92f 1:1e930",
  "1:1e931 1:1e932 1:1e933 1:1e934 1:1e935 1:1e936 1:1e937 1:1e938 1:1e939 1:1e93a 1:1e93b",
  "1:1e93c 1:1e93d 1:1e93e 1:1e93f 1:1e940 1:1e941 1:1e942 1:1e943 1:V 2a:X 4:V a:X 4:V 2:X",
  "311:V 44:X 4c:V 3d:X c2:627 1:628 1:62c 1:62f 1:X 1:648 1:632 1:62d 1:637 1:64a 1:643 1:644",
  "1:645 1:646 1:633 1:639 1:641 1:635 1:642 1:631 1:634 1:62a 1:62b 1:62e 1:630 1:636 1:638",
  "1:63a 1:66e 1:6ba 1:6a1 1:66f 1:X 1:628 1:62c 1:X 1:647 1:X 2:62d 1:X 1:64a 1:643 1:644",
  "1:645 1:646 1:633 1:639 1:641 1:635 1:642 1:X 1:634 1:62a 1:62b 1:62e 1:X 1:636 1:X 1:63a",
  "1:X 6:62c 1:X 4:62d 1:X 1:64a 1:X 1:644 1:X 1:646 1:633 1:639 1:X 1:635 1:642 1:X 1:634 1:X",
  "2:62e 1:X 1:636 1:X 1:63a 1:X 1:6ba 1:X 1:66f 1:X 1:628 1:62c 1:X 1:647 1:X 2:62d 1:637",
  "1:64a 1:643 1:X 1:645 1:646 1:633 1:639 1:641 1:635 1:642 1:X 1:634 1:62a 1:62b 1:62e 1:X",
  "1:636 1:638 1:63a 1:66e 1:X 1:6a1 1:X 1:627 1:628 1:62c 1:62f 1:647 1:648 1:632 1:62d 1:637",
  "1:64a 1:X 1:644 1:645 1:646 1:633 1:639 1:641 1:635 1:642 1:631 1:634 1:62a 1:62b 1:62e",
  "1:630 1:636 1:638 1:63a 1:X 5:628 1:62c 1:62f 1:X 1:648 1:632 1:62d 1:637 1:64a 1:X 1:644",
  "1:645 1:646 1:633 1:639 1:641 1:635 1:642 1:631 1:634 1:62a 1:62b 1:62e 1:630 1:636 1:638",
  "1:63a 1:X 34:V 2:X 10e:V 2c:X 4:V 64:X c:V f:X 2:V f:X 1:V f:X 1:V 25:X b:30.2c 1:31.2c",
  "1:32.2c 1:33.2c 1:34.2c 1:35.2c 1:36.2c 1:37.2c 1:38.2c 1:39.2c 1:V 5:28.61.29 1:28.62.29",
  "1:28.63.29 1:28.64.29 1:28.65.29 1:28.66.29 1:28.67.29 1:28.68.29 1:28.69.29 1:28.6a.29",
  "1:28.6b.29 1:28.6c.29 1:28.6d.29 1:28.6e.29 1:28.6f.29 1:28.70.29 1:28.71.29 1:28.72.29",
  "1:28.73.29 1:28.74.29 1:28.75.29 1:28.76.29 1:28.77.29 1:28.78.29 1:28.79.29 1:28.7a.29",
  "1:3014.73.3015 1:63 1:72 1:63.64 1:77.7a 1:V 1:61 1:62 1:63 1:64 1:65 1:66 1:67 1:68 1:69",
  "1:6a 1:6b 1:6c 1:6d 1:6e 1:6f 1:70 1:71 1:72 1:73 1:74 1:75 1:76 1:77 1:78 1:79 1:7a 1:68.76",
  "1:6d.76 1:73.64 1:73.73 1:70.70.76 1:77.63 1:V 1a:6d.63 1:6d.64 1:6d.72 1:V 23:64.6a 1:V",
  "1d:X 38:V 1a:307b.304b 1:30b3.30b3 1:30b5 1:X d:624b 1:5b57 1:53cc 1:30c7 1:4e8c 1:591a",
  "1:89e3 1:5929 1:4ea4 1:6620 1:7121 1:6599 1:524d 1:5f8c 1:518d 1:65b0 1:521d 1:7d42 1:751f",
  "1:8ca9 1:58f0 1:5439 1:6f14 1:6295 1:6355 1:4e00 1:4e09 1:904a 1:5de6 1:4e2d 1:53f3 1:6307",
  "1:8d70 1:6253 1:7981 1:7a7a 1:5408 1:6e80 1:6709 1:6708 1:7533 1:5272 1:55b6 1:914d 1:X",
  "4:3014.672c.3015 1:3014.4e09.3015 1:3014.4e8c.3015 1:3014.5b89.3015 1:3014.70b9.3015",
  "1:3014.6253.3015 1:3014.76d7.3015 1:3014.52dd.3015 1:3014.6557.3015 1:X 7:5f97 1:53ef 1:X",
  "e:V 6:X 9a:V 3d9:X 3:V 11:X 3:V d:X 3:V da:X 6:V c:X 4:V 1:X f:V c:X 4:V 38:X 8:V a:X 6:V",
  "28:X 8:V 1e:X 2:V c:X 4:V 2:X e:V 9:X 27:V 158:X 8:V e:X 2:V d:X 3:V b:X 3:V 39:X 1:V 1:X",
  "4:V 10:X 2:V c:X 4:V a:X 7:V 93:X 1:V 5c:30 1:31 1:32 1:33 1:34 1:35 1:36 1:37 1:38 1:39 1:V",
  "1:X 405:V a6e0:X 20:V 111e:X 2:V 168e:X 2:V 1d31:X f:V 26e:X 9a2:4e3d 1:4e38 1:4e41 1:20122",
  "1:4f60 1:4fae 1:4fbb 1:5002 1:507a 1:5099 1:50e7 1:50cf 1:349e 1:2063a 1:514d 1:5154 1:5164",
  "1:5177 1:2051c 1:34b9 1:5167 1:518d 1:2054b 1:5197 1:51a4 1:4ecc 1:51ac 1:51b5 1:291df",
  "1:51f5 1:5203 1:34df 1:523b 1:5246 1:5272 1:5277 1:3515 1:52c7 1:52c9 1:52e4 1:52fa 1:5305",
  "1:5306 1:5317 1:5349 1:5351 1:535a 1:5373 1:537d 1:537f 3:20a2c 1:7070 1:53ca 1:53df 1:20b63",
  "1:53eb 1:53f1 1:5406 1:549e 1:5438 1:5448 1:5468 1:54a2 1:54f6 1:5510 1:5553 1:5563 1:5584",
  "2:5599 1:55ab 1:55b3 1:55c2 1:5716 1:5606 1:5717 1:5651 1:5674 1:5207 1:58ee 1:57ce 1:57f4",
  "1:580d 1:578b 1:5832 1:5831 1:58ac 1:214e4 1:58f2 1:58f7 1:5906 1:591a 1:5922 1:5962 1:216a8",
  "1:216ea 1:59ec 1:5a1b 1:5a27 1:59d8 1:5a66 1:36ee 1:36fc 1:5b08 1:5b3e 2:219c8 1:5bc3 1:5bd8",
  "1:5be7 1:5bf3 1:21b18 1:5bff 1:5c06 1:5f53 1:5c22 1:3781 1:5c60 1:5c6e 1:5cc0 1:5c8d 1:21de4",
  "1:5d43 1:21de6 1:5d6e 1:5d6b 1:5d7c 1:5de1 1:5de2 1:382f 1:5dfd 1:5e28 1:5e3d 1:5e69 1:3862",
  "1:22183 1:387c 1:5eb0 1:5eb3 1:5eb6 1:5eca 1:2a392 1:5efe 1:22331 2:8201 1:5f22 2:38c7",
  "1:232b8 1:261da 1:5f62 1:5f6b 1:38e3 1:5f9a 1:5fcd 1:5fd7 1:5ff9 1:6081 1:393a 1:391c 1:6094",
  "1:226d4 1:60c7 1:6148 1:614c 1:614e 1:614c 1:617a 1:618e 1:61b2 1:61a4 1:61af 1:61de 1:61f2",
  "1:61f6 1:6210 1:621b 1:625d 1:62b1 1:62d4 1:6350 1:22b0c 1:633d 1:62fc 1:6368 1:6383 1:63e4",
  "1:22bf1 1:6422 1:63c5 1:63a9 1:3a2e 1:6469 1:647e 1:649d 1:6477 1:3a6c 1:654f 1:656c 1:2300a",
  "1:65e3 1:66f8 1:6649 1:3b19 1:6691 1:3b08 1:3ae4 1:5192 1:5195 1:6700 1:669c 1:80ad 1:43d9",
  "1:6717 1:671b 1:6721 1:675e 1:6753 1:233c3 1:3b49 1:67fa 1:6785 1:6852 1:6885 1:2346d 1:688e",
  "1:681f 1:6914 1:3b9d 1:6942 1:69a3 1:69ea 1:6aa8 1:236a3 1:6adb 1:3c18 1:6b21 1:238a7 1:6b54",
  "1:3c4e 1:6b72 1:6b9f 1:6bba 1:6bbb 1:23a8d 1:21d0b 1:23afa 1:6c4e 1:23cbc 1:6cbf 1:6ccd",
  "1:6c67 1:6d16 1:6d3e 1:6d77 1:6d41 1:6d69 1:6d78 1:6d85 1:23d1e 1:6d34 1:6e2f 1:6e6e 1:3d33",
  "1:6ecb 1:6ec7 1:23ed1 1:6df9 1:6f6e 1:23f5e 1:23f8e 1:6fc6 1:7039 1:701e 1:701b 1:3d96",
  "1:704a 1:707d 1:7077 1:70ad 1:20525 1:7145 1:24263 1:719c 1:243ab 1:7228 1:7235 1:7250",
  "1:24608 1:7280 1:7295 1:24735 1:24814 1:737a 1:738b 1:3eac 1:73a5 1:3eb8 2:7447 1:745c",
  "1:7471 1:7485 1:74ca 1:3f1b 1:7524 1:24c36 1:753e 1:24c92 1:7570 1:2219f 1:7610 1:24fa1",
  "1:24fb8 1:25044 1:3ffc 1:4008 1:76f4 1:250f3 1:250f2 1:25119 1:25133 1:771e 1:771f 2:774a",
  "1:4039 1:778b 1:4046 1:4096 1:2541d 1:784e 1:788c 1:78cc 1:40e3 1:25626 1:7956 1:2569a",
  "1:256c5 1:798f 1:79eb 1:412f 1:7a40 1:7a4a 1:7a4f 1:2597c 1:25aa7 2:7aee 1:4202 1:25bab",
  "1:7bc6 1:7bc9 1:4227 1:25c80 1:7cd2 1:42a0 1:7ce8 1:7ce3 1:7d00 1:25f86 1:7d63 1:4301 1:7dc7",
  "1:7e02 1:7e45 1:4334 1:26228 1:26247 1:4359 1:262d9 1:7f7a 1:2633e 1:7f95 1:7ffa 1:8005",
  "1:264da 1:26523 1:8060 1:265a8 1:8070 1:2335f 1:43d5 1:80b2 1:8103 1:440b 1:813e 1:5ab5",
  "1:267a7 1:267b5 1:23393 1:2339c 1:8201 1:8204 1:8f9e 1:446b 1:8291 1:828b 1:829d 1:52b3",
  "1:82b1 1:82b3 1:82bd 1:82e6 1:26b3c 1:82e5 1:831d 1:8363 1:83ad 1:8323 1:83bd 1:83e7 1:8457",
  "1:8353 1:83ca 1:83cc 1:83dc 1:26c36 1:26d6b 1:26cd5 1:452b 1:84f1 1:84f3 1:8516 1:273ca",
  "1:8564 1:26f2c 1:455d 1:4561 1:26fb1 1:270d2 1:456b 1:8650 1:865c 1:8667 1:8669 1:86a9",
  "1:8688 1:870e 1:86e2 1:8779 1:8728 1:876b 1:8786 1:45d7 1:87e1 1:8801 1:45f9 1:8860 1:8863",
  "1:27667 1:88d7 1:88de 1:4635 1:88fa 1:34bb 1:278ae 1:27966 1:46be 1:46c7 1:8aa0 1:8aed",
  "1:8b8a 1:8c55 1:27ca8 1:8cab 1:8cc1 1:8d1b 1:8d77 1:27f2f 1:20804 1:8dcb 1:8dbc 1:8df0",
  "1:208de 1:8ed4 1:8f38 1:285d2 1:285ed 1:9094 1:90f1 1:9111 1:2872e 1:911b 1:9238 1:92d7",
  "1:92d8 1:927c 1:93f9 1:9415 1:28bfa 1:958b 1:4995 1:95b7 1:28d77 1:49e6 1:96c3 1:5db2 1:9723",
  "1:29145 1:2921a 1:4a6e 1:4a76 1:97e0 1:2940a 1:4ab2 1:29496 1:980b 2:9829 1:295b6 1:98e2",
  "1:4b33 1:9929 1:99a7 1:99c2 1:99fe 1:4bce 1:29b30 1:9b12 1:9c40 1:9cfd 1:4cce 1:4ced 1:9d67",
  "1:2a0ce 1:4cf8 1:2a105 1:2a20e 1:2a291 1:9ebb 1:4d56 1:9ef9 1:9efe 1:9f05 1:9f0f 1:9f16",
  "1:9f3b 1:2a600 1:X 5e2:V 134b:X 5:V 212a:X acc86: f0:X"]

end Jukebox.Url
