import PipelineEditor.Text.Table

/-!
The mapping of characters in domain names (Unicode IDNA Compatibility Processing, version 17.0).

Each character of a domain name is valid and stays, is mapped to other characters (capitals to
small letters, compatibility forms to their plain forms), is ignored and dropped, or is
disallowed. Deviation characters (sharp s, final sigma, and the zero-width joiner and non-joiner)
stay, and the ASCII characters that the stricter host name rules refuse are valid here.
-/

namespace PipelineEditor

namespace Idna

/-- What becomes of a character in a domain name. -/
inductive Status where
  | valid
  | mapped (target : List Nat)
  | ignored
  | disallowed
  deriving BEq, Inhabited, Repr

/-- The rows of the mapping: the first code point of a run, its status (0 valid, 1 mapped, 2 ignored, 3 disallowed) and, for a mapped run, the code points every character of the run is mapped to. -/
def mapText : String :=
  String.join [
    "0:0 41:1:61 42:1:62 43:1:63 44:1:64 45:1:65 46:1:66 47:1:67 48:1:68 49:1:69 4A:1:6A 4B:1:6B ",
    "4C:1:6C 4D:1:6D 4E:1:6E 4F:1:6F 50:1:70 51:1:71 52:1:72 53:1:73 54:1:74 55:1:75 56:1:76 57:1:77 ",
    "58:1:78 59:1:79 5A:1:7A 5B:0 80:3 A0:1:20 A1:0 A8:1:20.308 A9:0 AA:1:61 AB:0 AD:2 AE:0 ",
    "AF:1:20.304 B0:0 B2:1:32 B3:1:33 B4:1:20.301 B5:1:3BC B6:0 B8:1:20.327 B9:1:31 BA:1:6F BB:0 ",
    "BC:1:31.2044.34 BD:1:31.2044.32 BE:1:33.2044.34 BF:0 C0:1:E0 C1:1:E1 C2:1:E2 C3:1:E3 C4:1:E4 ",
    "C5:1:E5 C6:1:E6 C7:1:E7 C8:1:E8 C9:1:E9 CA:1:EA CB:1:EB CC:1:EC CD:1:ED CE:1:EE CF:1:EF D0:1:F0 ",
    "D1:1:F1 D2:1:F2 D3:1:F3 D4:1:F4 D5:1:F5 D6:1:F6 D7:0 D8:1:F8 D9:1:F9 DA:1:FA DB:1:FB DC:1:FC ",
    "DD:1:FD DE:1:FE DF:0 100:1:101 101:0 102:1:103 103:0 104:1:105 105:0 106:1:107 107:0 108:1:109 ",
    "109:0 10A:1:10B 10B:0 10C:1:10D 10D:0 10E:1:10F 10F:0 110:1:111 111:0 112:1:113 113:0 114:1:115 ",
    "115:0 116:1:117 117:0 118:1:119 119:0 11A:1:11B 11B:0 11C:1:11D 11D:0 11E:1:11F 11F:0 120:1:121 ",
    "121:0 122:1:123 123:0 124:1:125 125:0 126:1:127 127:0 128:1:129 129:0 12A:1:12B 12B:0 12C:1:12D ",
    "12D:0 12E:1:12F 12F:0 130:1:69.307 131:0 132:1:69.6A 134:1:135 135:0 136:1:137 137:0 139:1:13A ",
    "13A:0 13B:1:13C 13C:0 13D:1:13E 13E:0 13F:1:6C.B7 141:1:142 142:0 143:1:144 144:0 145:1:146 ",
    "146:0 147:1:148 148:0 149:1:2BC.6E 14A:1:14B 14B:0 14C:1:14D 14D:0 14E:1:14F 14F:0 150:1:151 ",
    "151:0 152:1:153 153:0 154:1:155 155:0 156:1:157 157:0 158:1:159 159:0 15A:1:15B 15B:0 15C:1:15D ",
    "15D:0 15E:1:15F 15F:0 160:1:161 161:0 162:1:163 163:0 164:1:165 165:0 166:1:167 167:0 168:1:169 ",
    "169:0 16A:1:16B 16B:0 16C:1:16D 16D:0 16E:1:16F 16F:0 170:1:171 171:0 172:1:173 173:0 174:1:175 ",
    "175:0 176:1:177 177:0 178:1:FF 179:1:17A 17A:0 17B:1:17C 17C:0 17D:1:17E 17E:0 17F:1:73 180:0 ",
    "181:1:253 182:1:183 183:0 184:1:185 185:0 186:1:254 187:1:188 188:0 189:1:256 18A:1:257 ",
    "18B:1:18C 18C:0 18E:1:1DD 18F:1:259 190:1:25B 191:1:192 192:0 193:1:260 194:1:263 195:0 ",
    "196:1:269 197:1:268 198:1:199 199:0 19C:1:26F 19D:1:272 19E:0 19F:1:275 1A0:1:1A1 1A1:0 ",
    "1A2:1:1A3 1A3:0 1A4:1:1A5 1A5:0 1A6:1:280 1A7:1:1A8 1A8:0 1A9:1:283 1AA:0 1AC:1:1AD 1AD:0 ",
    "1AE:1:288 1AF:1:1B0 1B0:0 1B1:1:28A 1B2:1:28B 1B3:1:1B4 1B4:0 1B5:1:1B6 1B6:0 1B7:1:292 ",
    "1B8:1:1B9 1B9:0 1BC:1:1BD 1BD:0 1C4:1:64.17E 1C7:1:6C.6A 1CA:1:6E.6A 1CD:1:1CE 1CE:0 1CF:1:1D0 ",
    "1D0:0 1D1:1:1D2 1D2:0 1D3:1:1D4 1D4:0 1D5:1:1D6 1D6:0 1D7:1:1D8 1D8:0 1D9:1:1DA 1DA:0 1DB:1:1DC ",
    "1DC:0 1DE:1:1DF 1DF:0 1E0:1:1E1 1E1:0 1E2:1:1E3 1E3:0 1E4:1:1E5 1E5:0 1E6:1:1E7 1E7:0 1E8:1:1E9 ",
    "1E9:0 1EA:1:1EB 1EB:0 1EC:1:1ED 1ED:0 1EE:1:1EF 1EF:0 1F1:1:64.7A 1F4:1:1F5 1F5:0 1F6:1:195 ",
    "1F7:1:1BF 1F8:1:1F9 1F9:0 1FA:1:1FB 1FB:0 1FC:1:1FD 1FD:0 1FE:1:1FF 1FF:0 200:1:201 201:0 ",
    "202:1:203 203:0 204:1:205 205:0 206:1:207 207:0 208:1:209 209:0 20A:1:20B 20B:0 20C:1:20D 20D:0 ",
    "20E:1:20F 20F:0 210:1:211 211:0 212:1:213 213:0 214:1:215 215:0 216:1:217 217:0 218:1:219 219:0 ",
    "21A:1:21B 21B:0 21C:1:21D 21D:0 21E:1:21F 21F:0 220:1:19E 221:0 222:1:223 223:0 224:1:225 225:0 ",
    "226:1:227 227:0 228:1:229 229:0 22A:1:22B 22B:0 22C:1:22D 22D:0 22E:1:22F 22F:0 230:1:231 231:0 ",
    "232:1:233 233:0 23A:1:2C65 23B:1:23C 23C:0 23D:1:19A 23E:1:2C66 23F:0 241:1:242 242:0 243:1:180 ",
    "244:1:289 245:1:28C 246:1:247 247:0 248:1:249 249:0 24A:1:24B 24B:0 24C:1:24D 24D:0 24E:1:24F ",
    "24F:0 2B0:1:68 2B1:1:266 2B2:1:6A 2B3:1:72 2B4:1:279 2B5:1:27B 2B6:1:281 2B7:1:77 2B8:1:79 2B9:0 ",
    "2D8:1:20.306 2D9:1:20.307 2DA:1:20.30A 2DB:1:20.328 2DC:1:20.303 2DD:1:20.30B 2DE:0 2E0:1:263 ",
    "2E1:1:6C 2E2:1:73 2E3:1:78 2E4:1:295 2E5:0 340:1:300 341:1:301 342:0 343:1:313 344:1:308.301 ",
    "345:1:3B9 346:0 34F:2 350:0 370:1:371 371:0 372:1:373 373:0 374:1:2B9 375:0 376:1:377 377:0 ",
    "378:3 37A:1:20.3B9 37B:0 37E:1:3B 37F:1:3F3 380:3 384:1:20.301 385:1:20.308.301 386:1:3AC ",
    "387:1:B7 388:1:3AD 389:1:3AE 38A:1:3AF 38B:3 38C:1:3CC 38D:3 38E:1:3CD 38F:1:3CE 390:0 391:1:3B1 ",
    "392:1:3B2 393:1:3B3 394:1:3B4 395:1:3B5 396:1:3B6 397:1:3B7 398:1:3B8 399:1:3B9 39A:1:3BA ",
    "39B:1:3BB 39C:1:3BC 39D:1:3BD 39E:1:3BE 39F:1:3BF 3A0:1:3C0 3A1:1:3C1 3A2:3 3A3:1:3C3 3A4:1:3C4 ",
    "3A5:1:3C5 3A6:1:3C6 3A7:1:3C7 3A8:1:3C8 3A9:1:3C9 3AA:1:3CA 3AB:1:3CB 3AC:0 3CF:1:3D7 3D0:1:3B2 ",
    "3D1:1:3B8 3D2:1:3C5 3D3:1:3CD 3D4:1:3CB 3D5:1:3C6 3D6:1:3C0 3D7:0 3D8:1:3D9 3D9:0 3DA:1:3DB ",
    "3DB:0 3DC:1:3DD 3DD:0 3DE:1:3DF 3DF:0 3E0:1:3E1 3E1:0 3E2:1:3E3 3E3:0 3E4:1:3E5 3E5:0 3E6:1:3E7 ",
    "3E7:0 3E8:1:3E9 3E9:0 3EA:1:3EB 3EB:0 3EC:1:3ED 3ED:0 3EE:1:3EF 3EF:0 3F0:1:3BA 3F1:1:3C1 ",
    "3F2:1:3C3 3F3:0 3F4:1:3B8 3F5:1:3B5 3F6:0 3F7:1:3F8 3F8:0 3F9:1:3C3 3FA:1:3FB 3FB:0 3FD:1:37B ",
    "3FE:1:37C 3FF:1:37D 400:1:450 401:1:451 402:1:452 403:1:453 404:1:454 405:1:455 406:1:456 ",
    "407:1:457 408:1:458 409:1:459 40A:1:45A 40B:1:45B 40C:1:45C 40D:1:45D 40E:1:45E 40F:1:45F ",
    "410:1:430 411:1:431 412:1:432 413:1:433 414:1:434 415:1:435 416:1:436 417:1:437 418:1:438 ",
    "419:1:439 41A:1:43A 41B:1:43B 41C:1:43C 41D:1:43D 41E:1:43E 41F:1:43F 420:1:440 421:1:441 ",
    "422:1:442 423:1:443 424:1:444 425:1:445 426:1:446 427:1:447 428:1:448 429:1:449 42A:1:44A ",
    "42B:1:44B 42C:1:44C 42D:1:44D 42E:1:44E 42F:1:44F 430:0 460:1:461 461:0 462:1:463 463:0 ",
    "464:1:465 465:0 466:1:467 467:0 468:1:469 469:0 46A:1:46B 46B:0 46C:1:46D 46D:0 46E:1:46F 46F:0 ",
    "470:1:471 471:0 472:1:473 473:0 474:1:475 475:0 476:1:477 477:0 478:1:479 479:0 47A:1:47B 47B:0 ",
    "47C:1:47D 47D:0 47E:1:47F 47F:0 480:1:481 481:0 48A:1:48B 48B:0 48C:1:48D 48D:0 48E:1:48F 48F:0 ",
    "490:1:491 491:0 492:1:493 493:0 494:1:495 495:0 496:1:497 497:0 498:1:499 499:0 49A:1:49B 49B:0 ",
    "49C:1:49D 49D:0 49E:1:49F 49F:0 4A0:1:4A1 4A1:0 4A2:1:4A3 4A3:0 4A4:1:4A5 4A5:0 4A6:1:4A7 4A7:0 ",
    "4A8:1:4A9 4A9:0 4AA:1:4AB 4AB:0 4AC:1:4AD 4AD:0 4AE:1:4AF 4AF:0 4B0:1:4B1 4B1:0 4B2:1:4B3 4B3:0 ",
    "4B4:1:4B5 4B5:0 4B6:1:4B7 4B7:0 4B8:1:4B9 4B9:0 4BA:1:4BB 4BB:0 4BC:1:4BD 4BD:0 4BE:1:4BF 4BF:0 ",
    "4C0:1:4CF 4C1:1:4C2 4C2:0 4C3:1:4C4 4C4:0 4C5:1:4C6 4C6:0 4C7:1:4C8 4C8:0 4C9:1:4CA 4CA:0 ",
    "4CB:1:4CC 4CC:0 4CD:1:4CE 4CE:0 4D0:1:4D1 4D1:0 4D2:1:4D3 4D3:0 4D4:1:4D5 4D5:0 4D6:1:4D7 4D7:0 ",
    "4D8:1:4D9 4D9:0 4DA:1:4DB 4DB:0 4DC:1:4DD 4DD:0 4DE:1:4DF 4DF:0 4E0:1:4E1 4E1:0 4E2:1:4E3 4E3:0 ",
    "4E4:1:4E5 4E5:0 4E6:1:4E7 4E7:0 4E8:1:4E9 4E9:0 4EA:1:4EB 4EB:0 4EC:1:4ED 4ED:0 4EE:1:4EF 4EF:0 ",
    "4F0:1:4F1 4F1:0 4F2:1:4F3 4F3:0 4F4:1:4F5 4F5:0 4F6:1:4F7 4F7:0 4F8:1:4F9 4F9:0 4FA:1:4FB 4FB:0 ",
    "4FC:1:4FD 4FD:0 4FE:1:4FF 4FF:0 500:1:501 501:0 502:1:503 503:0 504:1:505 505:0 506:1:507 507:0 ",
    "508:1:509 509:0 50A:1:50B 50B:0 50C:1:50D 50D:0 50E:1:50F 50F:0 510:1:511 511:0 512:1:513 513:0 ",
    "514:1:515 515:0 516:1:517 517:0 518:1:519 519:0 51A:1:51B 51B:0 51C:1:51D 51D:0 51E:1:51F 51F:0 ",
    "520:1:521 521:0 522:1:523 523:0 524:1:525 525:0 526:1:527 527:0 528:1:529 529:0 52A:1:52B 52B:0 ",
    "52C:1:52D 52D:0 52E:1:52F 52F:0 530:3 531:1:561 532:1:562 533:1:563 534:1:564 535:1:565 ",
    "536:1:566 537:1:567 538:1:568 539:1:569 53A:1:56A 53B:1:56B 53C:1:56C 53D:1:56D 53E:1:56E ",
    "53F:1:56F 540:1:570 541:1:571 542:1:572 543:1:573 544:1:574 545:1:575 546:1:576 547:1:577 ",
    "548:1:578 549:1:579 54A:1:57A 54B:1:57B 54C:1:57C 54D:1:57D 54E:1:57E 54F:1:57F 550:1:580 ",
    "551:1:581 552:1:582 553:1:583 554:1:584 555:1:585 556:1:586 557:3 559:0 587:1:565.582 588:0 ",
    "58B:3 58D:0 590:3 591:0 5C8:3 5D0:0 5EB:3 5EF:0 5F5:3 606:0 61C:3 61D:0 675:1:627.674 ",
    "676:1:648.674 677:1:6C7.674 678:1:64A.674 679:0 6DD:3 6DE:0 70E:3 710:0 74B:3 74D:0 7B2:3 7C0:0 ",
    "7FB:3 7FD:0 82E:3 830:0 83F:3 840:0 85C:3 85E:0 85F:3 860:0 86B:3 870:0 890:3 897:0 8E2:3 8E3:0 ",
    "958:1:915.93C 959:1:916.93C 95A:1:917.93C 95B:1:91C.93C 95C:1:921.93C 95D:1:922.93C ",
    "95E:1:92B.93C 95F:1:92F.93C 960:0 984:3 985:0 98D:3 98F:0 991:3 993:0 9A9:3 9AA:0 9B1:3 9B2:0 ",
    "9B3:3 9B6:0 9BA:3 9BC:0 9C5:3 9C7:0 9C9:3 9CB:0 9CF:3 9D7:0 9D8:3 9DC:1:9A1.9BC 9DD:1:9A2.9BC ",
    "9DE:3 9DF:1:9AF.9BC 9E0:0 9E4:3 9E6:0 9FF:3 A01:0 A04:3 A05:0 A0B:3 A0F:0 A11:3 A13:0 A29:3 ",
    "A2A:0 A31:3 A32:0 A33:1:A32.A3C A34:3 A35:0 A36:1:A38.A3C A37:3 A38:0 A3A:3 A3C:0 A3D:3 A3E:0 ",
    "A43:3 A47:0 A49:3 A4B:0 A4E:3 A51:0 A52:3 A59:1:A16.A3C A5A:1:A17.A3C A5B:1:A1C.A3C A5C:0 A5D:3 ",
    "A5E:1:A2B.A3C A5F:3 A66:0 A77:3 A81:0 A84:3 A85:0 A8E:3 A8F:0 A92:3 A93:0 AA9:3 AAA:0 AB1:3 ",
    "AB2:0 AB4:3 AB5:0 ABA:3 ABC:0 AC6:3 AC7:0 ACA:3 ACB:0 ACE:3 AD0:0 AD1:3 AE0:0 AE4:3 AE6:0 AF2:3 ",
    "AF9:0 B00:3 B01:0 B04:3 B05:0 B0D:3 B0F:0 B11:3 B13:0 B29:3 B2A:0 B31:3 B32:0 B34:3 B35:0 B3A:3 ",
    "B3C:0 B45:3 B47:0 B49:3 B4B:0 B4E:3 B55:0 B58:3 B5C:1:B21.B3C B5D:1:B22.B3C B5E:3 B5F:0 B64:3 ",
    "B66:0 B78:3 B82:0 B84:3 B85:0 B8B:3 B8E:0 B91:3 B92:0 B96:3 B99:0 B9B:3 B9C:0 B9D:3 B9E:0 BA0:3 ",
    "BA3:0 BA5:3 BA8:0 BAB:3 BAE:0 BBA:3 BBE:0 BC3:3 BC6:0 BC9:3 BCA:0 BCE:3 BD0:0 BD1:3 BD7:0 BD8:3 ",
    "BE6:0 BFB:3 C00:0 C0D:3 C0E:0 C11:3 C12:0 C29:3 C2A:0 C3A:3 C3C:0 C45:3 C46:0 C49:3 C4A:0 C4E:3 ",
    "C55:0 C57:3 C58:0 C5B:3 C5C:0 C5E:3 C60:0 C64:3 C66:0 C70:3 C77:0 C8D:3 C8E:0 C91:3 C92:0 CA9:3 ",
    "CAA:0 CB4:3 CB5:0 CBA:3 CBC:0 CC5:3 CC6:0 CC9:3 CCA:0 CCE:3 CD5:0 CD7:3 CDC:0 CDF:3 CE0:0 CE4:3 ",
    "CE6:0 CF0:3 CF1:0 CF4:3 D00:0 D0D:3 D0E:0 D11:3 D12:0 D45:3 D46:0 D49:3 D4A:0 D50:3 D54:0 D64:3 ",
    "D66:0 D80:3 D81:0 D84:3 D85:0 D97:3 D9A:0 DB2:3 DB3:0 DBC:3 DBD:0 DBE:3 DC0:0 DC7:3 DCA:0 DCB:3 ",
    "DCF:0 DD5:3 DD6:0 DD7:3 DD8:0 DE0:3 DE6:0 DF0:3 DF2:0 DF5:3 E01:0 E33:1:E4D.E32 E34:0 E3B:3 ",
    "E3F:0 E5C:3 E81:0 E83:3 E84:0 E85:3 E86:0 E8B:3 E8C:0 EA4:3 EA5:0 EA6:3 EA7:0 EB3:1:ECD.EB2 ",
    "EB4:0 EBE:3 EC0:0 EC5:3 EC6:0 EC7:3 EC8:0 ECF:3 ED0:0 EDA:3 EDC:1:EAB.E99 EDD:1:EAB.EA1 EDE:0 ",
    "EE0:3 F00:0 F0C:1:F0B F0D:0 F43:1:F42.FB7 F44:0 F48:3 F49:0 F4D:1:F4C.FB7 F4E:0 F52:1:F51.FB7 ",
    "F53:0 F57:1:F56.FB7 F58:0 F5C:1:F5B.FB7 F5D:0 F69:1:F40.FB5 F6A:0 F6D:3 F71:0 F73:1:F71.F72 ",
    "F74:0 F75:1:F71.F74 F76:1:FB2.F80 F77:1:FB2.F71.F80 F78:1:FB3.F80 F79:1:FB3.F71.F80 F7A:0 ",
    "F81:1:F71.F80 F82:0 F93:1:F92.FB7 F94:0 F98:3 F99:0 F9D:1:F9C.FB7 F9E:0 FA2:1:FA1.FB7 FA3:0 ",
    "FA7:1:FA6.FB7 FA8:0 FAC:1:FAB.FB7 FAD:0 FB9:1:F90.FB5 FBA:0 FBD:3 FBE:0 FCD:3 FCE:0 FDB:3 1000:0 ",
    "10A0:1:2D00 10A1:1:2D01 10A2:1:2D02 10A3:1:2D03 10A4:1:2D04 10A5:1:2D05 10A6:1:2D06 10A7:1:2D07 ",
    "10A8:1:2D08 10A9:1:2D09 10AA:1:2D0A 10AB:1:2D0B 10AC:1:2D0C 10AD:1:2D0D 10AE:1:2D0E 10AF:1:2D0F ",
    "10B0:1:2D10 10B1:1:2D11 10B2:1:2D12 10B3:1:2D13 10B4:1:2D14 10B5:1:2D15 10B6:1:2D16 10B7:1:2D17 ",
    "10B8:1:2D18 10B9:1:2D19 10BA:1:2D1A 10BB:1:2D1B 10BC:1:2D1C 10BD:1:2D1D 10BE:1:2D1E 10BF:1:2D1F ",
    "10C0:1:2D20 10C1:1:2D21 10C2:1:2D22 10C3:1:2D23 10C4:1:2D24 10C5:1:2D25 10C6:3 10C7:1:2D27 ",
    "10C8:3 10CD:1:2D2D 10CE:3 10D0:0 10FC:1:10DC 10FD:0 115F:2 1161:0 1249:3 124A:0 124E:3 1250:0 ",
    "1257:3 1258:0 1259:3 125A:0 125E:3 1260:0 1289:3 128A:0 128E:3 1290:0 12B1:3 12B2:0 12B6:3 ",
    "12B8:0 12BF:3 12C0:0 12C1:3 12C2:0 12C6:3 12C8:0 12D7:3 12D8:0 1311:3 1312:0 1316:3 1318:0 ",
    "135B:3 135D:0 137D:3 1380:0 139A:3 13A0:0 13F6:3 13F8:1:13F0 13F9:1:13F1 13FA:1:13F2 13FB:1:13F3 ",
    "13FC:1:13F4 13FD:1:13F5 13FE:3 1400:0 1680:3 1681:0 169D:3 16A0:0 16F9:3 1700:0 1716:3 171F:0 ",
    "1737:3 1740:0 1754:3 1760:0 176D:3 176E:0 1771:3 1772:0 1774:3 1780:0 17B4:2 17B6:0 17DE:3 ",
    "17E0:0 17EA:3 17F0:0 17FA:3 1800:0 180B:2 1810:0 181A:3 1820:0 1879:3 1880:0 18AB:3 18B0:0 ",
    "18F6:3 1900:0 191F:3 1920:0 192C:3 1930:0 193C:3 1940:0 1941:3 1944:0 196E:3 1970:0 1975:3 ",
    "1980:0 19AC:3 19B0:0 19CA:3 19D0:0 19DB:3 19DE:0 1A1C:3 1A1E:0 1A5F:3 1A60:0 1A7D:3 1A7F:0 ",
    "1A8A:3 1A90:0 1A9A:3 1AA0:0 1AAE:3 1AB0:0 1ADE:3 1AE0:0 1AEC:3 1B00:0 1B4D:3 1B4E:0 1BF4:3 ",
    "1BFC:0 1C38:3 1C3B:0 1C4A:3 1C4D:0 1C80:1:432 1C81:1:434 1C82:1:43E 1C83:1:441 1C84:1:442 ",
    "1C86:1:44A 1C87:1:463 1C88:1:A64B 1C89:1:1C8A 1C8A:0 1C8B:3 1C90:1:10D0 1C91:1:10D1 1C92:1:10D2 ",
    "1C93:1:10D3 1C94:1:10D4 1C95:1:10D5 1C96:1:10D6 1C97:1:10D7 1C98:1:10D8 1C99:1:10D9 1C9A:1:10DA ",
    "1C9B:1:10DB 1C9C:1:10DC 1C9D:1:10DD 1C9E:1:10DE 1C9F:1:10DF 1CA0:1:10E0 1CA1:1:10E1 1CA2:1:10E2 ",
    "1CA3:1:10E3 1CA4:1:10E4 1CA5:1:10E5 1CA6:1:10E6 1CA7:1:10E7 1CA8:1:10E8 1CA9:1:10E9 1CAA:1:10EA ",
    "1CAB:1:10EB 1CAC:1:10EC 1CAD:1:10ED 1CAE:1:10EE 1CAF:1:10EF 1CB0:1:10F0 1CB1:1:10F1 1CB2:1:10F2 ",
    "1CB3:1:10F3 1CB4:1:10F4 1CB5:1:10F5 1CB6:1:10F6 1CB7:1:10F7 1CB8:1:10F8 1CB9:1:10F9 1CBA:1:10FA ",
    "1CBB:3 1CBD:1:10FD 1CBE:1:10FE 1CBF:1:10FF 1CC0:0 1CC8:3 1CD0:0 1CFB:3 1D00:0 1D2C:1:61 ",
    "1D2D:1:E6 1D2E:1:62 1D2F:0 1D30:1:64 1D31:1:65 1D32:1:1DD 1D33:1:67 1D34:1:68 1D35:1:69 ",
    "1D36:1:6A 1D37:1:6B 1D38:1:6C 1D39:1:6D 1D3A:1:6E 1D3B:0 1D3C:1:6F 1D3D:1:223 1D3E:1:70 ",
    "1D3F:1:72 1D40:1:74 1D41:1:75 1D42:1:77 1D43:1:61 1D44:1:250 1D45:1:251 1D46:1:1D02 1D47:1:62 ",
    "1D48:1:64 1D49:1:65 1D4A:1:259 1D4B:1:25B 1D4C:1:25C 1D4D:1:67 1D4E:0 1D4F:1:6B 1D50:1:6D ",
    "1D51:1:14B 1D52:1:6F 1D53:1:254 1D54:1:1D16 1D55:1:1D17 1D56:1:70 1D57:1:74 1D58:1:75 ",
    "1D59:1:1D1D 1D5A:1:26F 1D5B:1:76 1D5C:1:1D25 1D5D:1:3B2 1D5E:1:3B3 1D5F:1:3B4 1D60:1:3C6 ",
    "1D61:1:3C7 1D62:1:69 1D63:1:72 1D64:1:75 1D65:1:76 1D66:1:3B2 1D67:1:3B3 1D68:1:3C1 1D69:1:3C6 ",
    "1D6A:1:3C7 1D6B:0 1D78:1:43D 1D79:0 1D9B:1:252 1D9C:1:63 1D9D:1:255 1D9E:1:F0 1D9F:1:25C ",
    "1DA0:1:66 1DA1:1:25F 1DA2:1:261 1DA3:1:265 1DA4:1:268 1DA5:1:269 1DA6:1:26A 1DA7:1:1D7B ",
    "1DA8:1:29D 1DA9:1:26D 1DAA:1:1D85 1DAB:1:29F 1DAC:1:271 1DAD:1:270 1DAE:1:272 1DAF:1:273 ",
    "1DB0:1:274 1DB1:1:275 1DB2:1:278 1DB3:1:282 1DB4:1:283 1DB5:1:1AB 1DB6:1:289 1DB7:1:28A ",
    "1DB8:1:1D1C 1DB9:1:28B 1DBA:1:28C 1DBB:1:7A 1DBC:1:290 1DBD:1:291 1DBE:1:292 1DBF:1:3B8 1DC0:0 ",
    "1E00:1:1E01 1E01:0 1E02:1:1E03 1E03:0 1E04:1:1E05 1E05:0 1E06:1:1E07 1E07:0 1E08:1:1E09 1E09:0 ",
    "1E0A:1:1E0B 1E0B:0 1E0C:1:1E0D 1E0D:0 1E0E:1:1E0F 1E0F:0 1E10:1:1E11 1E11:0 1E12:1:1E13 1E13:0 ",
    "1E14:1:1E15 1E15:0 1E16:1:1E17 1E17:0 1E18:1:1E19 1E19:0 1E1A:1:1E1B 1E1B:0 1E1C:1:1E1D 1E1D:0 ",
    "1E1E:1:1E1F 1E1F:0 1E20:1:1E21 1E21:0 1E22:1:1E23 1E23:0 1E24:1:1E25 1E25:0 1E26:1:1E27 1E27:0 ",
    "1E28:1:1E29 1E29:0 1E2A:1:1E2B 1E2B:0 1E2C:1:1E2D 1E2D:0 1E2E:1:1E2F 1E2F:0 1E30:1:1E31 1E31:0 ",
    "1E32:1:1E33 1E33:0 1E34:1:1E35 1E35:0 1E36:1:1E37 1E37:0 1E38:1:1E39 1E39:0 1E3A:1:1E3B 1E3B:0 ",
    "1E3C:1:1E3D 1E3D:0 1E3E:1:1E3F 1E3F:0 1E40:1:1E41 1E41:0 1E42:1:1E43 1E43:0 1E44:1:1E45 1E45:0 ",
    "1E46:1:1E47 1E47:0 1E48:1:1E49 1E49:0 1E4A:1:1E4B 1E4B:0 1E4C:1:1E4D 1E4D:0 1E4E:1:1E4F 1E4F:0 ",
    "1E50:1:1E51 1E51:0 1E52:1:1E53 1E53:0 1E54:1:1E55 1E55:0 1E56:1:1E57 1E57:0 1E58:1:1E59 1E59:0 ",
    "1E5A:1:1E5B 1E5B:0 1E5C:1:1E5D 1E5D:0 1E5E:1:1E5F 1E5F:0 1E60:1:1E61 1E61:0 1E62:1:1E63 1E63:0 ",
    "1E64:1:1E65 1E65:0 1E66:1:1E67 1E67:0 1E68:1:1E69 1E69:0 1E6A:1:1E6B 1E6B:0 1E6C:1:1E6D 1E6D:0 ",
    "1E6E:1:1E6F 1E6F:0 1E70:1:1E71 1E71:0 1E72:1:1E73 1E73:0 1E74:1:1E75 1E75:0 1E76:1:1E77 1E77:0 ",
    "1E78:1:1E79 1E79:0 1E7A:1:1E7B 1E7B:0 1E7C:1:1E7D 1E7D:0 1E7E:1:1E7F 1E7F:0 1E80:1:1E81 1E81:0 ",
    "1E82:1:1E83 1E83:0 1E84:1:1E85 1E85:0 1E86:1:1E87 1E87:0 1E88:1:1E89 1E89:0 1E8A:1:1E8B 1E8B:0 ",
    "1E8C:1:1E8D 1E8D:0 1E8E:1:1E8F 1E8F:0 1E90:1:1E91 1E91:0 1E92:1:1E93 1E93:0 1E94:1:1E95 1E95:0 ",
    "1E9A:1:61.2BE 1E9B:1:1E61 1E9C:0 1E9E:1:DF 1E9F:0 1EA0:1:1EA1 1EA1:0 1EA2:1:1EA3 1EA3:0 ",
    "1EA4:1:1EA5 1EA5:0 1EA6:1:1EA7 1EA7:0 1EA8:1:1EA9 1EA9:0 1EAA:1:1EAB 1EAB:0 1EAC:1:1EAD 1EAD:0 ",
    "1EAE:1:1EAF 1EAF:0 1EB0:1:1EB1 1EB1:0 1EB2:1:1EB3 1EB3:0 1EB4:1:1EB5 1EB5:0 1EB6:1:1EB7 1EB7:0 ",
    "1EB8:1:1EB9 1EB9:0 1EBA:1:1EBB 1EBB:0 1EBC:1:1EBD 1EBD:0 1EBE:1:1EBF 1EBF:0 1EC0:1:1EC1 1EC1:0 ",
    "1EC2:1:1EC3 1EC3:0 1EC4:1:1EC5 1EC5:0 1EC6:1:1EC7 1EC7:0 1EC8:1:1EC9 1EC9:0 1ECA:1:1ECB 1ECB:0 ",
    "1ECC:1:1ECD 1ECD:0 1ECE:1:1ECF 1ECF:0 1ED0:1:1ED1 1ED1:0 1ED2:1:1ED3 1ED3:0 1ED4:1:1ED5 1ED5:0 ",
    "1ED6:1:1ED7 1ED7:0 1ED8:1:1ED9 1ED9:0 1EDA:1:1EDB 1EDB:0 1EDC:1:1EDD 1EDD:0 1EDE:1:1EDF 1EDF:0 ",
    "1EE0:1:1EE1 1EE1:0 1EE2:1:1EE3 1EE3:0 1EE4:1:1EE5 1EE5:0 1EE6:1:1EE7 1EE7:0 1EE8:1:1EE9 1EE9:0 ",
    "1EEA:1:1EEB 1EEB:0 1EEC:1:1EED 1EED:0 1EEE:1:1EEF 1EEF:0 1EF0:1:1EF1 1EF1:0 1EF2:1:1EF3 1EF3:0 ",
    "1EF4:1:1EF5 1EF5:0 1EF6:1:1EF7 1EF7:0 1EF8:1:1EF9 1EF9:0 1EFA:1:1EFB 1EFB:0 1EFC:1:1EFD 1EFD:0 ",
    "1EFE:1:1EFF 1EFF:0 1F08:1:1F00 1F09:1:1F01 1F0A:1:1F02 1F0B:1:1F03 1F0C:1:1F04 1F0D:1:1F05 ",
    "1F0E:1:1F06 1F0F:1:1F07 1F10:0 1F16:3 1F18:1:1F10 1F19:1:1F11 1F1A:1:1F12 1F1B:1:1F13 ",
    "1F1C:1:1F14 1F1D:1:1F15 1F1E:3 1F20:0 1F28:1:1F20 1F29:1:1F21 1F2A:1:1F22 1F2B:1:1F23 ",
    "1F2C:1:1F24 1F2D:1:1F25 1F2E:1:1F26 1F2F:1:1F27 1F30:0 1F38:1:1F30 1F39:1:1F31 1F3A:1:1F32 ",
    "1F3B:1:1F33 1F3C:1:1F34 1F3D:1:1F35 1F3E:1:1F36 1F3F:1:1F37 1F40:0 1F46:3 1F48:1:1F40 ",
    "1F49:1:1F41 1F4A:1:1F42 1F4B:1:1F43 1F4C:1:1F44 1F4D:1:1F45 1F4E:3 1F50:0 1F58:3 1F59:1:1F51 ",
    "1F5A:3 1F5B:1:1F53 1F5C:3 1F5D:1:1F55 1F5E:3 1F5F:1:1F57 1F60:0 1F68:1:1F60 1F69:1:1F61 ",
    "1F6A:1:1F62 1F6B:1:1F63 1F6C:1:1F64 1F6D:1:1F65 1F6E:1:1F66 1F6F:1:1F67 1F70:0 1F71:1:3AC 1F72:0 ",
    "1F73:1:3AD 1F74:0 1F75:1:3AE 1F76:0 1F77:1:3AF 1F78:0 1F79:1:3CC 1F7A:0 1F7B:1:3CD 1F7C:0 ",
    "1F7D:1:3CE 1F7E:3 1F80:1:1F00.3B9 1F81:1:1F01.3B9 1F82:1:1F02.3B9 1F83:1:1F03.3B9 ",
    "1F84:1:1F04.3B9 1F85:1:1F05.3B9 1F86:1:1F06.3B9 1F87:1:1F07.3B9 1F88:1:1F00.3B9 1F89:1:1F01.3B9 ",
    "1F8A:1:1F02.3B9 1F8B:1:1F03.3B9 1F8C:1:1F04.3B9 1F8D:1:1F05.3B9 1F8E:1:1F06.3B9 1F8F:1:1F07.3B9 ",
    "1F90:1:1F20.3B9 1F91:1:1F21.3B9 1F92:1:1F22.3B9 1F93:1:1F23.3B9 1F94:1:1F24.3B9 1F95:1:1F25.3B9 ",
    "1F96:1:1F26.3B9 1F97:1:1F27.3B9 1F98:1:1F20.3B9 1F99:1:1F21.3B9 1F9A:1:1F22.3B9 1F9B:1:1F23.3B9 ",
    "1F9C:1:1F24.3B9 1F9D:1:1F25.3B9 1F9E:1:1F26.3B9 1F9F:1:1F27.3B9 1FA0:1:1F60.3B9 1FA1:1:1F61.3B9 ",
    "1FA2:1:1F62.3B9 1FA3:1:1F63.3B9 1FA4:1:1F64.3B9 1FA5:1:1F65.3B9 1FA6:1:1F66.3B9 1FA7:1:1F67.3B9 ",
    "1FA8:1:1F60.3B9 1FA9:1:1F61.3B9 1FAA:1:1F62.3B9 1FAB:1:1F63.3B9 1FAC:1:1F64.3B9 1FAD:1:1F65.3B9 ",
    "1FAE:1:1F66.3B9 1FAF:1:1F67.3B9 1FB0:0 1FB2:1:1F70.3B9 1FB3:1:3B1.3B9 1FB4:1:3AC.3B9 1FB5:3 ",
    "1FB6:0 1FB7:1:1FB6.3B9 1FB8:1:1FB0 1FB9:1:1FB1 1FBA:1:1F70 1FBB:1:3AC 1FBC:1:3B1.3B9 ",
    "1FBD:1:20.313 1FBE:1:3B9 1FBF:1:20.313 1FC0:1:20.342 1FC1:1:20.308.342 1FC2:1:1F74.3B9 ",
    "1FC3:1:3B7.3B9 1FC4:1:3AE.3B9 1FC5:3 1FC6:0 1FC7:1:1FC6.3B9 1FC8:1:1F72 1FC9:1:3AD 1FCA:1:1F74 ",
    "1FCB:1:3AE 1FCC:1:3B7.3B9 1FCD:1:20.313.300 1FCE:1:20.313.301 1FCF:1:20.313.342 1FD0:0 ",
    "1FD3:1:390 1FD4:3 1FD6:0 1FD8:1:1FD0 1FD9:1:1FD1 1FDA:1:1F76 1FDB:1:3AF 1FDC:3 1FDD:1:20.314.300 ",
    "1FDE:1:20.314.301 1FDF:1:20.314.342 1FE0:0 1FE3:1:3B0 1FE4:0 1FE8:1:1FE0 1FE9:1:1FE1 1FEA:1:1F7A ",
    "1FEB:1:3CD 1FEC:1:1FE5 1FED:1:20.308.300 1FEE:1:20.308.301 1FEF:1:60 1FF0:3 1FF2:1:1F7C.3B9 ",
    "1FF3:1:3C9.3B9 1FF4:1:3CE.3B9 1FF5:3 1FF6:0 1FF7:1:1FF6.3B9 1FF8:1:1F78 1FF9:1:3CC 1FFA:1:1F7C ",
    "1FFB:1:3CE 1FFC:1:3C9.3B9 1FFD:1:20.301 1FFE:1:20.314 1FFF:3 2000:1:20 200B:2 200C:0 200E:3 ",
    "2010:0 2011:1:2010 2012:0 2017:1:20.333 2018:0 2024:3 2027:0 2028:3 202F:1:20 2030:0 ",
    "2033:1:2032.2032 2034:1:2032.2032.2032 2035:0 2036:1:2035.2035 2037:1:2035.2035.2035 2038:0 ",
    "203C:1:21.21 203D:0 203E:1:20.305 203F:0 2047:1:3F.3F 2048:1:3F.21 2049:1:21.3F 204A:0 ",
    "2057:1:2032.2032.2032.2032 2058:0 205F:1:20 2060:2 2065:3 206A:2 2070:1:30 2071:1:69 2072:3 ",
    "2074:1:34 2075:1:35 2076:1:36 2077:1:37 2078:1:38 2079:1:39 207A:1:2B 207B:1:2212 207C:1:3D ",
    "207D:1:28 207E:1:29 207F:1:6E 2080:1:30 2081:1:31 2082:1:32 2083:1:33 2084:1:34 2085:1:35 ",
    "2086:1:36 2087:1:37 2088:1:38 2089:1:39 208A:1:2B 208B:1:2212 208C:1:3D 208D:1:28 208E:1:29 ",
    "208F:3 2090:1:61 2091:1:65 2092:1:6F 2093:1:78 2094:1:259 2095:1:68 2096:1:6B 2097:1:6C ",
    "2098:1:6D 2099:1:6E 209A:1:70 209B:1:73 209C:1:74 209D:3 20A0:0 20A8:1:72.73 20A9:0 20C2:3 ",
    "20D0:0 20F1:3 2100:1:61.2F.63 2101:1:61.2F.73 2102:1:63 2103:1:B0.63 2104:0 2105:1:63.2F.6F ",
    "2106:1:63.2F.75 2107:1:25B 2108:0 2109:1:B0.66 210A:1:67 210B:1:68 210F:1:127 2110:1:69 ",
    "2112:1:6C 2114:0 2115:1:6E 2116:1:6E.6F 2117:0 2119:1:70 211A:1:71 211B:1:72 211E:0 2120:1:73.6D ",
    "2121:1:74.65.6C 2122:1:74.6D 2123:0 2124:1:7A 2125:0 2126:1:3C9 2127:0 2128:1:7A 2129:0 ",
    "212A:1:6B 212B:1:E5 212C:1:62 212D:1:63 212E:0 212F:1:65 2131:1:66 2132:1:214E 2133:1:6D ",
    "2134:1:6F 2135:1:5D0 2136:1:5D1 2137:1:5D2 2138:1:5D3 2139:1:69 213A:0 213B:1:66.61.78 ",
    "213C:1:3C0 213D:1:3B3 213F:1:3C0 2140:1:2211 2141:0 2145:1:64 2147:1:65 2148:1:69 2149:1:6A ",
    "214A:0 2150:1:31.2044.37 2151:1:31.2044.39 2152:1:31.2044.31.30 2153:1:31.2044.33 ",
    "2154:1:32.2044.33 2155:1:31.2044.35 2156:1:32.2044.35 2157:1:33.2044.35 2158:1:34.2044.35 ",
    "2159:1:31.2044.36 215A:1:35.2044.36 215B:1:31.2044.38 215C:1:33.2044.38 215D:1:35.2044.38 ",
    "215E:1:37.2044.38 215F:1:31.2044 2160:1:69 2161:1:69.69 2162:1:69.69.69 2163:1:69.76 2164:1:76 ",
    "2165:1:76.69 2166:1:76.69.69 2167:1:76.69.69.69 2168:1:69.78 2169:1:78 216A:1:78.69 ",
    "216B:1:78.69.69 216C:1:6C 216D:1:63 216E:1:64 216F:1:6D 2170:1:69 2171:1:69.69 2172:1:69.69.69 ",
    "2173:1:69.76 2174:1:76 2175:1:76.69 2176:1:76.69.69 2177:1:76.69.69.69 2178:1:69.78 2179:1:78 ",
    "217A:1:78.69 217B:1:78.69.69 217C:1:6C 217D:1:63 217E:1:64 217F:1:6D 2180:0 2183:1:2184 2184:0 ",
    "2189:1:30.2044.33 218A:0 218C:3 2190:0 222C:1:222B.222B 222D:1:222B.222B.222B 222E:0 ",
    "222F:1:222E.222E 2230:1:222E.222E.222E 2231:0 2329:1:3008 232A:1:3009 232B:0 242A:3 2440:0 ",
    "244B:3 2460:1:31 2461:1:32 2462:1:33 2463:1:34 2464:1:35 2465:1:36 2466:1:37 2467:1:38 2468:1:39 ",
    "2469:1:31.30 246A:1:31.31 246B:1:31.32 246C:1:31.33 246D:1:31.34 246E:1:31.35 246F:1:31.36 ",
    "2470:1:31.37 2471:1:31.38 2472:1:31.39 2473:1:32.30 2474:1:28.31.29 2475:1:28.32.29 ",
    "2476:1:28.33.29 2477:1:28.34.29 2478:1:28.35.29 2479:1:28.36.29 247A:1:28.37.29 247B:1:28.38.29 ",
    "247C:1:28.39.29 247D:1:28.31.30.29 247E:1:28.31.31.29 247F:1:28.31.32.29 2480:1:28.31.33.29 ",
    "2481:1:28.31.34.29 2482:1:28.31.35.29 2483:1:28.31.36.29 2484:1:28.31.37.29 2485:1:28.31.38.29 ",
    "2486:1:28.31.39.29 2487:1:28.32.30.29 2488:3 249C:1:28.61.29 249D:1:28.62.29 249E:1:28.63.29 ",
    "249F:1:28.64.29 24A0:1:28.65.29 24A1:1:28.66.29 24A2:1:28.67.29 24A3:1:28.68.29 24A4:1:28.69.29 ",
    "24A5:1:28.6A.29 24A6:1:28.6B.29 24A7:1:28.6C.29 24A8:1:28.6D.29 24A9:1:28.6E.29 24AA:1:28.6F.29 ",
    "24AB:1:28.70.29 24AC:1:28.71.29 24AD:1:28.72.29 24AE:1:28.73.29 24AF:1:28.74.29 24B0:1:28.75.29 ",
    "24B1:1:28.76.29 24B2:1:28.77.29 24B3:1:28.78.29 24B4:1:28.79.29 24B5:1:28.7A.29 24B6:1:61 ",
    "24B7:1:62 24B8:1:63 24B9:1:64 24BA:1:65 24BB:1:66 24BC:1:67 24BD:1:68 24BE:1:69 24BF:1:6A ",
    "24C0:1:6B 24C1:1:6C 24C2:1:6D 24C3:1:6E 24C4:1:6F 24C5:1:70 24C6:1:71 24C7:1:72 24C8:1:73 ",
    "24C9:1:74 24CA:1:75 24CB:1:76 24CC:1:77 24CD:1:78 24CE:1:79 24CF:1:7A 24D0:1:61 24D1:1:62 ",
    "24D2:1:63 24D3:1:64 24D4:1:65 24D5:1:66 24D6:1:67 24D7:1:68 24D8:1:69 24D9:1:6A 24DA:1:6B ",
    "24DB:1:6C 24DC:1:6D 24DD:1:6E 24DE:1:6F 24DF:1:70 24E0:1:71 24E1:1:72 24E2:1:73 24E3:1:74 ",
    "24E4:1:75 24E5:1:76 24E6:1:77 24E7:1:78 24E8:1:79 24E9:1:7A 24EA:1:30 24EB:0 ",
    "2A0C:1:222B.222B.222B.222B 2A0D:0 2A74:1:3A.3A.3D 2A75:1:3D.3D 2A76:1:3D.3D.3D 2A77:0 ",
    "2ADC:1:2ADD.338 2ADD:0 2B74:3 2B76:0 2C00:1:2C30 2C01:1:2C31 2C02:1:2C32 2C03:1:2C33 2C04:1:2C34 ",
    "2C05:1:2C35 2C06:1:2C36 2C07:1:2C37 2C08:1:2C38 2C09:1:2C39 2C0A:1:2C3A 2C0B:1:2C3B 2C0C:1:2C3C ",
    "2C0D:1:2C3D 2C0E:1:2C3E 2C0F:1:2C3F 2C10:1:2C40 2C11:1:2C41 2C12:1:2C42 2C13:1:2C43 2C14:1:2C44 ",
    "2C15:1:2C45 2C16:1:2C46 2C17:1:2C47 2C18:1:2C48 2C19:1:2C49 2C1A:1:2C4A 2C1B:1:2C4B 2C1C:1:2C4C ",
    "2C1D:1:2C4D 2C1E:1:2C4E 2C1F:1:2C4F 2C20:1:2C50 2C21:1:2C51 2C22:1:2C52 2C23:1:2C53 2C24:1:2C54 ",
    "2C25:1:2C55 2C26:1:2C56 2C27:1:2C57 2C28:1:2C58 2C29:1:2C59 2C2A:1:2C5A 2C2B:1:2C5B 2C2C:1:2C5C ",
    "2C2D:1:2C5D 2C2E:1:2C5E 2C2F:1:2C5F 2C30:0 2C60:1:2C61 2C61:0 2C62:1:26B 2C63:1:1D7D 2C64:1:27D ",
    "2C65:0 2C67:1:2C68 2C68:0 2C69:1:2C6A 2C6A:0 2C6B:1:2C6C 2C6C:0 2C6D:1:251 2C6E:1:271 2C6F:1:250 ",
    "2C70:1:252 2C71:0 2C72:1:2C73 2C73:0 2C75:1:2C76 2C76:0 2C7C:1:6A 2C7D:1:76 2C7E:1:23F ",
    "2C7F:1:240 2C80:1:2C81 2C81:0 2C82:1:2C83 2C83:0 2C84:1:2C85 2C85:0 2C86:1:2C87 2C87:0 ",
    "2C88:1:2C89 2C89:0 2C8A:1:2C8B 2C8B:0 2C8C:1:2C8D 2C8D:0 2C8E:1:2C8F 2C8F:0 2C90:1:2C91 2C91:0 ",
    "2C92:1:2C93 2C93:0 2C94:1:2C95 2C95:0 2C96:1:2C97 2C97:0 2C98:1:2C99 2C99:0 2C9A:1:2C9B 2C9B:0 ",
    "2C9C:1:2C9D 2C9D:0 2C9E:1:2C9F 2C9F:0 2CA0:1:2CA1 2CA1:0 2CA2:1:2CA3 2CA3:0 2CA4:1:2CA5 2CA5:0 ",
    "2CA6:1:2CA7 2CA7:0 2CA8:1:2CA9 2CA9:0 2CAA:1:2CAB 2CAB:0 2CAC:1:2CAD 2CAD:0 2CAE:1:2CAF 2CAF:0 ",
    "2CB0:1:2CB1 2CB1:0 2CB2:1:2CB3 2CB3:0 2CB4:1:2CB5 2CB5:0 2CB6:1:2CB7 2CB7:0 2CB8:1:2CB9 2CB9:0 ",
    "2CBA:1:2CBB 2CBB:0 2CBC:1:2CBD 2CBD:0 2CBE:1:2CBF 2CBF:0 2CC0:1:2CC1 2CC1:0 2CC2:1:2CC3 2CC3:0 ",
    "2CC4:1:2CC5 2CC5:0 2CC6:1:2CC7 2CC7:0 2CC8:1:2CC9 2CC9:0 2CCA:1:2CCB 2CCB:0 2CCC:1:2CCD 2CCD:0 ",
    "2CCE:1:2CCF 2CCF:0 2CD0:1:2CD1 2CD1:0 2CD2:1:2CD3 2CD3:0 2CD4:1:2CD5 2CD5:0 2CD6:1:2CD7 2CD7:0 ",
    "2CD8:1:2CD9 2CD9:0 2CDA:1:2CDB 2CDB:0 2CDC:1:2CDD 2CDD:0 2CDE:1:2CDF 2CDF:0 2CE0:1:2CE1 2CE1:0 ",
    "2CE2:1:2CE3 2CE3:0 2CEB:1:2CEC 2CEC:0 2CED:1:2CEE 2CEE:0 2CF2:1:2CF3 2CF3:0 2CF4:3 2CF9:0 2D26:3 ",
    "2D27:0 2D28:3 2D2D:0 2D2E:3 2D30:0 2D68:3 2D6F:1:2D61 2D70:0 2D71:3 2D7F:0 2D97:3 2DA0:0 2DA7:3 ",
    "2DA8:0 2DAF:3 2DB0:0 2DB7:3 2DB8:0 2DBF:3 2DC0:0 2DC7:3 2DC8:0 2DCF:3 2DD0:0 2DD7:3 2DD8:0 ",
    "2DDF:3 2DE0:0 2E5E:3 2E80:0 2E9A:3 2E9B:0 2E9F:1:6BCD 2EA0:0 2EF3:1:9F9F 2EF4:3 2F00:1:4E00 ",
    "2F01:1:4E28 2F02:1:4E36 2F03:1:4E3F 2F04:1:4E59 2F05:1:4E85 2F06:1:4E8C 2F07:1:4EA0 2F08:1:4EBA ",
    "2F09:1:513F 2F0A:1:5165 2F0B:1:516B 2F0C:1:5182 2F0D:1:5196 2F0E:1:51AB 2F0F:1:51E0 2F10:1:51F5 ",
    "2F11:1:5200 2F12:1:529B 2F13:1:52F9 2F14:1:5315 2F15:1:531A 2F16:1:5338 2F17:1:5341 2F18:1:535C ",
    "2F19:1:5369 2F1A:1:5382 2F1B:1:53B6 2F1C:1:53C8 2F1D:1:53E3 2F1E:1:56D7 2F1F:1:571F 2F20:1:58EB ",
    "2F21:1:5902 2F22:1:590A 2F23:1:5915 2F24:1:5927 2F25:1:5973 2F26:1:5B50 2F27:1:5B80 2F28:1:5BF8 ",
    "2F29:1:5C0F 2F2A:1:5C22 2F2B:1:5C38 2F2C:1:5C6E 2F2D:1:5C71 2F2E:1:5DDB 2F2F:1:5DE5 2F30:1:5DF1 ",
    "2F31:1:5DFE 2F32:1:5E72 2F33:1:5E7A 2F34:1:5E7F 2F35:1:5EF4 2F36:1:5EFE 2F37:1:5F0B 2F38:1:5F13 ",
    "2F39:1:5F50 2F3A:1:5F61 2F3B:1:5F73 2F3C:1:5FC3 2F3D:1:6208 2F3E:1:6236 2F3F:1:624B 2F40:1:652F ",
    "2F41:1:6534 2F42:1:6587 2F43:1:6597 2F44:1:65A4 2F45:1:65B9 2F46:1:65E0 2F47:1:65E5 2F48:1:66F0 ",
    "2F49:1:6708 2F4A:1:6728 2F4B:1:6B20 2F4C:1:6B62 2F4D:1:6B79 2F4E:1:6BB3 2F4F:1:6BCB 2F50:1:6BD4 ",
    "2F51:1:6BDB 2F52:1:6C0F 2F53:1:6C14 2F54:1:6C34 2F55:1:706B 2F56:1:722A 2F57:1:7236 2F58:1:723B ",
    "2F59:1:723F 2F5A:1:7247 2F5B:1:7259 2F5C:1:725B 2F5D:1:72AC 2F5E:1:7384 2F5F:1:7389 2F60:1:74DC ",
    "2F61:1:74E6 2F62:1:7518 2F63:1:751F 2F64:1:7528 2F65:1:7530 2F66:1:758B 2F67:1:7592 2F68:1:7676 ",
    "2F69:1:767D 2F6A:1:76AE 2F6B:1:76BF 2F6C:1:76EE 2F6D:1:77DB 2F6E:1:77E2 2F6F:1:77F3 2F70:1:793A ",
    "2F71:1:79B8 2F72:1:79BE 2F73:1:7A74 2F74:1:7ACB 2F75:1:7AF9 2F76:1:7C73 2F77:1:7CF8 2F78:1:7F36 ",
    "2F79:1:7F51 2F7A:1:7F8A 2F7B:1:7FBD 2F7C:1:8001 2F7D:1:800C 2F7E:1:8012 2F7F:1:8033 2F80:1:807F ",
    "2F81:1:8089 2F82:1:81E3 2F83:1:81EA 2F84:1:81F3 2F85:1:81FC 2F86:1:820C 2F87:1:821B 2F88:1:821F ",
    "2F89:1:826E 2F8A:1:8272 2F8B:1:8278 2F8C:1:864D 2F8D:1:866B 2F8E:1:8840 2F8F:1:884C 2F90:1:8863 ",
    "2F91:1:897E 2F92:1:898B 2F93:1:89D2 2F94:1:8A00 2F95:1:8C37 2F96:1:8C46 2F97:1:8C55 2F98:1:8C78 ",
    "2F99:1:8C9D 2F9A:1:8D64 2F9B:1:8D70 2F9C:1:8DB3 2F9D:1:8EAB 2F9E:1:8ECA 2F9F:1:8F9B 2FA0:1:8FB0 ",
    "2FA1:1:8FB5 2FA2:1:9091 2FA3:1:9149 2FA4:1:91C6 2FA5:1:91CC 2FA6:1:91D1 2FA7:1:9577 2FA8:1:9580 ",
    "2FA9:1:961C 2FAA:1:96B6 2FAB:1:96B9 2FAC:1:96E8 2FAD:1:9751 2FAE:1:975E 2FAF:1:9762 2FB0:1:9769 ",
    "2FB1:1:97CB 2FB2:1:97ED 2FB3:1:97F3 2FB4:1:9801 2FB5:1:98A8 2FB6:1:98DB 2FB7:1:98DF 2FB8:1:9996 ",
    "2FB9:1:9999 2FBA:1:99AC 2FBB:1:9AA8 2FBC:1:9AD8 2FBD:1:9ADF 2FBE:1:9B25 2FBF:1:9B2F 2FC0:1:9B32 ",
    "2FC1:1:9B3C 2FC2:1:9B5A 2FC3:1:9CE5 2FC4:1:9E75 2FC5:1:9E7F 2FC6:1:9EA5 2FC7:1:9EBB 2FC8:1:9EC3 ",
    "2FC9:1:9ECD 2FCA:1:9ED1 2FCB:1:9EF9 2FCC:1:9EFD 2FCD:1:9F0E 2FCE:1:9F13 2FCF:1:9F20 2FD0:1:9F3B ",
    "2FD1:1:9F4A 2FD2:1:9F52 2FD3:1:9F8D 2FD4:1:9F9C 2FD5:1:9FA0 2FD6:3 3000:1:20 3001:0 3002:1:2E ",
    "3003:0 3036:1:3012 3037:0 3038:1:5341 3039:1:5344 303A:1:5345 303B:0 3040:3 3041:0 3097:3 3099:0 ",
    "309B:1:20.3099 309C:1:20.309A 309D:0 309F:1:3088.308A 30A0:0 30FF:1:30B3.30C8 3100:3 3105:0 ",
    "3130:3 3131:1:1100 3132:1:1101 3133:1:11AA 3134:1:1102 3135:1:11AC 3136:1:11AD 3137:1:1103 ",
    "3138:1:1104 3139:1:1105 313A:1:11B0 313B:1:11B1 313C:1:11B2 313D:1:11B3 313E:1:11B4 313F:1:11B5 ",
    "3140:1:111A 3141:1:1106 3142:1:1107 3143:1:1108 3144:1:1121 3145:1:1109 3146:1:110A 3147:1:110B ",
    "3148:1:110C 3149:1:110D 314A:1:110E 314B:1:110F 314C:1:1110 314D:1:1111 314E:1:1112 314F:1:1161 ",
    "3150:1:1162 3151:1:1163 3152:1:1164 3153:1:1165 3154:1:1166 3155:1:1167 3156:1:1168 3157:1:1169 ",
    "3158:1:116A 3159:1:116B 315A:1:116C 315B:1:116D 315C:1:116E 315D:1:116F 315E:1:1170 315F:1:1171 ",
    "3160:1:1172 3161:1:1173 3162:1:1174 3163:1:1175 3164:2 3165:1:1114 3166:1:1115 3167:1:11C7 ",
    "3168:1:11C8 3169:1:11CC 316A:1:11CE 316B:1:11D3 316C:1:11D7 316D:1:11D9 316E:1:111C 316F:1:11DD ",
    "3170:1:11DF 3171:1:111D 3172:1:111E 3173:1:1120 3174:1:1122 3175:1:1123 3176:1:1127 3177:1:1129 ",
    "3178:1:112B 3179:1:112C 317A:1:112D 317B:1:112E 317C:1:112F 317D:1:1132 317E:1:1136 317F:1:1140 ",
    "3180:1:1147 3181:1:114C 3182:1:11F1 3183:1:11F2 3184:1:1157 3185:1:1158 3186:1:1159 3187:1:1184 ",
    "3188:1:1185 3189:1:1188 318A:1:1191 318B:1:1192 318C:1:1194 318D:1:119E 318E:1:11A1 318F:3 ",
    "3190:0 3192:1:4E00 3193:1:4E8C 3194:1:4E09 3195:1:56DB 3196:1:4E0A 3197:1:4E2D 3198:1:4E0B ",
    "3199:1:7532 319A:1:4E59 319B:1:4E19 319C:1:4E01 319D:1:5929 319E:1:5730 319F:1:4EBA 31A0:0 ",
    "31E6:3 31F0:0 3200:1:28.1100.29 3201:1:28.1102.29 3202:1:28.1103.29 3203:1:28.1105.29 ",
    "3204:1:28.1106.29 3205:1:28.1107.29 3206:1:28.1109.29 3207:1:28.110B.29 3208:1:28.110C.29 ",
    "3209:1:28.110E.29 320A:1:28.110F.29 320B:1:28.1110.29 320C:1:28.1111.29 320D:1:28.1112.29 ",
    "320E:1:28.AC00.29 320F:1:28.B098.29 3210:1:28.B2E4.29 3211:1:28.B77C.29 3212:1:28.B9C8.29 ",
    "3213:1:28.BC14.29 3214:1:28.C0AC.29 3215:1:28.C544.29 3216:1:28.C790.29 3217:1:28.CC28.29 ",
    "3218:1:28.CE74.29 3219:1:28.D0C0.29 321A:1:28.D30C.29 321B:1:28.D558.29 321C:1:28.C8FC.29 ",
    "321D:1:28.C624.C804.29 321E:1:28.C624.D6C4.29 321F:3 3220:1:28.4E00.29 3221:1:28.4E8C.29 ",
    "3222:1:28.4E09.29 3223:1:28.56DB.29 3224:1:28.4E94.29 3225:1:28.516D.29 3226:1:28.4E03.29 ",
    "3227:1:28.516B.29 3228:1:28.4E5D.29 3229:1:28.5341.29 322A:1:28.6708.29 322B:1:28.706B.29 ",
    "322C:1:28.6C34.29 322D:1:28.6728.29 322E:1:28.91D1.29 322F:1:28.571F.29 3230:1:28.65E5.29 ",
    "3231:1:28.682A.29 3232:1:28.6709.29 3233:1:28.793E.29 3234:1:28.540D.29 3235:1:28.7279.29 ",
    "3236:1:28.8CA1.29 3237:1:28.795D.29 3238:1:28.52B4.29 3239:1:28.4EE3.29 323A:1:28.547C.29 ",
    "323B:1:28.5B66.29 323C:1:28.76E3.29 323D:1:28.4F01.29 323E:1:28.8CC7.29 323F:1:28.5354.29 ",
    "3240:1:28.796D.29 3241:1:28.4F11.29 3242:1:28.81EA.29 3243:1:28.81F3.29 3244:1:554F 3245:1:5E7C ",
    "3246:1:6587 3247:1:7B8F 3248:0 3250:1:70.74.65 3251:1:32.31 3252:1:32.32 3253:1:32.33 ",
    "3254:1:32.34 3255:1:32.35 3256:1:32.36 3257:1:32.37 3258:1:32.38 3259:1:32.39 325A:1:33.30 ",
    "325B:1:33.31 325C:1:33.32 325D:1:33.33 325E:1:33.34 325F:1:33.35 3260:1:1100 3261:1:1102 ",
    "3262:1:1103 3263:1:1105 3264:1:1106 3265:1:1107 3266:1:1109 3267:1:110B 3268:1:110C 3269:1:110E ",
    "326A:1:110F 326B:1:1110 326C:1:1111 326D:1:1112 326E:1:AC00 326F:1:B098 3270:1:B2E4 3271:1:B77C ",
    "3272:1:B9C8 3273:1:BC14 3274:1:C0AC 3275:1:C544 3276:1:C790 3277:1:CC28 3278:1:CE74 3279:1:D0C0 ",
    "327A:1:D30C 327B:1:D558 327C:1:CC38.ACE0 327D:1:C8FC.C758 327E:1:C6B0 327F:0 3280:1:4E00 ",
    "3281:1:4E8C 3282:1:4E09 3283:1:56DB 3284:1:4E94 3285:1:516D 3286:1:4E03 3287:1:516B 3288:1:4E5D ",
    "3289:1:5341 328A:1:6708 328B:1:706B 328C:1:6C34 328D:1:6728 328E:1:91D1 328F:1:571F 3290:1:65E5 ",
    "3291:1:682A 3292:1:6709 3293:1:793E 3294:1:540D 3295:1:7279 3296:1:8CA1 3297:1:795D 3298:1:52B4 ",
    "3299:1:79D8 329A:1:7537 329B:1:5973 329C:1:9069 329D:1:512A 329E:1:5370 329F:1:6CE8 32A0:1:9805 ",
    "32A1:1:4F11 32A2:1:5199 32A3:1:6B63 32A4:1:4E0A 32A5:1:4E2D 32A6:1:4E0B 32A7:1:5DE6 32A8:1:53F3 ",
    "32A9:1:533B 32AA:1:5B97 32AB:1:5B66 32AC:1:76E3 32AD:1:4F01 32AE:1:8CC7 32AF:1:5354 32B0:1:591C ",
    "32B1:1:33.36 32B2:1:33.37 32B3:1:33.38 32B4:1:33.39 32B5:1:34.30 32B6:1:34.31 32B7:1:34.32 ",
    "32B8:1:34.33 32B9:1:34.34 32BA:1:34.35 32BB:1:34.36 32BC:1:34.37 32BD:1:34.38 32BE:1:34.39 ",
    "32BF:1:35.30 32C0:1:31.6708 32C1:1:32.6708 32C2:1:33.6708 32C3:1:34.6708 32C4:1:35.6708 ",
    "32C5:1:36.6708 32C6:1:37.6708 32C7:1:38.6708 32C8:1:39.6708 32C9:1:31.30.6708 32CA:1:31.31.6708 ",
    "32CB:1:31.32.6708 32CC:1:68.67 32CD:1:65.72.67 32CE:1:65.76 32CF:1:6C.74.64 32D0:1:30A2 ",
    "32D1:1:30A4 32D2:1:30A6 32D3:1:30A8 32D4:1:30AA 32D5:1:30AB 32D6:1:30AD 32D7:1:30AF 32D8:1:30B1 ",
    "32D9:1:30B3 32DA:1:30B5 32DB:1:30B7 32DC:1:30B9 32DD:1:30BB 32DE:1:30BD 32DF:1:30BF 32E0:1:30C1 ",
    "32E1:1:30C4 32E2:1:30C6 32E3:1:30C8 32E4:1:30CA 32E5:1:30CB 32E6:1:30CC 32E7:1:30CD 32E8:1:30CE ",
    "32E9:1:30CF 32EA:1:30D2 32EB:1:30D5 32EC:1:30D8 32ED:1:30DB 32EE:1:30DE 32EF:1:30DF 32F0:1:30E0 ",
    "32F1:1:30E1 32F2:1:30E2 32F3:1:30E4 32F4:1:30E6 32F5:1:30E8 32F6:1:30E9 32F7:1:30EA 32F8:1:30EB ",
    "32F9:1:30EC 32FA:1:30ED 32FB:1:30EF 32FC:1:30F0 32FD:1:30F1 32FE:1:30F2 32FF:1:4EE4.548C ",
    "3300:1:30A2.30D1.30FC.30C8 3301:1:30A2.30EB.30D5.30A1 3302:1:30A2.30F3.30DA.30A2 ",
    "3303:1:30A2.30FC.30EB 3304:1:30A4.30CB.30F3.30B0 3305:1:30A4.30F3.30C1 3306:1:30A6.30A9.30F3 ",
    "3307:1:30A8.30B9.30AF.30FC.30C9 3308:1:30A8.30FC.30AB.30FC 3309:1:30AA.30F3.30B9 ",
    "330A:1:30AA.30FC.30E0 330B:1:30AB.30A4.30EA 330C:1:30AB.30E9.30C3.30C8 ",
    "330D:1:30AB.30ED.30EA.30FC 330E:1:30AC.30ED.30F3 330F:1:30AC.30F3.30DE 3310:1:30AE.30AC ",
    "3311:1:30AE.30CB.30FC 3312:1:30AD.30E5.30EA.30FC 3313:1:30AE.30EB.30C0.30FC 3314:1:30AD.30ED ",
    "3315:1:30AD.30ED.30B0.30E9.30E0 3316:1:30AD.30ED.30E1.30FC.30C8.30EB ",
    "3317:1:30AD.30ED.30EF.30C3.30C8 3318:1:30B0.30E9.30E0 3319:1:30B0.30E9.30E0.30C8.30F3 ",
    "331A:1:30AF.30EB.30BC.30A4.30ED 331B:1:30AF.30ED.30FC.30CD 331C:1:30B1.30FC.30B9 ",
    "331D:1:30B3.30EB.30CA 331E:1:30B3.30FC.30DD 331F:1:30B5.30A4.30AF.30EB ",
    "3320:1:30B5.30F3.30C1.30FC.30E0 3321:1:30B7.30EA.30F3.30B0 3322:1:30BB.30F3.30C1 ",
    "3323:1:30BB.30F3.30C8 3324:1:30C0.30FC.30B9 3325:1:30C7.30B7 3326:1:30C9.30EB 3327:1:30C8.30F3 ",
    "3328:1:30CA.30CE 3329:1:30CE.30C3.30C8 332A:1:30CF.30A4.30C4 332B:1:30D1.30FC.30BB.30F3.30C8 ",
    "332C:1:30D1.30FC.30C4 332D:1:30D0.30FC.30EC.30EB 332E:1:30D4.30A2.30B9.30C8.30EB ",
    "332F:1:30D4.30AF.30EB 3330:1:30D4.30B3 3331:1:30D3.30EB 3332:1:30D5.30A1.30E9.30C3.30C9 ",
    "3333:1:30D5.30A3.30FC.30C8 3334:1:30D6.30C3.30B7.30A7.30EB 3335:1:30D5.30E9.30F3 ",
    "3336:1:30D8.30AF.30BF.30FC.30EB 3337:1:30DA.30BD 3338:1:30DA.30CB.30D2 3339:1:30D8.30EB.30C4 ",
    "333A:1:30DA.30F3.30B9 333B:1:30DA.30FC.30B8 333C:1:30D9.30FC.30BF 333D:1:30DD.30A4.30F3.30C8 ",
    "333E:1:30DC.30EB.30C8 333F:1:30DB.30F3 3340:1:30DD.30F3.30C9 3341:1:30DB.30FC.30EB ",
    "3342:1:30DB.30FC.30F3 3343:1:30DE.30A4.30AF.30ED 3344:1:30DE.30A4.30EB 3345:1:30DE.30C3.30CF ",
    "3346:1:30DE.30EB.30AF 3347:1:30DE.30F3.30B7.30E7.30F3 3348:1:30DF.30AF.30ED.30F3 ",
    "3349:1:30DF.30EA 334A:1:30DF.30EA.30D0.30FC.30EB 334B:1:30E1.30AC 334C:1:30E1.30AC.30C8.30F3 ",
    "334D:1:30E1.30FC.30C8.30EB 334E:1:30E4.30FC.30C9 334F:1:30E4.30FC.30EB 3350:1:30E6.30A2.30F3 ",
    "3351:1:30EA.30C3.30C8.30EB 3352:1:30EA.30E9 3353:1:30EB.30D4.30FC 3354:1:30EB.30FC.30D6.30EB ",
    "3355:1:30EC.30E0 3356:1:30EC.30F3.30C8.30B2.30F3 3357:1:30EF.30C3.30C8 3358:1:30.70B9 ",
    "3359:1:31.70B9 335A:1:32.70B9 335B:1:33.70B9 335C:1:34.70B9 335D:1:35.70B9 335E:1:36.70B9 ",
    "335F:1:37.70B9 3360:1:38.70B9 3361:1:39.70B9 3362:1:31.30.70B9 3363:1:31.31.70B9 ",
    "3364:1:31.32.70B9 3365:1:31.33.70B9 3366:1:31.34.70B9 3367:1:31.35.70B9 3368:1:31.36.70B9 ",
    "3369:1:31.37.70B9 336A:1:31.38.70B9 336B:1:31.39.70B9 336C:1:32.30.70B9 336D:1:32.31.70B9 ",
    "336E:1:32.32.70B9 336F:1:32.33.70B9 3370:1:32.34.70B9 3371:1:68.70.61 3372:1:64.61 3373:1:61.75 ",
    "3374:1:62.61.72 3375:1:6F.76 3376:1:70.63 3377:1:64.6D 3378:1:64.6D.32 3379:1:64.6D.33 ",
    "337A:1:69.75 337B:1:5E73.6210 337C:1:662D.548C 337D:1:5927.6B63 337E:1:660E.6CBB ",
    "337F:1:682A.5F0F.4F1A.793E 3380:1:70.61 3381:1:6E.61 3382:1:3BC.61 3383:1:6D.61 3384:1:6B.61 ",
    "3385:1:6B.62 3386:1:6D.62 3387:1:67.62 3388:1:63.61.6C 3389:1:6B.63.61.6C 338A:1:70.66 ",
    "338B:1:6E.66 338C:1:3BC.66 338D:1:3BC.67 338E:1:6D.67 338F:1:6B.67 3390:1:68.7A 3391:1:6B.68.7A ",
    "3392:1:6D.68.7A 3393:1:67.68.7A 3394:1:74.68.7A 3395:1:3BC.6C 3396:1:6D.6C 3397:1:64.6C ",
    "3398:1:6B.6C 3399:1:66.6D 339A:1:6E.6D 339B:1:3BC.6D 339C:1:6D.6D 339D:1:63.6D 339E:1:6B.6D ",
    "339F:1:6D.6D.32 33A0:1:63.6D.32 33A1:1:6D.32 33A2:1:6B.6D.32 33A3:1:6D.6D.33 33A4:1:63.6D.33 ",
    "33A5:1:6D.33 33A6:1:6B.6D.33 33A7:1:6D.2215.73 33A8:1:6D.2215.73.32 33A9:1:70.61 33AA:1:6B.70.61 ",
    "33AB:1:6D.70.61 33AC:1:67.70.61 33AD:1:72.61.64 33AE:1:72.61.64.2215.73 ",
    "33AF:1:72.61.64.2215.73.32 33B0:1:70.73 33B1:1:6E.73 33B2:1:3BC.73 33B3:1:6D.73 33B4:1:70.76 ",
    "33B5:1:6E.76 33B6:1:3BC.76 33B7:1:6D.76 33B8:1:6B.76 33B9:1:6D.76 33BA:1:70.77 33BB:1:6E.77 ",
    "33BC:1:3BC.77 33BD:1:6D.77 33BE:1:6B.77 33BF:1:6D.77 33C0:1:6B.3C9 33C1:1:6D.3C9 33C2:3 ",
    "33C3:1:62.71 33C4:1:63.63 33C5:1:63.64 33C6:1:63.2215.6B.67 33C7:3 33C8:1:64.62 33C9:1:67.79 ",
    "33CA:1:68.61 33CB:1:68.70 33CC:1:69.6E 33CD:1:6B.6B 33CE:1:6B.6D 33CF:1:6B.74 33D0:1:6C.6D ",
    "33D1:1:6C.6E 33D2:1:6C.6F.67 33D3:1:6C.78 33D4:1:6D.62 33D5:1:6D.69.6C 33D6:1:6D.6F.6C ",
    "33D7:1:70.68 33D8:3 33D9:1:70.70.6D 33DA:1:70.72 33DB:1:73.72 33DC:1:73.76 33DD:1:77.62 ",
    "33DE:1:76.2215.6D 33DF:1:61.2215.6D 33E0:1:31.65E5 33E1:1:32.65E5 33E2:1:33.65E5 33E3:1:34.65E5 ",
    "33E4:1:35.65E5 33E5:1:36.65E5 33E6:1:37.65E5 33E7:1:38.65E5 33E8:1:39.65E5 33E9:1:31.30.65E5 ",
    "33EA:1:31.31.65E5 33EB:1:31.32.65E5 33EC:1:31.33.65E5 33ED:1:31.34.65E5 33EE:1:31.35.65E5 ",
    "33EF:1:31.36.65E5 33F0:1:31.37.65E5 33F1:1:31.38.65E5 33F2:1:31.39.65E5 33F3:1:32.30.65E5 ",
    "33F4:1:32.31.65E5 33F5:1:32.32.65E5 33F6:1:32.33.65E5 33F7:1:32.34.65E5 33F8:1:32.35.65E5 ",
    "33F9:1:32.36.65E5 33FA:1:32.37.65E5 33FB:1:32.38.65E5 33FC:1:32.39.65E5 33FD:1:33.30.65E5 ",
    "33FE:1:33.31.65E5 33FF:1:67.61.6C 3400:0 A48D:3 A490:0 A4C7:3 A4D0:0 A62C:3 A640:1:A641 A641:0 ",
    "A642:1:A643 A643:0 A644:1:A645 A645:0 A646:1:A647 A647:0 A648:1:A649 A649:0 A64A:1:A64B A64B:0 ",
    "A64C:1:A64D A64D:0 A64E:1:A64F A64F:0 A650:1:A651 A651:0 A652:1:A653 A653:0 A654:1:A655 A655:0 ",
    "A656:1:A657 A657:0 A658:1:A659 A659:0 A65A:1:A65B A65B:0 A65C:1:A65D A65D:0 A65E:1:A65F A65F:0 ",
    "A660:1:A661 A661:0 A662:1:A663 A663:0 A664:1:A665 A665:0 A666:1:A667 A667:0 A668:1:A669 A669:0 ",
    "A66A:1:A66B A66B:0 A66C:1:A66D A66D:0 A680:1:A681 A681:0 A682:1:A683 A683:0 A684:1:A685 A685:0 ",
    "A686:1:A687 A687:0 A688:1:A689 A689:0 A68A:1:A68B A68B:0 A68C:1:A68D A68D:0 A68E:1:A68F A68F:0 ",
    "A690:1:A691 A691:0 A692:1:A693 A693:0 A694:1:A695 A695:0 A696:1:A697 A697:0 A698:1:A699 A699:0 ",
    "A69A:1:A69B A69B:0 A69C:1:44A A69D:1:44C A69E:0 A6F8:3 A700:0 A722:1:A723 A723:0 A724:1:A725 ",
    "A725:0 A726:1:A727 A727:0 A728:1:A729 A729:0 A72A:1:A72B A72B:0 A72C:1:A72D A72D:0 A72E:1:A72F ",
    "A72F:0 A732:1:A733 A733:0 A734:1:A735 A735:0 A736:1:A737 A737:0 A738:1:A739 A739:0 A73A:1:A73B ",
    "A73B:0 A73C:1:A73D A73D:0 A73E:1:A73F A73F:0 A740:1:A741 A741:0 A742:1:A743 A743:0 A744:1:A745 ",
    "A745:0 A746:1:A747 A747:0 A748:1:A749 A749:0 A74A:1:A74B A74B:0 A74C:1:A74D A74D:0 A74E:1:A74F ",
    "A74F:0 A750:1:A751 A751:0 A752:1:A753 A753:0 A754:1:A755 A755:0 A756:1:A757 A757:0 A758:1:A759 ",
    "A759:0 A75A:1:A75B A75B:0 A75C:1:A75D A75D:0 A75E:1:A75F A75F:0 A760:1:A761 A761:0 A762:1:A763 ",
    "A763:0 A764:1:A765 A765:0 A766:1:A767 A767:0 A768:1:A769 A769:0 A76A:1:A76B A76B:0 A76C:1:A76D ",
    "A76D:0 A76E:1:A76F A76F:0 A770:1:A76F A771:0 A779:1:A77A A77A:0 A77B:1:A77C A77C:0 A77D:1:1D79 ",
    "A77E:1:A77F A77F:0 A780:1:A781 A781:0 A782:1:A783 A783:0 A784:1:A785 A785:0 A786:1:A787 A787:0 ",
    "A78B:1:A78C A78C:0 A78D:1:265 A78E:0 A790:1:A791 A791:0 A792:1:A793 A793:0 A796:1:A797 A797:0 ",
    "A798:1:A799 A799:0 A79A:1:A79B A79B:0 A79C:1:A79D A79D:0 A79E:1:A79F A79F:0 A7A0:1:A7A1 A7A1:0 ",
    "A7A2:1:A7A3 A7A3:0 A7A4:1:A7A5 A7A5:0 A7A6:1:A7A7 A7A7:0 A7A8:1:A7A9 A7A9:0 A7AA:1:266 ",
    "A7AB:1:25C A7AC:1:261 A7AD:1:26C A7AE:1:26A A7AF:0 A7B0:1:29E A7B1:1:287 A7B2:1:29D A7B3:1:AB53 ",
    "A7B4:1:A7B5 A7B5:0 A7B6:1:A7B7 A7B7:0 A7B8:1:A7B9 A7B9:0 A7BA:1:A7BB A7BB:0 A7BC:1:A7BD A7BD:0 ",
    "A7BE:1:A7BF A7BF:0 A7C0:1:A7C1 A7C1:0 A7C2:1:A7C3 A7C3:0 A7C4:1:A794 A7C5:1:282 A7C6:1:1D8E ",
    "A7C7:1:A7C8 A7C8:0 A7C9:1:A7CA A7CA:0 A7CB:1:264 A7CC:1:A7CD A7CD:0 A7CE:1:A7CF A7CF:0 ",
    "A7D0:1:A7D1 A7D1:0 A7D2:1:A7D3 A7D3:0 A7D4:1:A7D5 A7D5:0 A7D6:1:A7D7 A7D7:0 A7D8:1:A7D9 A7D9:0 ",
    "A7DA:1:A7DB A7DB:0 A7DC:1:19B A7DD:3 A7F1:1:73 A7F2:1:63 A7F3:1:66 A7F4:1:71 A7F5:1:A7F6 A7F6:0 ",
    "A7F8:1:127 A7F9:1:153 A7FA:0 A82D:3 A830:0 A83A:3 A840:0 A878:3 A880:0 A8C6:3 A8CE:0 A8DA:3 ",
    "A8E0:0 A954:3 A95F:0 A97D:3 A980:0 A9CE:3 A9CF:0 A9DA:3 A9DE:0 A9FF:3 AA00:0 AA37:3 AA40:0 ",
    "AA4E:3 AA50:0 AA5A:3 AA5C:0 AAC3:3 AADB:0 AAF7:3 AB01:0 AB07:3 AB09:0 AB0F:3 AB11:0 AB17:3 ",
    "AB20:0 AB27:3 AB28:0 AB2F:3 AB30:0 AB5C:1:A727 AB5D:1:AB37 AB5E:1:26B AB5F:1:AB52 AB60:0 ",
    "AB69:1:28D AB6A:0 AB6C:3 AB70:1:13A0 AB71:1:13A1 AB72:1:13A2 AB73:1:13A3 AB74:1:13A4 AB75:1:13A5 ",
    "AB76:1:13A6 AB77:1:13A7 AB78:1:13A8 AB79:1:13A9 AB7A:1:13AA AB7B:1:13AB AB7C:1:13AC AB7D:1:13AD ",
    "AB7E:1:13AE AB7F:1:13AF AB80:1:13B0 AB81:1:13B1 AB82:1:13B2 AB83:1:13B3 AB84:1:13B4 AB85:1:13B5 ",
    "AB86:1:13B6 AB87:1:13B7 AB88:1:13B8 AB89:1:13B9 AB8A:1:13BA AB8B:1:13BB AB8C:1:13BC AB8D:1:13BD ",
    "AB8E:1:13BE AB8F:1:13BF AB90:1:13C0 AB91:1:13C1 AB92:1:13C2 AB93:1:13C3 AB94:1:13C4 AB95:1:13C5 ",
    "AB96:1:13C6 AB97:1:13C7 AB98:1:13C8 AB99:1:13C9 AB9A:1:13CA AB9B:1:13CB AB9C:1:13CC AB9D:1:13CD ",
    "AB9E:1:13CE AB9F:1:13CF ABA0:1:13D0 ABA1:1:13D1 ABA2:1:13D2 ABA3:1:13D3 ABA4:1:13D4 ABA5:1:13D5 ",
    "ABA6:1:13D6 ABA7:1:13D7 ABA8:1:13D8 ABA9:1:13D9 ABAA:1:13DA ABAB:1:13DB ABAC:1:13DC ABAD:1:13DD ",
    "ABAE:1:13DE ABAF:1:13DF ABB0:1:13E0 ABB1:1:13E1 ABB2:1:13E2 ABB3:1:13E3 ABB4:1:13E4 ABB5:1:13E5 ",
    "ABB6:1:13E6 ABB7:1:13E7 ABB8:1:13E8 ABB9:1:13E9 ABBA:1:13EA ABBB:1:13EB ABBC:1:13EC ABBD:1:13ED ",
    "ABBE:1:13EE ABBF:1:13EF ABC0:0 ABEE:3 ABF0:0 ABFA:3 AC00:0 D7A4:3 D7B0:0 D7C7:3 D7CB:0 D7FC:3 ",
    "F900:1:8C48 F901:1:66F4 F902:1:8ECA F903:1:8CC8 F904:1:6ED1 F905:1:4E32 F906:1:53E5 F907:1:9F9C ",
    "F909:1:5951 F90A:1:91D1 F90B:1:5587 F90C:1:5948 F90D:1:61F6 F90E:1:7669 F90F:1:7F85 F910:1:863F ",
    "F911:1:87BA F912:1:88F8 F913:1:908F F914:1:6A02 F915:1:6D1B F916:1:70D9 F917:1:73DE F918:1:843D ",
    "F919:1:916A F91A:1:99F1 F91B:1:4E82 F91C:1:5375 F91D:1:6B04 F91E:1:721B F91F:1:862D F920:1:9E1E ",
    "F921:1:5D50 F922:1:6FEB F923:1:85CD F924:1:8964 F925:1:62C9 F926:1:81D8 F927:1:881F F928:1:5ECA ",
    "F929:1:6717 F92A:1:6D6A F92B:1:72FC F92C:1:90CE F92D:1:4F86 F92E:1:51B7 F92F:1:52DE F930:1:64C4 ",
    "F931:1:6AD3 F932:1:7210 F933:1:76E7 F934:1:8001 F935:1:8606 F936:1:865C F937:1:8DEF F938:1:9732 ",
    "F939:1:9B6F F93A:1:9DFA F93B:1:788C F93C:1:797F F93D:1:7DA0 F93E:1:83C9 F93F:1:9304 F940:1:9E7F ",
    "F941:1:8AD6 F942:1:58DF F943:1:5F04 F944:1:7C60 F945:1:807E F946:1:7262 F947:1:78CA F948:1:8CC2 ",
    "F949:1:96F7 F94A:1:58D8 F94B:1:5C62 F94C:1:6A13 F94D:1:6DDA F94E:1:6F0F F94F:1:7D2F F950:1:7E37 ",
    "F951:1:964B F952:1:52D2 F953:1:808B F954:1:51DC F955:1:51CC F956:1:7A1C F957:1:7DBE F958:1:83F1 ",
    "F959:1:9675 F95A:1:8B80 F95B:1:62CF F95C:1:6A02 F95D:1:8AFE F95E:1:4E39 F95F:1:5BE7 F960:1:6012 ",
    "F961:1:7387 F962:1:7570 F963:1:5317 F964:1:78FB F965:1:4FBF F966:1:5FA9 F967:1:4E0D F968:1:6CCC ",
    "F969:1:6578 F96A:1:7D22 F96B:1:53C3 F96C:1:585E F96D:1:7701 F96E:1:8449 F96F:1:8AAA F970:1:6BBA ",
    "F971:1:8FB0 F972:1:6C88 F973:1:62FE F974:1:82E5 F975:1:63A0 F976:1:7565 F977:1:4EAE F978:1:5169 ",
    "F979:1:51C9 F97A:1:6881 F97B:1:7CE7 F97C:1:826F F97D:1:8AD2 F97E:1:91CF F97F:1:52F5 F980:1:5442 ",
    "F981:1:5973 F982:1:5EEC F983:1:65C5 F984:1:6FFE F985:1:792A F986:1:95AD F987:1:9A6A F988:1:9E97 ",
    "F989:1:9ECE F98A:1:529B F98B:1:66C6 F98C:1:6B77 F98D:1:8F62 F98E:1:5E74 F98F:1:6190 F990:1:6200 ",
    "F991:1:649A F992:1:6F23 F993:1:7149 F994:1:7489 F995:1:79CA F996:1:7DF4 F997:1:806F F998:1:8F26 ",
    "F999:1:84EE F99A:1:9023 F99B:1:934A F99C:1:5217 F99D:1:52A3 F99E:1:54BD F99F:1:70C8 F9A0:1:88C2 ",
    "F9A1:1:8AAA F9A2:1:5EC9 F9A3:1:5FF5 F9A4:1:637B F9A5:1:6BAE F9A6:1:7C3E F9A7:1:7375 F9A8:1:4EE4 ",
    "F9A9:1:56F9 F9AA:1:5BE7 F9AB:1:5DBA F9AC:1:601C F9AD:1:73B2 F9AE:1:7469 F9AF:1:7F9A F9B0:1:8046 ",
    "F9B1:1:9234 F9B2:1:96F6 F9B3:1:9748 F9B4:1:9818 F9B5:1:4F8B F9B6:1:79AE F9B7:1:91B4 F9B8:1:96B8 ",
    "F9B9:1:60E1 F9BA:1:4E86 F9BB:1:50DA F9BC:1:5BEE F9BD:1:5C3F F9BE:1:6599 F9BF:1:6A02 F9C0:1:71CE ",
    "F9C1:1:7642 F9C2:1:84FC F9C3:1:907C F9C4:1:9F8D F9C5:1:6688 F9C6:1:962E F9C7:1:5289 F9C8:1:677B ",
    "F9C9:1:67F3 F9CA:1:6D41 F9CB:1:6E9C F9CC:1:7409 F9CD:1:7559 F9CE:1:786B F9CF:1:7D10 F9D0:1:985E ",
    "F9D1:1:516D F9D2:1:622E F9D3:1:9678 F9D4:1:502B F9D5:1:5D19 F9D6:1:6DEA F9D7:1:8F2A F9D8:1:5F8B ",
    "F9D9:1:6144 F9DA:1:6817 F9DB:1:7387 F9DC:1:9686 F9DD:1:5229 F9DE:1:540F F9DF:1:5C65 F9E0:1:6613 ",
    "F9E1:1:674E F9E2:1:68A8 F9E3:1:6CE5 F9E4:1:7406 F9E5:1:75E2 F9E6:1:7F79 F9E7:1:88CF F9E8:1:88E1 ",
    "F9E9:1:91CC F9EA:1:96E2 F9EB:1:533F F9EC:1:6EBA F9ED:1:541D F9EE:1:71D0 F9EF:1:7498 F9F0:1:85FA ",
    "F9F1:1:96A3 F9F2:1:9C57 F9F3:1:9E9F F9F4:1:6797 F9F5:1:6DCB F9F6:1:81E8 F9F7:1:7ACB F9F8:1:7B20 ",
    "F9F9:1:7C92 F9FA:1:72C0 F9FB:1:7099 F9FC:1:8B58 F9FD:1:4EC0 F9FE:1:8336 F9FF:1:523A FA00:1:5207 ",
    "FA01:1:5EA6 FA02:1:62D3 FA03:1:7CD6 FA04:1:5B85 FA05:1:6D1E FA06:1:66B4 FA07:1:8F3B FA08:1:884C ",
    "FA09:1:964D FA0A:1:898B FA0B:1:5ED3 FA0C:1:5140 FA0D:1:55C0 FA0E:0 FA10:1:585A FA11:0 ",
    "FA12:1:6674 FA13:0 FA15:1:51DE FA16:1:732A FA17:1:76CA FA18:1:793C FA19:1:795E FA1A:1:7965 ",
    "FA1B:1:798F FA1C:1:9756 FA1D:1:7CBE FA1E:1:7FBD FA1F:0 FA20:1:8612 FA21:0 FA22:1:8AF8 FA23:0 ",
    "FA25:1:9038 FA26:1:90FD FA27:0 FA2A:1:98EF FA2B:1:98FC FA2C:1:9928 FA2D:1:9DB4 FA2E:1:90DE ",
    "FA2F:1:96B7 FA30:1:4FAE FA31:1:50E7 FA32:1:514D FA33:1:52C9 FA34:1:52E4 FA35:1:5351 FA36:1:559D ",
    "FA37:1:5606 FA38:1:5668 FA39:1:5840 FA3A:1:58A8 FA3B:1:5C64 FA3C:1:5C6E FA3D:1:6094 FA3E:1:6168 ",
    "FA3F:1:618E FA40:1:61F2 FA41:1:654F FA42:1:65E2 FA43:1:6691 FA44:1:6885 FA45:1:6D77 FA46:1:6E1A ",
    "FA47:1:6F22 FA48:1:716E FA49:1:722B FA4A:1:7422 FA4B:1:7891 FA4C:1:793E FA4D:1:7949 FA4E:1:7948 ",
    "FA4F:1:7950 FA50:1:7956 FA51:1:795D FA52:1:798D FA53:1:798E FA54:1:7A40 FA55:1:7A81 FA56:1:7BC0 ",
    "FA57:1:7DF4 FA58:1:7E09 FA59:1:7E41 FA5A:1:7F72 FA5B:1:8005 FA5C:1:81ED FA5D:1:8279 FA5F:1:8457 ",
    "FA60:1:8910 FA61:1:8996 FA62:1:8B01 FA63:1:8B39 FA64:1:8CD3 FA65:1:8D08 FA66:1:8FB6 FA67:1:9038 ",
    "FA68:1:96E3 FA69:1:97FF FA6A:1:983B FA6B:1:6075 FA6C:1:242EE FA6D:1:8218 FA6E:3 FA70:1:4E26 ",
    "FA71:1:51B5 FA72:1:5168 FA73:1:4F80 FA74:1:5145 FA75:1:5180 FA76:1:52C7 FA77:1:52FA FA78:1:559D ",
    "FA79:1:5555 FA7A:1:5599 FA7B:1:55E2 FA7C:1:585A FA7D:1:58B3 FA7E:1:5944 FA7F:1:5954 FA80:1:5A62 ",
    "FA81:1:5B28 FA82:1:5ED2 FA83:1:5ED9 FA84:1:5F69 FA85:1:5FAD FA86:1:60D8 FA87:1:614E FA88:1:6108 ",
    "FA89:1:618E FA8A:1:6160 FA8B:1:61F2 FA8C:1:6234 FA8D:1:63C4 FA8E:1:641C FA8F:1:6452 FA90:1:6556 ",
    "FA91:1:6674 FA92:1:6717 FA93:1:671B FA94:1:6756 FA95:1:6B79 FA96:1:6BBA FA97:1:6D41 FA98:1:6EDB ",
    "FA99:1:6ECB FA9A:1:6F22 FA9B:1:701E FA9C:1:716E FA9D:1:77A7 FA9E:1:7235 FA9F:1:72AF FAA0:1:732A ",
    "FAA1:1:7471 FAA2:1:7506 FAA3:1:753B FAA4:1:761D FAA5:1:761F FAA6:1:76CA FAA7:1:76DB FAA8:1:76F4 ",
    "FAA9:1:774A FAAA:1:7740 FAAB:1:78CC FAAC:1:7AB1 FAAD:1:7BC0 FAAE:1:7C7B FAAF:1:7D5B FAB0:1:7DF4 ",
    "FAB1:1:7F3E FAB2:1:8005 FAB3:1:8352 FAB4:1:83EF FAB5:1:8779 FAB6:1:8941 FAB7:1:8986 FAB8:1:8996 ",
    "FAB9:1:8ABF FABA:1:8AF8 FABB:1:8ACB FABC:1:8B01 FABD:1:8AFE FABE:1:8AED FABF:1:8B39 FAC0:1:8B8A ",
    "FAC1:1:8D08 FAC2:1:8F38 FAC3:1:9072 FAC4:1:9199 FAC5:1:9276 FAC6:1:967C FAC7:1:96E3 FAC8:1:9756 ",
    "FAC9:1:97DB FACA:1:97FF FACB:1:980B FACC:1:983B FACD:1:9B12 FACE:1:9F9C FACF:1:2284A ",
    "FAD0:1:22844 FAD1:1:233D5 FAD2:1:3B9D FAD3:1:4018 FAD4:1:4039 FAD5:1:25249 FAD6:1:25CD0 ",
    "FAD7:1:27ED3 FAD8:1:9F43 FAD9:1:9F8E FADA:3 FB00:1:66.66 FB01:1:66.69 FB02:1:66.6C ",
    "FB03:1:66.66.69 FB04:1:66.66.6C FB05:1:73.74 FB07:3 FB13:1:574.576 FB14:1:574.565 FB15:1:574.56B ",
    "FB16:1:57E.576 FB17:1:574.56D FB18:3 FB1D:1:5D9.5B4 FB1E:0 FB1F:1:5F2.5B7 FB20:1:5E2 FB21:1:5D0 ",
    "FB22:1:5D3 FB23:1:5D4 FB24:1:5DB FB25:1:5DC FB26:1:5DD FB27:1:5E8 FB28:1:5EA FB29:1:2B ",
    "FB2A:1:5E9.5C1 FB2B:1:5E9.5C2 FB2C:1:5E9.5BC.5C1 FB2D:1:5E9.5BC.5C2 FB2E:1:5D0.5B7 ",
    "FB2F:1:5D0.5B8 FB30:1:5D0.5BC FB31:1:5D1.5BC FB32:1:5D2.5BC FB33:1:5D3.5BC FB34:1:5D4.5BC ",
    "FB35:1:5D5.5BC FB36:1:5D6.5BC FB37:3 FB38:1:5D8.5BC FB39:1:5D9.5BC FB3A:1:5DA.5BC FB3B:1:5DB.5BC ",
    "FB3C:1:5DC.5BC FB3D:3 FB3E:1:5DE.5BC FB3F:3 FB40:1:5E0.5BC FB41:1:5E1.5BC FB42:3 FB43:1:5E3.5BC ",
    "FB44:1:5E4.5BC FB45:3 FB46:1:5E6.5BC FB47:1:5E7.5BC FB48:1:5E8.5BC FB49:1:5E9.5BC FB4A:1:5EA.5BC ",
    "FB4B:1:5D5.5B9 FB4C:1:5D1.5BF FB4D:1:5DB.5BF FB4E:1:5E4.5BF FB4F:1:5D0.5DC FB50:1:671 FB52:1:67B ",
    "FB56:1:67E FB5A:1:680 FB5E:1:67A FB62:1:67F FB66:1:679 FB6A:1:6A4 FB6E:1:6A6 FB72:1:684 ",
    "FB76:1:683 FB7A:1:686 FB7E:1:687 FB82:1:68D FB84:1:68C FB86:1:68E FB88:1:688 FB8A:1:698 ",
    "FB8C:1:691 FB8E:1:6A9 FB92:1:6AF FB96:1:6B3 FB9A:1:6B1 FB9E:1:6BA FBA0:1:6BB FBA4:1:6C0 ",
    "FBA6:1:6C1 FBAA:1:6BE FBAE:1:6D2 FBB0:1:6D3 FBB2:0 FBD3:1:6AD FBD7:1:6C7 FBD9:1:6C6 FBDB:1:6C8 ",
    "FBDD:1:6C7.674 FBDE:1:6CB FBE0:1:6C5 FBE2:1:6C9 FBE4:1:6D0 FBE8:1:649 FBEA:1:626.627 ",
    "FBEC:1:626.6D5 FBEE:1:626.648 FBF0:1:626.6C7 FBF2:1:626.6C6 FBF4:1:626.6C8 FBF6:1:626.6D0 ",
    "FBF9:1:626.649 FBFC:1:6CC FC00:1:626.62C FC01:1:626.62D FC02:1:626.645 FC03:1:626.649 ",
    "FC04:1:626.64A FC05:1:628.62C FC06:1:628.62D FC07:1:628.62E FC08:1:628.645 FC09:1:628.649 ",
    "FC0A:1:628.64A FC0B:1:62A.62C FC0C:1:62A.62D FC0D:1:62A.62E FC0E:1:62A.645 FC0F:1:62A.649 ",
    "FC10:1:62A.64A FC11:1:62B.62C FC12:1:62B.645 FC13:1:62B.649 FC14:1:62B.64A FC15:1:62C.62D ",
    "FC16:1:62C.645 FC17:1:62D.62C FC18:1:62D.645 FC19:1:62E.62C FC1A:1:62E.62D FC1B:1:62E.645 ",
    "FC1C:1:633.62C FC1D:1:633.62D FC1E:1:633.62E FC1F:1:633.645 FC20:1:635.62D FC21:1:635.645 ",
    "FC22:1:636.62C FC23:1:636.62D FC24:1:636.62E FC25:1:636.645 FC26:1:637.62D FC27:1:637.645 ",
    "FC28:1:638.645 FC29:1:639.62C FC2A:1:639.645 FC2B:1:63A.62C FC2C:1:63A.645 FC2D:1:641.62C ",
    "FC2E:1:641.62D FC2F:1:641.62E FC30:1:641.645 FC31:1:641.649 FC32:1:641.64A FC33:1:642.62D ",
    "FC34:1:642.645 FC35:1:642.649 FC36:1:642.64A FC37:1:643.627 FC38:1:643.62C FC39:1:643.62D ",
    "FC3A:1:643.62E FC3B:1:643.644 FC3C:1:643.645 FC3D:1:643.649 FC3E:1:643.64A FC3F:1:644.62C ",
    "FC40:1:644.62D FC41:1:644.62E FC42:1:644.645 FC43:1:644.649 FC44:1:644.64A FC45:1:645.62C ",
    "FC46:1:645.62D FC47:1:645.62E FC48:1:645.645 FC49:1:645.649 FC4A:1:645.64A FC4B:1:646.62C ",
    "FC4C:1:646.62D FC4D:1:646.62E FC4E:1:646.645 FC4F:1:646.649 FC50:1:646.64A FC51:1:647.62C ",
    "FC52:1:647.645 FC53:1:647.649 FC54:1:647.64A FC55:1:64A.62C FC56:1:64A.62D FC57:1:64A.62E ",
    "FC58:1:64A.645 FC59:1:64A.649 FC5A:1:64A.64A FC5B:1:630.670 FC5C:1:631.670 FC5D:1:649.670 ",
    "FC5E:1:20.64C.651 FC5F:1:20.64D.651 FC60:1:20.64E.651 FC61:1:20.64F.651 FC62:1:20.650.651 ",
    "FC63:1:20.651.670 FC64:1:626.631 FC65:1:626.632 FC66:1:626.645 FC67:1:626.646 FC68:1:626.649 ",
    "FC69:1:626.64A FC6A:1:628.631 FC6B:1:628.632 FC6C:1:628.645 FC6D:1:628.646 FC6E:1:628.649 ",
    "FC6F:1:628.64A FC70:1:62A.631 FC71:1:62A.632 FC72:1:62A.645 FC73:1:62A.646 FC74:1:62A.649 ",
    "FC75:1:62A.64A FC76:1:62B.631 FC77:1:62B.632 FC78:1:62B.645 FC79:1:62B.646 FC7A:1:62B.649 ",
    "FC7B:1:62B.64A FC7C:1:641.649 FC7D:1:641.64A FC7E:1:642.649 FC7F:1:642.64A FC80:1:643.627 ",
    "FC81:1:643.644 FC82:1:643.645 FC83:1:643.649 FC84:1:643.64A FC85:1:644.645 FC86:1:644.649 ",
    "FC87:1:644.64A FC88:1:645.627 FC89:1:645.645 FC8A:1:646.631 FC8B:1:646.632 FC8C:1:646.645 ",
    "FC8D:1:646.646 FC8E:1:646.649 FC8F:1:646.64A FC90:1:649.670 FC91:1:64A.631 FC92:1:64A.632 ",
    "FC93:1:64A.645 FC94:1:64A.646 FC95:1:64A.649 FC96:1:64A.64A FC97:1:626.62C FC98:1:626.62D ",
    "FC99:1:626.62E FC9A:1:626.645 FC9B:1:626.647 FC9C:1:628.62C FC9D:1:628.62D FC9E:1:628.62E ",
    "FC9F:1:628.645 FCA0:1:628.647 FCA1:1:62A.62C FCA2:1:62A.62D FCA3:1:62A.62E FCA4:1:62A.645 ",
    "FCA5:1:62A.647 FCA6:1:62B.645 FCA7:1:62C.62D FCA8:1:62C.645 FCA9:1:62D.62C FCAA:1:62D.645 ",
    "FCAB:1:62E.62C FCAC:1:62E.645 FCAD:1:633.62C FCAE:1:633.62D FCAF:1:633.62E FCB0:1:633.645 ",
    "FCB1:1:635.62D FCB2:1:635.62E FCB3:1:635.645 FCB4:1:636.62C FCB5:1:636.62D FCB6:1:636.62E ",
    "FCB7:1:636.645 FCB8:1:637.62D FCB9:1:638.645 FCBA:1:639.62C FCBB:1:639.645 FCBC:1:63A.62C ",
    "FCBD:1:63A.645 FCBE:1:641.62C FCBF:1:641.62D FCC0:1:641.62E FCC1:1:641.645 FCC2:1:642.62D ",
    "FCC3:1:642.645 FCC4:1:643.62C FCC5:1:643.62D FCC6:1:643.62E FCC7:1:643.644 FCC8:1:643.645 ",
    "FCC9:1:644.62C FCCA:1:644.62D FCCB:1:644.62E FCCC:1:644.645 FCCD:1:644.647 FCCE:1:645.62C ",
    "FCCF:1:645.62D FCD0:1:645.62E FCD1:1:645.645 FCD2:1:646.62C FCD3:1:646.62D FCD4:1:646.62E ",
    "FCD5:1:646.645 FCD6:1:646.647 FCD7:1:647.62C FCD8:1:647.645 FCD9:1:647.670 FCDA:1:64A.62C ",
    "FCDB:1:64A.62D FCDC:1:64A.62E FCDD:1:64A.645 FCDE:1:64A.647 FCDF:1:626.645 FCE0:1:626.647 ",
    "FCE1:1:628.645 FCE2:1:628.647 FCE3:1:62A.645 FCE4:1:62A.647 FCE5:1:62B.645 FCE6:1:62B.647 ",
    "FCE7:1:633.645 FCE8:1:633.647 FCE9:1:634.645 FCEA:1:634.647 FCEB:1:643.644 FCEC:1:643.645 ",
    "FCED:1:644.645 FCEE:1:646.645 FCEF:1:646.647 FCF0:1:64A.645 FCF1:1:64A.647 FCF2:1:640.64E.651 ",
    "FCF3:1:640.64F.651 FCF4:1:640.650.651 FCF5:1:637.649 FCF6:1:637.64A FCF7:1:639.649 ",
    "FCF8:1:639.64A FCF9:1:63A.649 FCFA:1:63A.64A FCFB:1:633.649 FCFC:1:633.64A FCFD:1:634.649 ",
    "FCFE:1:634.64A FCFF:1:62D.649 FD00:1:62D.64A FD01:1:62C.649 FD02:1:62C.64A FD03:1:62E.649 ",
    "FD04:1:62E.64A FD05:1:635.649 FD06:1:635.64A FD07:1:636.649 FD08:1:636.64A FD09:1:634.62C ",
    "FD0A:1:634.62D FD0B:1:634.62E FD0C:1:634.645 FD0D:1:634.631 FD0E:1:633.631 FD0F:1:635.631 ",
    "FD10:1:636.631 FD11:1:637.649 FD12:1:637.64A FD13:1:639.649 FD14:1:639.64A FD15:1:63A.649 ",
    "FD16:1:63A.64A FD17:1:633.649 FD18:1:633.64A FD19:1:634.649 FD1A:1:634.64A FD1B:1:62D.649 ",
    "FD1C:1:62D.64A FD1D:1:62C.649 FD1E:1:62C.64A FD1F:1:62E.649 FD20:1:62E.64A FD21:1:635.649 ",
    "FD22:1:635.64A FD23:1:636.649 FD24:1:636.64A FD25:1:634.62C FD26:1:634.62D FD27:1:634.62E ",
    "FD28:1:634.645 FD29:1:634.631 FD2A:1:633.631 FD2B:1:635.631 FD2C:1:636.631 FD2D:1:634.62C ",
    "FD2E:1:634.62D FD2F:1:634.62E FD30:1:634.645 FD31:1:633.647 FD32:1:634.647 FD33:1:637.645 ",
    "FD34:1:633.62C FD35:1:633.62D FD36:1:633.62E FD37:1:634.62C FD38:1:634.62D FD39:1:634.62E ",
    "FD3A:1:637.645 FD3B:1:638.645 FD3C:1:627.64B FD3E:0 FD50:1:62A.62C.645 FD51:1:62A.62D.62C ",
    "FD53:1:62A.62D.645 FD54:1:62A.62E.645 FD55:1:62A.645.62C FD56:1:62A.645.62D FD57:1:62A.645.62E ",
    "FD58:1:62C.645.62D FD5A:1:62D.645.64A FD5B:1:62D.645.649 FD5C:1:633.62D.62C FD5D:1:633.62C.62D ",
    "FD5E:1:633.62C.649 FD5F:1:633.645.62D FD61:1:633.645.62C FD62:1:633.645.645 FD64:1:635.62D.62D ",
    "FD66:1:635.645.645 FD67:1:634.62D.645 FD69:1:634.62C.64A FD6A:1:634.645.62E FD6C:1:634.645.645 ",
    "FD6E:1:636.62D.649 FD6F:1:636.62E.645 FD71:1:637.645.62D FD73:1:637.645.645 FD74:1:637.645.64A ",
    "FD75:1:639.62C.645 FD76:1:639.645.645 FD78:1:639.645.649 FD79:1:63A.645.645 FD7A:1:63A.645.64A ",
    "FD7B:1:63A.645.649 FD7C:1:641.62E.645 FD7E:1:642.645.62D FD7F:1:642.645.645 FD80:1:644.62D.645 ",
    "FD81:1:644.62D.64A FD82:1:644.62D.649 FD83:1:644.62C.62C FD85:1:644.62E.645 FD87:1:644.645.62D ",
    "FD89:1:645.62D.62C FD8A:1:645.62D.645 FD8B:1:645.62D.64A FD8C:1:645.62C.62D FD8D:1:645.62C.645 ",
    "FD8E:1:645.62E.62C FD8F:1:645.62E.645 FD90:0 FD92:1:645.62C.62E FD93:1:647.645.62C ",
    "FD94:1:647.645.645 FD95:1:646.62D.645 FD96:1:646.62D.649 FD97:1:646.62C.645 FD99:1:646.62C.649 ",
    "FD9A:1:646.645.64A FD9B:1:646.645.649 FD9C:1:64A.645.645 FD9E:1:628.62E.64A FD9F:1:62A.62C.64A ",
    "FDA0:1:62A.62C.649 FDA1:1:62A.62E.64A FDA2:1:62A.62E.649 FDA3:1:62A.645.64A FDA4:1:62A.645.649 ",
    "FDA5:1:62C.645.64A FDA6:1:62C.62D.649 FDA7:1:62C.645.649 FDA8:1:633.62E.649 FDA9:1:635.62D.64A ",
    "FDAA:1:634.62D.64A FDAB:1:636.62D.64A FDAC:1:644.62C.64A FDAD:1:644.645.64A FDAE:1:64A.62D.64A ",
    "FDAF:1:64A.62C.64A FDB0:1:64A.645.64A FDB1:1:645.645.64A FDB2:1:642.645.64A FDB3:1:646.62D.64A ",
    "FDB4:1:642.645.62D FDB5:1:644.62D.645 FDB6:1:639.645.64A FDB7:1:643.645.64A FDB8:1:646.62C.62D ",
    "FDB9:1:645.62E.64A FDBA:1:644.62C.645 FDBB:1:643.645.645 FDBC:1:644.62C.645 FDBD:1:646.62C.62D ",
    "FDBE:1:62C.62D.64A FDBF:1:62D.62C.64A FDC0:1:645.62C.64A FDC1:1:641.645.64A FDC2:1:628.62D.64A ",
    "FDC3:1:643.645.645 FDC4:1:639.62C.645 FDC5:1:635.645.645 FDC6:1:633.62E.64A FDC7:1:646.62C.64A ",
    "FDC8:0 FDD0:3 FDF0:1:635.644.6D2 FDF1:1:642.644.6D2 FDF2:1:627.644.644.647 ",
    "FDF3:1:627.643.628.631 FDF4:1:645.62D.645.62F FDF5:1:635.644.639.645 FDF6:1:631.633.648.644 ",
    "FDF7:1:639.644.64A.647 FDF8:1:648.633.644.645 FDF9:1:635.644.649 ",
    "FDFA:1:635.644.649.20.627.644.644.647.20.639.644.64A.647.20.648.633.644.645 ",
    "FDFB:1:62C.644.20.62C.644.627.644.647 FDFC:1:631.6CC.627.644 FDFD:0 FE00:2 FE10:1:2C FE11:1:3001 ",
    "FE12:3 FE13:1:3A FE14:1:3B FE15:1:21 FE16:1:3F FE17:1:3016 FE18:1:3017 FE19:3 FE20:0 FE30:3 ",
    "FE31:1:2014 FE32:1:2013 FE33:1:5F FE35:1:28 FE36:1:29 FE37:1:7B FE38:1:7D FE39:1:3014 ",
    "FE3A:1:3015 FE3B:1:3010 FE3C:1:3011 FE3D:1:300A FE3E:1:300B FE3F:1:3008 FE40:1:3009 FE41:1:300C ",
    "FE42:1:300D FE43:1:300E FE44:1:300F FE45:0 FE47:1:5B FE48:1:5D FE49:1:20.305 FE4D:1:5F FE50:1:2C ",
    "FE51:1:3001 FE52:3 FE54:1:3B FE55:1:3A FE56:1:3F FE57:1:21 FE58:1:2014 FE59:1:28 FE5A:1:29 ",
    "FE5B:1:7B FE5C:1:7D FE5D:1:3014 FE5E:1:3015 FE5F:1:23 FE60:1:26 FE61:1:2A FE62:1:2B FE63:1:2D ",
    "FE64:1:3C FE65:1:3E FE66:1:3D FE67:3 FE68:1:5C FE69:1:24 FE6A:1:25 FE6B:1:40 FE6C:3 ",
    "FE70:1:20.64B FE71:1:640.64B FE72:1:20.64C FE73:0 FE74:1:20.64D FE75:3 FE76:1:20.64E ",
    "FE77:1:640.64E FE78:1:20.64F FE79:1:640.64F FE7A:1:20.650 FE7B:1:640.650 FE7C:1:20.651 ",
    "FE7D:1:640.651 FE7E:1:20.652 FE7F:1:640.652 FE80:1:621 FE81:1:622 FE83:1:623 FE85:1:624 ",
    "FE87:1:625 FE89:1:626 FE8D:1:627 FE8F:1:628 FE93:1:629 FE95:1:62A FE99:1:62B FE9D:1:62C ",
    "FEA1:1:62D FEA5:1:62E FEA9:1:62F FEAB:1:630 FEAD:1:631 FEAF:1:632 FEB1:1:633 FEB5:1:634 ",
    "FEB9:1:635 FEBD:1:636 FEC1:1:637 FEC5:1:638 FEC9:1:639 FECD:1:63A FED1:1:641 FED5:1:642 ",
    "FED9:1:643 FEDD:1:644 FEE1:1:645 FEE5:1:646 FEE9:1:647 FEED:1:648 FEEF:1:649 FEF1:1:64A ",
    "FEF5:1:644.622 FEF7:1:644.623 FEF9:1:644.625 FEFB:1:644.627 FEFD:3 FEFF:2 FF00:3 FF01:1:21 ",
    "FF02:1:22 FF03:1:23 FF04:1:24 FF05:1:25 FF06:1:26 FF07:1:27 FF08:1:28 FF09:1:29 FF0A:1:2A ",
    "FF0B:1:2B FF0C:1:2C FF0D:1:2D FF0E:1:2E FF0F:1:2F FF10:1:30 FF11:1:31 FF12:1:32 FF13:1:33 ",
    "FF14:1:34 FF15:1:35 FF16:1:36 FF17:1:37 FF18:1:38 FF19:1:39 FF1A:1:3A FF1B:1:3B FF1C:1:3C ",
    "FF1D:1:3D FF1E:1:3E FF1F:1:3F FF20:1:40 FF21:1:61 FF22:1:62 FF23:1:63 FF24:1:64 FF25:1:65 ",
    "FF26:1:66 FF27:1:67 FF28:1:68 FF29:1:69 FF2A:1:6A FF2B:1:6B FF2C:1:6C FF2D:1:6D FF2E:1:6E ",
    "FF2F:1:6F FF30:1:70 FF31:1:71 FF32:1:72 FF33:1:73 FF34:1:74 FF35:1:75 FF36:1:76 FF37:1:77 ",
    "FF38:1:78 FF39:1:79 FF3A:1:7A FF3B:1:5B FF3C:1:5C FF3D:1:5D FF3E:1:5E FF3F:1:5F FF40:1:60 ",
    "FF41:1:61 FF42:1:62 FF43:1:63 FF44:1:64 FF45:1:65 FF46:1:66 FF47:1:67 FF48:1:68 FF49:1:69 ",
    "FF4A:1:6A FF4B:1:6B FF4C:1:6C FF4D:1:6D FF4E:1:6E FF4F:1:6F FF50:1:70 FF51:1:71 FF52:1:72 ",
    "FF53:1:73 FF54:1:74 FF55:1:75 FF56:1:76 FF57:1:77 FF58:1:78 FF59:1:79 FF5A:1:7A FF5B:1:7B ",
    "FF5C:1:7C FF5D:1:7D FF5E:1:7E FF5F:1:2985 FF60:1:2986 FF61:1:2E FF62:1:300C FF63:1:300D ",
    "FF64:1:3001 FF65:1:30FB FF66:1:30F2 FF67:1:30A1 FF68:1:30A3 FF69:1:30A5 FF6A:1:30A7 FF6B:1:30A9 ",
    "FF6C:1:30E3 FF6D:1:30E5 FF6E:1:30E7 FF6F:1:30C3 FF70:1:30FC FF71:1:30A2 FF72:1:30A4 FF73:1:30A6 ",
    "FF74:1:30A8 FF75:1:30AA FF76:1:30AB FF77:1:30AD FF78:1:30AF FF79:1:30B1 FF7A:1:30B3 FF7B:1:30B5 ",
    "FF7C:1:30B7 FF7D:1:30B9 FF7E:1:30BB FF7F:1:30BD FF80:1:30BF FF81:1:30C1 FF82:1:30C4 FF83:1:30C6 ",
    "FF84:1:30C8 FF85:1:30CA FF86:1:30CB FF87:1:30CC FF88:1:30CD FF89:1:30CE FF8A:1:30CF FF8B:1:30D2 ",
    "FF8C:1:30D5 FF8D:1:30D8 FF8E:1:30DB FF8F:1:30DE FF90:1:30DF FF91:1:30E0 FF92:1:30E1 FF93:1:30E2 ",
    "FF94:1:30E4 FF95:1:30E6 FF96:1:30E8 FF97:1:30E9 FF98:1:30EA FF99:1:30EB FF9A:1:30EC FF9B:1:30ED ",
    "FF9C:1:30EF FF9D:1:30F3 FF9E:1:3099 FF9F:1:309A FFA0:2 FFA1:1:1100 FFA2:1:1101 FFA3:1:11AA ",
    "FFA4:1:1102 FFA5:1:11AC FFA6:1:11AD FFA7:1:1103 FFA8:1:1104 FFA9:1:1105 FFAA:1:11B0 FFAB:1:11B1 ",
    "FFAC:1:11B2 FFAD:1:11B3 FFAE:1:11B4 FFAF:1:11B5 FFB0:1:111A FFB1:1:1106 FFB2:1:1107 FFB3:1:1108 ",
    "FFB4:1:1121 FFB5:1:1109 FFB6:1:110A FFB7:1:110B FFB8:1:110C FFB9:1:110D FFBA:1:110E FFBB:1:110F ",
    "FFBC:1:1110 FFBD:1:1111 FFBE:1:1112 FFBF:3 FFC2:1:1161 FFC3:1:1162 FFC4:1:1163 FFC5:1:1164 ",
    "FFC6:1:1165 FFC7:1:1166 FFC8:3 FFCA:1:1167 FFCB:1:1168 FFCC:1:1169 FFCD:1:116A FFCE:1:116B ",
    "FFCF:1:116C FFD0:3 FFD2:1:116D FFD3:1:116E FFD4:1:116F FFD5:1:1170 FFD6:1:1171 FFD7:1:1172 ",
    "FFD8:3 FFDA:1:1173 FFDB:1:1174 FFDC:1:1175 FFDD:3 FFE0:1:A2 FFE1:1:A3 FFE2:1:AC FFE3:1:20.304 ",
    "FFE4:1:A6 FFE5:1:A5 FFE6:1:20A9 FFE7:3 FFE8:1:2502 FFE9:1:2190 FFEA:1:2191 FFEB:1:2192 ",
    "FFEC:1:2193 FFED:1:25A0 FFEE:1:25CB FFEF:3 10000:0 1000C:3 1000D:0 10027:3 10028:0 1003B:3 ",
    "1003C:0 1003E:3 1003F:0 1004E:3 10050:0 1005E:3 10080:0 100FB:3 10100:0 10103:3 10107:0 10134:3 ",
    "10137:0 1018F:3 10190:0 1019D:3 101A0:0 101A1:3 101D0:0 101FE:3 10280:0 1029D:3 102A0:0 102D1:3 ",
    "102E0:0 102FC:3 10300:0 10324:3 1032D:0 1034B:3 10350:0 1037B:3 10380:0 1039E:3 1039F:0 103C4:3 ",
    "103C8:0 103D6:3 10400:1:10428 10401:1:10429 10402:1:1042A 10403:1:1042B 10404:1:1042C ",
    "10405:1:1042D 10406:1:1042E 10407:1:1042F 10408:1:10430 10409:1:10431 1040A:1:10432 ",
    "1040B:1:10433 1040C:1:10434 1040D:1:10435 1040E:1:10436 1040F:1:10437 10410:1:10438 ",
    "10411:1:10439 10412:1:1043A 10413:1:1043B 10414:1:1043C 10415:1:1043D 10416:1:1043E ",
    "10417:1:1043F 10418:1:10440 10419:1:10441 1041A:1:10442 1041B:1:10443 1041C:1:10444 ",
    "1041D:1:10445 1041E:1:10446 1041F:1:10447 10420:1:10448 10421:1:10449 10422:1:1044A ",
    "10423:1:1044B 10424:1:1044C 10425:1:1044D 10426:1:1044E 10427:1:1044F 10428:0 1049E:3 104A0:0 ",
    "104AA:3 104B0:1:104D8 104B1:1:104D9 104B2:1:104DA 104B3:1:104DB 104B4:1:104DC 104B5:1:104DD ",
    "104B6:1:104DE 104B7:1:104DF 104B8:1:104E0 104B9:1:104E1 104BA:1:104E2 104BB:1:104E3 ",
    "104BC:1:104E4 104BD:1:104E5 104BE:1:104E6 104BF:1:104E7 104C0:1:104E8 104C1:1:104E9 ",
    "104C2:1:104EA 104C3:1:104EB 104C4:1:104EC 104C5:1:104ED 104C6:1:104EE 104C7:1:104EF ",
    "104C8:1:104F0 104C9:1:104F1 104CA:1:104F2 104CB:1:104F3 104CC:1:104F4 104CD:1:104F5 ",
    "104CE:1:104F6 104CF:1:104F7 104D0:1:104F8 104D1:1:104F9 104D2:1:104FA 104D3:1:104FB 104D4:3 ",
    "104D8:0 104FC:3 10500:0 10528:3 10530:0 10564:3 1056F:0 10570:1:10597 10571:1:10598 ",
    "10572:1:10599 10573:1:1059A 10574:1:1059B 10575:1:1059C 10576:1:1059D 10577:1:1059E ",
    "10578:1:1059F 10579:1:105A0 1057A:1:105A1 1057B:3 1057C:1:105A3 1057D:1:105A4 1057E:1:105A5 ",
    "1057F:1:105A6 10580:1:105A7 10581:1:105A8 10582:1:105A9 10583:1:105AA 10584:1:105AB ",
    "10585:1:105AC 10586:1:105AD 10587:1:105AE 10588:1:105AF 10589:1:105B0 1058A:1:105B1 1058B:3 ",
    "1058C:1:105B3 1058D:1:105B4 1058E:1:105B5 1058F:1:105B6 10590:1:105B7 10591:1:105B8 ",
    "10592:1:105B9 10593:3 10594:1:105BB 10595:1:105BC 10596:3 10597:0 105A2:3 105A3:0 105B2:3 ",
    "105B3:0 105BA:3 105BB:0 105BD:3 105C0:0 105F4:3 10600:0 10737:3 10740:0 10756:3 10760:0 10768:3 ",
    "10780:0 10781:1:2D0 10782:1:2D1 10783:1:E6 10784:1:299 10785:1:253 10786:3 10787:1:2A3 ",
    "10788:1:AB66 10789:1:2A5 1078A:1:2A4 1078B:1:256 1078C:1:257 1078D:1:1D91 1078E:1:258 ",
    "1078F:1:25E 10790:1:2A9 10791:1:264 10792:1:262 10793:1:260 10794:1:29B 10795:1:127 10796:1:29C ",
    "10797:1:267 10798:1:284 10799:1:2AA 1079A:1:2AB 1079B:1:26C 1079C:1:1DF04 1079D:1:A78E ",
    "1079E:1:26E 1079F:1:1DF05 107A0:1:28E 107A1:1:1DF06 107A2:1:F8 107A3:1:276 107A4:1:277 ",
    "107A5:1:71 107A6:1:27A 107A7:1:1DF08 107A8:1:27D 107A9:1:27E 107AA:1:280 107AB:1:2A8 107AC:1:2A6 ",
    "107AD:1:AB67 107AE:1:2A7 107AF:1:288 107B0:1:2C71 107B1:3 107B2:1:28F 107B3:1:2A1 107B4:1:2A2 ",
    "107B5:1:298 107B6:1:1C0 107B7:1:1C1 107B8:1:1C2 107B9:1:1DF0A 107BA:1:1DF1E 107BB:3 10800:0 ",
    "10806:3 10808:0 10809:3 1080A:0 10836:3 10837:0 10839:3 1083C:0 1083D:3 1083F:0 10856:3 10857:0 ",
    "1089F:3 108A7:0 108B0:3 108E0:0 108F3:3 108F4:0 108F6:3 108FB:0 1091C:3 1091F:0 1093A:3 1093F:0 ",
    "1095A:3 10980:0 109B8:3 109BC:0 109D0:3 109D2:0 10A04:3 10A05:0 10A07:3 10A0C:0 10A14:3 10A15:0 ",
    "10A18:3 10A19:0 10A36:3 10A38:0 10A3B:3 10A3F:0 10A49:3 10A50:0 10A59:3 10A60:0 10AA0:3 10AC0:0 ",
    "10AE7:3 10AEB:0 10AF7:3 10B00:0 10B36:3 10B39:0 10B56:3 10B58:0 10B73:3 10B78:0 10B92:3 10B99:0 ",
    "10B9D:3 10BA9:0 10BB0:3 10C00:0 10C49:3 10C80:1:10CC0 10C81:1:10CC1 10C82:1:10CC2 10C83:1:10CC3 ",
    "10C84:1:10CC4 10C85:1:10CC5 10C86:1:10CC6 10C87:1:10CC7 10C88:1:10CC8 10C89:1:10CC9 ",
    "10C8A:1:10CCA 10C8B:1:10CCB 10C8C:1:10CCC 10C8D:1:10CCD 10C8E:1:10CCE 10C8F:1:10CCF ",
    "10C90:1:10CD0 10C91:1:10CD1 10C92:1:10CD2 10C93:1:10CD3 10C94:1:10CD4 10C95:1:10CD5 ",
    "10C96:1:10CD6 10C97:1:10CD7 10C98:1:10CD8 10C99:1:10CD9 10C9A:1:10CDA 10C9B:1:10CDB ",
    "10C9C:1:10CDC 10C9D:1:10CDD 10C9E:1:10CDE 10C9F:1:10CDF 10CA0:1:10CE0 10CA1:1:10CE1 ",
    "10CA2:1:10CE2 10CA3:1:10CE3 10CA4:1:10CE4 10CA5:1:10CE5 10CA6:1:10CE6 10CA7:1:10CE7 ",
    "10CA8:1:10CE8 10CA9:1:10CE9 10CAA:1:10CEA 10CAB:1:10CEB 10CAC:1:10CEC 10CAD:1:10CED ",
    "10CAE:1:10CEE 10CAF:1:10CEF 10CB0:1:10CF0 10CB1:1:10CF1 10CB2:1:10CF2 10CB3:3 10CC0:0 10CF3:3 ",
    "10CFA:0 10D28:3 10D30:0 10D3A:3 10D40:0 10D50:1:10D70 10D51:1:10D71 10D52:1:10D72 10D53:1:10D73 ",
    "10D54:1:10D74 10D55:1:10D75 10D56:1:10D76 10D57:1:10D77 10D58:1:10D78 10D59:1:10D79 ",
    "10D5A:1:10D7A 10D5B:1:10D7B 10D5C:1:10D7C 10D5D:1:10D7D 10D5E:1:10D7E 10D5F:1:10D7F ",
    "10D60:1:10D80 10D61:1:10D81 10D62:1:10D82 10D63:1:10D83 10D64:1:10D84 10D65:1:10D85 10D66:3 ",
    "10D69:0 10D86:3 10D8E:0 10D90:3 10E60:0 10E7F:3 10E80:0 10EAA:3 10EAB:0 10EAE:3 10EB0:0 10EB2:3 ",
    "10EC2:0 10EC8:3 10ED0:0 10ED9:3 10EFA:0 10F28:3 10F30:0 10F5A:3 10F70:0 10F8A:3 10FB0:0 10FCC:3 ",
    "10FE0:0 10FF7:3 11000:0 1104E:3 11052:0 11076:3 1107F:0 110BD:3 110BE:0 110C3:3 110D0:0 110E9:3 ",
    "110F0:0 110FA:3 11100:0 11135:3 11136:0 11148:3 11150:0 11177:3 11180:0 111E0:3 111E1:0 111F5:3 ",
    "11200:0 11212:3 11213:0 11242:3 11280:0 11287:3 11288:0 11289:3 1128A:0 1128E:3 1128F:0 1129E:3 ",
    "1129F:0 112AA:3 112B0:0 112EB:3 112F0:0 112FA:3 11300:0 11304:3 11305:0 1130D:3 1130F:0 11311:3 ",
    "11313:0 11329:3 1132A:0 11331:3 11332:0 11334:3 11335:0 1133A:3 1133B:0 11345:3 11347:0 11349:3 ",
    "1134B:0 1134E:3 11350:0 11351:3 11357:0 11358:3 1135D:0 11364:3 11366:0 1136D:3 11370:0 11375:3 ",
    "11380:0 1138A:3 1138B:0 1138C:3 1138E:0 1138F:3 11390:0 113B6:3 113B7:0 113C1:3 113C2:0 113C3:3 ",
    "113C5:0 113C6:3 113C7:0 113CB:3 113CC:0 113D6:3 113D7:0 113D9:3 113E1:0 113E3:3 11400:0 1145C:3 ",
    "1145D:0 11462:3 11480:0 114C8:3 114D0:0 114DA:3 11580:0 115B6:3 115B8:0 115DE:3 11600:0 11645:3 ",
    "11650:0 1165A:3 11660:0 1166D:3 11680:0 116BA:3 116C0:0 116CA:3 116D0:0 116E4:3 11700:0 1171B:3 ",
    "1171D:0 1172C:3 11730:0 11747:3 11800:0 1183C:3 118A0:1:118C0 118A1:1:118C1 118A2:1:118C2 ",
    "118A3:1:118C3 118A4:1:118C4 118A5:1:118C5 118A6:1:118C6 118A7:1:118C7 118A8:1:118C8 ",
    "118A9:1:118C9 118AA:1:118CA 118AB:1:118CB 118AC:1:118CC 118AD:1:118CD 118AE:1:118CE ",
    "118AF:1:118CF 118B0:1:118D0 118B1:1:118D1 118B2:1:118D2 118B3:1:118D3 118B4:1:118D4 ",
    "118B5:1:118D5 118B6:1:118D6 118B7:1:118D7 118B8:1:118D8 118B9:1:118D9 118BA:1:118DA ",
    "118BB:1:118DB 118BC:1:118DC 118BD:1:118DD 118BE:1:118DE 118BF:1:118DF 118C0:0 118F3:3 118FF:0 ",
    "11907:3 11909:0 1190A:3 1190C:0 11914:3 11915:0 11917:3 11918:0 11936:3 11937:0 11939:3 1193B:0 ",
    "11947:3 11950:0 1195A:3 119A0:0 119A8:3 119AA:0 119D8:3 119DA:0 119E5:3 11A00:0 11A48:3 11A50:0 ",
    "11AA3:3 11AB0:0 11AF9:3 11B00:0 11B0A:3 11B60:0 11B68:3 11BC0:0 11BE2:3 11BF0:0 11BFA:3 11C00:0 ",
    "11C09:3 11C0A:0 11C37:3 11C38:0 11C46:3 11C50:0 11C6D:3 11C70:0 11C90:3 11C92:0 11CA8:3 11CA9:0 ",
    "11CB7:3 11D00:0 11D07:3 11D08:0 11D0A:3 11D0B:0 11D37:3 11D3A:0 11D3B:3 11D3C:0 11D3E:3 11D3F:0 ",
    "11D48:3 11D50:0 11D5A:3 11D60:0 11D66:3 11D67:0 11D69:3 11D6A:0 11D8F:3 11D90:0 11D92:3 11D93:0 ",
    "11D99:3 11DA0:0 11DAA:3 11DB0:0 11DDC:3 11DE0:0 11DEA:3 11EE0:0 11EF9:3 11F00:0 11F11:3 11F12:0 ",
    "11F3B:3 11F3E:0 11F5B:3 11FB0:0 11FB1:3 11FC0:0 11FF2:3 11FFF:0 1239A:3 12400:0 1246F:3 12470:0 ",
    "12475:3 12480:0 12544:3 12F90:0 12FF3:3 13000:0 13430:3 13440:0 13456:3 13460:0 143FB:3 14400:0 ",
    "14647:3 16100:0 1613A:3 16800:0 16A39:3 16A40:0 16A5F:3 16A60:0 16A6A:3 16A6E:0 16ABF:3 16AC0:0 ",
    "16ACA:3 16AD0:0 16AEE:3 16AF0:0 16AF6:3 16B00:0 16B46:3 16B50:0 16B5A:3 16B5B:0 16B62:3 16B63:0 ",
    "16B78:3 16B7D:0 16B90:3 16D40:0 16D7A:3 16E40:1:16E60 16E41:1:16E61 16E42:1:16E62 16E43:1:16E63 ",
    "16E44:1:16E64 16E45:1:16E65 16E46:1:16E66 16E47:1:16E67 16E48:1:16E68 16E49:1:16E69 ",
    "16E4A:1:16E6A 16E4B:1:16E6B 16E4C:1:16E6C 16E4D:1:16E6D 16E4E:1:16E6E 16E4F:1:16E6F ",
    "16E50:1:16E70 16E51:1:16E71 16E52:1:16E72 16E53:1:16E73 16E54:1:16E74 16E55:1:16E75 ",
    "16E56:1:16E76 16E57:1:16E77 16E58:1:16E78 16E59:1:16E79 16E5A:1:16E7A 16E5B:1:16E7B ",
    "16E5C:1:16E7C 16E5D:1:16E7D 16E5E:1:16E7E 16E5F:1:16E7F 16E60:0 16E9B:3 16EA0:1:16EBB ",
    "16EA1:1:16EBC 16EA2:1:16EBD 16EA3:1:16EBE 16EA4:1:16EBF 16EA5:1:16EC0 16EA6:1:16EC1 ",
    "16EA7:1:16EC2 16EA8:1:16EC3 16EA9:1:16EC4 16EAA:1:16EC5 16EAB:1:16EC6 16EAC:1:16EC7 ",
    "16EAD:1:16EC8 16EAE:1:16EC9 16EAF:1:16ECA 16EB0:1:16ECB 16EB1:1:16ECC 16EB2:1:16ECD ",
    "16EB3:1:16ECE 16EB4:1:16ECF 16EB5:1:16ED0 16EB6:1:16ED1 16EB7:1:16ED2 16EB8:1:16ED3 16EB9:3 ",
    "16EBB:0 16ED4:3 16F00:0 16F4B:3 16F4F:0 16F88:3 16F8F:0 16FA0:3 16FE0:0 16FE5:3 16FF0:0 16FF7:3 ",
    "17000:0 18CD6:3 18CFF:0 18D1F:3 18D80:0 18DF3:3 1AFF0:0 1AFF4:3 1AFF5:0 1AFFC:3 1AFFD:0 1AFFF:3 ",
    "1B000:0 1B123:3 1B132:0 1B133:3 1B150:0 1B153:3 1B155:0 1B156:3 1B164:0 1B168:3 1B170:0 1B2FC:3 ",
    "1BC00:0 1BC6B:3 1BC70:0 1BC7D:3 1BC80:0 1BC89:3 1BC90:0 1BC9A:3 1BC9C:0 1BCA0:2 1BCA4:3 1CC00:0 ",
    "1CCD6:1:61 1CCD7:1:62 1CCD8:1:63 1CCD9:1:64 1CCDA:1:65 1CCDB:1:66 1CCDC:1:67 1CCDD:1:68 ",
    "1CCDE:1:69 1CCDF:1:6A 1CCE0:1:6B 1CCE1:1:6C 1CCE2:1:6D 1CCE3:1:6E 1CCE4:1:6F 1CCE5:1:70 ",
    "1CCE6:1:71 1CCE7:1:72 1CCE8:1:73 1CCE9:1:74 1CCEA:1:75 1CCEB:1:76 1CCEC:1:77 1CCED:1:78 ",
    "1CCEE:1:79 1CCEF:1:7A 1CCF0:1:30 1CCF1:1:31 1CCF2:1:32 1CCF3:1:33 1CCF4:1:34 1CCF5:1:35 ",
    "1CCF6:1:36 1CCF7:1:37 1CCF8:1:38 1CCF9:1:39 1CCFA:0 1CCFD:3 1CD00:0 1CEB4:3 1CEBA:0 1CED1:3 ",
    "1CEE0:0 1CEF1:3 1CF00:0 1CF2E:3 1CF30:0 1CF47:3 1CF50:0 1CFC4:3 1D000:0 1D0F6:3 1D100:0 1D127:3 ",
    "1D129:0 1D15E:1:1D157.1D165 1D15F:1:1D158.1D165 1D160:1:1D158.1D165.1D16E ",
    "1D161:1:1D158.1D165.1D16F 1D162:1:1D158.1D165.1D170 1D163:1:1D158.1D165.1D171 ",
    "1D164:1:1D158.1D165.1D172 1D165:0 1D173:2 1D17B:0 1D1BB:1:1D1B9.1D165 1D1BC:1:1D1BA.1D165 ",
    "1D1BD:1:1D1B9.1D165.1D16E 1D1BE:1:1D1BA.1D165.1D16E 1D1BF:1:1D1B9.1D165.1D16F ",
    "1D1C0:1:1D1BA.1D165.1D16F 1D1C1:0 1D1EB:3 1D200:0 1D246:3 1D2C0:0 1D2D4:3 1D2E0:0 1D2F4:3 ",
    "1D300:0 1D357:3 1D360:0 1D379:3 1D400:1:61 1D401:1:62 1D402:1:63 1D403:1:64 1D404:1:65 ",
    "1D405:1:66 1D406:1:67 1D407:1:68 1D408:1:69 1D409:1:6A 1D40A:1:6B 1D40B:1:6C 1D40C:1:6D ",
    "1D40D:1:6E 1D40E:1:6F 1D40F:1:70 1D410:1:71 1D411:1:72 1D412:1:73 1D413:1:74 1D414:1:75 ",
    "1D415:1:76 1D416:1:77 1D417:1:78 1D418:1:79 1D419:1:7A 1D41A:1:61 1D41B:1:62 1D41C:1:63 ",
    "1D41D:1:64 1D41E:1:65 1D41F:1:66 1D420:1:67 1D421:1:68 1D422:1:69 1D423:1:6A 1D424:1:6B ",
    "1D425:1:6C 1D426:1:6D 1D427:1:6E 1D428:1:6F 1D429:1:70 1D42A:1:71 1D42B:1:72 1D42C:1:73 ",
    "1D42D:1:74 1D42E:1:75 1D42F:1:76 1D430:1:77 1D431:1:78 1D432:1:79 1D433:1:7A 1D434:1:61 ",
    "1D435:1:62 1D436:1:63 1D437:1:64 1D438:1:65 1D439:1:66 1D43A:1:67 1D43B:1:68 1D43C:1:69 ",
    "1D43D:1:6A 1D43E:1:6B 1D43F:1:6C 1D440:1:6D 1D441:1:6E 1D442:1:6F 1D443:1:70 1D444:1:71 ",
    "1D445:1:72 1D446:1:73 1D447:1:74 1D448:1:75 1D449:1:76 1D44A:1:77 1D44B:1:78 1D44C:1:79 ",
    "1D44D:1:7A 1D44E:1:61 1D44F:1:62 1D450:1:63 1D451:1:64 1D452:1:65 1D453:1:66 1D454:1:67 1D455:3 ",
    "1D456:1:69 1D457:1:6A 1D458:1:6B 1D459:1:6C 1D45A:1:6D 1D45B:1:6E 1D45C:1:6F 1D45D:1:70 ",
    "1D45E:1:71 1D45F:1:72 1D460:1:73 1D461:1:74 1D462:1:75 1D463:1:76 1D464:1:77 1D465:1:78 ",
    "1D466:1:79 1D467:1:7A 1D468:1:61 1D469:1:62 1D46A:1:63 1D46B:1:64 1D46C:1:65 1D46D:1:66 ",
    "1D46E:1:67 1D46F:1:68 1D470:1:69 1D471:1:6A 1D472:1:6B 1D473:1:6C 1D474:1:6D 1D475:1:6E ",
    "1D476:1:6F 1D477:1:70 1D478:1:71 1D479:1:72 1D47A:1:73 1D47B:1:74 1D47C:1:75 1D47D:1:76 ",
    "1D47E:1:77 1D47F:1:78 1D480:1:79 1D481:1:7A 1D482:1:61 1D483:1:62 1D484:1:63 1D485:1:64 ",
    "1D486:1:65 1D487:1:66 1D488:1:67 1D489:1:68 1D48A:1:69 1D48B:1:6A 1D48C:1:6B 1D48D:1:6C ",
    "1D48E:1:6D 1D48F:1:6E 1D490:1:6F 1D491:1:70 1D492:1:71 1D493:1:72 1D494:1:73 1D495:1:74 ",
    "1D496:1:75 1D497:1:76 1D498:1:77 1D499:1:78 1D49A:1:79 1D49B:1:7A 1D49C:1:61 1D49D:3 1D49E:1:63 ",
    "1D49F:1:64 1D4A0:3 1D4A2:1:67 1D4A3:3 1D4A5:1:6A 1D4A6:1:6B 1D4A7:3 1D4A9:1:6E 1D4AA:1:6F ",
    "1D4AB:1:70 1D4AC:1:71 1D4AD:3 1D4AE:1:73 1D4AF:1:74 1D4B0:1:75 1D4B1:1:76 1D4B2:1:77 1D4B3:1:78 ",
    "1D4B4:1:79 1D4B5:1:7A 1D4B6:1:61 1D4B7:1:62 1D4B8:1:63 1D4B9:1:64 1D4BA:3 1D4BB:1:66 1D4BC:3 ",
    "1D4BD:1:68 1D4BE:1:69 1D4BF:1:6A 1D4C0:1:6B 1D4C1:1:6C 1D4C2:1:6D 1D4C3:1:6E 1D4C4:3 1D4C5:1:70 ",
    "1D4C6:1:71 1D4C7:1:72 1D4C8:1:73 1D4C9:1:74 1D4CA:1:75 1D4CB:1:76 1D4CC:1:77 1D4CD:1:78 ",
    "1D4CE:1:79 1D4CF:1:7A 1D4D0:1:61 1D4D1:1:62 1D4D2:1:63 1D4D3:1:64 1D4D4:1:65 1D4D5:1:66 ",
    "1D4D6:1:67 1D4D7:1:68 1D4D8:1:69 1D4D9:1:6A 1D4DA:1:6B 1D4DB:1:6C 1D4DC:1:6D 1D4DD:1:6E ",
    "1D4DE:1:6F 1D4DF:1:70 1D4E0:1:71 1D4E1:1:72 1D4E2:1:73 1D4E3:1:74 1D4E4:1:75 1D4E5:1:76 ",
    "1D4E6:1:77 1D4E7:1:78 1D4E8:1:79 1D4E9:1:7A 1D4EA:1:61 1D4EB:1:62 1D4EC:1:63 1D4ED:1:64 ",
    "1D4EE:1:65 1D4EF:1:66 1D4F0:1:67 1D4F1:1:68 1D4F2:1:69 1D4F3:1:6A 1D4F4:1:6B 1D4F5:1:6C ",
    "1D4F6:1:6D 1D4F7:1:6E 1D4F8:1:6F 1D4F9:1:70 1D4FA:1:71 1D4FB:1:72 1D4FC:1:73 1D4FD:1:74 ",
    "1D4FE:1:75 1D4FF:1:76 1D500:1:77 1D501:1:78 1D502:1:79 1D503:1:7A 1D504:1:61 1D505:1:62 1D506:3 ",
    "1D507:1:64 1D508:1:65 1D509:1:66 1D50A:1:67 1D50B:3 1D50D:1:6A 1D50E:1:6B 1D50F:1:6C 1D510:1:6D ",
    "1D511:1:6E 1D512:1:6F 1D513:1:70 1D514:1:71 1D515:3 1D516:1:73 1D517:1:74 1D518:1:75 1D519:1:76 ",
    "1D51A:1:77 1D51B:1:78 1D51C:1:79 1D51D:3 1D51E:1:61 1D51F:1:62 1D520:1:63 1D521:1:64 1D522:1:65 ",
    "1D523:1:66 1D524:1:67 1D525:1:68 1D526:1:69 1D527:1:6A 1D528:1:6B 1D529:1:6C 1D52A:1:6D ",
    "1D52B:1:6E 1D52C:1:6F 1D52D:1:70 1D52E:1:71 1D52F:1:72 1D530:1:73 1D531:1:74 1D532:1:75 ",
    "1D533:1:76 1D534:1:77 1D535:1:78 1D536:1:79 1D537:1:7A 1D538:1:61 1D539:1:62 1D53A:3 1D53B:1:64 ",
    "1D53C:1:65 1D53D:1:66 1D53E:1:67 1D53F:3 1D540:1:69 1D541:1:6A 1D542:1:6B 1D543:1:6C 1D544:1:6D ",
    "1D545:3 1D546:1:6F 1D547:3 1D54A:1:73 1D54B:1:74 1D54C:1:75 1D54D:1:76 1D54E:1:77 1D54F:1:78 ",
    "1D550:1:79 1D551:3 1D552:1:61 1D553:1:62 1D554:1:63 1D555:1:64 1D556:1:65 1D557:1:66 1D558:1:67 ",
    "1D559:1:68 1D55A:1:69 1D55B:1:6A 1D55C:1:6B 1D55D:1:6C 1D55E:1:6D 1D55F:1:6E 1D560:1:6F ",
    "1D561:1:70 1D562:1:71 1D563:1:72 1D564:1:73 1D565:1:74 1D566:1:75 1D567:1:76 1D568:1:77 ",
    "1D569:1:78 1D56A:1:79 1D56B:1:7A 1D56C:1:61 1D56D:1:62 1D56E:1:63 1D56F:1:64 1D570:1:65 ",
    "1D571:1:66 1D572:1:67 1D573:1:68 1D574:1:69 1D575:1:6A 1D576:1:6B 1D577:1:6C 1D578:1:6D ",
    "1D579:1:6E 1D57A:1:6F 1D57B:1:70 1D57C:1:71 1D57D:1:72 1D57E:1:73 1D57F:1:74 1D580:1:75 ",
    "1D581:1:76 1D582:1:77 1D583:1:78 1D584:1:79 1D585:1:7A 1D586:1:61 1D587:1:62 1D588:1:63 ",
    "1D589:1:64 1D58A:1:65 1D58B:1:66 1D58C:1:67 1D58D:1:68 1D58E:1:69 1D58F:1:6A 1D590:1:6B ",
    "1D591:1:6C 1D592:1:6D 1D593:1:6E 1D594:1:6F 1D595:1:70 1D596:1:71 1D597:1:72 1D598:1:73 ",
    "1D599:1:74 1D59A:1:75 1D59B:1:76 1D59C:1:77 1D59D:1:78 1D59E:1:79 1D59F:1:7A 1D5A0:1:61 ",
    "1D5A1:1:62 1D5A2:1:63 1D5A3:1:64 1D5A4:1:65 1D5A5:1:66 1D5A6:1:67 1D5A7:1:68 1D5A8:1:69 ",
    "1D5A9:1:6A 1D5AA:1:6B 1D5AB:1:6C 1D5AC:1:6D 1D5AD:1:6E 1D5AE:1:6F 1D5AF:1:70 1D5B0:1:71 ",
    "1D5B1:1:72 1D5B2:1:73 1D5B3:1:74 1D5B4:1:75 1D5B5:1:76 1D5B6:1:77 1D5B7:1:78 1D5B8:1:79 ",
    "1D5B9:1:7A 1D5BA:1:61 1D5BB:1:62 1D5BC:1:63 1D5BD:1:64 1D5BE:1:65 1D5BF:1:66 1D5C0:1:67 ",
    "1D5C1:1:68 1D5C2:1:69 1D5C3:1:6A 1D5C4:1:6B 1D5C5:1:6C 1D5C6:1:6D 1D5C7:1:6E 1D5C8:1:6F ",
    "1D5C9:1:70 1D5CA:1:71 1D5CB:1:72 1D5CC:1:73 1D5CD:1:74 1D5CE:1:75 1D5CF:1:76 1D5D0:1:77 ",
    "1D5D1:1:78 1D5D2:1:79 1D5D3:1:7A 1D5D4:1:61 1D5D5:1:62 1D5D6:1:63 1D5D7:1:64 1D5D8:1:65 ",
    "1D5D9:1:66 1D5DA:1:67 1D5DB:1:68 1D5DC:1:69 1D5DD:1:6A 1D5DE:1:6B 1D5DF:1:6C 1D5E0:1:6D ",
    "1D5E1:1:6E 1D5E2:1:6F 1D5E3:1:70 1D5E4:1:71 1D5E5:1:72 1D5E6:1:73 1D5E7:1:74 1D5E8:1:75 ",
    "1D5E9:1:76 1D5EA:1:77 1D5EB:1:78 1D5EC:1:79 1D5ED:1:7A 1D5EE:1:61 1D5EF:1:62 1D5F0:1:63 ",
    "1D5F1:1:64 1D5F2:1:65 1D5F3:1:66 1D5F4:1:67 1D5F5:1:68 1D5F6:1:69 1D5F7:1:6A 1D5F8:1:6B ",
    "1D5F9:1:6C 1D5FA:1:6D 1D5FB:1:6E 1D5FC:1:6F 1D5FD:1:70 1D5FE:1:71 1D5FF:1:72 1D600:1:73 ",
    "1D601:1:74 1D602:1:75 1D603:1:76 1D604:1:77 1D605:1:78 1D606:1:79 1D607:1:7A 1D608:1:61 ",
    "1D609:1:62 1D60A:1:63 1D60B:1:64 1D60C:1:65 1D60D:1:66 1D60E:1:67 1D60F:1:68 1D610:1:69 ",
    "1D611:1:6A 1D612:1:6B 1D613:1:6C 1D614:1:6D 1D615:1:6E 1D616:1:6F 1D617:1:70 1D618:1:71 ",
    "1D619:1:72 1D61A:1:73 1D61B:1:74 1D61C:1:75 1D61D:1:76 1D61E:1:77 1D61F:1:78 1D620:1:79 ",
    "1D621:1:7A 1D622:1:61 1D623:1:62 1D624:1:63 1D625:1:64 1D626:1:65 1D627:1:66 1D628:1:67 ",
    "1D629:1:68 1D62A:1:69 1D62B:1:6A 1D62C:1:6B 1D62D:1:6C 1D62E:1:6D 1D62F:1:6E 1D630:1:6F ",
    "1D631:1:70 1D632:1:71 1D633:1:72 1D634:1:73 1D635:1:74 1D636:1:75 1D637:1:76 1D638:1:77 ",
    "1D639:1:78 1D63A:1:79 1D63B:1:7A 1D63C:1:61 1D63D:1:62 1D63E:1:63 1D63F:1:64 1D640:1:65 ",
    "1D641:1:66 1D642:1:67 1D643:1:68 1D644:1:69 1D645:1:6A 1D646:1:6B 1D647:1:6C 1D648:1:6D ",
    "1D649:1:6E 1D64A:1:6F 1D64B:1:70 1D64C:1:71 1D64D:1:72 1D64E:1:73 1D64F:1:74 1D650:1:75 ",
    "1D651:1:76 1D652:1:77 1D653:1:78 1D654:1:79 1D655:1:7A 1D656:1:61 1D657:1:62 1D658:1:63 ",
    "1D659:1:64 1D65A:1:65 1D65B:1:66 1D65C:1:67 1D65D:1:68 1D65E:1:69 1D65F:1:6A 1D660:1:6B ",
    "1D661:1:6C 1D662:1:6D 1D663:1:6E 1D664:1:6F 1D665:1:70 1D666:1:71 1D667:1:72 1D668:1:73 ",
    "1D669:1:74 1D66A:1:75 1D66B:1:76 1D66C:1:77 1D66D:1:78 1D66E:1:79 1D66F:1:7A 1D670:1:61 ",
    "1D671:1:62 1D672:1:63 1D673:1:64 1D674:1:65 1D675:1:66 1D676:1:67 1D677:1:68 1D678:1:69 ",
    "1D679:1:6A 1D67A:1:6B 1D67B:1:6C 1D67C:1:6D 1D67D:1:6E 1D67E:1:6F 1D67F:1:70 1D680:1:71 ",
    "1D681:1:72 1D682:1:73 1D683:1:74 1D684:1:75 1D685:1:76 1D686:1:77 1D687:1:78 1D688:1:79 ",
    "1D689:1:7A 1D68A:1:61 1D68B:1:62 1D68C:1:63 1D68D:1:64 1D68E:1:65 1D68F:1:66 1D690:1:67 ",
    "1D691:1:68 1D692:1:69 1D693:1:6A 1D694:1:6B 1D695:1:6C 1D696:1:6D 1D697:1:6E 1D698:1:6F ",
    "1D699:1:70 1D69A:1:71 1D69B:1:72 1D69C:1:73 1D69D:1:74 1D69E:1:75 1D69F:1:76 1D6A0:1:77 ",
    "1D6A1:1:78 1D6A2:1:79 1D6A3:1:7A 1D6A4:1:131 1D6A5:1:237 1D6A6:3 1D6A8:1:3B1 1D6A9:1:3B2 ",
    "1D6AA:1:3B3 1D6AB:1:3B4 1D6AC:1:3B5 1D6AD:1:3B6 1D6AE:1:3B7 1D6AF:1:3B8 1D6B0:1:3B9 1D6B1:1:3BA ",
    "1D6B2:1:3BB 1D6B3:1:3BC 1D6B4:1:3BD 1D6B5:1:3BE 1D6B6:1:3BF 1D6B7:1:3C0 1D6B8:1:3C1 1D6B9:1:3B8 ",
    "1D6BA:1:3C3 1D6BB:1:3C4 1D6BC:1:3C5 1D6BD:1:3C6 1D6BE:1:3C7 1D6BF:1:3C8 1D6C0:1:3C9 1D6C1:1:2207 ",
    "1D6C2:1:3B1 1D6C3:1:3B2 1D6C4:1:3B3 1D6C5:1:3B4 1D6C6:1:3B5 1D6C7:1:3B6 1D6C8:1:3B7 1D6C9:1:3B8 ",
    "1D6CA:1:3B9 1D6CB:1:3BA 1D6CC:1:3BB 1D6CD:1:3BC 1D6CE:1:3BD 1D6CF:1:3BE 1D6D0:1:3BF 1D6D1:1:3C0 ",
    "1D6D2:1:3C1 1D6D3:1:3C3 1D6D5:1:3C4 1D6D6:1:3C5 1D6D7:1:3C6 1D6D8:1:3C7 1D6D9:1:3C8 1D6DA:1:3C9 ",
    "1D6DB:1:2202 1D6DC:1:3B5 1D6DD:1:3B8 1D6DE:1:3BA 1D6DF:1:3C6 1D6E0:1:3C1 1D6E1:1:3C0 1D6E2:1:3B1 ",
    "1D6E3:1:3B2 1D6E4:1:3B3 1D6E5:1:3B4 1D6E6:1:3B5 1D6E7:1:3B6 1D6E8:1:3B7 1D6E9:1:3B8 1D6EA:1:3B9 ",
    "1D6EB:1:3BA 1D6EC:1:3BB 1D6ED:1:3BC 1D6EE:1:3BD 1D6EF:1:3BE 1D6F0:1:3BF 1D6F1:1:3C0 1D6F2:1:3C1 ",
    "1D6F3:1:3B8 1D6F4:1:3C3 1D6F5:1:3C4 1D6F6:1:3C5 1D6F7:1:3C6 1D6F8:1:3C7 1D6F9:1:3C8 1D6FA:1:3C9 ",
    "1D6FB:1:2207 1D6FC:1:3B1 1D6FD:1:3B2 1D6FE:1:3B3 1D6FF:1:3B4 1D700:1:3B5 1D701:1:3B6 1D702:1:3B7 ",
    "1D703:1:3B8 1D704:1:3B9 1D705:1:3BA 1D706:1:3BB 1D707:1:3BC 1D708:1:3BD 1D709:1:3BE 1D70A:1:3BF ",
    "1D70B:1:3C0 1D70C:1:3C1 1D70D:1:3C3 1D70F:1:3C4 1D710:1:3C5 1D711:1:3C6 1D712:1:3C7 1D713:1:3C8 ",
    "1D714:1:3C9 1D715:1:2202 1D716:1:3B5 1D717:1:3B8 1D718:1:3BA 1D719:1:3C6 1D71A:1:3C1 1D71B:1:3C0 ",
    "1D71C:1:3B1 1D71D:1:3B2 1D71E:1:3B3 1D71F:1:3B4 1D720:1:3B5 1D721:1:3B6 1D722:1:3B7 1D723:1:3B8 ",
    "1D724:1:3B9 1D725:1:3BA 1D726:1:3BB 1D727:1:3BC 1D728:1:3BD 1D729:1:3BE 1D72A:1:3BF 1D72B:1:3C0 ",
    "1D72C:1:3C1 1D72D:1:3B8 1D72E:1:3C3 1D72F:1:3C4 1D730:1:3C5 1D731:1:3C6 1D732:1:3C7 1D733:1:3C8 ",
    "1D734:1:3C9 1D735:1:2207 1D736:1:3B1 1D737:1:3B2 1D738:1:3B3 1D739:1:3B4 1D73A:1:3B5 1D73B:1:3B6 ",
    "1D73C:1:3B7 1D73D:1:3B8 1D73E:1:3B9 1D73F:1:3BA 1D740:1:3BB 1D741:1:3BC 1D742:1:3BD 1D743:1:3BE ",
    "1D744:1:3BF 1D745:1:3C0 1D746:1:3C1 1D747:1:3C3 1D749:1:3C4 1D74A:1:3C5 1D74B:1:3C6 1D74C:1:3C7 ",
    "1D74D:1:3C8 1D74E:1:3C9 1D74F:1:2202 1D750:1:3B5 1D751:1:3B8 1D752:1:3BA 1D753:1:3C6 1D754:1:3C1 ",
    "1D755:1:3C0 1D756:1:3B1 1D757:1:3B2 1D758:1:3B3 1D759:1:3B4 1D75A:1:3B5 1D75B:1:3B6 1D75C:1:3B7 ",
    "1D75D:1:3B8 1D75E:1:3B9 1D75F:1:3BA 1D760:1:3BB 1D761:1:3BC 1D762:1:3BD 1D763:1:3BE 1D764:1:3BF ",
    "1D765:1:3C0 1D766:1:3C1 1D767:1:3B8 1D768:1:3C3 1D769:1:3C4 1D76A:1:3C5 1D76B:1:3C6 1D76C:1:3C7 ",
    "1D76D:1:3C8 1D76E:1:3C9 1D76F:1:2207 1D770:1:3B1 1D771:1:3B2 1D772:1:3B3 1D773:1:3B4 1D774:1:3B5 ",
    "1D775:1:3B6 1D776:1:3B7 1D777:1:3B8 1D778:1:3B9 1D779:1:3BA 1D77A:1:3BB 1D77B:1:3BC 1D77C:1:3BD ",
    "1D77D:1:3BE 1D77E:1:3BF 1D77F:1:3C0 1D780:1:3C1 1D781:1:3C3 1D783:1:3C4 1D784:1:3C5 1D785:1:3C6 ",
    "1D786:1:3C7 1D787:1:3C8 1D788:1:3C9 1D789:1:2202 1D78A:1:3B5 1D78B:1:3B8 1D78C:1:3BA 1D78D:1:3C6 ",
    "1D78E:1:3C1 1D78F:1:3C0 1D790:1:3B1 1D791:1:3B2 1D792:1:3B3 1D793:1:3B4 1D794:1:3B5 1D795:1:3B6 ",
    "1D796:1:3B7 1D797:1:3B8 1D798:1:3B9 1D799:1:3BA 1D79A:1:3BB 1D79B:1:3BC 1D79C:1:3BD 1D79D:1:3BE ",
    "1D79E:1:3BF 1D79F:1:3C0 1D7A0:1:3C1 1D7A1:1:3B8 1D7A2:1:3C3 1D7A3:1:3C4 1D7A4:1:3C5 1D7A5:1:3C6 ",
    "1D7A6:1:3C7 1D7A7:1:3C8 1D7A8:1:3C9 1D7A9:1:2207 1D7AA:1:3B1 1D7AB:1:3B2 1D7AC:1:3B3 1D7AD:1:3B4 ",
    "1D7AE:1:3B5 1D7AF:1:3B6 1D7B0:1:3B7 1D7B1:1:3B8 1D7B2:1:3B9 1D7B3:1:3BA 1D7B4:1:3BB 1D7B5:1:3BC ",
    "1D7B6:1:3BD 1D7B7:1:3BE 1D7B8:1:3BF 1D7B9:1:3C0 1D7BA:1:3C1 1D7BB:1:3C3 1D7BD:1:3C4 1D7BE:1:3C5 ",
    "1D7BF:1:3C6 1D7C0:1:3C7 1D7C1:1:3C8 1D7C2:1:3C9 1D7C3:1:2202 1D7C4:1:3B5 1D7C5:1:3B8 1D7C6:1:3BA ",
    "1D7C7:1:3C6 1D7C8:1:3C1 1D7C9:1:3C0 1D7CA:1:3DD 1D7CC:3 1D7CE:1:30 1D7CF:1:31 1D7D0:1:32 ",
    "1D7D1:1:33 1D7D2:1:34 1D7D3:1:35 1D7D4:1:36 1D7D5:1:37 1D7D6:1:38 1D7D7:1:39 1D7D8:1:30 ",
    "1D7D9:1:31 1D7DA:1:32 1D7DB:1:33 1D7DC:1:34 1D7DD:1:35 1D7DE:1:36 1D7DF:1:37 1D7E0:1:38 ",
    "1D7E1:1:39 1D7E2:1:30 1D7E3:1:31 1D7E4:1:32 1D7E5:1:33 1D7E6:1:34 1D7E7:1:35 1D7E8:1:36 ",
    "1D7E9:1:37 1D7EA:1:38 1D7EB:1:39 1D7EC:1:30 1D7ED:1:31 1D7EE:1:32 1D7EF:1:33 1D7F0:1:34 ",
    "1D7F1:1:35 1D7F2:1:36 1D7F3:1:37 1D7F4:1:38 1D7F5:1:39 1D7F6:1:30 1D7F7:1:31 1D7F8:1:32 ",
    "1D7F9:1:33 1D7FA:1:34 1D7FB:1:35 1D7FC:1:36 1D7FD:1:37 1D7FE:1:38 1D7FF:1:39 1D800:0 1DA8C:3 ",
    "1DA9B:0 1DAA0:3 1DAA1:0 1DAB0:3 1DF00:0 1DF1F:3 1DF25:0 1DF2B:3 1E000:0 1E007:3 1E008:0 1E019:3 ",
    "1E01B:0 1E022:3 1E023:0 1E025:3 1E026:0 1E02B:3 1E030:1:430 1E031:1:431 1E032:1:432 1E033:1:433 ",
    "1E034:1:434 1E035:1:435 1E036:1:436 1E037:1:437 1E038:1:438 1E039:1:43A 1E03A:1:43B 1E03B:1:43C ",
    "1E03C:1:43E 1E03D:1:43F 1E03E:1:440 1E03F:1:441 1E040:1:442 1E041:1:443 1E042:1:444 1E043:1:445 ",
    "1E044:1:446 1E045:1:447 1E046:1:448 1E047:1:44B 1E048:1:44D 1E049:1:44E 1E04A:1:A689 1E04B:1:4D9 ",
    "1E04C:1:456 1E04D:1:458 1E04E:1:4E9 1E04F:1:4AF 1E050:1:4CF 1E051:1:430 1E052:1:431 1E053:1:432 ",
    "1E054:1:433 1E055:1:434 1E056:1:435 1E057:1:436 1E058:1:437 1E059:1:438 1E05A:1:43A 1E05B:1:43B ",
    "1E05C:1:43E 1E05D:1:43F 1E05E:1:441 1E05F:1:443 1E060:1:444 1E061:1:445 1E062:1:446 1E063:1:447 ",
    "1E064:1:448 1E065:1:44A 1E066:1:44B 1E067:1:491 1E068:1:456 1E069:1:455 1E06A:1:45F 1E06B:1:4AB ",
    "1E06C:1:A651 1E06D:1:4B1 1E06E:3 1E08F:0 1E090:3 1E100:0 1E12D:3 1E130:0 1E13E:3 1E140:0 1E14A:3 ",
    "1E14E:0 1E150:3 1E290:0 1E2AF:3 1E2C0:0 1E2FA:3 1E2FF:0 1E300:3 1E4D0:0 1E4FA:3 1E5D0:0 1E5FB:3 ",
    "1E5FF:0 1E600:3 1E6C0:0 1E6DF:3 1E6E0:0 1E6F6:3 1E6FE:0 1E700:3 1E7E0:0 1E7E7:3 1E7E8:0 1E7EC:3 ",
    "1E7ED:0 1E7EF:3 1E7F0:0 1E7FF:3 1E800:0 1E8C5:3 1E8C7:0 1E8D7:3 1E900:1:1E922 1E901:1:1E923 ",
    "1E902:1:1E924 1E903:1:1E925 1E904:1:1E926 1E905:1:1E927 1E906:1:1E928 1E907:1:1E929 ",
    "1E908:1:1E92A 1E909:1:1E92B 1E90A:1:1E92C 1E90B:1:1E92D 1E90C:1:1E92E 1E90D:1:1E92F ",
    "1E90E:1:1E930 1E90F:1:1E931 1E910:1:1E932 1E911:1:1E933 1E912:1:1E934 1E913:1:1E935 ",
    "1E914:1:1E936 1E915:1:1E937 1E916:1:1E938 1E917:1:1E939 1E918:1:1E93A 1E919:1:1E93B ",
    "1E91A:1:1E93C 1E91B:1:1E93D 1E91C:1:1E93E 1E91D:1:1E93F 1E91E:1:1E940 1E91F:1:1E941 ",
    "1E920:1:1E942 1E921:1:1E943 1E922:0 1E94C:3 1E950:0 1E95A:3 1E95E:0 1E960:3 1EC71:0 1ECB5:3 ",
    "1ED01:0 1ED3E:3 1EE00:1:627 1EE01:1:628 1EE02:1:62C 1EE03:1:62F 1EE04:3 1EE05:1:648 1EE06:1:632 ",
    "1EE07:1:62D 1EE08:1:637 1EE09:1:64A 1EE0A:1:643 1EE0B:1:644 1EE0C:1:645 1EE0D:1:646 1EE0E:1:633 ",
    "1EE0F:1:639 1EE10:1:641 1EE11:1:635 1EE12:1:642 1EE13:1:631 1EE14:1:634 1EE15:1:62A 1EE16:1:62B ",
    "1EE17:1:62E 1EE18:1:630 1EE19:1:636 1EE1A:1:638 1EE1B:1:63A 1EE1C:1:66E 1EE1D:1:6BA 1EE1E:1:6A1 ",
    "1EE1F:1:66F 1EE20:3 1EE21:1:628 1EE22:1:62C 1EE23:3 1EE24:1:647 1EE25:3 1EE27:1:62D 1EE28:3 ",
    "1EE29:1:64A 1EE2A:1:643 1EE2B:1:644 1EE2C:1:645 1EE2D:1:646 1EE2E:1:633 1EE2F:1:639 1EE30:1:641 ",
    "1EE31:1:635 1EE32:1:642 1EE33:3 1EE34:1:634 1EE35:1:62A 1EE36:1:62B 1EE37:1:62E 1EE38:3 ",
    "1EE39:1:636 1EE3A:3 1EE3B:1:63A 1EE3C:3 1EE42:1:62C 1EE43:3 1EE47:1:62D 1EE48:3 1EE49:1:64A ",
    "1EE4A:3 1EE4B:1:644 1EE4C:3 1EE4D:1:646 1EE4E:1:633 1EE4F:1:639 1EE50:3 1EE51:1:635 1EE52:1:642 ",
    "1EE53:3 1EE54:1:634 1EE55:3 1EE57:1:62E 1EE58:3 1EE59:1:636 1EE5A:3 1EE5B:1:63A 1EE5C:3 ",
    "1EE5D:1:6BA 1EE5E:3 1EE5F:1:66F 1EE60:3 1EE61:1:628 1EE62:1:62C 1EE63:3 1EE64:1:647 1EE65:3 ",
    "1EE67:1:62D 1EE68:1:637 1EE69:1:64A 1EE6A:1:643 1EE6B:3 1EE6C:1:645 1EE6D:1:646 1EE6E:1:633 ",
    "1EE6F:1:639 1EE70:1:641 1EE71:1:635 1EE72:1:642 1EE73:3 1EE74:1:634 1EE75:1:62A 1EE76:1:62B ",
    "1EE77:1:62E 1EE78:3 1EE79:1:636 1EE7A:1:638 1EE7B:1:63A 1EE7C:1:66E 1EE7D:3 1EE7E:1:6A1 1EE7F:3 ",
    "1EE80:1:627 1EE81:1:628 1EE82:1:62C 1EE83:1:62F 1EE84:1:647 1EE85:1:648 1EE86:1:632 1EE87:1:62D ",
    "1EE88:1:637 1EE89:1:64A 1EE8A:3 1EE8B:1:644 1EE8C:1:645 1EE8D:1:646 1EE8E:1:633 1EE8F:1:639 ",
    "1EE90:1:641 1EE91:1:635 1EE92:1:642 1EE93:1:631 1EE94:1:634 1EE95:1:62A 1EE96:1:62B 1EE97:1:62E ",
    "1EE98:1:630 1EE99:1:636 1EE9A:1:638 1EE9B:1:63A 1EE9C:3 1EEA1:1:628 1EEA2:1:62C 1EEA3:1:62F ",
    "1EEA4:3 1EEA5:1:648 1EEA6:1:632 1EEA7:1:62D 1EEA8:1:637 1EEA9:1:64A 1EEAA:3 1EEAB:1:644 ",
    "1EEAC:1:645 1EEAD:1:646 1EEAE:1:633 1EEAF:1:639 1EEB0:1:641 1EEB1:1:635 1EEB2:1:642 1EEB3:1:631 ",
    "1EEB4:1:634 1EEB5:1:62A 1EEB6:1:62B 1EEB7:1:62E 1EEB8:1:630 1EEB9:1:636 1EEBA:1:638 1EEBB:1:63A ",
    "1EEBC:3 1EEF0:0 1EEF2:3 1F000:0 1F02C:3 1F030:0 1F094:3 1F0A0:0 1F0AF:3 1F0B1:0 1F0C0:3 1F0C1:0 ",
    "1F0D0:3 1F0D1:0 1F0F6:3 1F101:1:30.2C 1F102:1:31.2C 1F103:1:32.2C 1F104:1:33.2C 1F105:1:34.2C ",
    "1F106:1:35.2C 1F107:1:36.2C 1F108:1:37.2C 1F109:1:38.2C 1F10A:1:39.2C 1F10B:0 1F110:1:28.61.29 ",
    "1F111:1:28.62.29 1F112:1:28.63.29 1F113:1:28.64.29 1F114:1:28.65.29 1F115:1:28.66.29 ",
    "1F116:1:28.67.29 1F117:1:28.68.29 1F118:1:28.69.29 1F119:1:28.6A.29 1F11A:1:28.6B.29 ",
    "1F11B:1:28.6C.29 1F11C:1:28.6D.29 1F11D:1:28.6E.29 1F11E:1:28.6F.29 1F11F:1:28.70.29 ",
    "1F120:1:28.71.29 1F121:1:28.72.29 1F122:1:28.73.29 1F123:1:28.74.29 1F124:1:28.75.29 ",
    "1F125:1:28.76.29 1F126:1:28.77.29 1F127:1:28.78.29 1F128:1:28.79.29 1F129:1:28.7A.29 ",
    "1F12A:1:3014.73.3015 1F12B:1:63 1F12C:1:72 1F12D:1:63.64 1F12E:1:77.7A 1F12F:0 1F130:1:61 ",
    "1F131:1:62 1F132:1:63 1F133:1:64 1F134:1:65 1F135:1:66 1F136:1:67 1F137:1:68 1F138:1:69 ",
    "1F139:1:6A 1F13A:1:6B 1F13B:1:6C 1F13C:1:6D 1F13D:1:6E 1F13E:1:6F 1F13F:1:70 1F140:1:71 ",
    "1F141:1:72 1F142:1:73 1F143:1:74 1F144:1:75 1F145:1:76 1F146:1:77 1F147:1:78 1F148:1:79 ",
    "1F149:1:7A 1F14A:1:68.76 1F14B:1:6D.76 1F14C:1:73.64 1F14D:1:73.73 1F14E:1:70.70.76 ",
    "1F14F:1:77.63 1F150:0 1F16A:1:6D.63 1F16B:1:6D.64 1F16C:1:6D.72 1F16D:0 1F190:1:64.6A 1F191:0 ",
    "1F1AE:3 1F1E6:0 1F200:1:307B.304B 1F201:1:30B3.30B3 1F202:1:30B5 1F203:3 1F210:1:624B ",
    "1F211:1:5B57 1F212:1:53CC 1F213:1:30C7 1F214:1:4E8C 1F215:1:591A 1F216:1:89E3 1F217:1:5929 ",
    "1F218:1:4EA4 1F219:1:6620 1F21A:1:7121 1F21B:1:6599 1F21C:1:524D 1F21D:1:5F8C 1F21E:1:518D ",
    "1F21F:1:65B0 1F220:1:521D 1F221:1:7D42 1F222:1:751F 1F223:1:8CA9 1F224:1:58F0 1F225:1:5439 ",
    "1F226:1:6F14 1F227:1:6295 1F228:1:6355 1F229:1:4E00 1F22A:1:4E09 1F22B:1:904A 1F22C:1:5DE6 ",
    "1F22D:1:4E2D 1F22E:1:53F3 1F22F:1:6307 1F230:1:8D70 1F231:1:6253 1F232:1:7981 1F233:1:7A7A ",
    "1F234:1:5408 1F235:1:6E80 1F236:1:6709 1F237:1:6708 1F238:1:7533 1F239:1:5272 1F23A:1:55B6 ",
    "1F23B:1:914D 1F23C:3 1F240:1:3014.672C.3015 1F241:1:3014.4E09.3015 1F242:1:3014.4E8C.3015 ",
    "1F243:1:3014.5B89.3015 1F244:1:3014.70B9.3015 1F245:1:3014.6253.3015 1F246:1:3014.76D7.3015 ",
    "1F247:1:3014.52DD.3015 1F248:1:3014.6557.3015 1F249:3 1F250:1:5F97 1F251:1:53EF 1F252:3 1F260:0 ",
    "1F266:3 1F300:0 1F6D9:3 1F6DC:0 1F6ED:3 1F6F0:0 1F6FD:3 1F700:0 1F7DA:3 1F7E0:0 1F7EC:3 1F7F0:0 ",
    "1F7F1:3 1F800:0 1F80C:3 1F810:0 1F848:3 1F850:0 1F85A:3 1F860:0 1F888:3 1F890:0 1F8AE:3 1F8B0:0 ",
    "1F8BC:3 1F8C0:0 1F8C2:3 1F8D0:0 1F8D9:3 1F900:0 1FA58:3 1FA60:0 1FA6E:3 1FA70:0 1FA7D:3 1FA80:0 ",
    "1FA8B:3 1FA8E:0 1FAC7:3 1FAC8:0 1FAC9:3 1FACD:0 1FADD:3 1FADF:0 1FAEB:3 1FAEF:0 1FAF9:3 1FB00:0 ",
    "1FB93:3 1FB94:0 1FBF0:1:30 1FBF1:1:31 1FBF2:1:32 1FBF3:1:33 1FBF4:1:34 1FBF5:1:35 1FBF6:1:36 ",
    "1FBF7:1:37 1FBF8:1:38 1FBF9:1:39 1FBFA:0 1FBFB:3 20000:0 2A6E0:3 2A700:0 2B81E:3 2B820:0 2CEAE:3 ",
    "2CEB0:0 2EBE1:3 2EBF0:0 2EE5E:3 2F800:1:4E3D 2F801:1:4E38 2F802:1:4E41 2F803:1:20122 ",
    "2F804:1:4F60 2F805:1:4FAE 2F806:1:4FBB 2F807:1:5002 2F808:1:507A 2F809:1:5099 2F80A:1:50E7 ",
    "2F80B:1:50CF 2F80C:1:349E 2F80D:1:2063A 2F80E:1:514D 2F80F:1:5154 2F810:1:5164 2F811:1:5177 ",
    "2F812:1:2051C 2F813:1:34B9 2F814:1:5167 2F815:1:518D 2F816:1:2054B 2F817:1:5197 2F818:1:51A4 ",
    "2F819:1:4ECC 2F81A:1:51AC 2F81B:1:51B5 2F81C:1:291DF 2F81D:1:51F5 2F81E:1:5203 2F81F:1:34DF ",
    "2F820:1:523B 2F821:1:5246 2F822:1:5272 2F823:1:5277 2F824:1:3515 2F825:1:52C7 2F826:1:52C9 ",
    "2F827:1:52E4 2F828:1:52FA 2F829:1:5305 2F82A:1:5306 2F82B:1:5317 2F82C:1:5349 2F82D:1:5351 ",
    "2F82E:1:535A 2F82F:1:5373 2F830:1:537D 2F831:1:537F 2F834:1:20A2C 2F835:1:7070 2F836:1:53CA ",
    "2F837:1:53DF 2F838:1:20B63 2F839:1:53EB 2F83A:1:53F1 2F83B:1:5406 2F83C:1:549E 2F83D:1:5438 ",
    "2F83E:1:5448 2F83F:1:5468 2F840:1:54A2 2F841:1:54F6 2F842:1:5510 2F843:1:5553 2F844:1:5563 ",
    "2F845:1:5584 2F847:1:5599 2F848:1:55AB 2F849:1:55B3 2F84A:1:55C2 2F84B:1:5716 2F84C:1:5606 ",
    "2F84D:1:5717 2F84E:1:5651 2F84F:1:5674 2F850:1:5207 2F851:1:58EE 2F852:1:57CE 2F853:1:57F4 ",
    "2F854:1:580D 2F855:1:578B 2F856:1:5832 2F857:1:5831 2F858:1:58AC 2F859:1:214E4 2F85A:1:58F2 ",
    "2F85B:1:58F7 2F85C:1:5906 2F85D:1:591A 2F85E:1:5922 2F85F:1:5962 2F860:1:216A8 2F861:1:216EA ",
    "2F862:1:59EC 2F863:1:5A1B 2F864:1:5A27 2F865:1:59D8 2F866:1:5A66 2F867:1:36EE 2F868:1:36FC ",
    "2F869:1:5B08 2F86A:1:5B3E 2F86C:1:219C8 2F86D:1:5BC3 2F86E:1:5BD8 2F86F:1:5BE7 2F870:1:5BF3 ",
    "2F871:1:21B18 2F872:1:5BFF 2F873:1:5C06 2F874:1:5F53 2F875:1:5C22 2F876:1:3781 2F877:1:5C60 ",
    "2F878:1:5C6E 2F879:1:5CC0 2F87A:1:5C8D 2F87B:1:21DE4 2F87C:1:5D43 2F87D:1:21DE6 2F87E:1:5D6E ",
    "2F87F:1:5D6B 2F880:1:5D7C 2F881:1:5DE1 2F882:1:5DE2 2F883:1:382F 2F884:1:5DFD 2F885:1:5E28 ",
    "2F886:1:5E3D 2F887:1:5E69 2F888:1:3862 2F889:1:22183 2F88A:1:387C 2F88B:1:5EB0 2F88C:1:5EB3 ",
    "2F88D:1:5EB6 2F88E:1:5ECA 2F88F:1:2A392 2F890:1:5EFE 2F891:1:22331 2F893:1:8201 2F894:1:5F22 ",
    "2F896:1:38C7 2F897:1:232B8 2F898:1:261DA 2F899:1:5F62 2F89A:1:5F6B 2F89B:1:38E3 2F89C:1:5F9A ",
    "2F89D:1:5FCD 2F89E:1:5FD7 2F89F:1:5FF9 2F8A0:1:6081 2F8A1:1:393A 2F8A2:1:391C 2F8A3:1:6094 ",
    "2F8A4:1:226D4 2F8A5:1:60C7 2F8A6:1:6148 2F8A7:1:614C 2F8A8:1:614E 2F8A9:1:614C 2F8AA:1:617A ",
    "2F8AB:1:618E 2F8AC:1:61B2 2F8AD:1:61A4 2F8AE:1:61AF 2F8AF:1:61DE 2F8B0:1:61F2 2F8B1:1:61F6 ",
    "2F8B2:1:6210 2F8B3:1:621B 2F8B4:1:625D 2F8B5:1:62B1 2F8B6:1:62D4 2F8B7:1:6350 2F8B8:1:22B0C ",
    "2F8B9:1:633D 2F8BA:1:62FC 2F8BB:1:6368 2F8BC:1:6383 2F8BD:1:63E4 2F8BE:1:22BF1 2F8BF:1:6422 ",
    "2F8C0:1:63C5 2F8C1:1:63A9 2F8C2:1:3A2E 2F8C3:1:6469 2F8C4:1:647E 2F8C5:1:649D 2F8C6:1:6477 ",
    "2F8C7:1:3A6C 2F8C8:1:654F 2F8C9:1:656C 2F8CA:1:2300A 2F8CB:1:65E3 2F8CC:1:66F8 2F8CD:1:6649 ",
    "2F8CE:1:3B19 2F8CF:1:6691 2F8D0:1:3B08 2F8D1:1:3AE4 2F8D2:1:5192 2F8D3:1:5195 2F8D4:1:6700 ",
    "2F8D5:1:669C 2F8D6:1:80AD 2F8D7:1:43D9 2F8D8:1:6717 2F8D9:1:671B 2F8DA:1:6721 2F8DB:1:675E ",
    "2F8DC:1:6753 2F8DD:1:233C3 2F8DE:1:3B49 2F8DF:1:67FA 2F8E0:1:6785 2F8E1:1:6852 2F8E2:1:6885 ",
    "2F8E3:1:2346D 2F8E4:1:688E 2F8E5:1:681F 2F8E6:1:6914 2F8E7:1:3B9D 2F8E8:1:6942 2F8E9:1:69A3 ",
    "2F8EA:1:69EA 2F8EB:1:6AA8 2F8EC:1:236A3 2F8ED:1:6ADB 2F8EE:1:3C18 2F8EF:1:6B21 2F8F0:1:238A7 ",
    "2F8F1:1:6B54 2F8F2:1:3C4E 2F8F3:1:6B72 2F8F4:1:6B9F 2F8F5:1:6BBA 2F8F6:1:6BBB 2F8F7:1:23A8D ",
    "2F8F8:1:21D0B 2F8F9:1:23AFA 2F8FA:1:6C4E 2F8FB:1:23CBC 2F8FC:1:6CBF 2F8FD:1:6CCD 2F8FE:1:6C67 ",
    "2F8FF:1:6D16 2F900:1:6D3E 2F901:1:6D77 2F902:1:6D41 2F903:1:6D69 2F904:1:6D78 2F905:1:6D85 ",
    "2F906:1:23D1E 2F907:1:6D34 2F908:1:6E2F 2F909:1:6E6E 2F90A:1:3D33 2F90B:1:6ECB 2F90C:1:6EC7 ",
    "2F90D:1:23ED1 2F90E:1:6DF9 2F90F:1:6F6E 2F910:1:23F5E 2F911:1:23F8E 2F912:1:6FC6 2F913:1:7039 ",
    "2F914:1:701E 2F915:1:701B 2F916:1:3D96 2F917:1:704A 2F918:1:707D 2F919:1:7077 2F91A:1:70AD ",
    "2F91B:1:20525 2F91C:1:7145 2F91D:1:24263 2F91E:1:719C 2F91F:1:243AB 2F920:1:7228 2F921:1:7235 ",
    "2F922:1:7250 2F923:1:24608 2F924:1:7280 2F925:1:7295 2F926:1:24735 2F927:1:24814 2F928:1:737A ",
    "2F929:1:738B 2F92A:1:3EAC 2F92B:1:73A5 2F92C:1:3EB8 2F92E:1:7447 2F92F:1:745C 2F930:1:7471 ",
    "2F931:1:7485 2F932:1:74CA 2F933:1:3F1B 2F934:1:7524 2F935:1:24C36 2F936:1:753E 2F937:1:24C92 ",
    "2F938:1:7570 2F939:1:2219F 2F93A:1:7610 2F93B:1:24FA1 2F93C:1:24FB8 2F93D:1:25044 2F93E:1:3FFC ",
    "2F93F:1:4008 2F940:1:76F4 2F941:1:250F3 2F942:1:250F2 2F943:1:25119 2F944:1:25133 2F945:1:771E ",
    "2F946:1:771F 2F948:1:774A 2F949:1:4039 2F94A:1:778B 2F94B:1:4046 2F94C:1:4096 2F94D:1:2541D ",
    "2F94E:1:784E 2F94F:1:788C 2F950:1:78CC 2F951:1:40E3 2F952:1:25626 2F953:1:7956 2F954:1:2569A ",
    "2F955:1:256C5 2F956:1:798F 2F957:1:79EB 2F958:1:412F 2F959:1:7A40 2F95A:1:7A4A 2F95B:1:7A4F ",
    "2F95C:1:2597C 2F95D:1:25AA7 2F95F:1:7AEE 2F960:1:4202 2F961:1:25BAB 2F962:1:7BC6 2F963:1:7BC9 ",
    "2F964:1:4227 2F965:1:25C80 2F966:1:7CD2 2F967:1:42A0 2F968:1:7CE8 2F969:1:7CE3 2F96A:1:7D00 ",
    "2F96B:1:25F86 2F96C:1:7D63 2F96D:1:4301 2F96E:1:7DC7 2F96F:1:7E02 2F970:1:7E45 2F971:1:4334 ",
    "2F972:1:26228 2F973:1:26247 2F974:1:4359 2F975:1:262D9 2F976:1:7F7A 2F977:1:2633E 2F978:1:7F95 ",
    "2F979:1:7FFA 2F97A:1:8005 2F97B:1:264DA 2F97C:1:26523 2F97D:1:8060 2F97E:1:265A8 2F97F:1:8070 ",
    "2F980:1:2335F 2F981:1:43D5 2F982:1:80B2 2F983:1:8103 2F984:1:440B 2F985:1:813E 2F986:1:5AB5 ",
    "2F987:1:267A7 2F988:1:267B5 2F989:1:23393 2F98A:1:2339C 2F98B:1:8201 2F98C:1:8204 2F98D:1:8F9E ",
    "2F98E:1:446B 2F98F:1:8291 2F990:1:828B 2F991:1:829D 2F992:1:52B3 2F993:1:82B1 2F994:1:82B3 ",
    "2F995:1:82BD 2F996:1:82E6 2F997:1:26B3C 2F998:1:82E5 2F999:1:831D 2F99A:1:8363 2F99B:1:83AD ",
    "2F99C:1:8323 2F99D:1:83BD 2F99E:1:83E7 2F99F:1:8457 2F9A0:1:8353 2F9A1:1:83CA 2F9A2:1:83CC ",
    "2F9A3:1:83DC 2F9A4:1:26C36 2F9A5:1:26D6B 2F9A6:1:26CD5 2F9A7:1:452B 2F9A8:1:84F1 2F9A9:1:84F3 ",
    "2F9AA:1:8516 2F9AB:1:273CA 2F9AC:1:8564 2F9AD:1:26F2C 2F9AE:1:455D 2F9AF:1:4561 2F9B0:1:26FB1 ",
    "2F9B1:1:270D2 2F9B2:1:456B 2F9B3:1:8650 2F9B4:1:865C 2F9B5:1:8667 2F9B6:1:8669 2F9B7:1:86A9 ",
    "2F9B8:1:8688 2F9B9:1:870E 2F9BA:1:86E2 2F9BB:1:8779 2F9BC:1:8728 2F9BD:1:876B 2F9BE:1:8786 ",
    "2F9BF:1:45D7 2F9C0:1:87E1 2F9C1:1:8801 2F9C2:1:45F9 2F9C3:1:8860 2F9C4:1:8863 2F9C5:1:27667 ",
    "2F9C6:1:88D7 2F9C7:1:88DE 2F9C8:1:4635 2F9C9:1:88FA 2F9CA:1:34BB 2F9CB:1:278AE 2F9CC:1:27966 ",
    "2F9CD:1:46BE 2F9CE:1:46C7 2F9CF:1:8AA0 2F9D0:1:8AED 2F9D1:1:8B8A 2F9D2:1:8C55 2F9D3:1:27CA8 ",
    "2F9D4:1:8CAB 2F9D5:1:8CC1 2F9D6:1:8D1B 2F9D7:1:8D77 2F9D8:1:27F2F 2F9D9:1:20804 2F9DA:1:8DCB ",
    "2F9DB:1:8DBC 2F9DC:1:8DF0 2F9DD:1:208DE 2F9DE:1:8ED4 2F9DF:1:8F38 2F9E0:1:285D2 2F9E1:1:285ED ",
    "2F9E2:1:9094 2F9E3:1:90F1 2F9E4:1:9111 2F9E5:1:2872E 2F9E6:1:911B 2F9E7:1:9238 2F9E8:1:92D7 ",
    "2F9E9:1:92D8 2F9EA:1:927C 2F9EB:1:93F9 2F9EC:1:9415 2F9ED:1:28BFA 2F9EE:1:958B 2F9EF:1:4995 ",
    "2F9F0:1:95B7 2F9F1:1:28D77 2F9F2:1:49E6 2F9F3:1:96C3 2F9F4:1:5DB2 2F9F5:1:9723 2F9F6:1:29145 ",
    "2F9F7:1:2921A 2F9F8:1:4A6E 2F9F9:1:4A76 2F9FA:1:97E0 2F9FB:1:2940A 2F9FC:1:4AB2 2F9FD:1:29496 ",
    "2F9FE:1:980B 2FA00:1:9829 2FA01:1:295B6 2FA02:1:98E2 2FA03:1:4B33 2FA04:1:9929 2FA05:1:99A7 ",
    "2FA06:1:99C2 2FA07:1:99FE 2FA08:1:4BCE 2FA09:1:29B30 2FA0A:1:9B12 2FA0B:1:9C40 2FA0C:1:9CFD ",
    "2FA0D:1:4CCE 2FA0E:1:4CED 2FA0F:1:9D67 2FA10:1:2A0CE 2FA11:1:4CF8 2FA12:1:2A105 2FA13:1:2A20E ",
    "2FA14:1:2A291 2FA15:1:9EBB 2FA16:1:4D56 2FA17:1:9EF9 2FA18:1:9EFE 2FA19:1:9F05 2FA1A:1:9F0F ",
    "2FA1B:1:9F16 2FA1C:1:9F3B 2FA1D:1:2A600 2FA1E:3 30000:0 3134B:3 31350:0 3347A:3 E0100:2 E01F0:3 "]

/-- The rows of the mapping, ascending by their first code point. -/
def rows : Array (List (List Nat)) := CodeTable.read mapText

/-- The first code points of the rows. -/
def rowStarts : Array Nat := rows.map CodeTable.key

/-- The status of a code point. -/
def status (n : Nat) : Status :=
  match (CodeTable.lastAtMost rowStarts n).bind (rows[·]?) with
  | some (_ :: [0] :: _) => .valid
  | some (_ :: [1] :: target :: _) => .mapped target
  | some (_ :: [2] :: _) => .ignored
  | _ => .disallowed

end Idna

end PipelineEditor
