/-
The domain name mapping table (UTS #46, version 17.0, with part of version 18.0: some of the
characters it adds, valid or mapped). Every code point has a status: valid, ignored (dropped),
disallowed, a deviation (kept, since deviations are not mapped here), or mapped to a sequence of
code points. A run of code points that each map to one code point a fixed distance away is stored
as one shifted range.
-/
import BuildRecipe.Unicode.RangeTable

namespace BuildRecipe.Domain

open Unicode

/-- the status of a code point in the mapping table -/
inductive Status where
  | valid
  | ignored
  | disallowed
  | deviation
  /-- replaced by these code points -/
  | mapped (target : List Nat)
  /-- replaced by the code point this far above (or below, when negative) -/
  | shifted (offset : Int)
deriving DecidableEq, Repr, Inhabited

/-- reads the status part of a table entry -/
def Status.ofCode : List Char → Status
  | ['V'] => .valid
  | ['I'] => .ignored
  | ['D'] => .deviation
  | 'M' :: rest => .mapped (hexList rest)
  | 'S' :: '+' :: rest => .shifted (hexValue rest)
  | 'S' :: '-' :: rest => .shifted (-(hexValue rest : Int))
  | _ => .disallowed

/-- the status of each range of code points -/
def mappingText : String :=
  String.join [
    "0:V,41:S+20,5b:V,80:X,a0:S-80,a1:V,a8:M20.308,a9:V,aa:S-49,ab:V,ad:I,ae:V,af:M20.304,b0:V,",
    "b2:S-80,b4:M20.301,b5:S+307,b6:V,b8:M20.327,b9:S-88,ba:S-4b,bb:V,bc:M31.2044.34,bd:M31.2044.32,",
    "be:M33.2044.34,bf:V,c0:S+20,d7:V,d8:S+20,df:D,e0:V,100:S+1,101:V,102:S+1,103:V,104:S+1,105:V,",
    "106:S+1,107:V,108:S+1,109:V,10a:S+1,10b:V,10c:S+1,10d:V,10e:S+1,10f:V,110:S+1,111:V,112:S+1,",
    "113:V,114:S+1,115:V,116:S+1,117:V,118:S+1,119:V,11a:S+1,11b:V,11c:S+1,11d:V,11e:S+1,11f:V,",
    "120:S+1,121:V,122:S+1,123:V,124:S+1,125:V,126:S+1,127:V,128:S+1,129:V,12a:S+1,12b:V,12c:S+1,",
    "12d:V,12e:S+1,12f:V,130:M69.307,131:V,132:M69.6a,134:S+1,135:V,136:S+1,137:V,139:S+1,13a:V,",
    "13b:S+1,13c:V,13d:S+1,13e:V,13f:M6c.b7,141:S+1,142:V,143:S+1,144:V,145:S+1,146:V,147:S+1,148:V,",
    "149:M2bc.6e,14a:S+1,14b:V,14c:S+1,14d:V,14e:S+1,14f:V,150:S+1,151:V,152:S+1,153:V,154:S+1,155:V,",
    "156:S+1,157:V,158:S+1,159:V,15a:S+1,15b:V,15c:S+1,15d:V,15e:S+1,15f:V,160:S+1,161:V,162:S+1,",
    "163:V,164:S+1,165:V,166:S+1,167:V,168:S+1,169:V,16a:S+1,16b:V,16c:S+1,16d:V,16e:S+1,16f:V,",
    "170:S+1,171:V,172:S+1,173:V,174:S+1,175:V,176:S+1,177:V,178:S-79,179:S+1,17a:V,17b:S+1,17c:V,",
    "17d:S+1,17e:V,17f:S-10c,180:V,181:S+d2,182:S+1,183:V,184:S+1,185:V,186:S+ce,187:S+1,188:V,",
    "189:S+cd,18b:S+1,18c:V,18e:S+4f,18f:S+ca,190:S+cb,191:S+1,192:V,193:S+cd,194:S+cf,195:V,",
    "196:S+d3,197:S+d1,198:S+1,199:V,19c:S+d3,19d:S+d5,19e:V,19f:S+d6,1a0:S+1,1a1:V,1a2:S+1,1a3:V,",
    "1a4:S+1,1a5:V,1a6:S+da,1a7:S+1,1a8:V,1a9:S+da,1aa:V,1ac:S+1,1ad:V,1ae:S+da,1af:S+1,1b0:V,",
    "1b1:S+d9,1b3:S+1,1b4:V,1b5:S+1,1b6:V,1b7:S+db,1b8:S+1,1b9:V,1bc:S+1,1bd:V,1c4:M64.17e,",
    "1c7:M6c.6a,1ca:M6e.6a,1cd:S+1,1ce:V,1cf:S+1,1d0:V,1d1:S+1,1d2:V,1d3:S+1,1d4:V,1d5:S+1,1d6:V,",
    "1d7:S+1,1d8:V,1d9:S+1,1da:V,1db:S+1,1dc:V,1de:S+1,1df:V,1e0:S+1,1e1:V,1e2:S+1,1e3:V,1e4:S+1,",
    "1e5:V,1e6:S+1,1e7:V,1e8:S+1,1e9:V,1ea:S+1,1eb:V,1ec:S+1,1ed:V,1ee:S+1,1ef:V,1f1:M64.7a,1f4:S+1,",
    "1f5:V,1f6:S-61,1f7:S-38,1f8:S+1,1f9:V,1fa:S+1,1fb:V,1fc:S+1,1fd:V,1fe:S+1,1ff:V,200:S+1,201:V,",
    "202:S+1,203:V,204:S+1,205:V,206:S+1,207:V,208:S+1,209:V,20a:S+1,20b:V,20c:S+1,20d:V,20e:S+1,",
    "20f:V,210:S+1,211:V,212:S+1,213:V,214:S+1,215:V,216:S+1,217:V,218:S+1,219:V,21a:S+1,21b:V,",
    "21c:S+1,21d:V,21e:S+1,21f:V,220:S-82,221:V,222:S+1,223:V,224:S+1,225:V,226:S+1,227:V,228:S+1,",
    "229:V,22a:S+1,22b:V,22c:S+1,22d:V,22e:S+1,22f:V,230:S+1,231:V,232:S+1,233:V,23a:S+2a2b,23b:S+1,",
    "23c:V,23d:S-a3,23e:S+2a28,23f:V,241:S+1,242:V,243:S-c3,244:S+45,245:S+47,246:S+1,247:V,248:S+1,",
    "249:V,24a:S+1,24b:V,24c:S+1,24d:V,24e:S+1,24f:V,2b0:S-248,2b1:S-4b,2b2:S-248,2b3:S-241,2b4:S-3b,",
    "2b5:S-3a,2b6:S-35,2b7:S-240,2b8:S-23f,2b9:V,2d8:M20.306,2d9:M20.307,2da:M20.30a,2db:M20.328,",
    "2dc:M20.303,2dd:M20.30b,2de:V,2e0:S-7d,2e1:S-275,2e2:S-26f,2e3:S-26b,2e4:S-4f,2e5:V,340:S-40,",
    "342:V,343:S-30,344:M308.301,345:S+74,346:V,34f:I,350:V,370:S+1,371:V,372:S+1,373:V,374:S-bb,",
    "375:V,376:S+1,377:V,378:X,37a:M20.3b9,37b:V,37e:S-343,37f:S+74,380:X,384:M20.301,",
    "385:M20.308.301,386:S+26,387:S-2d0,388:S+25,38b:X,38c:S+40,38d:X,38e:S+3f,390:V,391:S+20,3a2:X,",
    "3a3:S+20,3ac:V,3c2:D,3c3:V,3cf:S+8,3d0:S-1e,3d1:S-19,3d2:S-d,3d3:S-6,3d4:S-9,3d5:S-f,3d6:S-16,",
    "3d7:V,3d8:S+1,3d9:V,3da:S+1,3db:V,3dc:S+1,3dd:V,3de:S+1,3df:V,3e0:S+1,3e1:V,3e2:S+1,3e3:V,",
    "3e4:S+1,3e5:V,3e6:S+1,3e7:V,3e8:S+1,3e9:V,3ea:S+1,3eb:V,3ec:S+1,3ed:V,3ee:S+1,3ef:V,3f0:S-36,",
    "3f1:S-30,3f2:S-2f,3f3:V,3f4:S-3c,3f5:S-40,3f6:V,3f7:S+1,3f8:V,3f9:S-36,3fa:S+1,3fb:V,3fd:S-82,",
    "400:S+50,410:S+20,430:V,460:S+1,461:V,462:S+1,463:V,464:S+1,465:V,466:S+1,467:V,468:S+1,469:V,",
    "46a:S+1,46b:V,46c:S+1,46d:V,46e:S+1,46f:V,470:S+1,471:V,472:S+1,473:V,474:S+1,475:V,476:S+1,",
    "477:V,478:S+1,479:V,47a:S+1,47b:V,47c:S+1,47d:V,47e:S+1,47f:V,480:S+1,481:V,48a:S+1,48b:V,",
    "48c:S+1,48d:V,48e:S+1,48f:V,490:S+1,491:V,492:S+1,493:V,494:S+1,495:V,496:S+1,497:V,498:S+1,",
    "499:V,49a:S+1,49b:V,49c:S+1,49d:V,49e:S+1,49f:V,4a0:S+1,4a1:V,4a2:S+1,4a3:V,4a4:S+1,4a5:V,",
    "4a6:S+1,4a7:V,4a8:S+1,4a9:V,4aa:S+1,4ab:V,4ac:S+1,4ad:V,4ae:S+1,4af:V,4b0:S+1,4b1:V,4b2:S+1,",
    "4b3:V,4b4:S+1,4b5:V,4b6:S+1,4b7:V,4b8:S+1,4b9:V,4ba:S+1,4bb:V,4bc:S+1,4bd:V,4be:S+1,4bf:V,",
    "4c0:S+f,4c1:S+1,4c2:V,4c3:S+1,4c4:V,4c5:S+1,4c6:V,4c7:S+1,4c8:V,4c9:S+1,4ca:V,4cb:S+1,4cc:V,",
    "4cd:S+1,4ce:V,4d0:S+1,4d1:V,4d2:S+1,4d3:V,4d4:S+1,4d5:V,4d6:S+1,4d7:V,4d8:S+1,4d9:V,4da:S+1,",
    "4db:V,4dc:S+1,4dd:V,4de:S+1,4df:V,4e0:S+1,4e1:V,4e2:S+1,4e3:V,4e4:S+1,4e5:V,4e6:S+1,4e7:V,",
    "4e8:S+1,4e9:V,4ea:S+1,4eb:V,4ec:S+1,4ed:V,4ee:S+1,4ef:V,4f0:S+1,4f1:V,4f2:S+1,4f3:V,4f4:S+1,",
    "4f5:V,4f6:S+1,4f7:V,4f8:S+1,4f9:V,4fa:S+1,4fb:V,4fc:S+1,4fd:V,4fe:S+1,4ff:V,500:S+1,501:V,",
    "502:S+1,503:V,504:S+1,505:V,506:S+1,507:V,508:S+1,509:V,50a:S+1,50b:V,50c:S+1,50d:V,50e:S+1,",
    "50f:V,510:S+1,511:V,512:S+1,513:V,514:S+1,515:V,516:S+1,517:V,518:S+1,519:V,51a:S+1,51b:V,",
    "51c:S+1,51d:V,51e:S+1,51f:V,520:S+1,521:V,522:S+1,523:V,524:S+1,525:V,526:S+1,527:V,528:S+1,",
    "529:V,52a:S+1,52b:V,52c:S+1,52d:V,52e:S+1,52f:V,530:X,531:S+30,557:X,558:S+f,559:V,587:M565.582,",
    "588:V,58b:S-20,58c:S-17,58d:V,590:X,591:V,5ca:X,5d0:V,5eb:X,5ef:V,5f5:X,606:V,61c:X,61d:V,",
    "675:M627.674,676:M648.674,677:M6c7.674,678:M64a.674,679:V,6dd:X,6de:V,70e:X,710:V,74b:X,74d:V,",
    "7b2:X,7c0:V,7fb:X,7fd:V,82e:X,830:V,83f:X,840:V,85c:X,85e:V,85f:X,860:V,86b:X,870:V,890:X,897:V,",
    "8e2:X,8e3:V,958:M915.93c,959:M916.93c,95a:M917.93c,95b:M91c.93c,95c:M921.93c,95d:M922.93c,",
    "95e:M92b.93c,95f:M92f.93c,960:V,984:X,985:V,98d:X,98f:V,991:X,993:V,9a9:X,9aa:V,9b1:X,9b2:V,",
    "9b3:X,9b6:V,9ba:X,9bc:V,9c5:X,9c7:V,9c9:X,9cb:V,9cf:X,9d7:V,9d8:X,9dc:M9a1.9bc,9dd:M9a2.9bc,",
    "9de:X,9df:M9af.9bc,9e0:V,9e4:X,9e6:V,9ff:X,a01:V,a04:X,a05:V,a0b:X,a0f:V,a11:X,a13:V,a29:X,",
    "a2a:V,a31:X,a32:V,a33:Ma32.a3c,a34:X,a35:V,a36:Ma38.a3c,a37:X,a38:V,a3a:X,a3c:V,a3d:X,a3e:V,",
    "a43:X,a47:V,a49:X,a4b:V,a4e:X,a51:V,a52:X,a59:Ma16.a3c,a5a:Ma17.a3c,a5b:Ma1c.a3c,a5c:V,a5d:X,",
    "a5e:Ma2b.a3c,a5f:X,a66:V,a77:X,a81:V,a84:X,a85:V,a8e:X,a8f:V,a92:X,a93:V,aa9:X,aaa:V,ab1:X,",
    "ab2:V,ab4:X,ab5:V,aba:X,abc:V,ac6:X,ac7:V,aca:X,acb:V,ace:X,ad0:V,ad1:X,ae0:V,ae4:X,ae6:V,af2:X,",
    "af9:V,b00:X,b01:V,b04:X,b05:V,b0d:X,b0f:V,b11:X,b13:V,b29:X,b2a:V,b31:X,b32:V,b34:X,b35:V,b3a:X,",
    "b3c:V,b45:X,b47:V,b49:X,b4b:V,b4e:X,b53:V,b58:X,b5c:Mb21.b3c,b5d:Mb22.b3c,b5e:X,b5f:V,b64:X,",
    "b66:V,b78:X,b82:V,b84:X,b85:V,b8b:X,b8e:V,b91:X,b92:V,b96:X,b99:V,b9b:X,b9c:V,b9d:X,b9e:V,ba0:X,",
    "ba3:V,ba5:X,ba8:V,bab:X,bae:V,bba:X,bbe:V,bc3:X,bc6:V,bc9:X,bca:V,bce:X,bd0:V,bd1:X,bd7:V,bd8:X,",
    "be6:V,bfb:X,c00:V,c0d:X,c0e:V,c11:X,c12:V,c29:X,c2a:V,c3a:X,c3c:V,c45:X,c46:V,c49:X,c4a:V,c4e:X,",
    "c55:V,c57:X,c58:V,c5b:X,c5c:V,c5e:X,c60:V,c64:X,c66:V,c70:X,c77:V,c8d:X,c8e:V,c91:X,c92:V,ca9:X,",
    "caa:V,cb4:X,cb5:V,cba:X,cbc:V,cc5:X,cc6:V,cc9:X,cca:V,cce:X,cd5:V,cd7:X,cdc:V,cdf:X,ce0:V,ce4:X,",
    "ce6:V,cf0:X,cf1:V,cf4:X,d00:V,d0d:X,d0e:V,d11:X,d12:V,d45:X,d46:V,d49:X,d4a:V,d50:X,d54:V,d64:X,",
    "d66:V,d80:X,d81:V,d84:X,d85:V,d97:X,d9a:V,db2:X,db3:V,dbc:X,dbd:V,dbe:X,dc0:V,dc7:X,dca:V,dcb:X,",
    "dcf:V,dd5:X,dd6:V,dd7:X,dd8:V,de0:X,de6:V,df0:X,df2:V,df5:X,e01:V,e33:Me4d.e32,e34:V,e3b:X,",
    "e3f:V,e5c:X,e81:V,e83:X,e84:V,e85:X,e86:V,e8b:X,e8c:V,ea4:X,ea5:V,ea6:X,ea7:V,eb3:Mecd.eb2,",
    "eb4:V,ebe:X,ec0:V,ec5:X,ec6:V,ec7:X,ec8:V,ecf:X,ed0:V,eda:X,edc:Meab.e99,edd:Meab.ea1,ede:V,",
    "ee0:X,f00:V,f0c:S-1,f0d:V,f43:Mf42.fb7,f44:V,f48:X,f49:V,f4d:Mf4c.fb7,f4e:V,f52:Mf51.fb7,f53:V,",
    "f57:Mf56.fb7,f58:V,f5c:Mf5b.fb7,f5d:V,f69:Mf40.fb5,f6a:V,f6d:X,f71:V,f73:Mf71.f72,f74:V,",
    "f75:Mf71.f74,f76:Mfb2.f80,f77:Mfb2.f71.f80,f78:Mfb3.f80,f79:Mfb3.f71.f80,f7a:V,f81:Mf71.f80,",
    "f82:V,f93:Mf92.fb7,f94:V,f98:X,f99:V,f9d:Mf9c.fb7,f9e:V,fa2:Mfa1.fb7,fa3:V,fa7:Mfa6.fb7,fa8:V,",
    "fac:Mfab.fb7,fad:V,fb9:Mf90.fb5,fba:V,fbd:X,fbe:V,fcd:X,fce:V,fdb:X,1000:V,10a0:S+1c60,10c6:X,",
    "10c7:S+1c60,10c8:X,10cd:S+1c60,10ce:X,10d0:V,10fc:S-20,10fd:V,115f:I,1161:V,1249:X,124a:V,",
    "124e:X,1250:V,1257:X,1258:V,1259:X,125a:V,125e:X,1260:V,1289:X,128a:V,128e:X,1290:V,12b1:X,",
    "12b2:V,12b6:X,12b8:V,12bf:X,12c0:V,12c1:X,12c2:V,12c6:X,12c8:V,12d7:X,12d8:V,1311:X,1312:V,",
    "1316:X,1318:V,135b:X,135d:V,137d:X,1380:V,139a:X,13a0:V,13f6:X,13f8:S-8,13fe:X,1400:V,1680:X,",
    "1681:V,169d:X,16a0:V,16f9:X,1700:V,1716:X,171f:V,1737:X,1740:V,1754:X,1760:V,176d:X,176e:V,",
    "1771:X,1772:V,1774:X,1780:V,17b4:I,17b6:V,17de:X,17e0:V,17ea:X,17f0:V,17fa:X,1800:V,180b:I,",
    "1810:V,181a:X,1820:V,1879:X,1880:V,18ab:X,18b0:V,18f6:X,1900:V,191f:X,1920:V,192c:X,1930:V,",
    "193c:X,1940:V,1941:X,1944:V,196e:X,1970:V,1975:X,1980:V,19ac:X,19b0:V,19ca:X,19d0:V,19db:X,",
    "19de:V,1a1c:X,1a1e:V,1a5f:X,1a60:V,1a7d:X,1a7f:V,1a8a:X,1a90:V,1a9a:X,1aa0:V,1aae:X,1ab0:V,",
    "1ade:X,1adf:V,1af1:X,1b00:V,1b4d:X,1b4e:V,1bf4:X,1bfc:V,1c38:X,1c3b:V,1c4a:X,1c4d:V,1c80:S-184e,",
    "1c81:S-184d,1c82:S-1844,1c83:S-1842,1c84:M442,1c86:S-183c,1c87:S-1824,1c88:S+89c3,1c89:S+1,",
    "1c8a:V,1c8b:X,1c90:S-bc0,1cbb:X,1cbd:S-bc0,1cc0:V,1cc8:X,1cd0:V,1cfb:X,1d00:V,1d2c:S-1ccb,",
    "1d2d:S-1c47,1d2e:S-1ccc,1d2f:V,1d30:S-1ccc,1d32:S-1b55,1d33:S-1ccc,1d3b:V,1d3c:S-1ccd,",
    "1d3d:S-1b1a,1d3e:S-1cce,1d3f:S-1ccd,1d40:S-1ccc,1d42:S-1ccb,1d43:S-1ce2,1d44:S-1af4,1d46:S-44,",
    "1d47:S-1ce5,1d48:S-1ce4,1d4a:S-1af1,1d4b:S-1af0,1d4d:S-1ce6,1d4e:V,1d4f:S-1ce4,1d50:S-1ce3,",
    "1d51:S-1c06,1d52:S-1ce3,1d53:S-1aff,1d54:S-3e,1d56:S-1ce6,1d57:S-1ce3,1d59:S-3c,1d5a:S-1aeb,",
    "1d5b:S-1ce5,1d5c:S-37,1d5d:S-19ab,1d60:S-199a,1d62:S-1cf9,1d63:S-1cf1,1d64:S-1cef,1d66:S-19b4,",
    "1d68:S-19a7,1d69:S-19a3,1d6b:V,1d78:S-193b,1d79:V,1d9b:S-1b49,1d9c:S-1d39,1d9d:S-1b48,",
    "1d9e:S-1cae,1d9f:S-1b43,1da0:S-1d3a,1da1:S-1b42,1da2:S-1b41,1da3:S-1b3e,1da4:S-1b3c,1da7:S-2c,",
    "1da8:S-1b0b,1da9:S-1b3c,1daa:S-25,1dab:S-1b0c,1dac:S-1b3b,1dad:S-1b3d,1dae:S-1b3c,1db2:S-1b3a,",
    "1db3:S-1b31,1db5:S-1c0a,1db6:S-1b2d,1db8:S-9c,1db9:S-1b2e,1dbb:S-1d41,1dbc:S-1b2c,1dbf:S-1a07,",
    "1dc0:V,1e00:S+1,1e01:V,1e02:S+1,1e03:V,1e04:S+1,1e05:V,1e06:S+1,1e07:V,1e08:S+1,1e09:V,1e0a:S+1,",
    "1e0b:V,1e0c:S+1,1e0d:V,1e0e:S+1,1e0f:V,1e10:S+1,1e11:V,1e12:S+1,1e13:V,1e14:S+1,1e15:V,1e16:S+1,",
    "1e17:V,1e18:S+1,1e19:V,1e1a:S+1,1e1b:V,1e1c:S+1,1e1d:V,1e1e:S+1,1e1f:V,1e20:S+1,1e21:V,1e22:S+1,",
    "1e23:V,1e24:S+1,1e25:V,1e26:S+1,1e27:V,1e28:S+1,1e29:V,1e2a:S+1,1e2b:V,1e2c:S+1,1e2d:V,1e2e:S+1,",
    "1e2f:V,1e30:S+1,1e31:V,1e32:S+1,1e33:V,1e34:S+1,1e35:V,1e36:S+1,1e37:V,1e38:S+1,1e39:V,1e3a:S+1,",
    "1e3b:V,1e3c:S+1,1e3d:V,1e3e:S+1,1e3f:V,1e40:S+1,1e41:V,1e42:S+1,1e43:V,1e44:S+1,1e45:V,1e46:S+1,",
    "1e47:V,1e48:S+1,1e49:V,1e4a:S+1,1e4b:V,1e4c:S+1,1e4d:V,1e4e:S+1,1e4f:V,1e50:S+1,1e51:V,1e52:S+1,",
    "1e53:V,1e54:S+1,1e55:V,1e56:S+1,1e57:V,1e58:S+1,1e59:V,1e5a:S+1,1e5b:V,1e5c:S+1,1e5d:V,1e5e:S+1,",
    "1e5f:V,1e60:S+1,1e61:V,1e62:S+1,1e63:V,1e64:S+1,1e65:V,1e66:S+1,1e67:V,1e68:S+1,1e69:V,1e6a:S+1,",
    "1e6b:V,1e6c:S+1,1e6d:V,1e6e:S+1,1e6f:V,1e70:S+1,1e71:V,1e72:S+1,1e73:V,1e74:S+1,1e75:V,1e76:S+1,",
    "1e77:V,1e78:S+1,1e79:V,1e7a:S+1,1e7b:V,1e7c:S+1,1e7d:V,1e7e:S+1,1e7f:V,1e80:S+1,1e81:V,1e82:S+1,",
    "1e83:V,1e84:S+1,1e85:V,1e86:S+1,1e87:V,1e88:S+1,1e89:V,1e8a:S+1,1e8b:V,1e8c:S+1,1e8d:V,1e8e:S+1,",
    "1e8f:V,1e90:S+1,1e91:V,1e92:S+1,1e93:V,1e94:S+1,1e95:V,1e9a:M61.2be,1e9b:S-3a,1e9c:V,",
    "1e9e:S-1dbf,1e9f:V,1ea0:S+1,1ea1:V,1ea2:S+1,1ea3:V,1ea4:S+1,1ea5:V,1ea6:S+1,1ea7:V,1ea8:S+1,",
    "1ea9:V,1eaa:S+1,1eab:V,1eac:S+1,1ead:V,1eae:S+1,1eaf:V,1eb0:S+1,1eb1:V,1eb2:S+1,1eb3:V,1eb4:S+1,",
    "1eb5:V,1eb6:S+1,1eb7:V,1eb8:S+1,1eb9:V,1eba:S+1,1ebb:V,1ebc:S+1,1ebd:V,1ebe:S+1,1ebf:V,1ec0:S+1,",
    "1ec1:V,1ec2:S+1,1ec3:V,1ec4:S+1,1ec5:V,1ec6:S+1,1ec7:V,1ec8:S+1,1ec9:V,1eca:S+1,1ecb:V,1ecc:S+1,",
    "1ecd:V,1ece:S+1,1ecf:V,1ed0:S+1,1ed1:V,1ed2:S+1,1ed3:V,1ed4:S+1,1ed5:V,1ed6:S+1,1ed7:V,1ed8:S+1,",
    "1ed9:V,1eda:S+1,1edb:V,1edc:S+1,1edd:V,1ede:S+1,1edf:V,1ee0:S+1,1ee1:V,1ee2:S+1,1ee3:V,1ee4:S+1,",
    "1ee5:V,1ee6:S+1,1ee7:V,1ee8:S+1,1ee9:V,1eea:S+1,1eeb:V,1eec:S+1,1eed:V,1eee:S+1,1eef:V,1ef0:S+1,",
    "1ef1:V,1ef2:S+1,1ef3:V,1ef4:S+1,1ef5:V,1ef6:S+1,1ef7:V,1ef8:S+1,1ef9:V,1efa:S+1,1efb:V,1efc:S+1,",
    "1efd:V,1efe:S+1,1eff:V,1f08:S-8,1f10:V,1f16:X,1f18:S-8,1f1e:X,1f20:V,1f28:S-8,1f30:V,1f38:S-8,",
    "1f40:V,1f46:X,1f48:S-8,1f4e:X,1f50:V,1f58:X,1f59:S-8,1f5a:X,1f5b:S-8,1f5c:X,1f5d:S-8,1f5e:X,",
    "1f5f:S-8,1f60:V,1f68:S-8,1f70:V,1f71:S-1bc5,1f72:V,1f73:S-1bc6,1f74:V,1f75:S-1bc7,1f76:V,",
    "1f77:S-1bc8,1f78:V,1f79:S-1bad,1f7a:V,1f7b:S-1bae,1f7c:V,1f7d:S-1baf,1f7e:X,1f80:M1f00.3b9,",
    "1f81:M1f01.3b9,1f82:M1f02.3b9,1f83:M1f03.3b9,1f84:M1f04.3b9,1f85:M1f05.3b9,1f86:M1f06.3b9,",
    "1f87:M1f07.3b9,1f88:M1f00.3b9,1f89:M1f01.3b9,1f8a:M1f02.3b9,1f8b:M1f03.3b9,1f8c:M1f04.3b9,",
    "1f8d:M1f05.3b9,1f8e:M1f06.3b9,1f8f:M1f07.3b9,1f90:M1f20.3b9,1f91:M1f21.3b9,1f92:M1f22.3b9,",
    "1f93:M1f23.3b9,1f94:M1f24.3b9,1f95:M1f25.3b9,1f96:M1f26.3b9,1f97:M1f27.3b9,1f98:M1f20.3b9,",
    "1f99:M1f21.3b9,1f9a:M1f22.3b9,1f9b:M1f23.3b9,1f9c:M1f24.3b9,1f9d:M1f25.3b9,1f9e:M1f26.3b9,",
    "1f9f:M1f27.3b9,1fa0:M1f60.3b9,1fa1:M1f61.3b9,1fa2:M1f62.3b9,1fa3:M1f63.3b9,1fa4:M1f64.3b9,",
    "1fa5:M1f65.3b9,1fa6:M1f66.3b9,1fa7:M1f67.3b9,1fa8:M1f60.3b9,1fa9:M1f61.3b9,1faa:M1f62.3b9,",
    "1fab:M1f63.3b9,1fac:M1f64.3b9,1fad:M1f65.3b9,1fae:M1f66.3b9,1faf:M1f67.3b9,1fb0:V,",
    "1fb2:M1f70.3b9,1fb3:M3b1.3b9,1fb4:M3ac.3b9,1fb5:X,1fb6:V,1fb7:M1fb6.3b9,1fb8:S-8,1fba:S-4a,",
    "1fbb:S-1c0f,1fbc:M3b1.3b9,1fbd:M20.313,1fbe:S-1c05,1fbf:M20.313,1fc0:M20.342,1fc1:M20.308.342,",
    "1fc2:M1f74.3b9,1fc3:M3b7.3b9,1fc4:M3ae.3b9,1fc5:X,1fc6:V,1fc7:M1fc6.3b9,1fc8:S-56,1fc9:S-1c1c,",
    "1fca:S-56,1fcb:S-1c1d,1fcc:M3b7.3b9,1fcd:M20.313.300,1fce:M20.313.301,1fcf:M20.313.342,1fd0:V,",
    "1fd3:S-1c43,1fd4:X,1fd6:V,1fd8:S-8,1fda:S-64,1fdb:S-1c2c,1fdc:X,1fdd:M20.314.300,",
    "1fde:M20.314.301,1fdf:M20.314.342,1fe0:V,1fe3:S-1c33,1fe4:V,1fe8:S-8,1fea:S-70,1feb:S-1c1e,",
    "1fec:S-7,1fed:M20.308.300,1fee:M20.308.301,1fef:S-1f8f,1ff0:X,1ff2:M1f7c.3b9,1ff3:M3c9.3b9,",
    "1ff4:M3ce.3b9,1ff5:X,1ff6:V,1ff7:M1ff6.3b9,1ff8:S-80,1ff9:S-1c2d,1ffa:S-7e,1ffb:S-1c2d,",
    "1ffc:M3c9.3b9,1ffd:M20.301,1ffe:M20.314,1fff:X,2000:M20,200b:I,200c:D,200e:X,2010:V,2011:S-1,",
    "2012:V,2017:M20.333,2018:V,2024:X,2027:V,2028:X,202f:S-200f,2030:V,2033:M2032.2032,",
    "2034:M2032.2032.2032,2035:V,2036:M2035.2035,2037:M2035.2035.2035,2038:V,203c:M21.21,203d:V,",
    "203e:M20.305,203f:V,2047:M3f.3f,2048:M3f.21,2049:M21.3f,204a:V,2057:M2032.2032.2032.2032,2058:V,",
    "205f:S-203f,2060:I,2065:X,206a:I,2070:S-2040,2071:S-2008,2072:X,2074:S-2040,207a:S-204f,",
    "207b:S+197,207c:S-203f,207d:S-2055,207f:S-2011,2080:S-2050,208a:S-205f,208b:S+187,208c:S-204f,",
    "208d:S-2065,208f:V,2090:S-202f,2091:S-202c,2092:S-2023,2093:S-201b,2094:S-1e3b,2095:S-202d,",
    "2096:S-202b,209a:S-202a,209b:S-2028,209d:S-2026,209e:S-2025,20a0:V,20a8:M72.73,20a9:V,20c5:X,",
    "20d0:V,20f1:X,2100:M61.2f.63,2101:M61.2f.73,2102:S-209f,2103:Mb0.63,2104:V,2105:M63.2f.6f,",
    "2106:M63.2f.75,2107:S-1eac,2108:V,2109:Mb0.66,210a:S-20a3,210b:M68,210f:S-1fe8,2110:M69,",
    "2112:M6c,2114:V,2115:S-20a7,2116:M6e.6f,2117:V,2119:S-20a9,211b:M72,211e:V,2120:M73.6d,",
    "2121:M74.65.6c,2122:M74.6d,2123:V,2124:S-20aa,2125:V,2126:S-1d5d,2127:V,2128:S-20ae,2129:V,",
    "212a:S-20bf,212b:S-2046,212c:S-20ca,212e:V,212f:M65,2131:S-20cb,2132:S+1c,2133:S-20c6,",
    "2134:S-20c5,2135:S-1b65,2139:S-20d0,213a:V,213b:M66.61.78,213c:S-1d7c,213d:M3b3,213f:S-1d7f,",
    "2140:S+d1,2141:V,2145:M64,2147:S-20e2,2148:S-20df,214a:V,2150:M31.2044.37,2151:M31.2044.39,",
    "2152:M31.2044.31.30,2153:M31.2044.33,2154:M32.2044.33,2155:M31.2044.35,2156:M32.2044.35,",
    "2157:M33.2044.35,2158:M34.2044.35,2159:M31.2044.36,215a:M35.2044.36,215b:M31.2044.38,",
    "215c:M33.2044.38,215d:M35.2044.38,215e:M37.2044.38,215f:M31.2044,2160:S-20f7,2161:M69.69,",
    "2162:M69.69.69,2163:M69.76,2164:S-20ee,2165:M76.69,2166:M76.69.69,2167:M76.69.69.69,2168:M69.78,",
    "2169:S-20f1,216a:M78.69,216b:M78.69.69,216c:S-2100,216d:S-210a,216f:S-2102,2170:S-2107,",
    "2171:M69.69,2172:M69.69.69,2173:M69.76,2174:S-20fe,2175:M76.69,2176:M76.69.69,2177:M76.69.69.69,",
    "2178:M69.78,2179:S-2101,217a:M78.69,217b:M78.69.69,217c:S-2110,217d:S-211a,217f:S-2112,2180:V,",
    "2183:S+1,2184:V,2189:M30.2044.33,218a:V,218c:X,2190:V,222c:M222b.222b,222d:M222b.222b.222b,",
    "222e:V,222f:M222e.222e,2230:M222e.222e.222e,2231:V,2329:S+cdf,232b:V,242a:X,2440:V,244b:X,",
    "2460:S-242f,2469:M31.30,246a:M31.31,246b:M31.32,246c:M31.33,246d:M31.34,246e:M31.35,246f:M31.36,",
    "2470:M31.37,2471:M31.38,2472:M31.39,2473:M32.30,2474:M28.31.29,2475:M28.32.29,2476:M28.33.29,",
    "2477:M28.34.29,2478:M28.35.29,2479:M28.36.29,247a:M28.37.29,247b:M28.38.29,247c:M28.39.29,",
    "247d:M28.31.30.29,247e:M28.31.31.29,247f:M28.31.32.29,2480:M28.31.33.29,2481:M28.31.34.29,",
    "2482:M28.31.35.29,2483:M28.31.36.29,2484:M28.31.37.29,2485:M28.31.38.29,2486:M28.31.39.29,",
    "2487:M28.32.30.29,2488:X,249c:M28.61.29,249d:M28.62.29,249e:M28.63.29,249f:M28.64.29,",
    "24a0:M28.65.29,24a1:M28.66.29,24a2:M28.67.29,24a3:M28.68.29,24a4:M28.69.29,24a5:M28.6a.29,",
    "24a6:M28.6b.29,24a7:M28.6c.29,24a8:M28.6d.29,24a9:M28.6e.29,24aa:M28.6f.29,24ab:M28.70.29,",
    "24ac:M28.71.29,24ad:M28.72.29,24ae:M28.73.29,24af:M28.74.29,24b0:M28.75.29,24b1:M28.76.29,",
    "24b2:M28.77.29,24b3:M28.78.29,24b4:M28.79.29,24b5:M28.7a.29,24b6:S-2455,24d0:S-246f,24ea:S-24ba,",
    "24eb:V,2a0c:M222b.222b.222b.222b,2a0d:V,2a74:M3a.3a.3d,2a75:M3d.3d,2a76:M3d.3d.3d,2a77:V,",
    "2adc:M2add.338,2add:V,2b74:X,2b76:V,2c00:S+30,2c30:V,2c60:S+1,2c61:V,2c62:S-29f7,2c63:S-ee6,",
    "2c64:S-29e7,2c65:V,2c67:S+1,2c68:V,2c69:S+1,2c6a:V,2c6b:S+1,2c6c:V,2c6d:S-2a1c,2c6e:S-29fd,",
    "2c6f:S-2a1f,2c70:S-2a1e,2c71:V,2c72:S+1,2c73:V,2c75:S+1,2c76:V,2c7c:S-2c12,2c7d:S-2c07,",
    "2c7e:S-2a3f,2c80:S+1,2c81:V,2c82:S+1,2c83:V,2c84:S+1,2c85:V,2c86:S+1,2c87:V,2c88:S+1,2c89:V,",
    "2c8a:S+1,2c8b:V,2c8c:S+1,2c8d:V,2c8e:S+1,2c8f:V,2c90:S+1,2c91:V,2c92:S+1,2c93:V,2c94:S+1,2c95:V,",
    "2c96:S+1,2c97:V,2c98:S+1,2c99:V,2c9a:S+1,2c9b:V,2c9c:S+1,2c9d:V,2c9e:S+1,2c9f:V,2ca0:S+1,2ca1:V,",
    "2ca2:S+1,2ca3:V,2ca4:S+1,2ca5:V,2ca6:S+1,2ca7:V,2ca8:S+1,2ca9:V,2caa:S+1,2cab:V,2cac:S+1,2cad:V,",
    "2cae:S+1,2caf:V,2cb0:S+1,2cb1:V,2cb2:S+1,2cb3:V,2cb4:S+1,2cb5:V,2cb6:S+1,2cb7:V,2cb8:S+1,2cb9:V,",
    "2cba:S+1,2cbb:V,2cbc:S+1,2cbd:V,2cbe:S+1,2cbf:V,2cc0:S+1,2cc1:V,2cc2:S+1,2cc3:V,2cc4:S+1,2cc5:V,",
    "2cc6:S+1,2cc7:V,2cc8:S+1,2cc9:V,2cca:S+1,2ccb:V,2ccc:S+1,2ccd:V,2cce:S+1,2ccf:V,2cd0:S+1,2cd1:V,",
    "2cd2:S+1,2cd3:V,2cd4:S+1,2cd5:V,2cd6:S+1,2cd7:V,2cd8:S+1,2cd9:V,2cda:S+1,2cdb:V,2cdc:S+1,2cdd:V,",
    "2cde:S+1,2cdf:V,2ce0:S+1,2ce1:V,2ce2:S+1,2ce3:V,2ceb:S+1,2cec:V,2ced:S+1,2cee:V,2cf2:S+1,2cf3:V,",
    "2cf4:X,2cf9:V,2d26:X,2d27:V,2d28:X,2d2d:V,2d2e:X,2d30:V,2d68:X,2d6f:S-e,2d70:V,2d71:X,2d7f:V,",
    "2d97:X,2da0:V,2da7:X,2da8:V,2daf:X,2db0:V,2db7:X,2db8:V,2dbf:X,2dc0:V,2dc7:X,2dc8:V,2dcf:X,",
    "2dd0:V,2dd7:X,2dd8:V,2ddf:X,2de0:V,2e5e:X,2e60:V,2e64:X,2e80:V,2e9a:X,2e9b:V,2e9f:S+3d2e,2ea0:V,",
    "2ef3:S+70ac,2ef4:X,2f00:S+1f00,2f01:S+1f27,2f02:S+1f34,2f03:S+1f3c,2f04:S+1f55,2f05:S+1f80,",
    "2f06:S+1f86,2f07:S+1f99,2f08:S+1fb2,2f09:S+2236,2f0a:S+225b,2f0b:S+2260,2f0c:S+2276,2f0d:S+2289,",
    "2f0e:S+229d,2f0f:S+22d1,2f10:S+22e5,2f11:S+22ef,2f12:S+2389,2f13:S+23e6,2f14:S+2401,2f15:S+2405,",
    "2f16:S+2422,2f17:S+242a,2f18:S+2444,2f19:S+2450,2f1a:S+2468,2f1b:S+249b,2f1c:S+24ac,2f1d:S+24c6,",
    "2f1e:S+27b9,2f1f:S+2800,2f20:S+29cb,2f21:S+29e1,2f22:S+29e8,2f23:S+29f2,2f24:S+2a03,2f25:S+2a4e,",
    "2f26:S+2c2a,2f27:S+2c59,2f28:S+2cd0,2f29:S+2ce6,2f2a:S+2cf8,2f2b:S+2d0d,2f2c:S+2d42,2f2d:S+2d44,",
    "2f2e:S+2ead,2f2f:S+2eb6,2f30:S+2ec1,2f31:S+2ecd,2f32:S+2f40,2f33:S+2f47,2f34:S+2f4b,2f35:S+2fbf,",
    "2f36:S+2fc8,2f37:S+2fd4,2f38:S+2fdb,2f39:S+3017,2f3a:S+3027,2f3b:S+3038,2f3c:S+3087,2f3d:S+32cb,",
    "2f3e:S+32f8,2f3f:S+330c,2f40:S+35ef,2f41:S+35f3,2f42:S+3645,2f43:S+3654,2f44:S+3660,2f45:S+3674,",
    "2f46:S+369a,2f47:S+369e,2f48:S+37a8,2f49:S+37bf,2f4a:S+37de,2f4b:S+3bd5,2f4c:S+3c16,2f4d:S+3c2c,",
    "2f4e:S+3c65,2f4f:S+3c7c,2f50:S+3c84,2f51:S+3c8a,2f52:S+3cbd,2f53:S+3cc1,2f54:S+3ce0,2f55:S+4116,",
    "2f56:S+42d4,2f57:S+42df,2f58:S+42e3,2f59:S+42e6,2f5a:S+42ed,2f5b:S+42fe,2f5c:S+42ff,2f5d:S+434f,",
    "2f5e:S+4426,2f5f:S+442a,2f60:S+457c,2f61:S+4585,2f62:S+45b6,2f63:S+45bc,2f64:S+45c4,2f65:S+45cb,",
    "2f66:S+4625,2f67:S+462b,2f68:S+470e,2f69:S+4714,2f6a:S+4744,2f6b:S+4754,2f6c:S+4782,2f6d:S+486e,",
    "2f6e:S+4874,2f6f:S+4884,2f70:S+49ca,2f71:S+4a47,2f72:S+4a4c,2f73:S+4b01,2f74:S+4b57,2f75:S+4b84,",
    "2f76:S+4cfd,2f77:S+4d81,2f78:S+4fbe,2f79:S+4fd8,2f7a:S+5010,2f7b:S+5042,2f7c:S+5085,2f7d:S+508f,",
    "2f7e:S+5094,2f7f:S+50b4,2f80:S+50ff,2f81:S+5108,2f82:S+5261,2f83:S+5267,2f84:S+526f,2f85:S+5277,",
    "2f86:S+5286,2f87:S+5294,2f88:S+5297,2f89:S+52e5,2f8a:S+52e8,2f8b:S+52ed,2f8c:S+56c1,2f8d:S+56de,",
    "2f8e:S+58b2,2f8f:S+58bd,2f90:S+58d3,2f91:S+59ed,2f92:S+59f9,2f93:S+5a3f,2f94:S+5a6c,2f95:S+5ca2,",
    "2f96:S+5cb0,2f97:S+5cbe,2f98:S+5ce0,2f99:S+5d04,2f9a:S+5dca,2f9b:S+5dd5,2f9c:S+5e17,2f9d:S+5f0e,",
    "2f9e:S+5f2c,2f9f:S+5ffc,2fa0:S+6010,2fa1:S+6014,2fa2:S+60ef,2fa3:S+61a6,2fa4:S+6222,2fa5:S+6227,",
    "2fa6:S+622b,2fa7:S+65d0,2fa8:S+65d8,2fa9:S+6673,2faa:S+670c,2fab:S+670e,2fac:S+673c,2fad:S+67a4,",
    "2fae:S+67b0,2faf:S+67b3,2fb0:S+67b9,2fb1:S+681a,2fb2:S+683b,2fb3:S+6840,2fb4:S+684d,2fb5:S+68f3,",
    "2fb6:S+6925,2fb7:S+6928,2fb8:S+69de,2fb9:S+69e0,2fba:S+69f2,2fbb:S+6aed,2fbc:S+6b1c,2fbd:S+6b22,",
    "2fbe:S+6b67,2fbf:S+6b70,2fc0:S+6b72,2fc1:S+6b7b,2fc2:S+6b98,2fc3:S+6d22,2fc4:S+6eb1,2fc5:S+6eba,",
    "2fc6:S+6edf,2fc7:S+6ef4,2fc8:S+6efb,2fc9:S+6f04,2fca:S+6f07,2fcb:S+6f2e,2fcc:S+6f31,2fcd:S+6f41,",
    "2fce:S+6f45,2fcf:S+6f51,2fd0:S+6f6b,2fd1:S+6f79,2fd2:S+6f80,2fd3:S+6fba,2fd4:S+6fc8,2fd5:S+6fcb,",
    "2fd6:X,3000:S-2fe0,3001:V,3002:S-2fd4,3003:V,3036:S-24,3037:V,3038:S+2309,3039:S+230b,303b:V,",
    "3040:X,3041:V,3097:X,3099:V,309b:M20.3099,309c:M20.309a,309d:V,309f:M3088.308a,30a0:V,",
    "30ff:M30b3.30c8,3100:X,3105:V,3130:X,3131:S-2031,3133:S-1f89,3134:S-2032,3135:S-1f89,",
    "3137:S-2034,313a:S-1f8a,3140:S-2026,3141:S-203b,3144:S-2023,3145:S-203c,314f:S-1fee,3164:I,",
    "3165:S-2051,3167:S-1fa0,3169:S-1f9d,316a:S-1f9c,316b:S-1f98,316c:S-1f95,316d:S-1f94,316e:S-2052,",
    "316f:S-1f92,3170:S-1f91,3171:S-2054,3173:S-2053,3174:S-2052,3176:S-204f,3177:S-204e,3178:S-204d,",
    "317d:S-204b,317e:S-2048,317f:S-203f,3180:S-2039,3181:S-2035,3182:S-1f91,3184:S-202d,3187:S-2003,",
    "3189:S-2001,318a:S-1ff9,318c:S-1ff8,318d:S-1fef,318e:S-1fed,318f:X,3190:V,3192:S+1c6e,",
    "3193:S+1cf9,3194:S+1c75,3195:S+2546,3196:S+1c74,3197:S+1c96,3198:S+1c73,3199:S+4399,319a:S+1cbf,",
    "319b:S+1c7e,319c:S+1c65,319d:S+278c,319e:S+2592,319f:S+1d1b,31a0:V,31e6:X,31f0:V,",
    "3200:M28.1100.29,3201:M28.1102.29,3202:M28.1103.29,3203:M28.1105.29,3204:M28.1106.29,",
    "3205:M28.1107.29,3206:M28.1109.29,3207:M28.110b.29,3208:M28.110c.29,3209:M28.110e.29,",
    "320a:M28.110f.29,320b:M28.1110.29,320c:M28.1111.29,320d:M28.1112.29,320e:M28.ac00.29,",
    "320f:M28.b098.29,3210:M28.b2e4.29,3211:M28.b77c.29,3212:M28.b9c8.29,3213:M28.bc14.29,",
    "3214:M28.c0ac.29,3215:M28.c544.29,3216:M28.c790.29,3217:M28.cc28.29,3218:M28.ce74.29,",
    "3219:M28.d0c0.29,321a:M28.d30c.29,321b:M28.d558.29,321c:M28.c8fc.29,321d:M28.c624.c804.29,",
    "321e:M28.c624.d6c4.29,321f:X,3220:M28.4e00.29,3221:M28.4e8c.29,3222:M28.4e09.29,",
    "3223:M28.56db.29,3224:M28.4e94.29,3225:M28.516d.29,3226:M28.4e03.29,3227:M28.516b.29,",
    "3228:M28.4e5d.29,3229:M28.5341.29,322a:M28.6708.29,322b:M28.706b.29,322c:M28.6c34.29,",
    "322d:M28.6728.29,322e:M28.91d1.29,322f:M28.571f.29,3230:M28.65e5.29,3231:M28.682a.29,",
    "3232:M28.6709.29,3233:M28.793e.29,3234:M28.540d.29,3235:M28.7279.29,3236:M28.8ca1.29,",
    "3237:M28.795d.29,3238:M28.52b4.29,3239:M28.4ee3.29,323a:M28.547c.29,323b:M28.5b66.29,",
    "323c:M28.76e3.29,323d:M28.4f01.29,323e:M28.8cc7.29,323f:M28.5354.29,3240:M28.796d.29,",
    "3241:M28.4f11.29,3242:M28.81ea.29,3243:M28.81f3.29,3244:S+230b,3245:S+2c37,3246:S+3341,",
    "3247:S+4948,3248:V,3250:M70.74.65,3251:M32.31,3252:M32.32,3253:M32.33,3254:M32.34,3255:M32.35,",
    "3256:M32.36,3257:M32.37,3258:M32.38,3259:M32.39,325a:M33.30,325b:M33.31,325c:M33.32,325d:M33.33,",
    "325e:M33.34,325f:M33.35,3260:S-2160,3261:S-215f,3263:S-215e,3266:S-215d,3267:S-215c,3269:S-215b,",
    "326e:S+7992,326f:S+7e29,3270:S+8074,3271:S+850b,3272:S+8756,3273:S+89a1,3274:S+8e38,3275:S+92cf,",
    "3276:S+951a,3277:S+99b1,3278:S+9bfc,3279:S+9e47,327a:S+a092,327b:S+a2dd,327c:Mcc38.ace0,",
    "327d:Mc8fc.c758,327e:S+9432,327f:V,3280:S+1b80,3281:S+1c0b,3282:S+1b87,3283:S+2458,3284:S+1c10,",
    "3285:S+1ee8,3286:S+1b7d,3287:S+1ee4,3288:S+1bd5,3289:S+20b8,328a:S+347e,328b:S+3de0,328c:S+39a8,",
    "328d:S+349b,328e:S+5f43,328f:S+2490,3290:S+3355,3291:S+3599,3292:S+3477,3293:S+46ab,3294:S+2179,",
    "3295:S+3fe4,3296:S+5a0b,3297:S+46c6,3298:S+201c,3299:S+473f,329a:S+429d,329b:S+26d8,329c:S+5dcd,",
    "329d:S+1e8d,329e:S+20d2,329f:S+3a49,32a0:S+6565,32a1:S+1c70,32a2:S+1ef7,32a3:S+38c0,32a4:S+1b66,",
    "32a5:S+1b88,32a6:S+1b65,32a7:S+2b3f,32a8:S+214b,32a9:S+2092,32aa:S+28ed,32ab:S+28bb,32ac:S+4437,",
    "32ad:S+1c54,32ae:S+5a19,32af:S+20a5,32b0:S+266c,32b1:M33.36,32b2:M33.37,32b3:M33.38,32b4:M33.39,",
    "32b5:M34.30,32b6:M34.31,32b7:M34.32,32b8:M34.33,32b9:M34.34,32ba:M34.35,32bb:M34.36,32bc:M34.37,",
    "32bd:M34.38,32be:M34.39,32bf:M35.30,32c0:M31.6708,32c1:M32.6708,32c2:M33.6708,32c3:M34.6708,",
    "32c4:M35.6708,32c5:M36.6708,32c6:M37.6708,32c7:M38.6708,32c8:M39.6708,32c9:M31.30.6708,",
    "32ca:M31.31.6708,32cb:M31.32.6708,32cc:M68.67,32cd:M65.72.67,32ce:M65.76,32cf:M6c.74.64,",
    "32d0:S-22e,32d1:S-22d,32d2:S-22c,32d3:S-22b,32d4:S-22a,32d6:S-229,32d7:S-228,32d8:S-227,",
    "32d9:S-226,32da:S-225,32db:S-224,32dc:S-223,32dd:S-222,32de:S-221,32df:S-220,32e0:S-21f,",
    "32e1:S-21d,32e2:S-21c,32e3:S-21b,32e4:S-21a,32ea:S-218,32eb:S-216,32ec:S-214,32ed:S-212,",
    "32ee:S-210,32f3:S-20f,32f4:S-20e,32f5:S-20d,32fb:S-20c,32ff:M4ee4.548c,",
    "3300:M30a2.30d1.30fc.30c8,3301:M30a2.30eb.30d5.30a1,3302:M30a2.30f3.30da.30a2,",
    "3303:M30a2.30fc.30eb,3304:M30a4.30cb.30f3.30b0,3305:M30a4.30f3.30c1,3306:M30a6.30a9.30f3,",
    "3307:M30a8.30b9.30af.30fc.30c9,3308:M30a8.30fc.30ab.30fc,3309:M30aa.30f3.30b9,",
    "330a:M30aa.30fc.30e0,330b:M30ab.30a4.30ea,330c:M30ab.30e9.30c3.30c8,330d:M30ab.30ed.30ea.30fc,",
    "330e:M30ac.30ed.30f3,330f:M30ac.30f3.30de,3310:M30ae.30ac,3311:M30ae.30cb.30fc,",
    "3312:M30ad.30e5.30ea.30fc,3313:M30ae.30eb.30c0.30fc,3314:M30ad.30ed,",
    "3315:M30ad.30ed.30b0.30e9.30e0,3316:M30ad.30ed.30e1.30fc.30c8.30eb,",
    "3317:M30ad.30ed.30ef.30c3.30c8,3318:M30b0.30e9.30e0,3319:M30b0.30e9.30e0.30c8.30f3,",
    "331a:M30af.30eb.30bc.30a4.30ed,331b:M30af.30ed.30fc.30cd,331c:M30b1.30fc.30b9,",
    "331d:M30b3.30eb.30ca,331e:M30b3.30fc.30dd,331f:M30b5.30a4.30af.30eb,",
    "3320:M30b5.30f3.30c1.30fc.30e0,3321:M30b7.30ea.30f3.30b0,3322:M30bb.30f3.30c1,",
    "3323:M30bb.30f3.30c8,3324:M30c0.30fc.30b9,3325:M30c7.30b7,3326:M30c9.30eb,3327:M30c8.30f3,",
    "3328:M30ca.30ce,3329:M30ce.30c3.30c8,332a:M30cf.30a4.30c4,332b:M30d1.30fc.30bb.30f3.30c8,",
    "332c:M30d1.30fc.30c4,332d:M30d0.30fc.30ec.30eb,332e:M30d4.30a2.30b9.30c8.30eb,",
    "332f:M30d4.30af.30eb,3330:M30d4.30b3,3331:M30d3.30eb,3332:M30d5.30a1.30e9.30c3.30c9,",
    "3333:M30d5.30a3.30fc.30c8,3334:M30d6.30c3.30b7.30a7.30eb,3335:M30d5.30e9.30f3,",
    "3336:M30d8.30af.30bf.30fc.30eb,3337:M30da.30bd,3338:M30da.30cb.30d2,3339:M30d8.30eb.30c4,",
    "333a:M30da.30f3.30b9,333b:M30da.30fc.30b8,333c:M30d9.30fc.30bf,333d:M30dd.30a4.30f3.30c8,",
    "333e:M30dc.30eb.30c8,333f:M30db.30f3,3340:M30dd.30f3.30c9,3341:M30db.30fc.30eb,",
    "3342:M30db.30fc.30f3,3343:M30de.30a4.30af.30ed,3344:M30de.30a4.30eb,3345:M30de.30c3.30cf,",
    "3346:M30de.30eb.30af,3347:M30de.30f3.30b7.30e7.30f3,3348:M30df.30af.30ed.30f3,3349:M30df.30ea,",
    "334a:M30df.30ea.30d0.30fc.30eb,334b:M30e1.30ac,334c:M30e1.30ac.30c8.30f3,",
    "334d:M30e1.30fc.30c8.30eb,334e:M30e4.30fc.30c9,334f:M30e4.30fc.30eb,3350:M30e6.30a2.30f3,",
    "3351:M30ea.30c3.30c8.30eb,3352:M30ea.30e9,3353:M30eb.30d4.30fc,3354:M30eb.30fc.30d6.30eb,",
    "3355:M30ec.30e0,3356:M30ec.30f3.30c8.30b2.30f3,3357:M30ef.30c3.30c8,3358:M30.70b9,3359:M31.70b9,",
    "335a:M32.70b9,335b:M33.70b9,335c:M34.70b9,335d:M35.70b9,335e:M36.70b9,335f:M37.70b9,",
    "3360:M38.70b9,3361:M39.70b9,3362:M31.30.70b9,3363:M31.31.70b9,3364:M31.32.70b9,3365:M31.33.70b9,",
    "3366:M31.34.70b9,3367:M31.35.70b9,3368:M31.36.70b9,3369:M31.37.70b9,336a:M31.38.70b9,",
    "336b:M31.39.70b9,336c:M32.30.70b9,336d:M32.31.70b9,336e:M32.32.70b9,336f:M32.33.70b9,",
    "3370:M32.34.70b9,3371:M68.70.61,3372:M64.61,3373:M61.75,3374:M62.61.72,3375:M6f.76,3376:M70.63,",
    "3377:M64.6d,3378:M64.6d.32,3379:M64.6d.33,337a:M69.75,337b:M5e73.6210,337c:M662d.548c,",
    "337d:M5927.6b63,337e:M660e.6cbb,337f:M682a.5f0f.4f1a.793e,3380:M70.61,3381:M6e.61,3382:M3bc.61,",
    "3383:M6d.61,3384:M6b.61,3385:M6b.62,3386:M6d.62,3387:M67.62,3388:M63.61.6c,3389:M6b.63.61.6c,",
    "338a:M70.66,338b:M6e.66,338c:M3bc.66,338d:M3bc.67,338e:M6d.67,338f:M6b.67,3390:M68.7a,",
    "3391:M6b.68.7a,3392:M6d.68.7a,3393:M67.68.7a,3394:M74.68.7a,3395:M3bc.6c,3396:M6d.6c,",
    "3397:M64.6c,3398:M6b.6c,3399:M66.6d,339a:M6e.6d,339b:M3bc.6d,339c:M6d.6d,339d:M63.6d,",
    "339e:M6b.6d,339f:M6d.6d.32,33a0:M63.6d.32,33a1:M6d.32,33a2:M6b.6d.32,33a3:M6d.6d.33,",
    "33a4:M63.6d.33,33a5:M6d.33,33a6:M6b.6d.33,33a7:M6d.2215.73,33a8:M6d.2215.73.32,33a9:M70.61,",
    "33aa:M6b.70.61,33ab:M6d.70.61,33ac:M67.70.61,33ad:M72.61.64,33ae:M72.61.64.2215.73,",
    "33af:M72.61.64.2215.73.32,33b0:M70.73,33b1:M6e.73,33b2:M3bc.73,33b3:M6d.73,33b4:M70.76,",
    "33b5:M6e.76,33b6:M3bc.76,33b7:M6d.76,33b8:M6b.76,33b9:M6d.76,33ba:M70.77,33bb:M6e.77,",
    "33bc:M3bc.77,33bd:M6d.77,33be:M6b.77,33bf:M6d.77,33c0:M6b.3c9,33c1:M6d.3c9,33c2:X,33c3:M62.71,",
    "33c4:M63.63,33c5:M63.64,33c6:M63.2215.6b.67,33c7:X,33c8:M64.62,33c9:M67.79,33ca:M68.61,",
    "33cb:M68.70,33cc:M69.6e,33cd:M6b.6b,33ce:M6b.6d,33cf:M6b.74,33d0:M6c.6d,33d1:M6c.6e,",
    "33d2:M6c.6f.67,33d3:M6c.78,33d4:M6d.62,33d5:M6d.69.6c,33d6:M6d.6f.6c,33d7:M70.68,33d8:X,",
    "33d9:M70.70.6d,33da:M70.72,33db:M73.72,33dc:M73.76,33dd:M77.62,33de:M76.2215.6d,",
    "33df:M61.2215.6d,33e0:M31.65e5,33e1:M32.65e5,33e2:M33.65e5,33e3:M34.65e5,33e4:M35.65e5,",
    "33e5:M36.65e5,33e6:M37.65e5,33e7:M38.65e5,33e8:M39.65e5,33e9:M31.30.65e5,33ea:M31.31.65e5,",
    "33eb:M31.32.65e5,33ec:M31.33.65e5,33ed:M31.34.65e5,33ee:M31.35.65e5,33ef:M31.36.65e5,",
    "33f0:M31.37.65e5,33f1:M31.38.65e5,33f2:M31.39.65e5,33f3:M32.30.65e5,33f4:M32.31.65e5,",
    "33f5:M32.32.65e5,33f6:M32.33.65e5,33f7:M32.34.65e5,33f8:M32.35.65e5,33f9:M32.36.65e5,",
    "33fa:M32.37.65e5,33fb:M32.38.65e5,33fc:M32.39.65e5,33fd:M33.30.65e5,33fe:M33.31.65e5,",
    "33ff:M67.61.6c,3400:V,a48d:X,a490:V,a4c7:X,a4d0:V,a62c:X,a640:S+1,a641:V,a642:S+1,a643:V,",
    "a644:S+1,a645:V,a646:S+1,a647:V,a648:S+1,a649:V,a64a:S+1,a64b:V,a64c:S+1,a64d:V,a64e:S+1,a64f:V,",
    "a650:S+1,a651:V,a652:S+1,a653:V,a654:S+1,a655:V,a656:S+1,a657:V,a658:S+1,a659:V,a65a:S+1,a65b:V,",
    "a65c:S+1,a65d:V,a65e:S+1,a65f:V,a660:S+1,a661:V,a662:S+1,a663:V,a664:S+1,a665:V,a666:S+1,a667:V,",
    "a668:S+1,a669:V,a66a:S+1,a66b:V,a66c:S+1,a66d:V,a680:S+1,a681:V,a682:S+1,a683:V,a684:S+1,a685:V,",
    "a686:S+1,a687:V,a688:S+1,a689:V,a68a:S+1,a68b:V,a68c:S+1,a68d:V,a68e:S+1,a68f:V,a690:S+1,a691:V,",
    "a692:S+1,a693:V,a694:S+1,a695:V,a696:S+1,a697:V,a698:S+1,a699:V,a69a:S+1,a69b:V,a69c:S-a252,",
    "a69d:S-a251,a69e:V,a6f8:X,a700:V,a722:S+1,a723:V,a724:S+1,a725:V,a726:S+1,a727:V,a728:S+1,",
    "a729:V,a72a:S+1,a72b:V,a72c:S+1,a72d:V,a72e:S+1,a72f:V,a732:S+1,a733:V,a734:S+1,a735:V,a736:S+1,",
    "a737:V,a738:S+1,a739:V,a73a:S+1,a73b:V,a73c:S+1,a73d:V,a73e:S+1,a73f:V,a740:S+1,a741:V,a742:S+1,",
    "a743:V,a744:S+1,a745:V,a746:S+1,a747:V,a748:S+1,a749:V,a74a:S+1,a74b:V,a74c:S+1,a74d:V,a74e:S+1,",
    "a74f:V,a750:S+1,a751:V,a752:S+1,a753:V,a754:S+1,a755:V,a756:S+1,a757:V,a758:S+1,a759:V,a75a:S+1,",
    "a75b:V,a75c:S+1,a75d:V,a75e:S+1,a75f:V,a760:S+1,a761:V,a762:S+1,a763:V,a764:S+1,a765:V,a766:S+1,",
    "a767:V,a768:S+1,a769:V,a76a:S+1,a76b:V,a76c:S+1,a76d:V,a76e:S+1,a76f:V,a770:S-1,a771:V,a779:S+1,",
    "a77a:V,a77b:S+1,a77c:V,a77d:S-8a04,a77e:S+1,a77f:V,a780:S+1,a781:V,a782:S+1,a783:V,a784:S+1,",
    "a785:V,a786:S+1,a787:V,a78b:S+1,a78c:V,a78d:S-a528,a78e:V,a790:S+1,a791:V,a792:S+1,a793:V,",
    "a796:S+1,a797:V,a798:S+1,a799:V,a79a:S+1,a79b:V,a79c:S+1,a79d:V,a79e:S+1,a79f:V,a7a0:S+1,a7a1:V,",
    "a7a2:S+1,a7a3:V,a7a4:S+1,a7a5:V,a7a6:S+1,a7a7:V,a7a8:S+1,a7a9:V,a7aa:S-a544,a7ab:S-a54f,",
    "a7ac:S-a54b,a7ad:S-a541,a7ae:S-a544,a7af:V,a7b0:S-a512,a7b1:S-a52a,a7b2:S-a515,a7b3:S+3a0,",
    "a7b4:S+1,a7b5:V,a7b6:S+1,a7b7:V,a7b8:S+1,a7b9:V,a7ba:S+1,a7bb:V,a7bc:S+1,a7bd:V,a7be:S+1,a7bf:V,",
    "a7c0:S+1,a7c1:V,a7c2:S+1,a7c3:V,a7c4:S-30,a7c5:S-a543,a7c6:S-8a38,a7c7:S+1,a7c8:V,a7c9:S+1,",
    "a7ca:V,a7cb:S-a567,a7cc:S+1,a7cd:V,a7ce:S+1,a7cf:V,a7d0:S+1,a7d1:V,a7d2:S+1,a7d3:V,a7d4:S+1,",
    "a7d5:V,a7d6:S+1,a7d7:V,a7d8:S+1,a7d9:V,a7da:S+1,a7db:V,a7dc:S-a641,a7dd:S-a566,a7de:X,",
    "a7e2:S-a566,a7e3:X,a7f1:S-a77e,a7f2:S-a78f,a7f3:S-a78d,a7f4:S-a783,a7f5:S+1,a7f6:V,a7f8:S-a6d1,",
    "a7f9:S-a6a6,a7fa:V,a82d:X,a830:V,a83a:X,a840:V,a878:X,a880:V,a8c6:X,a8ce:V,a8da:X,a8e0:V,a954:X,",
    "a95f:V,a97d:X,a980:V,a9ce:X,a9cf:V,a9da:X,a9de:V,a9ff:X,aa00:V,aa37:X,aa40:V,aa4e:X,aa50:V,",
    "aa5a:X,aa5c:V,aac3:X,aadb:V,aaf7:X,ab01:V,ab07:X,ab09:V,ab0f:X,ab11:V,ab17:X,ab20:V,ab27:X,",
    "ab28:V,ab2f:X,ab30:V,ab5c:S-435,ab5d:S-26,ab5e:S-a8f3,ab5f:S-d,ab60:V,ab69:S-a8dc,ab6a:V,",
    "ab6c:S-21,ab6e:X,ab70:S-97d0,abc0:V,abee:X,abf0:V,abfa:X,ac00:V,d7a4:X,d7b0:V,d7c7:X,d7cb:V,",
    "d7fc:X,f900:S-6cb8,f901:S-920d,f902:S-6a38,f903:S-6c3b,f904:S-8a33,f905:S-aad3,f906:S-a521,",
    "f907:M9f9c,f909:S-9fb8,f90a:S-6739,f90b:S-a384,f90c:S-9fc4,f90d:S-9717,f90e:S-82a5,f90f:S-798a,",
    "f910:S-72d1,f911:S-7157,f912:S-701a,f913:S-6884,f914:S-8f12,f915:S-8bfa,f916:S-883d,f917:S-8539,",
    "f918:S-74db,f919:S-67af,f91a:S-5f29,f91b:S-aa99,f91c:S-a5a7,f91d:S-8e19,f91e:S-8703,f91f:S-72f2,",
    "f920:S-5b02,f921:S-9bd1,f922:S-8937,f923:S-7356,f924:S-6fc0,f925:S-965c,f926:S-774e,f927:S-7108,",
    "f928:S-9a5e,f929:S-9212,f92a:S-8bc0,f92b:S-862f,f92c:S-685e,f92d:S-a9a7,f92e:S-a777,f92f:S-a651,",
    "f930:S-946c,f931:S-8e5e,f932:S-8722,f933:S-824c,f934:S-7933,f935:S-732f,f936:S-72da,f937:S-6b48,",
    "f938:S-6206,f939:S-5dca,f93a:S-5b40,f93b:S-80af,f93c:S-7fbd,f93d:S-7b9d,f93e:S-7575,f93f:S-663b,",
    "f940:S-5ac1,f941:S-6e6b,f942:S-a063,f943:S-9a3f,f944:S-7ce4,f945:S-78c7,f946:S-86e4,f947:S-807d,",
    "f948:S-6c86,f949:S-6252,f94a:S-a072,f94b:S-9ce9,f94c:S-8f39,f94d:S-8b73,f94e:S-8a3f,f94f:S-7c20,",
    "f950:S-7b19,f951:S-6306,f952:S-a680,f953:S-78c8,f954:S-a778,f955:S-a789,f956:S-7f3a,f957:S-7b99,",
    "f958:S-7567,f959:S-62e4,f95a:S-6dda,f95b:S-968c,f95c:S-8f5a,f95d:S-6e5f,f95e:S-ab25,f95f:S-9d78,",
    "f960:S-994e,f961:S-85da,f962:S-83f2,f963:S-a64c,f964:S-8069,f965:S-a9a6,f966:S-99bd,f967:S-ab5a,",
    "f968:S-8c9c,f969:S-93f1,f96a:S-7c48,f96b:S-a5a8,f96c:S-a10e,f96d:S-826c,f96e:S-7525,f96f:S-6ec5,",
    "f970:S-8db6,f971:S-69c1,f972:S-8cea,f973:S-9675,f974:S-768f,f975:S-95d5,f976:S-8411,f977:S-aac9,",
    "f978:S-a80f,f979:S-a7b0,f97a:S-90f9,f97b:S-7c94,f97c:S-770d,f97d:S-6eab,f97e:S-67af,f97f:S-a68a,",
    "f980:S-a53e,f981:S-a00e,f982:S-9a96,f983:S-93be,f984:S-8986,f985:S-805b,f986:S-63d9,f987:S-5f1d,",
    "f988:S-5af1,f989:S-5abb,f98a:S-a6ef,f98b:S-92c5,f98c:S-8e15,f98d:S-6a2b,f98e:S-9b1a,f98f:S-97ff,",
    "f990:S-9790,f991:S-94f7,f992:S-8a6f,f993:S-884a,f994:S-850b,f995:S-7fcb,f996:S-7ba2,f997:S-7928,",
    "f998:S-6a72,f999:S-74ab,f99a:S-6977,f99b:S-6651,f99c:S-a785,f99d:S-a6fa,f99e:S-a4e1,f99f:S-88d7,",
    "f9a0:S-70de,f9a1:S-6ef7,f9a2:S-9ad9,f9a3:S-99ae,f9a4:S-9629,f9a5:S-8df7,f9a6:S-7d68,f9a7:S-8632,",
    "f9a8:S-aac4,f9a9:S-a2b0,f9aa:S-9dc3,f9ab:S-9bf1,f9ac:S-9990,f9ad:S-85fb,f9ae:S-8545,f9af:S-7a15,",
    "f9b0:S-796a,f9b1:S-677d,f9b2:S-62bc,f9b3:S-626b,f9b4:S-619c,f9b5:S-aa2a,f9b6:S-8008,f9b7:S-6803,",
    "f9b8:S-6300,f9b9:S-98d8,f9ba:S-ab34,f9bb:S-a8e1,f9bc:S-9dce,f9bd:S-9d7e,f9be:S-9425,f9bf:S-8fbd,",
    "f9c0:S-87f2,f9c1:S-837f,f9c2:S-74c6,f9c3:S-6947,f9c4:S-5a37,f9c5:S-933d,f9c6:S-6398,f9c7:S-a73e,",
    "f9c8:S-924d,f9c9:S-91d6,f9ca:S-8c89,f9cb:S-8b2f,f9cc:S-85c3,f9cd:S-8474,f9ce:S-8163,f9cf:S-7cbf,",
    "f9d0:S-6172,f9d1:S-a864,f9d2:S-97a4,f9d3:S-635b,f9d4:S-a9a9,f9d5:S-9cbc,f9d6:S-8bec,f9d7:S-6aad,",
    "f9d8:S-9a4d,f9d9:S-9895,f9da:S-91c3,f9db:S-8654,f9dc:S-6356,f9dd:S-a7b4,f9de:S-a5cf,f9df:S-9d7a,",
    "f9e0:S-93cd,f9e1:S-9293,f9e2:S-913a,f9e3:S-8cfe,f9e4:S-85de,f9e5:S-8403,f9e6:S-7a6d,f9e7:S-7118,",
    "f9e8:S-7107,f9e9:S-681d,f9ea:S-6308,f9eb:S-a6ac,f9ec:S-8b32,f9ed:S-a5d0,f9ee:S-881e,f9ef:S-8557,",
    "f9f0:S-73f6,f9f1:S-634e,f9f2:S-5d9b,f9f3:S-5b54,f9f4:S-925d,f9f5:S-8c2a,f9f6:S-780e,f9f7:S-7f2c,",
    "f9f8:S-7ed8,f9f9:S-7d67,f9fa:S-873a,f9fb:S-8962,f9fc:S-6ea4,f9fd:S-ab3d,f9fe:S-76c8,f9ff:S-a7c5,",
    "fa00:S-a7f9,fa01:S-9b5b,fa02:S-972f,fa03:S-7d2d,fa04:S-9e7f,fa05:S-8ce7,fa06:S-9352,fa07:S-6acc,",
    "fa08:S-71bc,fa09:S-63bc,fa0a:S-707f,fa0b:S-9b38,fa0c:S-a8cc,fa0d:S-a44d,fa0e:V,fa10:S-a1b6,",
    "fa11:V,fa12:S-939e,fa13:V,fa15:S-a837,fa16:S-86ec,fa17:S-834d,fa18:S-80dc,fa19:S-80bb,",
    "fa1a:S-80b5,fa1b:S-808c,fa1c:S-62c6,fa1d:S-7d5f,fa1e:S-7a61,fa1f:V,fa20:S-740e,fa21:V,",
    "fa22:S-6f2a,fa23:V,fa25:S-69ed,fa26:S-6929,fa27:V,fa2a:S-613b,fa2b:S-612f,fa2c:S-6104,",
    "fa2d:S-5c79,fa2e:S-6950,fa2f:S-6378,fa30:S-aa82,fa31:S-a94a,fa32:S-a8e5,fa33:S-a76a,fa34:S-a750,",
    "fa35:S-a6e4,fa36:S-a499,fa37:S-a431,fa38:S-a3d0,fa39:S-a1f9,fa3a:S-a192,fa3b:S-9dd7,fa3c:S-9dce,",
    "fa3d:S-99a9,fa3e:S-98d6,fa3f:S-98b1,fa40:S-984e,fa41:S-94f2,fa42:S-9460,fa43:S-93b2,fa44:S-91bf,",
    "fa45:S-8cce,fa46:S-8c2c,fa47:S-8b25,fa48:S-88da,fa49:S-881e,fa4a:S-8628,fa4b:S-81ba,fa4c:S-810e,",
    "fa4d:S-8104,fa4e:S-8106,fa4f:S-80ff,fa50:S-80fa,fa51:S-80f4,fa52:S-80c5,fa54:S-8014,fa55:S-7fd4,",
    "fa56:S-7e96,fa57:S-7c63,fa58:S-7c4f,fa59:S-7c18,fa5a:S-7ae8,fa5b:S-7a56,fa5c:S-786f,fa5d:M8279,",
    "fa5f:S-7608,fa60:S-7150,fa61:S-70cb,fa62:S-6f61,fa63:S-6f2a,fa64:S-6d91,fa65:S-6d5d,fa66:S-6ab0,",
    "fa67:S-6a2f,fa68:S-6385,fa69:S-626a,fa6a:S-622f,fa6b:S-99f6,fa6c:S+14882,fa6d:S-7855,fa6e:X,",
    "fa70:S-ac4a,fa71:S-a8bc,fa72:S-a90a,fa73:S-aaf3,fa74:S-a92f,fa75:S-a8f5,fa76:S-a7af,fa77:S-a77d,",
    "fa78:S-a4db,fa79:S-a524,fa7a:S-a4e1,fa7b:S-a499,fa7c:S-a222,fa7d:S-a1ca,fa7e:S-a13a,fa7f:S-a12b,",
    "fa80:S-a01e,fa81:S-9f59,fa82:S-9bb0,fa83:S-9baa,fa84:S-9b1b,fa85:S-9ad8,fa86:S-99ae,fa87:S-9939,",
    "fa88:S-9980,fa89:S-98fb,fa8a:S-992a,fa8b:S-9899,fa8c:S-9858,fa8d:S-96c9,fa8e:S-9672,fa8f:S-963d,",
    "fa90:S-953a,fa91:S-941d,fa92:S-937b,fa93:S-9378,fa94:S-933e,fa95:S-8f1c,fa96:S-8edc,fa97:S-8d56,",
    "fa98:S-8bbd,fa99:S-8bce,fa9a:S-8b78,fa9b:S-8a7d,fa9c:S-892e,fa9d:S-82f6,fa9e:S-8869,fa9f:S-87f0,",
    "faa0:S-8776,faa1:S-8630,faa2:S-859c,faa3:S-8568,faa4:S-8487,faa5:S-8486,faa6:S-83dc,faa7:S-83cc,",
    "faa8:S-83b4,faa9:S-835f,faaa:S-836a,faab:S-81df,faac:S-7ffb,faad:S-7eed,faae:S-7e33,faaf:S-7d54,",
    "fab0:S-7cbc,fab1:S-7b73,fab2:S-7aad,fab3:S-7761,fab4:S-76c5,fab5:S-733c,fab6:S-7175,fab7:S-7131,",
    "fab8:S-7122,fab9:S-6ffa,faba:S-6fc2,fabb:S-6ff0,fabc:S-6fbb,fabd:S-6fbf,fabe:S-6fd1,fabf:S-6f86,",
    "fac0:S-6f36,fac1:S-6db9,fac2:S-6b8a,fac3:S-6a51,fac4:S-692b,fac5:S-684f,fac6:S-644a,fac7:S-63e4,",
    "fac8:S-6372,fac9:S-62ee,faca:S-62cb,facb:S-62c0,facc:S-6291,facd:S-5fbb,face:S-5b32,",
    "facf:S+12d7b,fad0:S+12d74,fad1:S+13904,fad2:S-bf35,fad3:S-babb,fad4:S-ba9b,fad5:S+15774,",
    "fad6:S+161fa,fad7:S+183fc,fad8:S-5b95,fad9:S-5b4b,fada:X,fb00:M66.66,fb01:M66.69,fb02:M66.6c,",
    "fb03:M66.66.69,fb04:M66.66.6c,fb05:M73.74,fb07:X,fb13:M574.576,fb14:M574.565,fb15:M574.56b,",
    "fb16:M57e.576,fb17:M574.56d,fb18:X,fb1d:M5d9.5b4,fb1e:V,fb1f:M5f2.5b7,fb20:S-f53e,fb21:S-f551,",
    "fb22:S-f54f,fb24:S-f549,fb27:S-f53f,fb28:S-f53e,fb29:S-fafe,fb2a:M5e9.5c1,fb2b:M5e9.5c2,",
    "fb2c:M5e9.5bc.5c1,fb2d:M5e9.5bc.5c2,fb2e:M5d0.5b7,fb2f:M5d0.5b8,fb30:M5d0.5bc,fb31:M5d1.5bc,",
    "fb32:M5d2.5bc,fb33:M5d3.5bc,fb34:M5d4.5bc,fb35:M5d5.5bc,fb36:M5d6.5bc,fb37:X,fb38:M5d8.5bc,",
    "fb39:M5d9.5bc,fb3a:M5da.5bc,fb3b:M5db.5bc,fb3c:M5dc.5bc,fb3d:X,fb3e:M5de.5bc,fb3f:X,",
    "fb40:M5e0.5bc,fb41:M5e1.5bc,fb42:X,fb43:M5e3.5bc,fb44:M5e4.5bc,fb45:X,fb46:M5e6.5bc,",
    "fb47:M5e7.5bc,fb48:M5e8.5bc,fb49:M5e9.5bc,fb4a:M5ea.5bc,fb4b:M5d5.5b9,fb4c:M5d1.5bf,",
    "fb4d:M5db.5bf,fb4e:M5e4.5bf,fb4f:M5d0.5dc,fb50:M671,fb52:M67b,fb56:M67e,fb5a:M680,fb5e:M67a,",
    "fb62:M67f,fb66:M679,fb6a:M6a4,fb6e:M6a6,fb72:M684,fb76:M683,fb7a:M686,fb7e:M687,fb82:M68d,",
    "fb84:M68c,fb86:M68e,fb88:M688,fb8a:M698,fb8c:M691,fb8e:M6a9,fb92:M6af,fb96:M6b3,fb9a:M6b1,",
    "fb9e:M6ba,fba0:M6bb,fba4:M6c0,fba6:M6c1,fbaa:M6be,fbae:M6d2,fbb0:M6d3,fbb2:V,fbd3:M6ad,",
    "fbd7:M6c7,fbd9:M6c6,fbdb:M6c8,fbdd:M6c7.674,fbde:M6cb,fbe0:M6c5,fbe2:M6c9,fbe4:M6d0,fbe8:M649,",
    "fbea:M626.627,fbec:M626.6d5,fbee:M626.648,fbf0:M626.6c7,fbf2:M626.6c6,fbf4:M626.6c8,",
    "fbf6:M626.6d0,fbf9:M626.649,fbfc:M6cc,fc00:M626.62c,fc01:M626.62d,fc02:M626.645,fc03:M626.649,",
    "fc04:M626.64a,fc05:M628.62c,fc06:M628.62d,fc07:M628.62e,fc08:M628.645,fc09:M628.649,",
    "fc0a:M628.64a,fc0b:M62a.62c,fc0c:M62a.62d,fc0d:M62a.62e,fc0e:M62a.645,fc0f:M62a.649,",
    "fc10:M62a.64a,fc11:M62b.62c,fc12:M62b.645,fc13:M62b.649,fc14:M62b.64a,fc15:M62c.62d,",
    "fc16:M62c.645,fc17:M62d.62c,fc18:M62d.645,fc19:M62e.62c,fc1a:M62e.62d,fc1b:M62e.645,",
    "fc1c:M633.62c,fc1d:M633.62d,fc1e:M633.62e,fc1f:M633.645,fc20:M635.62d,fc21:M635.645,",
    "fc22:M636.62c,fc23:M636.62d,fc24:M636.62e,fc25:M636.645,fc26:M637.62d,fc27:M637.645,",
    "fc28:M638.645,fc29:M639.62c,fc2a:M639.645,fc2b:M63a.62c,fc2c:M63a.645,fc2d:M641.62c,",
    "fc2e:M641.62d,fc2f:M641.62e,fc30:M641.645,fc31:M641.649,fc32:M641.64a,fc33:M642.62d,",
    "fc34:M642.645,fc35:M642.649,fc36:M642.64a,fc37:M643.627,fc38:M643.62c,fc39:M643.62d,",
    "fc3a:M643.62e,fc3b:M643.644,fc3c:M643.645,fc3d:M643.649,fc3e:M643.64a,fc3f:M644.62c,",
    "fc40:M644.62d,fc41:M644.62e,fc42:M644.645,fc43:M644.649,fc44:M644.64a,fc45:M645.62c,",
    "fc46:M645.62d,fc47:M645.62e,fc48:M645.645,fc49:M645.649,fc4a:M645.64a,fc4b:M646.62c,",
    "fc4c:M646.62d,fc4d:M646.62e,fc4e:M646.645,fc4f:M646.649,fc50:M646.64a,fc51:M647.62c,",
    "fc52:M647.645,fc53:M647.649,fc54:M647.64a,fc55:M64a.62c,fc56:M64a.62d,fc57:M64a.62e,",
    "fc58:M64a.645,fc59:M64a.649,fc5a:M64a.64a,fc5b:M630.670,fc5c:M631.670,fc5d:M649.670,",
    "fc5e:M20.64c.651,fc5f:M20.64d.651,fc60:M20.64e.651,fc61:M20.64f.651,fc62:M20.650.651,",
    "fc63:M20.651.670,fc64:M626.631,fc65:M626.632,fc66:M626.645,fc67:M626.646,fc68:M626.649,",
    "fc69:M626.64a,fc6a:M628.631,fc6b:M628.632,fc6c:M628.645,fc6d:M628.646,fc6e:M628.649,",
    "fc6f:M628.64a,fc70:M62a.631,fc71:M62a.632,fc72:M62a.645,fc73:M62a.646,fc74:M62a.649,",
    "fc75:M62a.64a,fc76:M62b.631,fc77:M62b.632,fc78:M62b.645,fc79:M62b.646,fc7a:M62b.649,",
    "fc7b:M62b.64a,fc7c:M641.649,fc7d:M641.64a,fc7e:M642.649,fc7f:M642.64a,fc80:M643.627,",
    "fc81:M643.644,fc82:M643.645,fc83:M643.649,fc84:M643.64a,fc85:M644.645,fc86:M644.649,",
    "fc87:M644.64a,fc88:M645.627,fc89:M645.645,fc8a:M646.631,fc8b:M646.632,fc8c:M646.645,",
    "fc8d:M646.646,fc8e:M646.649,fc8f:M646.64a,fc90:M649.670,fc91:M64a.631,fc92:M64a.632,",
    "fc93:M64a.645,fc94:M64a.646,fc95:M64a.649,fc96:M64a.64a,fc97:M626.62c,fc98:M626.62d,",
    "fc99:M626.62e,fc9a:M626.645,fc9b:M626.647,fc9c:M628.62c,fc9d:M628.62d,fc9e:M628.62e,",
    "fc9f:M628.645,fca0:M628.647,fca1:M62a.62c,fca2:M62a.62d,fca3:M62a.62e,fca4:M62a.645,",
    "fca5:M62a.647,fca6:M62b.645,fca7:M62c.62d,fca8:M62c.645,fca9:M62d.62c,fcaa:M62d.645,",
    "fcab:M62e.62c,fcac:M62e.645,fcad:M633.62c,fcae:M633.62d,fcaf:M633.62e,fcb0:M633.645,",
    "fcb1:M635.62d,fcb2:M635.62e,fcb3:M635.645,fcb4:M636.62c,fcb5:M636.62d,fcb6:M636.62e,",
    "fcb7:M636.645,fcb8:M637.62d,fcb9:M638.645,fcba:M639.62c,fcbb:M639.645,fcbc:M63a.62c,",
    "fcbd:M63a.645,fcbe:M641.62c,fcbf:M641.62d,fcc0:M641.62e,fcc1:M641.645,fcc2:M642.62d,",
    "fcc3:M642.645,fcc4:M643.62c,fcc5:M643.62d,fcc6:M643.62e,fcc7:M643.644,fcc8:M643.645,",
    "fcc9:M644.62c,fcca:M644.62d,fccb:M644.62e,fccc:M644.645,fccd:M644.647,fcce:M645.62c,",
    "fccf:M645.62d,fcd0:M645.62e,fcd1:M645.645,fcd2:M646.62c,fcd3:M646.62d,fcd4:M646.62e,",
    "fcd5:M646.645,fcd6:M646.647,fcd7:M647.62c,fcd8:M647.645,fcd9:M647.670,fcda:M64a.62c,",
    "fcdb:M64a.62d,fcdc:M64a.62e,fcdd:M64a.645,fcde:M64a.647,fcdf:M626.645,fce0:M626.647,",
    "fce1:M628.645,fce2:M628.647,fce3:M62a.645,fce4:M62a.647,fce5:M62b.645,fce6:M62b.647,",
    "fce7:M633.645,fce8:M633.647,fce9:M634.645,fcea:M634.647,fceb:M643.644,fcec:M643.645,",
    "fced:M644.645,fcee:M646.645,fcef:M646.647,fcf0:M64a.645,fcf1:M64a.647,fcf2:M640.64e.651,",
    "fcf3:M640.64f.651,fcf4:M640.650.651,fcf5:M637.649,fcf6:M637.64a,fcf7:M639.649,fcf8:M639.64a,",
    "fcf9:M63a.649,fcfa:M63a.64a,fcfb:M633.649,fcfc:M633.64a,fcfd:M634.649,fcfe:M634.64a,",
    "fcff:M62d.649,fd00:M62d.64a,fd01:M62c.649,fd02:M62c.64a,fd03:M62e.649,fd04:M62e.64a,",
    "fd05:M635.649,fd06:M635.64a,fd07:M636.649,fd08:M636.64a,fd09:M634.62c,fd0a:M634.62d,",
    "fd0b:M634.62e,fd0c:M634.645,fd0d:M634.631,fd0e:M633.631,fd0f:M635.631,fd10:M636.631,",
    "fd11:M637.649,fd12:M637.64a,fd13:M639.649,fd14:M639.64a,fd15:M63a.649,fd16:M63a.64a,",
    "fd17:M633.649,fd18:M633.64a,fd19:M634.649,fd1a:M634.64a,fd1b:M62d.649,fd1c:M62d.64a,",
    "fd1d:M62c.649,fd1e:M62c.64a,fd1f:M62e.649,fd20:M62e.64a,fd21:M635.649,fd22:M635.64a,",
    "fd23:M636.649,fd24:M636.64a,fd25:M634.62c,fd26:M634.62d,fd27:M634.62e,fd28:M634.645,",
    "fd29:M634.631,fd2a:M633.631,fd2b:M635.631,fd2c:M636.631,fd2d:M634.62c,fd2e:M634.62d,",
    "fd2f:M634.62e,fd30:M634.645,fd31:M633.647,fd32:M634.647,fd33:M637.645,fd34:M633.62c,",
    "fd35:M633.62d,fd36:M633.62e,fd37:M634.62c,fd38:M634.62d,fd39:M634.62e,fd3a:M637.645,",
    "fd3b:M638.645,fd3c:M627.64b,fd3e:V,fd50:M62a.62c.645,fd51:M62a.62d.62c,fd53:M62a.62d.645,",
    "fd54:M62a.62e.645,fd55:M62a.645.62c,fd56:M62a.645.62d,fd57:M62a.645.62e,fd58:M62c.645.62d,",
    "fd5a:M62d.645.64a,fd5b:M62d.645.649,fd5c:M633.62d.62c,fd5d:M633.62c.62d,fd5e:M633.62c.649,",
    "fd5f:M633.645.62d,fd61:M633.645.62c,fd62:M633.645.645,fd64:M635.62d.62d,fd66:M635.645.645,",
    "fd67:M634.62d.645,fd69:M634.62c.64a,fd6a:M634.645.62e,fd6c:M634.645.645,fd6e:M636.62d.649,",
    "fd6f:M636.62e.645,fd71:M637.645.62d,fd73:M637.645.645,fd74:M637.645.64a,fd75:M639.62c.645,",
    "fd76:M639.645.645,fd78:M639.645.649,fd79:M63a.645.645,fd7a:M63a.645.64a,fd7b:M63a.645.649,",
    "fd7c:M641.62e.645,fd7e:M642.645.62d,fd7f:M642.645.645,fd80:M644.62d.645,fd81:M644.62d.64a,",
    "fd82:M644.62d.649,fd83:M644.62c.62c,fd85:M644.62e.645,fd87:M644.645.62d,fd89:M645.62d.62c,",
    "fd8a:M645.62d.645,fd8b:M645.62d.64a,fd8c:M645.62c.62d,fd8d:M645.62c.645,fd8e:M645.62e.62c,",
    "fd8f:M645.62e.645,fd90:V,fd92:M645.62c.62e,fd93:M647.645.62c,fd94:M647.645.645,",
    "fd95:M646.62d.645,fd96:M646.62d.649,fd97:M646.62c.645,fd99:M646.62c.649,fd9a:M646.645.64a,",
    "fd9b:M646.645.649,fd9c:M64a.645.645,fd9e:M628.62e.64a,fd9f:M62a.62c.64a,fda0:M62a.62c.649,",
    "fda1:M62a.62e.64a,fda2:M62a.62e.649,fda3:M62a.645.64a,fda4:M62a.645.649,fda5:M62c.645.64a,",
    "fda6:M62c.62d.649,fda7:M62c.645.649,fda8:M633.62e.649,fda9:M635.62d.64a,fdaa:M634.62d.64a,",
    "fdab:M636.62d.64a,fdac:M644.62c.64a,fdad:M644.645.64a,fdae:M64a.62d.64a,fdaf:M64a.62c.64a,",
    "fdb0:M64a.645.64a,fdb1:M645.645.64a,fdb2:M642.645.64a,fdb3:M646.62d.64a,fdb4:M642.645.62d,",
    "fdb5:M644.62d.645,fdb6:M639.645.64a,fdb7:M643.645.64a,fdb8:M646.62c.62d,fdb9:M645.62e.64a,",
    "fdba:M644.62c.645,fdbb:M643.645.645,fdbc:M644.62c.645,fdbd:M646.62c.62d,fdbe:M62c.62d.64a,",
    "fdbf:M62d.62c.64a,fdc0:M645.62c.64a,fdc1:M641.645.64a,fdc2:M628.62d.64a,fdc3:M643.645.645,",
    "fdc4:M639.62c.645,fdc5:M635.645.645,fdc6:M633.62e.64a,fdc7:M646.62c.64a,fdc8:V,fdd0:X,",
    "fdf0:M635.644.6d2,fdf1:M642.644.6d2,fdf2:M627.644.644.647,fdf3:M627.643.628.631,",
    "fdf4:M645.62d.645.62f,fdf5:M635.644.639.645,fdf6:M631.633.648.644,fdf7:M639.644.64a.647,",
    "fdf8:M648.633.644.645,fdf9:M635.644.649,",
    "fdfa:M635.644.649.20.627.644.644.647.20.639.644.64a.647.20.648.633.644.645,",
    "fdfb:M62c.644.20.62c.644.627.644.647,fdfc:M631.6cc.627.644,fdfd:V,fe00:I,fe10:S-fde4,",
    "fe11:S-ce10,fe12:X,fe13:S-fdd9,fe15:S-fdf4,fe16:S-fdd7,fe17:S-ce01,fe19:X,fe20:V,fe30:X,",
    "fe31:S-de1d,fe32:S-de1f,fe33:M5f,fe35:S-fe0d,fe37:S-fdbc,fe38:S-fdbb,fe39:S-ce25,fe3b:S-ce2b,",
    "fe3d:S-ce33,fe3f:S-ce37,fe41:S-ce35,fe45:V,fe47:S-fdec,fe48:S-fdeb,fe49:M20.305,fe4d:M5f,",
    "fe50:S-fe24,fe51:S-ce50,fe52:X,fe54:S-fe19,fe55:S-fe1b,fe56:S-fe17,fe57:S-fe36,fe58:S-de44,",
    "fe59:S-fe31,fe5b:S-fde0,fe5c:S-fddf,fe5d:S-ce49,fe5f:S-fe3c,fe60:S-fe3a,fe61:S-fe37,fe63:S-fe36,",
    "fe64:S-fe28,fe65:S-fe27,fe66:S-fe29,fe67:X,fe68:S-fe0c,fe69:S-fe45,fe6b:S-fe2b,fe6c:X,",
    "fe70:M20.64b,fe71:M640.64b,fe72:M20.64c,fe73:V,fe74:M20.64d,fe75:X,fe76:M20.64e,fe77:M640.64e,",
    "fe78:M20.64f,fe79:M640.64f,fe7a:M20.650,fe7b:M640.650,fe7c:M20.651,fe7d:M640.651,fe7e:M20.652,",
    "fe7f:M640.652,fe80:S-f85f,fe81:M622,fe83:M623,fe85:M624,fe87:M625,fe89:M626,fe8d:M627,fe8f:M628,",
    "fe93:M629,fe95:M62a,fe99:M62b,fe9d:M62c,fea1:M62d,fea5:M62e,fea9:M62f,feab:M630,fead:M631,",
    "feaf:M632,feb1:M633,feb5:M634,feb9:M635,febd:M636,fec1:M637,fec5:M638,fec9:M639,fecd:M63a,",
    "fed1:M641,fed5:M642,fed9:M643,fedd:M644,fee1:M645,fee5:M646,fee9:M647,feed:M648,feef:M649,",
    "fef1:M64a,fef5:M644.622,fef7:M644.623,fef9:M644.625,fefb:M644.627,fefd:X,feff:I,ff00:X,",
    "ff01:S-fee0,ff21:S-fec0,ff3b:S-fee0,ff5f:S-d5da,ff61:S-ff33,ff62:S-cf56,ff64:S-cf63,ff65:S-ce6a,",
    "ff66:S-ce74,ff67:S-cec6,ff68:S-cec5,ff69:S-cec4,ff6a:S-cec3,ff6b:S-cec2,ff6c:S-ce89,ff6d:S-ce88,",
    "ff6e:S-ce87,ff6f:S-ceac,ff70:S-ce74,ff71:S-cecf,ff72:S-cece,ff73:S-cecd,ff74:S-cecc,ff75:S-cecb,",
    "ff77:S-ceca,ff78:S-cec9,ff79:S-cec8,ff7a:S-cec7,ff7b:S-cec6,ff7c:S-cec5,ff7d:S-cec4,ff7e:S-cec3,",
    "ff7f:S-cec2,ff80:S-cec1,ff81:S-cec0,ff82:S-cebe,ff83:S-cebd,ff84:S-cebc,ff85:S-cebb,ff8b:S-ceb9,",
    "ff8c:S-ceb7,ff8d:S-ceb5,ff8e:S-ceb3,ff8f:S-ceb1,ff94:S-ceb0,ff95:S-ceaf,ff96:S-ceae,ff9c:S-cead,",
    "ff9d:S-ceaa,ff9e:S-cf05,ffa0:I,ffa1:S-eea1,ffa3:S-edf9,ffa4:S-eea2,ffa5:S-edf9,ffa7:S-eea4,",
    "ffaa:S-edfa,ffb0:S-ee96,ffb1:S-eeab,ffb4:S-ee93,ffb5:S-eeac,ffbf:X,ffc2:S-ee61,ffc8:X,",
    "ffca:S-ee63,ffd0:X,ffd2:S-ee65,ffd8:X,ffda:S-ee67,ffdd:X,ffe0:S-ff3e,ffe2:S-ff36,ffe3:M20.304,",
    "ffe4:S-ff3e,ffe5:S-ff40,ffe6:S-df3d,ffe7:X,ffe8:S-dae6,ffe9:S-de59,ffed:S-da4d,ffee:S-da23,",
    "ffef:X,10000:V,1000c:X,1000d:V,10027:X,10028:V,1003b:X,1003c:V,1003e:X,1003f:V,1004e:X,10050:V,",
    "1005e:X,10080:V,100fb:X,10100:V,10103:X,10107:V,10134:X,10137:V,1018f:X,10190:V,1019d:X,101a0:V,",
    "101a1:X,101d0:V,101fe:X,10280:V,1029d:X,102a0:V,102d1:X,102e0:V,102fc:X,10300:V,10324:X,1032d:V,",
    "1034b:X,10350:V,1037b:X,10380:V,1039e:X,1039f:V,103c4:X,103c8:V,103d6:X,10400:S+28,10428:V,",
    "1049e:X,104a0:V,104aa:X,104b0:S+28,104d4:X,104d8:V,104fc:X,10500:V,10528:X,10530:V,10564:X,",
    "1056f:V,10570:S+27,1057b:X,1057c:S+27,1058b:X,1058c:S+27,10593:X,10594:S+27,10596:X,10597:V,",
    "105a2:X,105a3:V,105b2:X,105b3:V,105ba:X,105bb:V,105bd:X,105c0:V,105f4:X,10600:V,10737:X,10740:V,",
    "10756:X,10760:V,10768:X,10780:V,10781:S-104b1,10783:S-1069d,10784:S-104eb,10785:S-10532,10786:X,",
    "10787:S-104e4,10788:S-5c22,10789:S-104e4,1078a:S-104e6,1078b:S-10535,1078d:S-e9fc,1078e:S-10536,",
    "1078f:S-10531,10790:S-104e7,10791:S-1052d,10792:S-10530,10793:S-10533,10794:S-104f9,",
    "10795:S-1066e,10796:S-104fa,10797:S-10530,10798:S-10514,10799:S-104ef,1079b:S-1052f,",
    "1079c:S+d768,1079d:S-600f,1079e:S-10530,1079f:S+d766,107a0:S-10512,107a1:S+d765,107a2:S-106aa,",
    "107a3:S-1052d,107a5:S-10734,107a6:S-1052c,107a7:S+d761,107a8:S-1052b,107aa:S-1052a,",
    "107ab:S-10503,107ac:S-10506,107ad:S-5c46,107ae:S-10507,107af:S-10527,107b0:S-db3f,107b1:X,",
    "107b2:S-10523,107b3:S-10512,107b5:S-1051d,107b6:S-105f6,107b9:S+d751,107ba:S+d764,107bb:S-10534,",
    "107bc:X,107bd:S-10526,107be:S-10520,107bf:S+d74c,107c0:X,10800:V,10806:X,10808:V,10809:X,",
    "1080a:V,10836:X,10837:V,10839:X,1083c:V,1083d:X,1083f:V,10856:X,10857:V,1089f:X,108a7:V,108b0:X,",
    "108e0:V,108f3:X,108f4:V,108f6:X,108fb:V,1091c:X,1091f:V,1093a:X,1093f:V,1095a:X,10980:V,109b8:X,",
    "109bc:V,109d0:X,109d2:V,10a04:X,10a05:V,10a07:X,10a0c:V,10a14:X,10a15:V,10a18:X,10a19:V,10a36:X,",
    "10a38:V,10a3b:X,10a3f:V,10a49:X,10a50:V,10a59:X,10a60:V,10aa0:X,10ac0:V,10ae7:X,10aeb:V,10af7:X,",
    "10b00:V,10b36:X,10b39:V,10b56:X,10b58:V,10b73:X,10b78:V,10b92:X,10b99:V,10b9d:X,10ba9:V,10bb0:X,",
    "10c00:V,10c49:X,10c80:S+40,10cb3:X,10cc0:V,10cf3:X,10cfa:V,10d28:X,10d30:V,10d3a:X,10d40:V,",
    "10d50:S+20,10d66:X,10d69:V,10d86:X,10d8e:V,10d90:X,10e60:V,10e7f:X,10e80:V,10eaa:X,10eab:V,",
    "10eae:X,10eb0:V,10eb2:X,10ec2:V,10ec8:X,10ec9:V,10ed9:X,10eee:V,10eef:X,10ef0:V,10f28:X,10f30:V,",
    "10f5a:X,10f70:V,10f8a:X,10fb0:V,10fcc:X,10fe0:V,10ff7:X,11000:V,1104e:X,11052:V,11076:X,1107f:V,",
    "110bd:X,110be:V,110c3:X,110d0:V,110e9:X,110f0:V,110fa:X,11100:V,11135:X,11136:V,11148:X,11150:V,",
    "11177:X,11180:V,111e0:X,111e1:V,111f5:X,11200:V,11212:X,11213:V,11242:X,11280:V,11287:X,11288:V,",
    "11289:X,1128a:V,1128e:X,1128f:V,1129e:X,1129f:V,112aa:X,112b0:V,112eb:X,112f0:V,112fa:X,11300:V,",
    "11304:X,11305:V,1130d:X,1130f:V,11311:X,11313:V,11329:X,1132a:V,11331:X,11332:V,11334:X,11335:V,",
    "1133a:X,1133b:V,11345:X,11347:V,11349:X,1134b:V,1134e:X,11350:V,11351:X,11357:V,11358:X,1135d:V,",
    "11364:X,11366:V,1136d:X,11370:V,11375:X,11380:V,1138a:X,1138b:V,1138c:X,1138e:V,1138f:X,11390:V,",
    "113b6:X,113b7:V,113c1:X,113c2:V,113c3:X,113c5:V,113c6:X,113c7:V,113cb:X,113cc:V,113d6:X,113d7:V,",
    "113d9:X,113e1:V,113e3:X,11400:V,1145c:X,1145d:V,11462:X,11480:V,114c8:X,114d0:V,114da:X,11580:V,",
    "115b6:X,115b8:V,115de:X,11600:V,11645:X,11650:V,1165a:X,11660:V,1166d:X,11680:V,116ba:X,116c0:V,",
    "116ca:X,116d0:V,116e4:X,11700:V,1171b:X,1171d:V,1172c:X,11730:V,11747:X,11800:V,1183c:X,",
    "118a0:S+20,118c0:V,118f3:X,118ff:V,11907:X,11909:V,1190a:X,1190c:V,11914:X,11915:V,11917:X,",
    "11918:V,11936:X,11937:V,11939:X,1193b:V,11947:X,11950:V,1195a:X,119a0:V,119a8:X,119aa:V,119d8:X,",
    "119da:V,119e5:X,11a00:V,11a48:X,11a50:V,11aa3:X,11ab0:V,11af9:X,11b00:V,11b0b:X,11b60:V,11b68:X,",
    "11bc0:V,11be2:X,11bf0:V,11bfa:X,11c00:V,11c09:X,11c0a:V,11c37:X,11c38:V,11c46:X,11c50:V,11c6d:X,",
    "11c70:V,11c90:X,11c92:V,11ca8:X,11ca9:V,11cb7:X,11d00:V,11d07:X,11d08:V,11d0a:X,11d0b:V,11d37:X,",
    "11d3a:V,11d3b:X,11d3c:V,11d3e:X,11d3f:V,11d48:X,11d50:V,11d5a:X,11d60:V,11d66:X,11d67:V,11d69:X,",
    "11d6a:V,11d8f:X,11d90:V,11d92:X,11d93:V,11d99:X,11da0:V,11daa:X,11db0:V,11ddc:X,11de0:V,11dea:X,",
    "11df0:V,11df2:X,11ee0:V,11ef9:X,11f00:V,11f11:X,11f12:V,11f3b:X,11f3e:V,11f5b:X,11fb0:V,11fb1:X,",
    "11fc0:V,11ff2:X,11fff:V,1239a:X,12400:V,12544:X,12550:V,12687:X,12f90:V,12ff3:X,13000:V,13430:X,",
    "13440:V,13456:X,13460:V,143fb:X,14400:V,14647:X,16100:V,1613a:X,16800:V,16a39:X,16a40:V,16a5f:X,",
    "16a60:V,16a6a:X,16a6e:V,16abf:X,16ac0:V,16aca:X,16ad0:V,16aee:X,16af0:V,16af6:X,16b00:V,16b46:X,",
    "16b50:V,16b5a:X,16b5b:V,16b62:X,16b63:V,16b78:X,16b7d:V,16b90:X,16d40:V,16d7a:X,16e40:S+20,",
    "16e60:V,16e9b:X,16ea0:S+1b,16eb9:X,16ebb:V,16ed4:X,16f00:V,16f4b:X,16f4f:V,16f88:X,16f8f:V,",
    "16fa0:X,16fe0:V,16fe5:X,16ff0:V,16ff7:X,17000:V,18cdb:X,18cff:V,18d21:X,18d80:V,18df3:X,18e00:V,",
    "19192:X,191a0:V,191d3:X,1aff0:V,1aff4:X,1aff5:V,1affc:X,1affd:V,1afff:X,1b000:V,",
    "1b123:M3053.3068,1b124:M30c8.30ad,1b125:M30c8.30c6,1b126:M30e8.30ea,1b127:V,1b129:X,1b132:V,",
    "1b133:X,1b150:V,1b153:X,1b155:V,1b156:X,1b164:V,1b169:X,1b170:V,1b2fc:X,1bc00:V,1bc6b:X,1bc70:V,",
    "1bc7d:X,1bc80:V,1bc89:X,1bc90:V,1bc9a:X,1bc9c:V,1bca0:I,1bca4:X,1cc00:V,1ccd6:S-1cc75,",
    "1ccf0:S-1ccc0,1ccfa:V,1ccfd:X,1cd00:V,1ceb4:X,1ceba:V,1ced1:X,1ced2:V,1ced5:X,1cedd:V,1cefe:X,",
    "1cf00:V,1cf2e:X,1cf30:V,1cf47:X,1cf50:V,1cfc4:X,1d000:V,1d0f6:X,1d100:V,1d15e:M1d157.1d165,",
    "1d15f:M1d158.1d165,1d160:M1d158.1d165.1d16e,1d161:M1d158.1d165.1d16f,1d162:M1d158.1d165.1d170,",
    "1d163:M1d158.1d165.1d171,1d164:M1d158.1d165.1d172,1d165:V,1d173:I,1d17b:V,1d1bb:M1d1b9.1d165,",
    "1d1bc:M1d1ba.1d165,1d1bd:M1d1b9.1d165.1d16e,1d1be:M1d1ba.1d165.1d16e,1d1bf:M1d1b9.1d165.1d16f,",
    "1d1c0:M1d1ba.1d165.1d16f,1d1c1:V,1d246:X,1d250:V,1d282:X,1d2c0:V,1d2d4:X,1d2e0:V,1d2f4:X,",
    "1d300:V,1d357:X,1d360:V,1d379:X,1d400:S-1d39f,1d41a:S-1d3b9,1d434:S-1d3d3,1d44e:S-1d3ed,1d455:X,",
    "1d456:S-1d3ed,1d468:S-1d407,1d482:S-1d421,1d49c:S-1d43b,1d49d:X,1d49e:S-1d43b,1d4a0:X,",
    "1d4a2:S-1d43b,1d4a3:X,1d4a5:S-1d43b,1d4a7:X,1d4a9:S-1d43b,1d4ad:X,1d4ae:S-1d43b,1d4b6:S-1d455,",
    "1d4ba:X,1d4bb:S-1d455,1d4bc:X,1d4bd:S-1d455,1d4c4:X,1d4c5:S-1d455,1d4d0:S-1d46f,1d4ea:S-1d489,",
    "1d504:S-1d4a3,1d506:X,1d507:S-1d4a3,1d50b:X,1d50d:S-1d4a3,1d515:X,1d516:S-1d4a3,1d51d:X,",
    "1d51e:S-1d4bd,1d538:S-1d4d7,1d53a:X,1d53b:S-1d4d7,1d53f:X,1d540:S-1d4d7,1d545:X,1d546:S-1d4d7,",
    "1d547:X,1d54a:S-1d4d7,1d551:X,1d552:S-1d4f1,1d56c:S-1d50b,1d586:S-1d525,1d5a0:S-1d53f,",
    "1d5ba:S-1d559,1d5d4:S-1d573,1d5ee:S-1d58d,1d608:S-1d5a7,1d622:S-1d5c1,1d63c:S-1d5db,",
    "1d656:S-1d5f5,1d670:S-1d60f,1d68a:S-1d629,1d6a4:S-1d573,1d6a5:S-1d46e,1d6a6:M73.73,1d6a7:X,",
    "1d6a8:S-1d2f7,1d6b9:S-1d301,1d6ba:S-1d2f7,1d6c1:S-1b4ba,1d6c2:S-1d311,1d6d3:M3c3,1d6d5:S-1d311,",
    "1d6db:S-1b4d9,1d6dc:S-1d327,1d6dd:S-1d325,1d6de:S-1d324,1d6df:S-1d319,1d6e0:S-1d31f,",
    "1d6e1:S-1d321,1d6e2:S-1d331,1d6f3:S-1d33b,1d6f4:S-1d331,1d6fb:S-1b4f4,1d6fc:S-1d34b,1d70d:M3c3,",
    "1d70f:S-1d34b,1d715:S-1b513,1d716:S-1d361,1d717:S-1d35f,1d718:S-1d35e,1d719:S-1d353,",
    "1d71a:S-1d359,1d71b:S-1d35b,1d71c:S-1d36b,1d72d:S-1d375,1d72e:S-1d36b,1d735:S-1b52e,",
    "1d736:S-1d385,1d747:M3c3,1d749:S-1d385,1d74f:S-1b54d,1d750:S-1d39b,1d751:S-1d399,1d752:S-1d398,",
    "1d753:S-1d38d,1d754:S-1d393,1d755:S-1d395,1d756:S-1d3a5,1d767:S-1d3af,1d768:S-1d3a5,",
    "1d76f:S-1b568,1d770:S-1d3bf,1d781:M3c3,1d783:S-1d3bf,1d789:S-1b587,1d78a:S-1d3d5,1d78b:S-1d3d3,",
    "1d78c:S-1d3d2,1d78d:S-1d3c7,1d78e:S-1d3cd,1d78f:S-1d3cf,1d790:S-1d3df,1d7a1:S-1d3e9,",
    "1d7a2:S-1d3df,1d7a9:S-1b5a2,1d7aa:S-1d3f9,1d7bb:M3c3,1d7bd:S-1d3f9,1d7c3:S-1b5c1,1d7c4:S-1d40f,",
    "1d7c5:S-1d40d,1d7c6:S-1d40c,1d7c7:S-1d401,1d7c8:S-1d407,1d7c9:S-1d409,1d7ca:M3dd,1d7cc:X,",
    "1d7ce:S-1d79e,1d7d8:S-1d7a8,1d7e2:S-1d7b2,1d7ec:S-1d7bc,1d7f6:S-1d7c6,1d800:V,1da8c:X,1da9b:V,",
    "1daa0:X,1daa1:V,1dab0:X,1db00:V,1db1d:X,1df00:V,1df2c:X,1df40:S+1,1df41:V,1df48:S+1,1df49:V,",
    "1df4a:S+1,1df4b:V,1df4c:X,1df56:V,1df59:X,1df90:V,1df94:X,1dfcd:S-76,1dfcf:X,1dfe6:S-1dd53,",
    "1dfe7:X,1dfff:S-f6,1e000:V,1e007:X,1e008:V,1e019:X,1e01b:V,1e022:X,1e023:V,1e025:X,1e026:V,",
    "1e02b:X,1e030:S-1dc00,1e039:S-1dbff,1e03c:S-1dbfe,1e047:S-1dbfc,1e048:S-1dbfb,1e04a:S-139c1,",
    "1e04b:S-1db72,1e04c:S-1dbf6,1e04d:S-1dbf5,1e04e:S-1db65,1e04f:S-1dba0,1e050:S-1db81,",
    "1e051:S-1dc21,1e05a:S-1dc20,1e05c:S-1dc1e,1e05e:S-1dc1d,1e05f:S-1dc1c,1e065:S-1dc1b,",
    "1e067:S-1dbd6,1e068:S-1dc12,1e069:S-1dc14,1e06a:S-1dc0b,1e06b:S-1dbc0,1e06c:S-13a1b,",
    "1e06d:S-1dbbc,1e06e:X,1e08f:V,1e090:X,1e100:V,1e12d:X,1e130:V,1e13e:X,1e140:V,1e14a:X,1e14e:V,",
    "1e150:X,1e290:V,1e2af:X,1e2c0:V,1e2fa:X,1e2ff:V,1e300:X,1e4d0:V,1e4fa:X,1e5d0:V,1e5fb:X,1e5ff:V,",
    "1e600:X,1e6c0:V,1e6df:X,1e6e0:V,1e6f6:X,1e6fe:V,1e700:X,1e7e0:V,1e7e7:X,1e7e8:V,1e7ec:X,1e7ed:V,",
    "1e7ef:X,1e7f0:V,1e7ff:X,1e800:V,1e8c5:X,1e8c7:V,1e8d7:X,1e900:S+22,1e922:V,1e94c:X,1e950:V,",
    "1e95a:X,1e95e:V,1e960:X,1ec71:V,1ecb5:X,1ed01:V,1ed3e:X,1ee00:S-1e7d9,1ee02:S-1e7d6,",
    "1ee03:S-1e7d4,1ee04:X,1ee05:S-1e7bd,1ee06:S-1e7d4,1ee07:S-1e7da,1ee08:S-1e7d1,1ee09:S-1e7bf,",
    "1ee0a:S-1e7c7,1ee0e:S-1e7db,1ee0f:S-1e7d6,1ee10:S-1e7cf,1ee11:S-1e7dc,1ee12:S-1e7d0,",
    "1ee13:S-1e7e2,1ee14:S-1e7e0,1ee15:S-1e7eb,1ee17:S-1e7e9,1ee18:S-1e7e8,1ee19:S-1e7e3,",
    "1ee1a:S-1e7e2,1ee1b:S-1e7e1,1ee1c:S-1e7ae,1ee1d:S-1e763,1ee1e:S-1e77d,1ee1f:S-1e7b0,1ee20:X,",
    "1ee21:S-1e7f9,1ee22:S-1e7f6,1ee23:X,1ee24:S-1e7dd,1ee25:X,1ee27:S-1e7fa,1ee28:X,1ee29:S-1e7df,",
    "1ee2a:S-1e7e7,1ee2e:S-1e7fb,1ee2f:S-1e7f6,1ee30:S-1e7ef,1ee31:S-1e7fc,1ee32:S-1e7f0,1ee33:X,",
    "1ee34:S-1e800,1ee35:S-1e80b,1ee37:S-1e809,1ee38:X,1ee39:S-1e803,1ee3a:X,1ee3b:S-1e801,1ee3c:X,",
    "1ee42:S-1e816,1ee43:X,1ee47:S-1e81a,1ee48:X,1ee49:S-1e7ff,1ee4a:X,1ee4b:S-1e807,1ee4c:X,",
    "1ee4d:S-1e807,1ee4e:S-1e81b,1ee4f:S-1e816,1ee50:X,1ee51:S-1e81c,1ee52:S-1e810,1ee53:X,",
    "1ee54:S-1e820,1ee55:X,1ee57:S-1e829,1ee58:X,1ee59:S-1e823,1ee5a:X,1ee5b:S-1e821,1ee5c:X,",
    "1ee5d:S-1e7a3,1ee5e:X,1ee5f:S-1e7f0,1ee60:X,1ee61:S-1e839,1ee62:S-1e836,1ee63:X,1ee64:S-1e81d,",
    "1ee65:X,1ee67:S-1e83a,1ee68:S-1e831,1ee69:S-1e81f,1ee6a:S-1e827,1ee6b:X,1ee6c:S-1e827,",
    "1ee6e:S-1e83b,1ee6f:S-1e836,1ee70:S-1e82f,1ee71:S-1e83c,1ee72:S-1e830,1ee73:X,1ee74:S-1e840,",
    "1ee75:S-1e84b,1ee77:S-1e849,1ee78:X,1ee79:S-1e843,1ee7a:S-1e842,1ee7b:S-1e841,1ee7c:S-1e80e,",
    "1ee7d:X,1ee7e:S-1e7dd,1ee7f:X,1ee80:S-1e859,1ee82:S-1e856,1ee83:S-1e854,1ee84:S-1e83d,",
    "1ee86:S-1e854,1ee87:S-1e85a,1ee88:S-1e851,1ee89:S-1e83f,1ee8a:X,1ee8b:S-1e847,1ee8e:S-1e85b,",
    "1ee8f:S-1e856,1ee90:S-1e84f,1ee91:S-1e85c,1ee92:S-1e850,1ee93:S-1e862,1ee94:S-1e860,",
    "1ee95:S-1e86b,1ee97:S-1e869,1ee98:S-1e868,1ee99:S-1e863,1ee9a:S-1e862,1ee9b:S-1e861,1ee9c:X,",
    "1eea1:S-1e879,1eea2:S-1e876,1eea3:S-1e874,1eea4:X,1eea5:S-1e85d,1eea6:S-1e874,1eea7:S-1e87a,",
    "1eea8:S-1e871,1eea9:S-1e85f,1eeaa:X,1eeab:S-1e867,1eeae:S-1e87b,1eeaf:S-1e876,1eeb0:S-1e86f,",
    "1eeb1:S-1e87c,1eeb2:S-1e870,1eeb3:S-1e882,1eeb4:S-1e880,1eeb5:S-1e88b,1eeb7:S-1e889,",
    "1eeb8:S-1e888,1eeb9:S-1e883,1eeba:S-1e882,1eebb:S-1e881,1eebc:X,1eef0:V,1eef2:X,1f000:V,1f02c:X,",
    "1f030:V,1f094:X,1f0a0:V,1f0af:X,1f0b1:V,1f0c0:X,1f0c1:V,1f0d0:X,1f0d1:V,1f0f6:X,1f101:M30.2c,",
    "1f102:M31.2c,1f103:M32.2c,1f104:M33.2c,1f105:M34.2c,1f106:M35.2c,1f107:M36.2c,1f108:M37.2c,",
    "1f109:M38.2c,1f10a:M39.2c,1f10b:V,1f110:M28.61.29,1f111:M28.62.29,1f112:M28.63.29,",
    "1f113:M28.64.29,1f114:M28.65.29,1f115:M28.66.29,1f116:M28.67.29,1f117:M28.68.29,1f118:M28.69.29,",
    "1f119:M28.6a.29,1f11a:M28.6b.29,1f11b:M28.6c.29,1f11c:M28.6d.29,1f11d:M28.6e.29,1f11e:M28.6f.29,",
    "1f11f:M28.70.29,1f120:M28.71.29,1f121:M28.72.29,1f122:M28.73.29,1f123:M28.74.29,1f124:M28.75.29,",
    "1f125:M28.76.29,1f126:M28.77.29,1f127:M28.78.29,1f128:M28.79.29,1f129:M28.7a.29,",
    "1f12a:M3014.73.3015,1f12b:S-1f0c8,1f12c:S-1f0ba,1f12d:M63.64,1f12e:M77.7a,1f12f:V,1f130:S-1f0cf,",
    "1f14a:M68.76,1f14b:M6d.76,1f14c:M73.64,1f14d:M73.73,1f14e:M70.70.76,1f14f:M77.63,1f150:V,",
    "1f16a:M6d.63,1f16b:M6d.64,1f16c:M6d.72,1f16d:V,1f190:M64.6a,1f191:V,1f1af:X,1f1e6:V,",
    "1f200:M307b.304b,1f201:M30b3.30b3,1f202:S-1c14d,1f203:X,1f210:S-18fc5,1f211:S-196ba,",
    "1f212:S-19e46,1f213:S-1c14c,1f214:S-1a388,1f215:S-198fb,1f216:S-16833,1f217:S-198ee,",
    "1f218:S-1a374,1f219:S-18bf9,1f21a:S-180f9,1f21b:S-18c82,1f21c:S-19fcf,1f21d:S-19291,",
    "1f21e:S-1a091,1f21f:S-18c6f,1f220:S-1a003,1f221:S-174df,1f222:S-17d03,1f223:S-1657a,",
    "1f224:S-19934,1f225:S-19dec,1f226:S-18312,1f227:S-18f92,1f228:S-18ed3,1f229:S-1a429,",
    "1f22a:S-1a421,1f22b:S-161e1,1f22c:S-19446,1f22d:S-1a400,1f22e:S-19e3b,1f22f:S-18f28,",
    "1f230:S-164c0,1f231:S-18fde,1f232:S-178b1,1f233:S-177b9,1f234:S-19e2c,1f235:S-183b5,",
    "1f236:S-18b2d,1f237:S-18b2f,1f238:S-17d05,1f239:S-19fc7,1f23a:S-19c84,1f23b:S-160ee,1f23c:X,",
    "1f240:M3014.672c.3015,1f241:M3014.4e09.3015,1f242:M3014.4e8c.3015,1f243:M3014.5b89.3015,",
    "1f244:M3014.70b9.3015,1f245:M3014.6253.3015,1f246:M3014.76d7.3015,1f247:M3014.52dd.3015,",
    "1f248:M3014.6557.3015,1f249:X,1f250:S-192b9,1f251:S-19e62,1f252:X,1f260:V,1f266:X,1f300:V,",
    "1f6da:X,1f6dc:V,1f6ed:X,1f6f0:V,1f6fd:X,1f700:V,1f7dc:X,1f7e0:V,1f7ec:X,1f7f0:V,1f80c:X,1f810:V,",
    "1f848:X,1f850:V,1f85a:X,1f860:V,1f888:X,1f890:V,1f8ae:X,1f8b0:V,1f8bc:X,1f8c0:V,1f8c2:X,1f8d0:V,",
    "1f8d9:X,1f900:V,1fa58:X,1fa60:V,1fa6e:X,1fa70:V,1fa7d:X,1fa80:V,1fac7:X,1fac8:V,1fac9:X,1facc:V,",
    "1fade:X,1fadf:V,1faec:X,1faef:V,1fafb:X,1fb00:V,1fb93:X,1fb94:V,1fbf0:S-1fbc0,1fbfa:V,1fbfb:X,",
    "20000:V,2a6e0:X,2a700:V,2b81f:X,2b820:V,2ceae:X,2ceb0:V,2ebe1:X,2ebf0:V,2ee5e:X,2f800:S-2a9c3,",
    "2f801:S-2a9c9,2f802:S-2a9c1,2f803:S-f6e1,2f804:S-2a8a4,2f805:S-2a857,2f806:S-2a84b,",
    "2f807:S-2a805,2f808:S-2a78e,2f809:S-2a770,2f80a:S-2a723,2f80b:S-2a73c,2f80c:S-2c36e,",
    "2f80d:S-f1d3,2f80e:S-2a6c1,2f80f:S-2a6bb,2f810:S-2a6ac,2f811:S-2a69a,2f812:S-f2f6,2f813:S-2c35a,",
    "2f814:S-2a6ad,2f815:S-2a688,2f816:S-f2cb,2f817:S-2a680,2f818:S-2a674,2f819:S-2a94d,",
    "2f81a:S-2a66e,2f81b:S-2a666,2f81c:S-663d,2f81d:S-2a628,2f81e:S-2a61b,2f81f:S-2c340,",
    "2f820:S-2a5e5,2f821:S-2a5db,2f822:S-2a5b0,2f823:S-2a5ac,2f824:S-2c30f,2f825:S-2a55e,",
    "2f826:S-2a55d,2f827:S-2a543,2f828:S-2a52e,2f829:S-2a524,2f82b:S-2a514,2f82c:S-2a4e3,",
    "2f82d:S-2a4dc,2f82e:S-2a4d4,2f82f:S-2a4bc,2f830:S-2a4b3,2f831:M537f,2f834:S-ee08,2f835:S-287c5,",
    "2f836:S-2a46c,2f837:S-2a458,2f838:S-ecd5,2f839:S-2a44e,2f83a:S-2a449,2f83b:S-2a435,",
    "2f83c:S-2a39e,2f83d:S-2a405,2f83e:S-2a3f6,2f83f:S-2a3d7,2f840:S-2a39e,2f841:S-2a34b,",
    "2f842:S-2a332,2f843:S-2a2f0,2f844:S-2a2e1,2f845:M5584,2f847:S-2a2ae,2f848:S-2a29d,2f849:S-2a296,",
    "2f84a:S-2a288,2f84b:S-2a135,2f84c:S-2a246,2f84d:S-2a136,2f84e:S-2a1fd,2f84f:S-2a1db,",
    "2f850:S-2a649,2f851:S-29f63,2f852:S-2a084,2f853:S-2a05f,2f854:S-2a047,2f855:S-2a0ca,",
    "2f856:S-2a024,2f857:S-2a026,2f858:S-29fac,2f859:S-e375,2f85a:S-29f68,2f85b:S-29f64,",
    "2f85c:S-29f56,2f85d:S-29f43,2f85e:S-29f3c,2f85f:S-29efd,2f860:S-e1b8,2f861:S-e177,2f862:S-29e76,",
    "2f863:S-29e48,2f864:S-29e3d,2f865:S-29e8d,2f866:S-29e00,2f867:S-2c179,2f868:S-2c16c,",
    "2f869:S-29d61,2f86a:M5b3e,2f86c:S-dea4,2f86d:S-29caa,2f86e:S-29c96,2f86f:S-29c88,2f870:S-29c7d,",
    "2f871:S-dd59,2f872:S-29c73,2f873:S-29c6d,2f874:S-29921,2f875:S-29c53,2f876:S-2c0f5,",
    "2f877:S-29c17,2f878:S-29c0a,2f879:S-29bb9,2f87a:S-29bed,2f87b:S-da97,2f87c:S-29b39,2f87d:S-da97,",
    "2f87e:S-29b10,2f87f:S-29b14,2f880:S-29b04,2f881:S-29aa0,2f883:S-2c054,2f884:S-29a87,",
    "2f885:S-29a5d,2f886:S-29a49,2f887:S-29a1e,2f888:S-2c026,2f889:S-d706,2f88a:S-2c00e,",
    "2f88b:S-299db,2f88c:S-299d9,2f88d:S-299d7,2f88e:S-299c4,2f88f:S-54fd,2f890:S-29992,2f891:M22331,",
    "2f893:S-27692,2f894:M5f22,2f896:S-2bfcf,2f897:S-c5df,2f898:S-96be,2f899:S-29937,2f89a:S-2992f,",
    "2f89b:S-2bfb8,2f89c:S-29902,2f89d:S-298d0,2f89e:S-298c7,2f89f:S-298a6,2f8a0:S-2981f,",
    "2f8a1:S-2bf67,2f8a2:S-2bf86,2f8a3:S-2980f,2f8a4:S-d1d0,2f8a5:S-297de,2f8a6:S-2975e,",
    "2f8a7:S-2975b,2f8a8:S-2975a,2f8a9:S-2975d,2f8aa:S-29730,2f8ab:S-2971d,2f8ac:S-296fa,",
    "2f8ad:S-29709,2f8ae:S-296ff,2f8af:S-296d1,2f8b0:S-296be,2f8b1:S-296bb,2f8b2:S-296a2,",
    "2f8b3:S-29698,2f8b4:S-29657,2f8b5:S-29604,2f8b6:S-295e2,2f8b7:S-29567,2f8b8:S-cdac,",
    "2f8b9:S-2957c,2f8ba:S-295be,2f8bb:S-29553,2f8bc:S-29539,2f8bd:S-294d9,2f8be:S-cccd,",
    "2f8bf:S-2949d,2f8c0:S-294fb,2f8c1:S-29518,2f8c2:S-2be94,2f8c3:S-2945a,2f8c4:S-29446,",
    "2f8c5:S-29428,2f8c6:S-2944f,2f8c7:S-2be5b,2f8c8:S-29379,2f8c9:S-2935d,2f8ca:S-c8c0,",
    "2f8cb:S-292e8,2f8cc:S-291d4,2f8cd:S-29284,2f8ce:S-2bdb5,2f8cf:S-2923e,2f8d0:S-2bdc8,",
    "2f8d1:S-2bded,2f8d2:S-2a740,2f8d3:S-2a73e,2f8d4:S-291d4,2f8d5:S-29239,2f8d6:S-27829,",
    "2f8d7:S-2b4fe,2f8d8:S-291c1,2f8d9:S-291be,2f8da:S-291b9,2f8db:S-2917d,2f8dc:S-29189,",
    "2f8dd:S-c51a,2f8de:S-2bd95,2f8df:S-290e5,2f8e0:S-2915b,2f8e1:S-2908f,2f8e2:S-2905d,2f8e3:S-c476,",
    "2f8e4:S-29056,2f8e5:S-290c6,2f8e6:S-28fd2,2f8e7:S-2bd4a,2f8e8:S-28fa6,2f8e9:S-28f46,",
    "2f8ea:S-28f00,2f8eb:S-28e43,2f8ec:S-c249,2f8ed:S-28e12,2f8ee:S-2bcd6,2f8ef:S-28dce,2f8f0:S-c049,",
    "2f8f1:S-28d9d,2f8f2:S-2bca4,2f8f3:S-28d81,2f8f4:S-28d55,2f8f5:S-28d3b,2f8f7:S-be6a,2f8f8:S-dbed,",
    "2f8f9:S-bdff,2f8fa:S-28cac,2f8fb:S-bc3f,2f8fc:S-28c3d,2f8fd:S-28c30,2f8fe:S-28c97,2f8ff:S-28be9,",
    "2f900:S-28bc2,2f901:S-28b8a,2f902:S-28bc1,2f903:S-28b9a,2f904:S-28b8c,2f905:S-28b80,",
    "2f906:S-bbe8,2f907:S-28bd3,2f908:S-28ad9,2f909:S-28a9b,2f90a:S-2bbd7,2f90b:S-28a40,",
    "2f90c:S-28a45,2f90d:S-ba3c,2f90e:S-28b15,2f90f:S-289a1,2f910:S-b9b2,2f911:S-b983,2f912:S-2894c,",
    "2f913:S-288da,2f914:S-288f6,2f915:S-288fa,2f916:S-2bb80,2f917:S-288cd,2f918:S-2889b,",
    "2f919:S-288a2,2f91a:S-2886d,2f91b:S-f3f6,2f91c:S-287d7,2f91d:S-b6ba,2f91e:S-28782,2f91f:S-b574,",
    "2f920:S-286f8,2f921:S-286ec,2f922:S-286d2,2f923:S-b31b,2f924:S-286a4,2f925:S-28690,2f926:S-b1f1,",
    "2f927:S-b113,2f928:S-285ae,2f929:S-2859e,2f92a:S-2ba7e,2f92b:S-28586,2f92c:M3eb8,2f92e:S-284e7,",
    "2f92f:S-284d3,2f930:S-284bf,2f931:S-284ac,2f932:S-28468,2f933:S-2ba18,2f934:S-28410,",
    "2f935:S-acff,2f936:S-283f8,2f937:S-aca5,2f938:S-283c8,2f939:S-d79a,2f93a:S-2832a,2f93b:S-a99a,",
    "2f93c:S-a984,2f93d:S-a8f9,2f93e:S-2b942,2f93f:S-2b937,2f940:S-2824c,2f941:S-a84e,2f942:S-a850,",
    "2f943:S-a82a,2f944:S-a811,2f945:S-28227,2f946:M771f,2f948:S-281fe,2f949:S-2b910,2f94a:S-281bf,",
    "2f94b:S-2b905,2f94c:S-2b8b6,2f94d:S-a530,2f94e:S-28100,2f94f:S-280c3,2f950:S-28084,",
    "2f951:S-2b86e,2f952:S-a32c,2f953:S-27ffd,2f954:S-a2ba,2f955:S-a290,2f956:S-27fc7,2f957:S-27f6c,",
    "2f958:S-2b829,2f959:S-27f19,2f95a:S-27f10,2f95b:S-27f0c,2f95c:S-9fe0,2f95d:M25aa7,2f95f:S-27e71,",
    "2f960:S-2b75e,2f961:S-9db6,2f962:S-27d9c,2f963:S-27d9a,2f964:S-2b73d,2f965:S-9ce5,2f966:S-27c94,",
    "2f967:S-2b6c7,2f968:S-27c80,2f969:S-27c86,2f96a:S-27c6a,2f96b:S-99e5,2f96c:S-27c09,",
    "2f96d:S-2b66c,2f96e:S-27ba7,2f96f:S-27b6d,2f970:S-27b2b,2f971:S-2b63d,2f972:S-974a,2f973:S-972c,",
    "2f974:S-2b61b,2f975:S-969c,2f976:S-279fc,2f977:S-9639,2f978:S-279e3,2f979:S-2797f,2f97a:S-27975,",
    "2f97b:S-94a1,2f97c:S-9459,2f97d:S-2791d,2f97e:S-93d6,2f97f:S-2790f,2f980:S-c621,2f981:S-2b5ac,",
    "2f982:S-278d0,2f983:S-27880,2f984:S-2b579,2f985:S-27847,2f986:S-29ed1,2f987:S-91e0,2f988:S-91d3,",
    "2f989:S-c5f6,2f98a:S-c5ee,2f98b:S-2778a,2f98c:S-27788,2f98d:S-269ef,2f98e:S-2b523,2f98f:S-276fe,",
    "2f990:S-27705,2f991:S-276f4,2f992:S-2a6df,2f993:S-276e2,2f994:S-276e1,2f995:S-276d8,",
    "2f996:S-276b0,2f997:S-8e5b,2f998:S-276b3,2f999:S-2767c,2f99a:S-27637,2f99b:S-275ee,",
    "2f99c:S-27679,2f99d:S-275e0,2f99e:S-275b7,2f99f:S-27548,2f9a0:S-2764d,2f9a1:S-275d7,",
    "2f9a2:S-275d6,2f9a3:S-275c7,2f9a4:S-8d6e,2f9a5:S-8c3a,2f9a6:S-8cd1,2f9a7:S-2b47c,2f9a8:S-274b7,",
    "2f9a9:S-274b6,2f9aa:S-27494,2f9ab:S-85e1,2f9ac:S-27448,2f9ad:S-8a81,2f9ae:S-2b451,2f9af:S-2b44e,",
    "2f9b0:S-89ff,2f9b1:S-88df,2f9b2:S-2b447,2f9b3:S-27363,2f9b4:S-27358,2f9b5:S-2734e,2f9b6:S-2734d,",
    "2f9b7:S-2730e,2f9b8:S-27330,2f9b9:S-272ab,2f9ba:S-272d8,2f9bb:S-27242,2f9bc:S-27294,",
    "2f9bd:S-27252,2f9be:S-27238,2f9bf:S-2b3e8,2f9c0:S-271df,2f9c1:S-271c0,2f9c2:S-2b3c9,",
    "2f9c3:S-27163,2f9c4:S-27161,2f9c5:S-835e,2f9c6:S-270ef,2f9c7:S-270e9,2f9c8:S-2b393,",
    "2f9c9:S-270cf,2f9ca:S-2c50f,2f9cb:S-811d,2f9cc:S-8066,2f9cd:S-2b30f,2f9ce:S-2b307,2f9cf:S-26f2f,",
    "2f9d0:S-26ee3,2f9d1:S-26e47,2f9d2:S-26d7d,2f9d3:S-7d2b,2f9d4:S-26d29,2f9d5:S-26d14,",
    "2f9d6:S-26cbb,2f9d7:S-26c60,2f9d8:S-7aa9,2f9d9:S-f1d5,2f9da:S-26c0f,2f9db:S-26c1f,2f9dc:S-26bec,",
    "2f9dd:S-f0ff,2f9de:S-26b0a,2f9df:S-26aa7,2f9e0:S-740e,2f9e1:S-73f4,2f9e2:S-2694e,2f9e3:S-268f2,",
    "2f9e4:S-268d3,2f9e5:S-72b7,2f9e6:S-268cb,2f9e7:S-267af,2f9e8:S-26711,2f9ea:S-2676e,",
    "2f9eb:S-265f2,2f9ec:S-265d7,2f9ed:S-6df3,2f9ee:S-26463,2f9ef:S-2b05a,2f9f0:S-26439,2f9f1:S-6c7a,",
    "2f9f2:S-2b00c,2f9f3:S-26330,2f9f4:S-29c42,2f9f5:S-262d2,2f9f6:S-68b1,2f9f7:S-67dd,2f9f8:S-2af8a,",
    "2f9f9:S-2af83,2f9fa:S-2621a,2f9fb:S-65f1,2f9fc:S-2af4a,2f9fd:S-6567,2f9fe:M980b,2fa00:S-261d7,",
    "2fa01:S-644b,2fa02:S-26120,2fa03:S-2aed0,2fa04:S-260db,2fa05:S-2605e,2fa06:S-26044,",
    "2fa07:S-26009,2fa08:S-2ae3a,2fa09:S-5ed9,2fa0a:S-25ef8,2fa0b:S-25dcb,2fa0c:S-25d0f,",
    "2fa0d:S-2ad3f,2fa0e:S-2ad21,2fa0f:S-25ca8,2fa10:S-5942,2fa11:S-2ad19,2fa12:S-590d,2fa13:S-5805,",
    "2fa14:S-5783,2fa15:S-25b5a,2fa16:S-2acc0,2fa17:S-25b1e,2fa18:S-25b1a,2fa19:S-25b14,",
    "2fa1a:S-25b0b,2fa1b:S-25b05,2fa1c:S-25ae1,2fa1d:S-541d,2fa1e:X,30000:V,3134b:X,31350:V,3347a:X,",
    "3d000:V,3fc40:X,e0100:I,e01f0:X,"]

/-- the mapping table, read -/
def mappingTable : KeyedTable Status := KeyedTable.ofText hexValue Status.ofCode mappingText

/-- the status of a code point -/
def status (c : Nat) : Status :=
  let t := mappingTable
  if t.keys.size == 0 then .disallowed
  else (t.values[lastAtOrBefore t.keys c 0 t.keys.size]?).getD .disallowed

/-- what a code point maps to: itself when valid or a deviation, nothing when ignored, its
replacement when mapped; none when disallowed -/
def mapCode (c : Nat) : Option (List Nat) :=
  match status c with
  | .valid | .deviation => some [c]
  | .ignored => some []
  | .disallowed => none
  | .mapped target => some target
  | .shifted offset => some [((c : Int) + offset).toNat]

end BuildRecipe.Domain
