/-
General categories in three classes: marks (nonspacing, spacing and enclosing), characters that
show nothing by themselves (separators, controls, format characters, surrogates, private use and
unassigned code points, the space excepted, and the letters that are default ignorable, the Hangul
fillers) and all others. The classes follow Unicode 17.0, with part of Unicode 18.0 on top: some
of the characters it adds, each a mark or another character, and the Balinese vowel signs ra
repa, la lenga and pepet as spacing marks. A domain label may not begin with a mark, by the later
version. A message writes a character that shows nothing as an escape, by Unicode 17.0, where the
characters added later are unassigned.
-/
import BuildRecipe.Unicode.RangeTable

namespace BuildRecipe.Unicode

/-- the classes of general categories this library tells apart -/
inductive CategoryClass where
  | other
  | mark
  | invisible
deriving DecidableEq, Repr, Inhabited

/-- the category class of each range of code points: 0 for others, 1 for marks, 2 for
characters that show nothing, and for characters added after Unicode 17.0, 3 for others and 4
for marks -/
def categoryText : String :=
  String.join [
    "0:2,20:0,7f:2,a1:0,ad:2,ae:0,300:1,370:0,378:2,37a:0,380:2,384:0,38b:2,38c:0,38d:2,38e:0,3a2:2,",
    "3a3:0,483:1,48a:0,530:2,531:0,557:2,558:3,559:0,58b:3,58d:0,590:2,591:1,5be:0,5bf:1,5c0:0,5c1:1,",
    "5c3:0,5c4:1,5c6:0,5c7:1,5c8:4,5ca:2,5d0:0,5eb:2,5ef:0,5f5:2,606:0,610:1,61b:0,61c:2,61d:0,64b:1,",
    "660:0,670:1,671:0,6d6:1,6dd:2,6de:0,6df:1,6e5:0,6e7:1,6e9:0,6ea:1,6ee:0,70e:2,710:0,711:1,712:0,",
    "730:1,74b:2,74d:0,7a6:1,7b1:0,7b2:2,7c0:0,7eb:1,7f4:0,7fb:2,7fd:1,7fe:0,816:1,81a:0,81b:1,824:0,",
    "825:1,828:0,829:1,82e:2,830:0,83f:2,840:0,859:1,85c:2,85e:0,85f:2,860:0,86b:2,870:0,890:2,897:1,",
    "8a0:0,8ca:1,8e2:2,8e3:1,904:0,93a:1,93d:0,93e:1,950:0,951:1,958:0,962:1,964:0,981:1,984:2,985:0,",
    "98d:2,98f:0,991:2,993:0,9a9:2,9aa:0,9b1:2,9b2:0,9b3:2,9b6:0,9ba:2,9bc:1,9bd:0,9be:1,9c5:2,9c7:1,",
    "9c9:2,9cb:1,9ce:0,9cf:2,9d7:1,9d8:2,9dc:0,9de:2,9df:0,9e2:1,9e4:2,9e6:0,9fe:1,9ff:2,a01:1,a04:2,",
    "a05:0,a0b:2,a0f:0,a11:2,a13:0,a29:2,a2a:0,a31:2,a32:0,a34:2,a35:0,a37:2,a38:0,a3a:2,a3c:1,a3d:2,",
    "a3e:1,a43:2,a47:1,a49:2,a4b:1,a4e:2,a51:1,a52:2,a59:0,a5d:2,a5e:0,a5f:2,a66:0,a70:1,a72:0,a75:1,",
    "a76:0,a77:2,a81:1,a84:2,a85:0,a8e:2,a8f:0,a92:2,a93:0,aa9:2,aaa:0,ab1:2,ab2:0,ab4:2,ab5:0,aba:2,",
    "abc:1,abd:0,abe:1,ac6:2,ac7:1,aca:2,acb:1,ace:2,ad0:0,ad1:2,ae0:0,ae2:1,ae4:2,ae6:0,af2:2,af9:0,",
    "afa:1,b00:2,b01:1,b04:2,b05:0,b0d:2,b0f:0,b11:2,b13:0,b29:2,b2a:0,b31:2,b32:0,b34:2,b35:0,b3a:2,",
    "b3c:1,b3d:0,b3e:1,b45:2,b47:1,b49:2,b4b:1,b4e:2,b53:4,b55:1,b58:2,b5c:0,b5e:2,b5f:0,b62:1,b64:2,",
    "b66:0,b78:2,b82:1,b83:0,b84:2,b85:0,b8b:2,b8e:0,b91:2,b92:0,b96:2,b99:0,b9b:2,b9c:0,b9d:2,b9e:0,",
    "ba0:2,ba3:0,ba5:2,ba8:0,bab:2,bae:0,bba:2,bbe:1,bc3:2,bc6:1,bc9:2,bca:1,bce:2,bd0:0,bd1:2,bd7:1,",
    "bd8:2,be6:0,bfb:2,c00:1,c05:0,c0d:2,c0e:0,c11:2,c12:0,c29:2,c2a:0,c3a:2,c3c:1,c3d:0,c3e:1,c45:2,",
    "c46:1,c49:2,c4a:1,c4e:2,c55:1,c57:2,c58:0,c5b:2,c5c:0,c5e:2,c60:0,c62:1,c64:2,c66:0,c70:2,c77:0,",
    "c81:1,c84:0,c8d:2,c8e:0,c91:2,c92:0,ca9:2,caa:0,cb4:2,cb5:0,cba:2,cbc:1,cbd:0,cbe:1,cc5:2,cc6:1,",
    "cc9:2,cca:1,cce:2,cd5:1,cd7:2,cdc:0,cdf:2,ce0:0,ce2:1,ce4:2,ce6:0,cf0:2,cf1:0,cf3:1,cf4:2,d00:1,",
    "d04:0,d0d:2,d0e:0,d11:2,d12:0,d3b:1,d3d:0,d3e:1,d45:2,d46:1,d49:2,d4a:1,d4e:0,d50:2,d54:0,d57:1,",
    "d58:0,d62:1,d64:2,d66:0,d80:2,d81:1,d84:2,d85:0,d97:2,d9a:0,db2:2,db3:0,dbc:2,dbd:0,dbe:2,dc0:0,",
    "dc7:2,dca:1,dcb:2,dcf:1,dd5:2,dd6:1,dd7:2,dd8:1,de0:2,de6:0,df0:2,df2:1,df4:0,df5:2,e01:0,e31:1,",
    "e32:0,e34:1,e3b:2,e3f:0,e47:1,e4f:0,e5c:2,e81:0,e83:2,e84:0,e85:2,e86:0,e8b:2,e8c:0,ea4:2,ea5:0,",
    "ea6:2,ea7:0,eb1:1,eb2:0,eb4:1,ebd:0,ebe:2,ec0:0,ec5:2,ec6:0,ec7:2,ec8:1,ecf:2,ed0:0,eda:2,edc:0,",
    "ee0:2,f00:0,f18:1,f1a:0,f35:1,f36:0,f37:1,f38:0,f39:1,f3a:0,f3e:1,f40:0,f48:2,f49:0,f6d:2,f71:1,",
    "f85:0,f86:1,f88:0,f8d:1,f98:2,f99:1,fbd:2,fbe:0,fc6:1,fc7:0,fcd:2,fce:0,fdb:2,1000:0,102b:1,",
    "103f:0,1056:1,105a:0,105e:1,1061:0,1062:1,1065:0,1067:1,106e:0,1071:1,1075:0,1082:1,108e:0,",
    "108f:1,1090:0,109a:1,109e:0,10c6:2,10c7:0,10c8:2,10cd:0,10ce:2,10d0:0,115f:2,1161:0,1249:2,",
    "124a:0,124e:2,1250:0,1257:2,1258:0,1259:2,125a:0,125e:2,1260:0,1289:2,128a:0,128e:2,1290:0,",
    "12b1:2,12b2:0,12b6:2,12b8:0,12bf:2,12c0:0,12c1:2,12c2:0,12c6:2,12c8:0,12d7:2,12d8:0,1311:2,",
    "1312:0,1316:2,1318:0,135b:2,135d:1,1360:0,137d:2,1380:0,139a:2,13a0:0,13f6:2,13f8:0,13fe:2,",
    "1400:0,1680:2,1681:0,169d:2,16a0:0,16f9:2,1700:0,1712:1,1716:2,171f:0,1732:1,1735:0,1737:2,",
    "1740:0,1752:1,1754:2,1760:0,176d:2,176e:0,1771:2,1772:1,1774:2,1780:0,17b4:1,17d4:0,17dd:1,",
    "17de:2,17e0:0,17ea:2,17f0:0,17fa:2,1800:0,180b:1,180e:2,180f:1,1810:0,181a:2,1820:0,1879:2,",
    "1880:0,1885:1,1887:0,18a9:1,18aa:0,18ab:2,18b0:0,18f6:2,1900:0,191f:2,1920:1,192c:2,1930:1,",
    "193c:2,1940:0,1941:2,1944:0,196e:2,1970:0,1975:2,1980:0,19ac:2,19b0:0,19ca:2,19d0:0,19db:2,",
    "19de:0,1a17:1,1a1c:2,1a1e:0,1a55:1,1a5f:2,1a60:1,1a7d:2,1a7f:1,1a80:0,1a8a:2,1a90:0,1a9a:2,",
    "1aa0:0,1aae:2,1ab0:1,1ade:2,1adf:4,1ae0:1,1aec:4,1af1:2,1b00:1,1b05:0,1b34:1,1b45:0,1b4d:2,",
    "1b4e:0,1b6b:1,1b74:0,1b80:1,1b83:0,1ba1:1,1bae:0,1be6:1,1bf4:2,1bfc:0,1c24:1,1c38:2,1c3b:0,",
    "1c4a:2,1c4d:0,1c8b:2,1c90:0,1cbb:2,1cbd:0,1cc8:2,1cd0:1,1cd3:0,1cd4:1,1ce9:0,1ced:1,1cee:0,",
    "1cf4:1,1cf5:0,1cf7:1,1cfa:0,1cfb:2,1d00:0,1dc0:1,1e00:0,1f16:2,1f18:0,1f1e:2,1f20:0,1f46:2,",
    "1f48:0,1f4e:2,1f50:0,1f58:2,1f59:0,1f5a:2,1f5b:0,1f5c:2,1f5d:0,1f5e:2,1f5f:0,1f7e:2,1f80:0,",
    "1fb5:2,1fb6:0,1fc5:2,1fc6:0,1fd4:2,1fd6:0,1fdc:2,1fdd:0,1ff0:2,1ff2:0,1ff5:2,1ff6:0,1fff:2,",
    "2010:0,2028:2,2030:0,205f:2,2070:0,2072:2,2074:0,208f:3,2090:0,209d:3,20a0:0,20c2:3,20c5:2,",
    "20d0:1,20f1:2,2100:0,218c:2,2190:0,242a:2,2440:0,244b:2,2460:0,2b74:2,2b76:0,2cef:1,2cf2:0,",
    "2cf4:2,2cf9:0,2d26:2,2d27:0,2d28:2,2d2d:0,2d2e:2,2d30:0,2d68:2,2d6f:0,2d71:2,2d7f:1,2d80:0,",
    "2d97:2,2da0:0,2da7:2,2da8:0,2daf:2,2db0:0,2db7:2,2db8:0,2dbf:2,2dc0:0,2dc7:2,2dc8:0,2dcf:2,",
    "2dd0:0,2dd7:2,2dd8:0,2ddf:2,2de0:1,2e00:0,2e5e:2,2e60:3,2e64:2,2e80:0,2e9a:2,2e9b:0,2ef4:2,",
    "2f00:0,2fd6:2,2ff0:0,3000:2,3001:0,302a:1,3030:0,3040:2,3041:0,3097:2,3099:1,309b:0,3100:2,",
    "3105:0,3130:2,3131:0,3164:2,3165:0,318f:2,3190:0,31e6:2,31ef:0,321f:2,3220:0,a48d:2,a490:0,",
    "a4c7:2,a4d0:0,a62c:2,a640:0,a66f:1,a673:0,a674:1,a67e:0,a69e:1,a6a0:0,a6f0:1,a6f2:0,a6f8:2,",
    "a700:0,a7dd:3,a7de:2,a7e2:3,a7e3:2,a7f1:0,a802:1,a803:0,a806:1,a807:0,a80b:1,a80c:0,a823:1,",
    "a828:0,a82c:1,a82d:2,a830:0,a83a:2,a840:0,a878:2,a880:1,a882:0,a8b4:1,a8c6:2,a8ce:0,a8da:2,",
    "a8e0:1,a8f2:0,a8ff:1,a900:0,a926:1,a92e:0,a947:1,a954:2,a95f:0,a97d:2,a980:1,a984:0,a9b3:1,",
    "a9c1:0,a9ce:2,a9cf:0,a9da:2,a9de:0,a9e5:1,a9e6:0,a9ff:2,aa00:0,aa29:1,aa37:2,aa40:0,aa43:1,",
    "aa44:0,aa4c:1,aa4e:2,aa50:0,aa5a:2,aa5c:0,aa7b:1,aa7e:0,aab0:1,aab1:0,aab2:1,aab5:0,aab7:1,",
    "aab9:0,aabe:1,aac0:0,aac1:1,aac2:0,aac3:2,aadb:0,aaeb:1,aaf0:0,aaf5:1,aaf7:2,ab01:0,ab07:2,",
    "ab09:0,ab0f:2,ab11:0,ab17:2,ab20:0,ab27:2,ab28:0,ab2f:2,ab30:0,ab6c:3,ab6e:2,ab70:0,abe3:1,",
    "abeb:0,abec:1,abee:2,abf0:0,abfa:2,ac00:0,d7a4:2,d7b0:0,d7c7:2,d7cb:0,d7fc:2,f900:0,fa6e:2,",
    "fa70:0,fada:2,fb00:0,fb07:2,fb13:0,fb18:2,fb1d:0,fb1e:1,fb1f:0,fb37:2,fb38:0,fb3d:2,fb3e:0,",
    "fb3f:2,fb40:0,fb42:2,fb43:0,fb45:2,fb46:0,fdd0:2,fdf0:0,fe00:1,fe10:0,fe1a:2,fe20:1,fe30:0,",
    "fe53:2,fe54:0,fe67:2,fe68:0,fe6c:2,fe70:0,fe75:2,fe76:0,fefd:2,ff01:0,ffa0:2,ffa1:0,ffbf:2,",
    "ffc2:0,ffc8:2,ffca:0,ffd0:2,ffd2:0,ffd8:2,ffda:0,ffdd:2,ffe0:0,ffe7:2,ffe8:0,ffef:2,fffc:0,",
    "fffe:2,10000:0,1000c:2,1000d:0,10027:2,10028:0,1003b:2,1003c:0,1003e:2,1003f:0,1004e:2,10050:0,",
    "1005e:2,10080:0,100fb:2,10100:0,10103:2,10107:0,10134:2,10137:0,1018f:2,10190:0,1019d:2,101a0:0,",
    "101a1:2,101d0:0,101fd:1,101fe:2,10280:0,1029d:2,102a0:0,102d1:2,102e0:1,102e1:0,102fc:2,10300:0,",
    "10324:2,1032d:0,1034b:2,10350:0,10376:1,1037b:2,10380:0,1039e:2,1039f:0,103c4:2,103c8:0,103d6:2,",
    "10400:0,1049e:2,104a0:0,104aa:2,104b0:0,104d4:2,104d8:0,104fc:2,10500:0,10528:2,10530:0,10564:2,",
    "1056f:0,1057b:2,1057c:0,1058b:2,1058c:0,10593:2,10594:0,10596:2,10597:0,105a2:2,105a3:0,105b2:2,",
    "105b3:0,105ba:2,105bb:0,105bd:2,105c0:0,105f4:2,10600:0,10737:2,10740:0,10756:2,10760:0,10768:2,",
    "10780:0,10786:2,10787:0,107b1:2,107b2:0,107bb:3,107bc:2,107bd:3,107c0:2,10800:0,10806:2,10808:0,",
    "10809:2,1080a:0,10836:2,10837:0,10839:2,1083c:0,1083d:2,1083f:0,10856:2,10857:0,1089f:2,108a7:0,",
    "108b0:2,108e0:0,108f3:2,108f4:0,108f6:2,108fb:0,1091c:2,1091f:0,1093a:2,1093f:0,1095a:2,10980:0,",
    "109b8:2,109bc:0,109d0:2,109d2:0,10a01:1,10a04:2,10a05:1,10a07:2,10a0c:1,10a10:0,10a14:2,10a15:0,",
    "10a18:2,10a19:0,10a36:2,10a38:1,10a3b:2,10a3f:1,10a40:0,10a49:2,10a50:0,10a59:2,10a60:0,10aa0:2,",
    "10ac0:0,10ae5:1,10ae7:2,10aeb:0,10af7:2,10b00:0,10b36:2,10b39:0,10b56:2,10b58:0,10b73:2,10b78:0,",
    "10b92:2,10b99:0,10b9d:2,10ba9:0,10bb0:2,10c00:0,10c49:2,10c80:0,10cb3:2,10cc0:0,10cf3:2,10cfa:0,",
    "10d24:1,10d28:2,10d30:0,10d3a:2,10d40:0,10d66:2,10d69:1,10d6e:0,10d86:2,10d8e:0,10d90:2,10e60:0,",
    "10e7f:2,10e80:0,10eaa:2,10eab:1,10ead:0,10eae:2,10eb0:0,10eb2:2,10ec2:0,10ec8:2,10ec9:3,10ecc:4,",
    "10ecd:3,10ecf:4,10ed0:0,10ed9:2,10eee:3,10eef:2,10ef0:4,10efa:1,10f00:0,10f28:2,10f30:0,10f46:1,",
    "10f51:0,10f5a:2,10f70:0,10f82:1,10f86:0,10f8a:2,10fb0:0,10fcc:2,10fe0:0,10ff7:2,11000:1,11003:0,",
    "11038:1,11047:0,1104e:2,11052:0,11070:1,11071:0,11073:1,11075:0,11076:2,1107f:1,11083:0,110b0:1,",
    "110bb:0,110bd:2,110be:0,110c2:1,110c3:2,110d0:0,110e9:2,110f0:0,110fa:2,11100:1,11103:0,11127:1,",
    "11135:2,11136:0,11145:1,11147:0,11148:2,11150:0,11173:1,11174:0,11177:2,11180:1,11183:0,111b3:1,",
    "111c1:0,111c9:1,111cd:0,111ce:1,111d0:0,111e0:2,111e1:0,111f5:2,11200:0,11212:2,11213:0,1122c:1,",
    "11238:0,1123e:1,1123f:0,11241:1,11242:2,11280:0,11287:2,11288:0,11289:2,1128a:0,1128e:2,1128f:0,",
    "1129e:2,1129f:0,112aa:2,112b0:0,112df:1,112eb:2,112f0:0,112fa:2,11300:1,11304:2,11305:0,1130d:2,",
    "1130f:0,11311:2,11313:0,11329:2,1132a:0,11331:2,11332:0,11334:2,11335:0,1133a:2,1133b:1,1133d:0,",
    "1133e:1,11345:2,11347:1,11349:2,1134b:1,1134e:2,11350:0,11351:2,11357:1,11358:2,1135d:0,11362:1,",
    "11364:2,11366:1,1136d:2,11370:1,11375:2,11380:0,1138a:2,1138b:0,1138c:2,1138e:0,1138f:2,11390:0,",
    "113b6:2,113b7:0,113b8:1,113c1:2,113c2:1,113c3:2,113c5:1,113c6:2,113c7:1,113cb:2,113cc:1,113d1:0,",
    "113d2:1,113d3:0,113d6:2,113d7:0,113d9:2,113e1:1,113e3:2,11400:0,11435:1,11447:0,1145c:2,1145d:0,",
    "1145e:1,1145f:0,11462:2,11480:0,114b0:1,114c4:0,114c8:2,114d0:0,114da:2,11580:0,115af:1,115b6:2,",
    "115b8:1,115c1:0,115dc:1,115de:2,11600:0,11630:1,11641:0,11645:2,11650:0,1165a:2,11660:0,1166d:2,",
    "11680:0,116ab:1,116b8:0,116ba:2,116c0:0,116ca:2,116d0:0,116e4:2,11700:0,1171b:2,1171d:1,1172c:2,",
    "11730:0,11747:2,11800:0,1182c:1,1183b:0,1183c:2,118a0:0,118f3:2,118ff:0,11907:2,11909:0,1190a:2,",
    "1190c:0,11914:2,11915:0,11917:2,11918:0,11930:1,11936:2,11937:1,11939:2,1193b:1,1193f:0,11940:1,",
    "11941:0,11942:1,11944:0,11947:2,11950:0,1195a:2,119a0:0,119a8:2,119aa:0,119d1:1,119d8:2,119da:1,",
    "119e1:0,119e4:1,119e5:2,11a00:0,11a01:1,11a0b:0,11a33:1,11a3a:0,11a3b:1,11a3f:0,11a47:1,11a48:2,",
    "11a50:0,11a51:1,11a5c:0,11a8a:1,11a9a:0,11aa3:2,11ab0:0,11af9:2,11b00:0,11b0a:3,11b0b:2,11b60:1,",
    "11b68:2,11bc0:0,11be2:2,11bf0:0,11bfa:2,11c00:0,11c09:2,11c0a:0,11c2f:1,11c37:2,11c38:1,11c40:0,",
    "11c46:2,11c50:0,11c6d:2,11c70:0,11c90:2,11c92:1,11ca8:2,11ca9:1,11cb7:2,11d00:0,11d07:2,11d08:0,",
    "11d0a:2,11d0b:0,11d31:1,11d37:2,11d3a:1,11d3b:2,11d3c:1,11d3e:2,11d3f:1,11d46:0,11d47:1,11d48:2,",
    "11d50:0,11d5a:2,11d60:0,11d66:2,11d67:0,11d69:2,11d6a:0,11d8a:1,11d8f:2,11d90:1,11d92:2,11d93:1,",
    "11d98:0,11d99:2,11da0:0,11daa:2,11db0:0,11ddc:2,11de0:0,11dea:2,11df0:3,11df2:2,11ee0:0,11ef3:1,",
    "11ef7:0,11ef9:2,11f00:1,11f02:0,11f03:1,11f04:0,11f11:2,11f12:0,11f34:1,11f3b:2,11f3e:1,11f43:0,",
    "11f5a:1,11f5b:2,11fb0:0,11fb1:2,11fc0:0,11ff2:2,11fff:0,1239a:2,12400:0,1246f:3,12470:0,12475:3,",
    "12480:0,12544:2,12550:3,12687:2,12f90:0,12ff3:2,13000:0,13430:2,13440:1,13441:0,13447:1,13456:2,",
    "13460:0,143fb:2,14400:0,14647:2,16100:0,1611e:1,16130:0,1613a:2,16800:0,16a39:2,16a40:0,16a5f:2,",
    "16a60:0,16a6a:2,16a6e:0,16abf:2,16ac0:0,16aca:2,16ad0:0,16aee:2,16af0:1,16af5:0,16af6:2,16b00:0,",
    "16b30:1,16b37:0,16b46:2,16b50:0,16b5a:2,16b5b:0,16b62:2,16b63:0,16b78:2,16b7d:0,16b90:2,16d40:0,",
    "16d7a:2,16e40:0,16e9b:2,16ea0:0,16eb9:2,16ebb:0,16ed4:2,16f00:0,16f4b:2,16f4f:1,16f50:0,16f51:1,",
    "16f88:2,16f8f:1,16f93:0,16fa0:2,16fe0:0,16fe4:1,16fe5:2,16ff0:1,16ff2:0,16ff7:2,17000:0,18cd6:3,",
    "18cdb:2,18cff:0,18d1f:3,18d21:2,18d80:0,18df3:2,18e00:3,19192:2,191a0:3,191d3:2,1aff0:0,1aff4:2,",
    "1aff5:0,1affc:2,1affd:0,1afff:2,1b000:0,1b123:3,1b129:2,1b132:0,1b133:2,1b150:0,1b153:2,1b155:0,",
    "1b156:2,1b164:0,1b168:3,1b169:2,1b170:0,1b2fc:2,1bc00:0,1bc6b:2,1bc70:0,1bc7d:2,1bc80:0,1bc89:2,",
    "1bc90:0,1bc9a:2,1bc9c:0,1bc9d:1,1bc9f:0,1bca0:2,1cc00:0,1ccfd:2,1cd00:0,1ceb4:2,1ceba:0,1ced1:2,",
    "1ced2:3,1ced5:2,1cedd:3,1cee0:0,1cef1:3,1cefe:2,1cf00:1,1cf2e:2,1cf30:1,1cf47:2,1cf50:0,1cfc4:2,",
    "1d000:0,1d0f6:2,1d100:0,1d127:4,1d129:0,1d165:1,1d16a:0,1d16d:1,1d173:2,1d17b:1,1d183:0,1d185:1,",
    "1d18c:0,1d1aa:1,1d1ae:0,1d1eb:3,1d200:0,1d242:1,1d245:0,1d246:2,1d250:4,1d282:2,1d2c0:0,1d2d4:2,",
    "1d2e0:0,1d2f4:2,1d300:0,1d357:2,1d360:0,1d379:2,1d400:0,1d455:2,1d456:0,1d49d:2,1d49e:0,1d4a0:2,",
    "1d4a2:0,1d4a3:2,1d4a5:0,1d4a7:2,1d4a9:0,1d4ad:2,1d4ae:0,1d4ba:2,1d4bb:0,1d4bc:2,1d4bd:0,1d4c4:2,",
    "1d4c5:0,1d506:2,1d507:0,1d50b:2,1d50d:0,1d515:2,1d516:0,1d51d:2,1d51e:0,1d53a:2,1d53b:0,1d53f:2,",
    "1d540:0,1d545:2,1d546:0,1d547:2,1d54a:0,1d551:2,1d552:0,1d6a6:3,1d6a7:2,1d6a8:0,1d7cc:2,1d7ce:0,",
    "1da00:1,1da37:0,1da3b:1,1da6d:0,1da75:1,1da76:0,1da84:1,1da85:0,1da8c:2,1da9b:1,1daa0:2,1daa1:1,",
    "1dab0:2,1db00:3,1db1d:2,1df00:0,1df1f:3,1df25:0,1df2b:3,1df2c:2,1df40:3,1df4c:2,1df56:3,1df59:2,",
    "1df90:3,1df94:2,1dfcd:3,1dfcf:2,1dfe6:3,1dfe7:2,1dfff:3,1e000:1,1e007:2,1e008:1,1e019:2,1e01b:1,",
    "1e022:2,1e023:1,1e025:2,1e026:1,1e02b:2,1e030:0,1e06e:2,1e08f:1,1e090:2,1e100:0,1e12d:2,1e130:1,",
    "1e137:0,1e13e:2,1e140:0,1e14a:2,1e14e:0,1e150:2,1e290:0,1e2ae:1,1e2af:2,1e2c0:0,1e2ec:1,1e2f0:0,",
    "1e2fa:2,1e2ff:0,1e300:2,1e4d0:0,1e4ec:1,1e4f0:0,1e4fa:2,1e5d0:0,1e5ee:1,1e5f0:0,1e5fb:2,1e5ff:0,",
    "1e600:2,1e6c0:0,1e6df:2,1e6e0:0,1e6e3:1,1e6e4:0,1e6e6:1,1e6e7:0,1e6ee:1,1e6f0:0,1e6f5:1,1e6f6:2,",
    "1e6fe:0,1e700:2,1e7e0:0,1e7e7:2,1e7e8:0,1e7ec:2,1e7ed:0,1e7ef:2,1e7f0:0,1e7ff:2,1e800:0,1e8c5:2,",
    "1e8c7:0,1e8d0:1,1e8d7:2,1e900:0,1e944:1,1e94b:0,1e94c:2,1e950:0,1e95a:2,1e95e:0,1e960:2,1ec71:0,",
    "1ecb5:2,1ed01:0,1ed3e:2,1ee00:0,1ee04:2,1ee05:0,1ee20:2,1ee21:0,1ee23:2,1ee24:0,1ee25:2,1ee27:0,",
    "1ee28:2,1ee29:0,1ee33:2,1ee34:0,1ee38:2,1ee39:0,1ee3a:2,1ee3b:0,1ee3c:2,1ee42:0,1ee43:2,1ee47:0,",
    "1ee48:2,1ee49:0,1ee4a:2,1ee4b:0,1ee4c:2,1ee4d:0,1ee50:2,1ee51:0,1ee53:2,1ee54:0,1ee55:2,1ee57:0,",
    "1ee58:2,1ee59:0,1ee5a:2,1ee5b:0,1ee5c:2,1ee5d:0,1ee5e:2,1ee5f:0,1ee60:2,1ee61:0,1ee63:2,1ee64:0,",
    "1ee65:2,1ee67:0,1ee6b:2,1ee6c:0,1ee73:2,1ee74:0,1ee78:2,1ee79:0,1ee7d:2,1ee7e:0,1ee7f:2,1ee80:0,",
    "1ee8a:2,1ee8b:0,1ee9c:2,1eea1:0,1eea4:2,1eea5:0,1eeaa:2,1eeab:0,1eebc:2,1eef0:0,1eef2:2,1f000:0,",
    "1f02c:2,1f030:0,1f094:2,1f0a0:0,1f0af:2,1f0b1:0,1f0c0:2,1f0c1:0,1f0d0:2,1f0d1:0,1f0f6:2,1f100:0,",
    "1f1ae:3,1f1af:2,1f1e6:0,1f203:2,1f210:0,1f23c:2,1f240:0,1f249:2,1f250:0,1f252:2,1f260:0,1f266:2,",
    "1f300:0,1f6d9:3,1f6da:2,1f6dc:0,1f6ed:2,1f6f0:0,1f6fd:2,1f700:0,1f7da:3,1f7dc:2,1f7e0:0,1f7ec:2,",
    "1f7f0:0,1f7f1:3,1f800:0,1f80c:2,1f810:0,1f848:2,1f850:0,1f85a:2,1f860:0,1f888:2,1f890:0,1f8ae:2,",
    "1f8b0:0,1f8bc:2,1f8c0:0,1f8c2:2,1f8d0:0,1f8d9:2,1f900:0,1fa58:2,1fa60:0,1fa6e:2,1fa70:0,1fa7d:2,",
    "1fa80:0,1fa8b:3,1fa8e:0,1fac7:2,1fac8:0,1fac9:2,1facc:3,1facd:0,1fadd:3,1fade:2,1fadf:0,1faeb:3,",
    "1faec:2,1faef:0,1faf9:3,1fafb:2,1fb00:0,1fb93:2,1fb94:0,1fbfb:2,20000:0,2a6e0:2,2a700:0,2b81e:3,",
    "2b81f:2,2b820:0,2ceae:2,2ceb0:0,2ebe1:2,2ebf0:0,2ee5e:2,2f800:0,2fa1e:2,30000:0,3134b:2,31350:0,",
    "3347a:2,3d000:3,3fc40:2,e0100:1,e01f0:2,"]

/-- the category classes, read -/
def categoryTable : RangeTable := RangeTable.ofText categoryText

/-- the category class of a character, by the later version -/
def categoryClass (c : Char) : CategoryClass :=
  match categoryTable.lookup c.toNat with
  | 1 | 4 => .mark
  | 2 => .invisible
  | _ => .other

/-- whether a character was added after Unicode 17.0 -/
def isAddedLater (c : Char) : Bool := categoryTable.lookup c.toNat ≥ 3

/-- whether a character is a mark -/
def isMark (c : Char) : Bool := categoryClass c == .mark

/-- whether a character shows as itself by Unicode 17.0: it is assigned there and is no
separator, control, format character, surrogate, private-use code point or default-ignorable
letter, or it is the space -/
def isPrintable (c : Char) : Bool := categoryClass c != .invisible && !isAddedLater c

end BuildRecipe.Unicode
