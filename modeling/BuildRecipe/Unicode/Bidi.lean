/-
The bidirectional class of each character (Unicode 17.0, with part of Unicode 18.0: some of its
new characters, and the Balinese vowel signs ra repa, la lenga and pepet as left-to-right;
unassigned code points take the default of their block). The rule for right-to-left domain names
reads it.
-/
import BuildRecipe.Unicode.RangeTable

namespace BuildRecipe.Unicode

/-- the bidirectional classes -/
inductive BidiClass where
  | leftToRight
  | rightToLeft
  | arabicLetter
  | europeanNumber
  | europeanSeparator
  | europeanTerminator
  | arabicNumber
  | commonSeparator
  | nonspacingMark
  | boundaryNeutral
  | paragraphSeparator
  | segmentSeparator
  | whiteSpace
  | otherNeutral
  | leftToRightEmbedding
  | leftToRightOverride
  | rightToLeftEmbedding
  | rightToLeftOverride
  | popDirectionalFormat
  | leftToRightIsolate
  | rightToLeftIsolate
  | firstStrongIsolate
  | popDirectionalIsolate
deriving DecidableEq, Repr, Inhabited

/-- the classes in the order the table numbers them -/
def bidiClasses : List BidiClass :=
  [.leftToRight, .rightToLeft, .arabicLetter, .europeanNumber, .europeanSeparator,
   .europeanTerminator, .arabicNumber, .commonSeparator, .nonspacingMark, .boundaryNeutral,
   .paragraphSeparator, .segmentSeparator, .whiteSpace, .otherNeutral, .leftToRightEmbedding,
   .leftToRightOverride, .rightToLeftEmbedding, .rightToLeftOverride, .popDirectionalFormat,
   .leftToRightIsolate, .rightToLeftIsolate, .firstStrongIsolate, .popDirectionalIsolate]

/-- the class of each range of code points, numbered as in `bidiClasses` -/
def bidiText : String :=
  String.join [
    "0:9,9:11,a:10,b:11,c:12,d:10,e:9,1c:10,1f:11,20:12,21:13,23:5,26:13,2b:4,2c:7,2d:4,2e:7,30:3,",
    "3a:7,3b:13,41:0,5b:13,61:0,7b:13,7f:9,85:10,86:9,a0:7,a1:13,a2:5,a6:13,aa:0,ab:13,ad:9,ae:13,",
    "b0:5,b2:3,b4:13,b5:0,b6:13,b9:3,ba:0,bb:13,c0:0,d7:13,d8:0,f7:13,f8:0,2b9:13,2bb:0,2c2:13,2d0:0,",
    "2d2:13,2e0:0,2e5:13,2ee:0,2ef:13,300:8,370:0,374:13,376:0,37e:13,37f:0,384:13,386:0,387:13,",
    "388:0,3f6:13,3f7:0,483:8,48a:0,58a:13,58b:0,58d:13,58f:5,590:1,591:8,5be:1,5bf:8,5c0:1,5c1:8,",
    "5c3:1,5c4:8,5c6:1,5c7:8,5ca:1,600:6,606:13,608:2,609:5,60b:2,60c:7,60d:2,60e:13,610:8,61b:2,",
    "64b:8,660:6,66a:5,66b:6,66d:2,670:8,671:2,6d6:8,6dd:6,6de:13,6df:8,6e5:2,6e7:8,6e9:13,6ea:8,",
    "6ee:2,6f0:3,6fa:2,711:8,712:2,730:8,74b:2,7a6:8,7b1:2,7c0:1,7eb:8,7f4:1,7f6:13,7fa:1,7fd:8,",
    "7fe:1,816:8,81a:1,81b:8,824:1,825:8,828:1,829:8,82e:1,859:8,85c:1,860:2,890:6,892:2,897:8,8a0:2,",
    "8ca:8,8e2:6,8e3:8,903:0,93a:8,93b:0,93c:8,93d:0,941:8,949:0,94d:8,94e:0,951:8,958:0,962:8,964:0,",
    "981:8,982:0,9bc:8,9bd:0,9c1:8,9c5:0,9cd:8,9ce:0,9e2:8,9e4:0,9f2:5,9f4:0,9fb:5,9fc:0,9fe:8,9ff:0,",
    "a01:8,a03:0,a3c:8,a3d:0,a41:8,a43:0,a47:8,a49:0,a4b:8,a4e:0,a51:8,a52:0,a70:8,a72:0,a75:8,a76:0,",
    "a81:8,a83:0,abc:8,abd:0,ac1:8,ac6:0,ac7:8,ac9:0,acd:8,ace:0,ae2:8,ae4:0,af1:5,af2:0,afa:8,b00:0,",
    "b01:8,b02:0,b3c:8,b3d:0,b3f:8,b40:0,b41:8,b45:0,b4d:8,b4e:0,b53:8,b57:0,b62:8,b64:0,b82:8,b83:0,",
    "bc0:8,bc1:0,bcd:8,bce:0,bf3:13,bf9:5,bfa:13,bfb:0,c00:8,c01:0,c04:8,c05:0,c3c:8,c3d:0,c3e:8,",
    "c41:0,c46:8,c49:0,c4a:8,c4e:0,c55:8,c57:0,c62:8,c64:0,c78:13,c7f:0,c81:8,c82:0,cbc:8,cbd:0,",
    "ccc:8,cce:0,ce2:8,ce4:0,d00:8,d02:0,d3b:8,d3d:0,d41:8,d45:0,d4d:8,d4e:0,d62:8,d64:0,d81:8,d82:0,",
    "dca:8,dcb:0,dd2:8,dd5:0,dd6:8,dd7:0,e31:8,e32:0,e34:8,e3b:0,e3f:5,e40:0,e47:8,e4f:0,eb1:8,eb2:0,",
    "eb4:8,ebd:0,ec8:8,ecf:0,f18:8,f1a:0,f35:8,f36:0,f37:8,f38:0,f39:8,f3a:13,f3e:0,f71:8,f7f:0,",
    "f80:8,f85:0,f86:8,f88:0,f8d:8,f98:0,f99:8,fbd:0,fc6:8,fc7:0,102d:8,1031:0,1032:8,1038:0,1039:8,",
    "103b:0,103d:8,103f:0,1058:8,105a:0,105e:8,1061:0,1071:8,1075:0,1082:8,1083:0,1085:8,1087:0,",
    "108d:8,108e:0,109d:8,109e:0,135d:8,1360:0,1390:13,139a:0,1400:13,1401:0,1680:12,1681:0,169b:13,",
    "169d:0,1712:8,1715:0,1732:8,1734:0,1752:8,1754:0,1772:8,1774:0,17b4:8,17b6:0,17b7:8,17be:0,",
    "17c6:8,17c7:0,17c9:8,17d4:0,17db:5,17dc:0,17dd:8,17de:0,17f0:13,17fa:0,1800:13,180b:8,180e:9,",
    "180f:8,1810:0,1885:8,1887:0,18a9:8,18aa:0,1920:8,1923:0,1927:8,1929:0,1932:8,1933:0,1939:8,",
    "193c:0,1940:13,1941:0,1944:13,1946:0,19de:13,1a00:0,1a17:8,1a19:0,1a1b:8,1a1c:0,1a56:8,1a57:0,",
    "1a58:8,1a5f:0,1a60:8,1a61:0,1a62:8,1a63:0,1a65:8,1a6d:0,1a73:8,1a7d:0,1a7f:8,1a80:0,1ab0:8,",
    "1ade:0,1adf:8,1af1:0,1b00:8,1b04:0,1b34:8,1b35:0,1b36:8,1b3a:0,1b6b:8,1b74:0,1b80:8,1b82:0,",
    "1ba2:8,1ba6:0,1ba8:8,1baa:0,1bab:8,1bae:0,1be6:8,1be7:0,1be8:8,1bea:0,1bed:8,1bee:0,1bef:8,",
    "1bf2:0,1c2c:8,1c34:0,1c36:8,1c38:0,1cd0:8,1cd3:0,1cd4:8,1ce1:0,1ce2:8,1ce9:0,1ced:8,1cee:0,",
    "1cf4:8,1cf5:0,1cf8:8,1cfa:0,1dc0:8,1e00:0,1fbd:13,1fbe:0,1fbf:13,1fc2:0,1fcd:13,1fd0:0,1fdd:13,",
    "1fe0:0,1fed:13,1ff0:0,1ffd:13,1fff:0,2000:12,200b:9,200e:0,200f:1,2010:13,2028:12,2029:10,",
    "202a:14,202b:16,202c:18,202d:15,202e:17,202f:7,2030:5,2035:13,2044:7,2045:13,205f:12,2060:9,",
    "2066:19,2067:20,2068:21,2069:22,206a:9,2070:3,2071:0,2074:3,207a:4,207c:13,207f:0,2080:3,208a:4,",
    "208c:13,2090:0,20a0:5,20d0:8,20f1:0,2100:13,2102:0,2103:13,2107:0,2108:13,210a:0,2114:13,2115:0,",
    "2116:13,2119:0,211e:13,2124:0,2125:13,2126:0,2127:13,2128:0,2129:13,212a:0,212e:5,212f:0,",
    "213a:13,213c:0,2140:13,2145:0,214a:13,214e:0,2150:13,2160:0,2189:13,218c:0,2190:13,2212:4,",
    "2213:5,2214:13,2336:0,237b:13,2395:0,2396:13,242a:0,2440:13,244b:0,2460:13,2488:3,249c:0,",
    "24ea:13,26ac:0,26ad:13,2800:0,2900:13,2b74:0,2b76:13,2c00:0,2ce5:13,2ceb:0,2cef:8,2cf2:0,",
    "2cf9:13,2d00:0,2d7f:8,2d80:0,2de0:8,2e00:13,2e5e:0,2e60:13,2e64:0,2e80:13,2e9a:0,2e9b:13,2ef4:0,",
    "2f00:13,2fd6:0,2ff0:13,3000:12,3001:13,3005:0,3008:13,3021:0,302a:8,302e:0,3030:13,3031:0,",
    "3036:13,3038:0,303d:13,3040:0,3099:8,309b:13,309d:0,30a0:13,30a1:0,30fb:13,30fc:0,31c0:13,",
    "31e6:0,31ef:13,31f0:0,321d:13,321f:0,3250:13,3260:0,327c:13,327f:0,32b1:13,32c0:0,32cc:13,",
    "32d0:0,3377:13,337b:0,33de:13,33e0:0,33ff:13,3400:0,4dc0:13,4e00:0,a490:13,a4c7:0,a60d:13,",
    "a610:0,a66f:8,a673:13,a674:8,a67e:13,a680:0,a69e:8,a6a0:0,a6f0:8,a6f2:0,a700:13,a722:0,a788:13,",
    "a789:0,a802:8,a803:0,a806:8,a807:0,a80b:8,a80c:0,a825:8,a827:0,a828:13,a82c:8,a82d:0,a838:5,",
    "a83a:0,a874:13,a878:0,a8c4:8,a8c6:0,a8e0:8,a8f2:0,a8ff:8,a900:0,a926:8,a92e:0,a947:8,a952:0,",
    "a980:8,a983:0,a9b3:8,a9b4:0,a9b6:8,a9ba:0,a9bc:8,a9be:0,a9e5:8,a9e6:0,aa29:8,aa2f:0,aa31:8,",
    "aa33:0,aa35:8,aa37:0,aa43:8,aa44:0,aa4c:8,aa4d:0,aa7c:8,aa7d:0,aab0:8,aab1:0,aab2:8,aab5:0,",
    "aab7:8,aab9:0,aabe:8,aac0:0,aac1:8,aac2:0,aaec:8,aaee:0,aaf6:8,aaf7:0,ab6a:13,ab6c:0,abe5:8,",
    "abe6:0,abe8:8,abe9:0,abed:8,abee:0,fb1d:1,fb1e:8,fb1f:1,fb29:4,fb2a:1,fb50:2,fbc3:13,fbd3:2,",
    "fd3e:13,fd50:2,fd90:13,fd92:2,fdc8:13,fdd0:9,fdf0:2,fdfd:13,fe00:8,fe10:13,fe1a:0,fe20:8,",
    "fe30:13,fe50:7,fe51:13,fe52:7,fe53:0,fe54:13,fe55:7,fe56:13,fe5f:5,fe60:13,fe62:4,fe64:13,",
    "fe67:0,fe68:13,fe69:5,fe6b:13,fe6c:0,fe70:2,feff:9,ff00:0,ff01:13,ff03:5,ff06:13,ff0b:4,ff0c:7,",
    "ff0d:4,ff0e:7,ff10:3,ff1a:7,ff1b:13,ff21:0,ff3b:13,ff41:0,ff5b:13,ff66:0,ffe0:5,ffe2:13,ffe5:5,",
    "ffe7:0,ffe8:13,ffef:0,fff0:9,fff9:13,fffe:9,10000:0,10101:13,10102:0,10140:13,1018d:0,10190:13,",
    "1019d:0,101a0:13,101a1:0,101fd:8,101fe:0,102e0:8,102e1:3,102fc:0,10376:8,1037b:0,10800:1,",
    "1091f:13,10920:1,10a01:8,10a04:1,10a05:8,10a07:1,10a0c:8,10a10:1,10a38:8,10a3b:1,10a3f:8,",
    "10a40:1,10ae5:8,10ae7:1,10b39:13,10b40:1,10d00:2,10d24:8,10d28:2,10d30:6,10d3a:2,10d40:6,",
    "10d4a:1,10d69:8,10d6e:13,10d6f:1,10e60:6,10e7f:1,10eab:8,10ead:1,10ec0:2,10ec9:13,10ecc:8,",
    "10ecd:13,10ecf:8,10ed0:13,10ed9:2,10ef0:8,10f00:1,10f30:2,10f46:8,10f51:2,10f70:1,10f82:8,",
    "10f86:1,11000:0,11001:8,11002:0,11038:8,11047:0,11052:13,11066:0,11070:8,11071:0,11073:8,",
    "11075:0,1107f:8,11082:0,110b3:8,110b7:0,110b9:8,110bb:0,110c2:8,110c3:0,11100:8,11103:0,11127:8,",
    "1112c:0,1112d:8,11135:0,11173:8,11174:0,11180:8,11182:0,111b6:8,111bf:0,111c9:8,111cd:0,111cf:8,",
    "111d0:0,1122f:8,11232:0,11234:8,11235:0,11236:8,11238:0,1123e:8,1123f:0,11241:8,11242:0,112df:8,",
    "112e0:0,112e3:8,112eb:0,11300:8,11302:0,1133b:8,1133d:0,11340:8,11341:0,11366:8,1136d:0,11370:8,",
    "11375:0,113bb:8,113c1:0,113ce:8,113cf:0,113d0:8,113d1:0,113d2:8,113d3:0,113e1:8,113e3:0,11438:8,",
    "11440:0,11442:8,11445:0,11446:8,11447:0,1145e:8,1145f:0,114b3:8,114b9:0,114ba:8,114bb:0,114bf:8,",
    "114c1:0,114c2:8,114c4:0,115b2:8,115b6:0,115bc:8,115be:0,115bf:8,115c1:0,115dc:8,115de:0,11633:8,",
    "1163b:0,1163d:8,1163e:0,1163f:8,11641:0,11660:13,1166d:0,116ab:8,116ac:0,116ad:8,116ae:0,",
    "116b0:8,116b6:0,116b7:8,116b8:0,1171d:8,1171e:0,1171f:8,11720:0,11722:8,11726:0,11727:8,1172c:0,",
    "1182f:8,11838:0,11839:8,1183b:0,1193b:8,1193d:0,1193e:8,1193f:0,11943:8,11944:0,119d4:8,119d8:0,",
    "119da:8,119dc:0,119e0:8,119e1:0,11a01:8,11a07:0,11a09:8,11a0b:0,11a33:8,11a39:0,11a3b:8,11a3f:0,",
    "11a47:8,11a48:0,11a51:8,11a57:0,11a59:8,11a5c:0,11a8a:8,11a97:0,11a98:8,11a9a:0,11b60:8,11b61:0,",
    "11b62:8,11b65:0,11b66:8,11b67:0,11c30:8,11c37:0,11c38:8,11c3e:0,11c92:8,11ca8:0,11caa:8,11cb1:0,",
    "11cb2:8,11cb4:0,11cb5:8,11cb7:0,11d31:8,11d37:0,11d3a:8,11d3b:0,11d3c:8,11d3e:0,11d3f:8,11d46:0,",
    "11d47:8,11d48:0,11d90:8,11d92:0,11d95:8,11d96:0,11d97:8,11d98:0,11ef3:8,11ef5:0,11f00:8,11f02:0,",
    "11f36:8,11f3b:0,11f40:8,11f41:0,11f42:8,11f43:0,11f5a:8,11f5b:0,11fd5:13,11fdd:5,11fe1:13,",
    "11ff2:0,13440:8,13441:0,13447:8,13456:0,1611e:8,1612a:0,1612d:8,16130:0,16af0:8,16af5:0,16b30:8,",
    "16b37:0,16f4f:8,16f50:0,16f8f:8,16f93:0,16fe2:13,16fe3:0,16fe4:8,16fe5:0,1bc9d:8,1bc9f:0,",
    "1bca0:9,1bca4:0,1cc00:13,1ccd6:0,1ccf0:3,1ccfa:13,1ccfd:0,1cd00:13,1ceb4:0,1ceba:13,1ced1:0,",
    "1ced2:13,1ced5:0,1cedd:13,1cefe:0,1cf00:8,1cf2e:0,1cf30:8,1cf47:0,1d127:8,1d129:0,1d167:8,",
    "1d16a:0,1d173:9,1d17b:8,1d183:0,1d185:8,1d18c:0,1d1aa:8,1d1ae:0,1d1e9:13,1d1eb:0,1d200:13,",
    "1d242:8,1d245:13,1d246:0,1d25b:8,1d25c:0,1d300:13,1d357:0,1d6c1:13,1d6c2:0,1d6db:13,1d6dc:0,",
    "1d6fb:13,1d6fc:0,1d715:13,1d716:0,1d735:13,1d736:0,1d74f:13,1d750:0,1d76f:13,1d770:0,1d789:13,",
    "1d78a:0,1d7a9:13,1d7aa:0,1d7c3:13,1d7c4:0,1d7ce:3,1d800:0,1da00:8,1da37:0,1da3b:8,1da6d:0,",
    "1da75:8,1da76:0,1da84:8,1da85:0,1da9b:8,1daa0:0,1daa1:8,1dab0:0,1e000:8,1e007:0,1e008:8,1e019:0,",
    "1e01b:8,1e022:0,1e023:8,1e025:0,1e026:8,1e02b:0,1e08f:8,1e090:0,1e130:8,1e137:0,1e2ae:8,1e2af:0,",
    "1e2ec:8,1e2f0:0,1e2ff:5,1e300:0,1e4ec:8,1e4f0:0,1e5ee:8,1e5f0:0,1e6e3:8,1e6e4:0,1e6e6:8,1e6e7:0,",
    "1e6ee:8,1e6f0:0,1e6f5:8,1e6f6:0,1e800:1,1e8d0:8,1e8d7:1,1e944:8,1e94b:1,1ec70:2,1ecc0:1,1ed00:2,",
    "1ed50:1,1ee00:2,1eef0:13,1eef2:2,1ef00:1,1f000:13,1f02c:0,1f030:13,1f094:0,1f0a0:13,1f0af:0,",
    "1f0b1:13,1f0c0:0,1f0c1:13,1f0d0:0,1f0d1:13,1f0f6:0,1f100:3,1f10b:13,1f110:0,1f12f:13,1f130:0,",
    "1f16a:13,1f170:0,1f1ad:13,1f1af:0,1f260:13,1f266:0,1f300:13,1f6da:0,1f6dc:13,1f6ed:0,1f6f0:13,",
    "1f6fd:0,1f700:13,1f7da:0,1f7e0:13,1f7ec:0,1f7f0:13,1f80c:0,1f810:13,1f848:0,1f850:13,1f85a:0,",
    "1f860:13,1f888:0,1f890:13,1f8ae:0,1f8b0:13,1f8bc:0,1f8c0:13,1f8c2:0,1f8d0:13,1f8d9:0,1f900:13,",
    "1fa58:0,1fa60:13,1fa6e:0,1fa70:13,1fa7d:0,1fa80:13,1fac7:0,1fac8:13,1fac9:0,1facc:13,1fade:0,",
    "1fadf:13,1faec:0,1faef:13,1fafb:0,1fb00:13,1fb93:0,1fb94:13,1fbf0:3,1fbfa:13,1fbfb:0,1fffe:9,",
    "20000:0,2fffe:9,30000:0,3fffe:9,40000:0,4fffe:9,50000:0,5fffe:9,60000:0,6fffe:9,70000:0,7fffe:9,",
    "80000:0,8fffe:9,90000:0,9fffe:9,a0000:0,afffe:9,b0000:0,bfffe:9,c0000:0,cfffe:9,d0000:0,dfffe:9,",
    "e0100:8,e01f0:9,e1000:0,efffe:9,f0000:0,ffffe:9,100000:0,10fffe:9,"]

/-- the classes, read -/
def bidiTable : RangeTable := RangeTable.ofText bidiText

/-- the bidirectional class of a character -/
def bidiClass (c : Char) : BidiClass := bidiClasses.getD (bidiTable.lookup c.toNat) .leftToRight

end BuildRecipe.Unicode
