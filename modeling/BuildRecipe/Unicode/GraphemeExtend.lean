/-
The marks and format characters that have the `Grapheme_Extend` property (Unicode 17.0): they
extend the grapheme cluster before them. These are the nonspacing and enclosing marks, some
spacing marks, the zero width non-joiner and the tag characters; the two halfwidth katakana sound
marks, modifier letters, are not among them. A message writes such a character as an escape,
since it would join the quote before it.
-/
import BuildRecipe.Unicode.RangeTable

namespace BuildRecipe.Unicode

/-- the ranges of code points with the property (1) and without it (0) -/
def graphemeExtendText : String :=
  String.join [
    "0:0,300:1,370:0,483:1,48a:0,591:1,5be:0,5bf:1,5c0:0,5c1:1,5c3:0,5c4:1,5c6:0,5c7:1,5c8:0,610:1,",
    "61b:0,64b:1,660:0,670:1,671:0,6d6:1,6dd:0,6df:1,6e5:0,6e7:1,6e9:0,6ea:1,6ee:0,711:1,712:0,730:1,",
    "74b:0,7a6:1,7b1:0,7eb:1,7f4:0,7fd:1,7fe:0,816:1,81a:0,81b:1,824:0,825:1,828:0,829:1,82e:0,859:1,",
    "85c:0,897:1,8a0:0,8ca:1,8e2:0,8e3:1,903:0,93a:1,93b:0,93c:1,93d:0,941:1,949:0,94d:1,94e:0,951:1,",
    "958:0,962:1,964:0,981:1,982:0,9bc:1,9bd:0,9be:1,9bf:0,9c1:1,9c5:0,9cd:1,9ce:0,9d7:1,9d8:0,9e2:1,",
    "9e4:0,9fe:1,9ff:0,a01:1,a03:0,a3c:1,a3d:0,a41:1,a43:0,a47:1,a49:0,a4b:1,a4e:0,a51:1,a52:0,a70:1,",
    "a72:0,a75:1,a76:0,a81:1,a83:0,abc:1,abd:0,ac1:1,ac6:0,ac7:1,ac9:0,acd:1,ace:0,ae2:1,ae4:0,afa:1,",
    "b00:0,b01:1,b02:0,b3c:1,b3d:0,b3e:1,b40:0,b41:1,b45:0,b4d:1,b4e:0,b55:1,b58:0,b62:1,b64:0,b82:1,",
    "b83:0,bbe:1,bbf:0,bc0:1,bc1:0,bcd:1,bce:0,bd7:1,bd8:0,c00:1,c01:0,c04:1,c05:0,c3c:1,c3d:0,c3e:1,",
    "c41:0,c46:1,c49:0,c4a:1,c4e:0,c55:1,c57:0,c62:1,c64:0,c81:1,c82:0,cbc:1,cbd:0,cbf:1,cc1:0,cc2:1,",
    "cc3:0,cc6:1,cc9:0,cca:1,cce:0,cd5:1,cd7:0,ce2:1,ce4:0,d00:1,d02:0,d3b:1,d3d:0,d3e:1,d3f:0,d41:1,",
    "d45:0,d4d:1,d4e:0,d57:1,d58:0,d62:1,d64:0,d81:1,d82:0,dca:1,dcb:0,dcf:1,dd0:0,dd2:1,dd5:0,dd6:1,",
    "dd7:0,ddf:1,de0:0,e31:1,e32:0,e34:1,e3b:0,e47:1,e4f:0,eb1:1,eb2:0,eb4:1,ebd:0,ec8:1,ecf:0,f18:1,",
    "f1a:0,f35:1,f36:0,f37:1,f38:0,f39:1,f3a:0,f71:1,f7f:0,f80:1,f85:0,f86:1,f88:0,f8d:1,f98:0,f99:1,",
    "fbd:0,fc6:1,fc7:0,102d:1,1031:0,1032:1,1038:0,1039:1,103b:0,103d:1,103f:0,1058:1,105a:0,105e:1,",
    "1061:0,1071:1,1075:0,1082:1,1083:0,1085:1,1087:0,108d:1,108e:0,109d:1,109e:0,135d:1,1360:0,",
    "1712:1,1716:0,1732:1,1735:0,1752:1,1754:0,1772:1,1774:0,17b4:1,17b6:0,17b7:1,17be:0,17c6:1,",
    "17c7:0,17c9:1,17d4:0,17dd:1,17de:0,180b:1,180e:0,180f:1,1810:0,1885:1,1887:0,18a9:1,18aa:0,",
    "1920:1,1923:0,1927:1,1929:0,1932:1,1933:0,1939:1,193c:0,1a17:1,1a19:0,1a1b:1,1a1c:0,1a56:1,",
    "1a57:0,1a58:1,1a5f:0,1a60:1,1a61:0,1a62:1,1a63:0,1a65:1,1a6d:0,1a73:1,1a7d:0,1a7f:1,1a80:0,",
    "1ab0:1,1ade:0,1ae0:1,1aec:0,1b00:1,1b04:0,1b34:1,1b3e:0,1b42:1,1b45:0,1b6b:1,1b74:0,1b80:1,",
    "1b82:0,1ba2:1,1ba6:0,1ba8:1,1bae:0,1be6:1,1be7:0,1be8:1,1bea:0,1bed:1,1bee:0,1bef:1,1bf4:0,",
    "1c2c:1,1c34:0,1c36:1,1c38:0,1cd0:1,1cd3:0,1cd4:1,1ce1:0,1ce2:1,1ce9:0,1ced:1,1cee:0,1cf4:1,",
    "1cf5:0,1cf8:1,1cfa:0,1dc0:1,1e00:0,200c:1,200d:0,20d0:1,20f1:0,2cef:1,2cf2:0,2d7f:1,2d80:0,",
    "2de0:1,2e00:0,302a:1,3030:0,3099:1,309b:0,a66f:1,a673:0,a674:1,a67e:0,a69e:1,a6a0:0,a6f0:1,",
    "a6f2:0,a802:1,a803:0,a806:1,a807:0,a80b:1,a80c:0,a825:1,a827:0,a82c:1,a82d:0,a8c4:1,a8c6:0,",
    "a8e0:1,a8f2:0,a8ff:1,a900:0,a926:1,a92e:0,a947:1,a952:0,a953:1,a954:0,a980:1,a983:0,a9b3:1,",
    "a9b4:0,a9b6:1,a9ba:0,a9bc:1,a9be:0,a9c0:1,a9c1:0,a9e5:1,a9e6:0,aa29:1,aa2f:0,aa31:1,aa33:0,",
    "aa35:1,aa37:0,aa43:1,aa44:0,aa4c:1,aa4d:0,aa7c:1,aa7d:0,aab0:1,aab1:0,aab2:1,aab5:0,aab7:1,",
    "aab9:0,aabe:1,aac0:0,aac1:1,aac2:0,aaec:1,aaee:0,aaf6:1,aaf7:0,abe5:1,abe6:0,abe8:1,abe9:0,",
    "abed:1,abee:0,fb1e:1,fb1f:0,fe00:1,fe10:0,fe20:1,fe30:0,101fd:1,101fe:0,102e0:1,102e1:0,10376:1,",
    "1037b:0,10a01:1,10a04:0,10a05:1,10a07:0,10a0c:1,10a10:0,10a38:1,10a3b:0,10a3f:1,10a40:0,10ae5:1,",
    "10ae7:0,10d24:1,10d28:0,10d69:1,10d6e:0,10eab:1,10ead:0,10efa:1,10f00:0,10f46:1,10f51:0,10f82:1,",
    "10f86:0,11001:1,11002:0,11038:1,11047:0,11070:1,11071:0,11073:1,11075:0,1107f:1,11082:0,110b3:1,",
    "110b7:0,110b9:1,110bb:0,110c2:1,110c3:0,11100:1,11103:0,11127:1,1112c:0,1112d:1,11135:0,11173:1,",
    "11174:0,11180:1,11182:0,111b6:1,111bf:0,111c0:1,111c1:0,111c9:1,111cd:0,111cf:1,111d0:0,1122f:1,",
    "11232:0,11234:1,11238:0,1123e:1,1123f:0,11241:1,11242:0,112df:1,112e0:0,112e3:1,112eb:0,11300:1,",
    "11302:0,1133b:1,1133d:0,1133e:1,1133f:0,11340:1,11341:0,1134d:1,1134e:0,11357:1,11358:0,11366:1,",
    "1136d:0,11370:1,11375:0,113b8:1,113b9:0,113bb:1,113c1:0,113c2:1,113c3:0,113c5:1,113c6:0,113c7:1,",
    "113ca:0,113ce:1,113d1:0,113d2:1,113d3:0,113e1:1,113e3:0,11438:1,11440:0,11442:1,11445:0,11446:1,",
    "11447:0,1145e:1,1145f:0,114b0:1,114b1:0,114b3:1,114b9:0,114ba:1,114bb:0,114bd:1,114be:0,114bf:1,",
    "114c1:0,114c2:1,114c4:0,115af:1,115b0:0,115b2:1,115b6:0,115bc:1,115be:0,115bf:1,115c1:0,115dc:1,",
    "115de:0,11633:1,1163b:0,1163d:1,1163e:0,1163f:1,11641:0,116ab:1,116ac:0,116ad:1,116ae:0,116b0:1,",
    "116b8:0,1171d:1,1171e:0,1171f:1,11720:0,11722:1,11726:0,11727:1,1172c:0,1182f:1,11838:0,11839:1,",
    "1183b:0,11930:1,11931:0,1193b:1,1193f:0,11943:1,11944:0,119d4:1,119d8:0,119da:1,119dc:0,119e0:1,",
    "119e1:0,11a01:1,11a0b:0,11a33:1,11a39:0,11a3b:1,11a3f:0,11a47:1,11a48:0,11a51:1,11a57:0,11a59:1,",
    "11a5c:0,11a8a:1,11a97:0,11a98:1,11a9a:0,11b60:1,11b61:0,11b62:1,11b65:0,11b66:1,11b67:0,11c30:1,",
    "11c37:0,11c38:1,11c3e:0,11c3f:1,11c40:0,11c92:1,11ca8:0,11caa:1,11cb1:0,11cb2:1,11cb4:0,11cb5:1,",
    "11cb7:0,11d31:1,11d37:0,11d3a:1,11d3b:0,11d3c:1,11d3e:0,11d3f:1,11d46:0,11d47:1,11d48:0,11d90:1,",
    "11d92:0,11d95:1,11d96:0,11d97:1,11d98:0,11ef3:1,11ef5:0,11f00:1,11f02:0,11f36:1,11f3b:0,11f40:1,",
    "11f43:0,11f5a:1,11f5b:0,13440:1,13441:0,13447:1,13456:0,1611e:1,1612a:0,1612d:1,16130:0,16af0:1,",
    "16af5:0,16b30:1,16b37:0,16f4f:1,16f50:0,16f8f:1,16f93:0,16fe4:1,16fe5:0,16ff0:1,16ff2:0,1bc9d:1,",
    "1bc9f:0,1cf00:1,1cf2e:0,1cf30:1,1cf47:0,1d165:1,1d16a:0,1d16d:1,1d173:0,1d17b:1,1d183:0,1d185:1,",
    "1d18c:0,1d1aa:1,1d1ae:0,1d242:1,1d245:0,1da00:1,1da37:0,1da3b:1,1da6d:0,1da75:1,1da76:0,1da84:1,",
    "1da85:0,1da9b:1,1daa0:0,1daa1:1,1dab0:0,1e000:1,1e007:0,1e008:1,1e019:0,1e01b:1,1e022:0,1e023:1,",
    "1e025:0,1e026:1,1e02b:0,1e08f:1,1e090:0,1e130:1,1e137:0,1e2ae:1,1e2af:0,1e2ec:1,1e2f0:0,1e4ec:1,",
    "1e4f0:0,1e5ee:1,1e5f0:0,1e6e3:1,1e6e4:0,1e6e6:1,1e6e7:0,1e6ee:1,1e6f0:0,1e6f5:1,1e6f6:0,1e8d0:1,",
    "1e8d7:0,1e944:1,1e94b:0,e0020:1,e0080:0,e0100:1,e01f0:0,"]

/-- the ranges of the property, read -/
def graphemeExtendTable : RangeTable := RangeTable.ofText graphemeExtendText

/-- whether a character is a mark or format character that extends a grapheme cluster -/
def isGraphemeExtend (c : Char) : Bool := graphemeExtendTable.lookup c.toNat == 1

end BuildRecipe.Unicode
