import DiscordBot.Url.Idna.Table

/-! The rules for labels in which characters work upon each other: joiners, and writing from right to
left. -/

namespace DiscordBot.Url.Idna

inductive Direction where
  | left
  | right
  | europeanDigit
  | arabicDigit
  | neutral
  | mark
  | other
  deriving DecidableEq, Repr

def directionTable : String :=
  "0 4;9 6;e 4;1c 6;21 4;30 2;3a 4;61 0;7b 4;df 0;f7 4;f8 0;2b9 4;2bb 0;2c2 4;2d0 0;2d2 4;2ee 0;
  2ef 4;300 5;371 0;375 4;377 0;3f6 4;3f8 0;483 5;48b 0;58a 4;591 5;5be 1;5bf 5;5c0 1;5c1 5;5c3 1;
  5c4 5;5c6 1;5c7 5;5d0 1;606 4;608 1;609 4;60b 1;60c 4;60d 1;60e 4;610 5;61b 1;64b 5;660 3;66a 4;
  66b 3;66d 1;670 5;671 1;6d6 5;6de 4;6df 5;6e5 1;6e7 5;6e9 4;6ea 5;6ee 1;6f0 2;6fa 1;711 5;712 1;
  730 5;74d 1;7a6 5;7b1 1;7eb 5;7f4 1;7f6 4;7fa 1;7fd 5;7fe 1;816 5;81a 1;81b 5;824 1;825 5;828 1;
  829 5;830 1;859 5;85e 1;88f 0;898 5;8a0 1;8ca 5;903 0;93a 5;93b 0;93c 5;93d 0;941 5;949 0;94d 5;
  94e 0;951 5;960 0;962 5;964 0;981 5;982 0;9bc 5;9bd 0;9c1 5;9c7 0;9cd 5;9ce 0;9e2 5;9e6 0;9f2 4;
  9f4 0;9fb 4;9fc 0;9fe 5;a03 0;a3c 5;a3e 0;a41 5;a5c 0;a70 5;a72 0;a75 5;a76 0;a81 5;a83 0;abc 5;
  abd 0;ac1 5;ac9 0;acd 5;ad0 0;ae2 5;ae6 0;af1 4;af9 0;afa 5;b02 0;b3c 5;b3d 0;b3f 5;b40 0;b41 5;
  b47 0;b4d 5;b57 0;b62 5;b66 0;b82 5;b83 0;bc0 5;bc1 0;bcd 5;bd0 0;bf3 4;c00 5;c01 0;c04 5;c05 0;
  c3c 5;c3d 0;c3e 5;c41 0;c46 5;c58 0;c62 5;c66 0;c78 4;c7f 0;c81 5;c82 0;cbc 5;cbd 0;ccc 5;cd5 0;
  ce2 5;ce6 0;d00 5;d02 0;d3b 5;d3d 0;d41 5;d46 0;d4d 5;d4e 0;d62 5;d66 0;d81 5;d82 0;dca 5;dcf 0;
  dd2 5;dd8 0;e31 5;e32 0;e34 5;e3f 4;e40 0;e47 5;e4f 0;eb1 5;eb2 0;eb4 5;ebd 0;ec8 5;ece 0;f18 5;
  f1a 0;f35 5;f36 0;f37 5;f38 0;f39 5;f3a 4;f3e 0;f71 5;f7f 0;f80 5;f85 0;f86 5;f88 0;f8d 5;fbe 0;
  fc6 5;fc7 0;102d 5;1031 0;1032 5;1038 0;1039 5;103b 0;103d 5;103f 0;1058 5;105a 0;105e 5;1061 0;
  1071 5;1075 0;1082 5;1083 0;1085 5;1087 0;108d 5;108e 0;109d 5;109e 0;135d 5;1360 0;1390 4;
  13a0 0;1400 4;1401 0;169b 4;16a0 0;1712 5;1715 0;1732 5;1734 0;1752 5;1760 0;1772 5;1780 0;
  17b7 5;17be 0;17c6 5;17c7 0;17c9 5;17d4 0;17db 4;17dc 0;17dd 5;17e0 0;17f0 4;1810 0;1885 5;
  1887 0;18a9 5;18aa 0;1920 5;1923 0;1927 5;1929 0;1932 5;1933 0;1939 5;1940 4;1946 0;19de 4;
  1a00 0;1a17 5;1a19 0;1a1b 5;1a1e 0;1a56 5;1a57 0;1a58 5;1a61 0;1a62 5;1a63 0;1a65 5;1a6d 0;
  1a73 5;1a80 0;1ab0 5;1acf 0;1b00 5;1b04 0;1b34 5;1b35 0;1b36 5;1b3b 0;1b3c 5;1b3d 0;1b42 5;
  1b43 0;1b6b 5;1b74 0;1b80 5;1b82 0;1ba2 5;1ba6 0;1ba8 5;1baa 0;1bab 5;1bae 0;1be6 5;1be7 0;
  1be8 5;1bea 0;1bed 5;1bee 0;1bef 5;1bf2 0;1c2c 5;1c34 0;1c36 5;1c3b 0;1cd0 5;1cd3 0;1cd4 5;
  1ce1 0;1ce2 5;1ce9 0;1ced 5;1cee 0;1cf4 5;1cf5 0;1cf8 5;1cfa 0;1dc0 5;1e01 0;200c 4;20c1 0;
  20d0 5;2104 4;214e 0;218a 4;2336 0;237b 4;2395 0;2396 4;2427 0;2440 4;26ac 0;26ad 4;2800 0;
  2900 4;2b96 0;2b97 4;2c30 0;2ce5 4;2cec 0;2cef 5;2cf3 0;2cf9 4;2d00 0;2d7f 5;2d80 0;2de0 5;
  2e00 4;3005 0;3008 4;3021 0;302a 5;302e 0;3030 4;3031 0;3037 4;303b 0;303d 4;3041 0;3099 5;
  309d 0;30a0 4;30a1 0;30fb 4;30fc 0;31c0 4;31e4 0;4dc0 4;4e00 0;a490 4;a4d0 0;a60d 4;a610 0;
  a66f 5;a673 4;a674 5;a67e 4;a681 0;a69e 5;a6a0 0;a6f0 5;a6f2 0;a700 4;a723 0;a788 4;a789 0;
  a802 5;a803 0;a806 5;a807 0;a80b 5;a80c 0;a825 5;a827 0;a828 4;a82c 5;a830 0;a838 4;a840 0;
  a874 4;a880 0;a8c4 5;a8ce 0;a8e0 5;a8f2 0;a8ff 5;a900 0;a926 5;a92e 0;a947 5;a952 0;a980 5;
  a983 0;a9b3 5;a9b4 0;a9b6 5;a9ba 0;a9bc 5;a9be 0;a9e5 5;a9e6 0;aa29 5;aa2f 0;aa31 5;aa33 0;
  aa35 5;aa40 0;aa43 5;aa44 0;aa4c 5;aa4d 0;aa7c 5;aa7d 0;aab0 5;aab1 0;aab2 5;aab5 0;aab7 5;
  aab9 0;aabe 5;aac0 0;aac1 5;aac2 0;aaec 5;aaee 0;aaf6 5;ab01 0;ab6a 4;abc0 0;abe5 5;abe6 0;
  abe8 5;abe9 0;abed 5;abf0 0;fb1e 5;fbb2 1;fbc3 0;fd3e 4;fd90 0;fdcf 4;fe20 5;fe45 4;fe73 1;
  10000 0;10101 4;10102 0;10140 4;1018d 0;10190 4;101d0 0;101fd 5;10280 0;102e0 5;102e1 2;10300 0;
  10376 5;10380 0;10800 1;1091f 4;10920 1;10940 0;10980 1;10a01 5;10a10 1;10a38 5;10a40 1;10ae5 5;
  10aeb 1;10b39 4;10b40 1;10d24 5;10d30 3;10d40 0;10e60 3;10e80 1;10eab 5;10ead 1;10ec2 0;10f00 1;
  10f46 5;10f51 1;10f82 5;10f86 1;11000 0;11001 5;11002 0;11038 5;11047 0;11052 4;11066 0;11070 5;
  11071 0;11073 5;11075 0;1107f 5;11082 0;110b3 5;110b7 0;110b9 5;110bb 0;110c2 5;110d0 0;11100 5;
  11103 0;11127 5;1112c 0;1112d 5;11136 0;11173 5;11174 0;11180 5;11182 0;111b6 5;111bf 0;111c9 5;
  111cd 0;111cf 5;111d0 0;1122f 5;11232 0;11234 5;11235 0;11236 5;11238 0;1123e 5;1123f 0;112df 5;
  112e0 0;112e3 5;112f0 0;11300 5;11302 0;1133b 5;1133d 0;11340 5;11341 0;11366 5;11380 0;11438 5;
  11440 0;11442 5;11445 0;11446 5;11447 0;1145e 5;1145f 0;114b3 5;114b9 0;114ba 5;114bb 0;114bf 5;
  114c1 0;114c2 5;114c4 0;115b2 5;115b8 0;115bc 5;115be 0;115bf 5;115c1 0;115dc 5;11600 0;11633 5;
  1163b 0;1163d 5;1163e 0;1163f 5;11641 0;11660 4;11680 0;116ab 5;116ac 0;116ad 5;116ae 0;116b0 5;
  116b6 0;116b7 5;116b8 0;1171d 5;11720 0;11722 5;11726 0;11727 5;11730 0;1182f 5;11838 0;11839 5;
  1183b 0;1193b 5;1193d 0;1193e 5;1193f 0;11943 5;11944 0;119d4 5;119dc 0;119e0 5;119e1 0;11a01 5;
  11a07 0;11a09 5;11a0b 0;11a33 5;11a39 0;11a3b 5;11a3f 0;11a47 5;11a50 0;11a51 5;11a57 0;11a59 5;
  11a5c 0;11a8a 5;11a97 0;11a98 5;11a9a 0;11c30 5;11c3e 0;11c92 5;11ca9 0;11caa 5;11cb1 0;11cb2 5;
  11cb4 0;11cb5 5;11d00 0;11d31 5;11d46 0;11d47 5;11d50 0;11d90 5;11d93 0;11d95 5;11d96 0;11d97 5;
  11d98 0;11ef3 5;11ef5 0;11fd5 4;11fff 0;16af0 5;16af5 0;16b30 5;16b37 0;16f4f 5;16f50 0;16f8f 5;
  16f93 0;16fe2 4;16fe3 0;16fe4 5;16ff0 0;1bc9d 5;1bc9f 0;1cf00 5;1cf50 0;1d167 5;1d16a 0;1d17b 5;
  1d183 0;1d185 5;1d18c 0;1d1aa 5;1d1ae 0;1d1e9 4;1d242 5;1d245 4;1d2c0 0;1d300 4;1d360 0;1da00 5;
  1da37 0;1da3b 5;1da6d 0;1da75 5;1da76 0;1da84 5;1da85 0;1da9b 5;1df00 0;1e000 5;1e08f 0;1e130 5;
  1e137 0;1e2ae 5;1e2c0 0;1e2ec 5;1e2f0 0;1e2ff 4;1e4d0 0;1e800 1;1e8d0 5;1e922 1;1e944 5;1e94b 1;
  1eef0 4;1f150 0;1f16d 4;1f170 0;1f1ad 4;1f1e6 0;1f260 4;1f6d8 0;1f6dd 4;1f774 0;1f780 4;1f7d9 0;
  1f7e0 4;1f8b2 0;1f900 4;1fa54 0;1fa60 4;1fa75 0;1fa78 4;1fa87 0;1fa90 4;1faad 0;1fab0 4;1fabb 0;
  1fac0 4;1fac6 0;1fad0 4;1fada 0;1fae0 4;1fae8 0;1faf0 4;1faf7 0;1fb00 4;1fbcb 0"

def Direction.ofNumber (n : Nat) : Direction :=
  match n with
  | 0 => left
  | 1 => right
  | 2 => europeanDigit
  | 3 => arabicDigit
  | 4 => neutral
  | 5 => mark
  | _ => other

def directionChanges : List (Nat × Nat) := runs directionTable

def direction (c : Char) : Direction :=
  .ofNumber ((directionChanges.takeWhile fun r => r.1 ≤ c.toNat).foldl (fun _ r => r.2) 0)

def turns (cs : List Char) : Bool :=
  cs.any fun c => direction c == .right || direction c == .arabicDigit

def keepsDirection (cs : List Char) : Bool :=
  let ds := cs.map direction
  let last := ds.reverse.dropWhile (· == .mark)
  match ds.head?, last.head? with
  | some .right, some l =>
    ds.all (fun d => d != .left && d != .other)
      && (l == .right || l == .europeanDigit || l == .arabicDigit)
      && !(ds.contains .europeanDigit && ds.contains .arabicDigit)
  | some .left, some l =>
    ds.all (fun d => d != .right && d != .arabicDigit && d != .other)
      && (l == .left || l == .europeanDigit)
  | _, _ => false

def marks : List (Nat × Nat) := runs markTable

def isMark (c : Char) : Bool := 0x300 ≤ c.toNat && within marks c.toNat

def viramas : List (Nat × Nat) := runs viramaTable

def joinsBoth : List (Nat × Nat) := runs
  "620 620;626 626;628 628;62a 62e;633 63f;641 647;649 64a;66e 66f;678 687;69a 6bf;6c1 6c2;6cc 6cc;
  6ce 6ce;6d0 6d1;6fa 6fc;6ff 6ff;712 714;71a 71d;71f 727;729 729;72b 72b;72d 72e;74e 758;75c 76a;
  76d 770;772 772;775 777;77a 77f;7ca 7ea;841 845;848 848;84a 853;855 855;860 860;862 865;868 868;
  886 886;889 88d;88f 88f;8a0 8a9;8af 8b0;8b3 8b8;8ba 8c8;1807 1807;1820 1878;1887 18a8;18aa 18aa;
  a840 a871;10ac0 10ac4;10ad3 10ad6;10ad8 10adc;10ade 10ae0;10aeb 10aee;10b80 10b80;10b82 10b82;
  10b86 10b88;10b8a 10b8b;10b8d 10b8d;10b90 10b90;10bad 10bae;10d01 10d21;10d23 10d23;10ec3 10ec4;
  10ec6 10ec7;10f30 10f32;10f34 10f44;10f51 10f53;10f70 10f73;10f76 10f81;10fb0 10fb0;10fb2 10fb3;
  10fb8 10fb8;10fbb 10fbc;10fbe 10fbf;10fc1 10fc1;10fc4 10fc4;10fca 10fca;1e900 1e943"

def joinsBefore : List (Nat × Nat) := runs
  "622 625;627 627;629 629;62f 632;648 648;671 673;675 677;688 699;6c0 6c0;6c3 6cb;6cd 6cd;6cf 6cf;
  6d2 6d3;6d5 6d5;6ee 6ef;710 710;715 719;71e 71e;728 728;72a 72a;72c 72c;72f 72f;74d 74d;759 75b;
  76b 76c;771 771;773 774;778 779;840 840;846 847;849 849;854 854;856 858;867 867;869 86a;870 882;
  88e 88e;8aa 8ac;8ae 8ae;8b1 8b2;8b9 8b9;10ac5 10ac5;10ac7 10ac7;10ac9 10aca;10ace 10ad2;
  10add 10add;10ae1 10ae1;10ae4 10ae4;10aef 10aef;10b81 10b81;10b83 10b85;10b89 10b89;10b8c 10b8c;
  10b8e 10b8f;10b91 10b91;10ba9 10bac;10d22 10d22;10ec2 10ec2;10f33 10f33;10f54 10f54;10f74 10f75;
  10fb4 10fb6;10fb9 10fba;10fbd 10fbd;10fc2 10fc3;10fc9 10fc9"

def joinsBehind : List (Nat × Nat) := runs
  "a872 a872;10acd 10acd;10ad7 10ad7;10d00 10d00;10fcb 10fcb"

def transparent : List (Nat × Nat) := runs
  "ad ad;300 36f;483 489;591 5bd;5bf 5bf;5c1 5c2;5c4 5c5;5c7 5c7;610 61a;61c 61c;64b 65f;670 670;
  6d6 6dc;6df 6e4;6e7 6e8;6ea 6ed;70f 70f;711 711;730 74a;7a6 7b0;7eb 7f3;7fd 7fd;816 819;81b 823;
  825 827;829 82d;859 85b;897 89f;8ca 8e1;8e3 902;93a 93a;93c 93c;941 948;94d 94d;951 957;962 963;
  981 981;9bc 9bc;9c1 9c4;9cd 9cd;9e2 9e3;9fe 9fe;a01 a02;a3c a3c;a41 a42;a47 a48;a4b a4d;a51 a51;
  a70 a71;a75 a75;a81 a82;abc abc;ac1 ac5;ac7 ac8;acd acd;ae2 ae3;afa aff;b01 b01;b3c b3c;b3f b3f;
  b41 b44;b4d b4d;b55 b56;b62 b63;b82 b82;bc0 bc0;bcd bcd;c00 c00;c04 c04;c3c c3c;c3e c40;c46 c48;
  c4a c4d;c55 c56;c62 c63;c81 c81;cbc cbc;cbf cbf;cc6 cc6;ccc ccd;ce2 ce3;d00 d01;d3b d3c;d41 d44;
  d4d d4d;d62 d63;d81 d81;dca dca;dd2 dd4;dd6 dd6;e31 e31;e34 e3a;e47 e4e;eb1 eb1;eb4 ebc;ec8 ece;
  f18 f19;f35 f35;f37 f37;f39 f39;f71 f7e;f80 f84;f86 f87;f8d f97;f99 fbc;fc6 fc6;102d 1030;
  1032 1037;1039 103a;103d 103e;1058 1059;105e 1060;1071 1074;1082 1082;1085 1086;108d 108d;
  109d 109d;135d 135f;1712 1714;1732 1733;1752 1753;1772 1773;17b4 17b5;17b7 17bd;17c6 17c6;
  17c9 17d3;17dd 17dd;180b 180d;180f 180f;1885 1886;18a9 18a9;1920 1922;1927 1928;1932 1932;
  1939 193b;1a17 1a18;1a1b 1a1b;1a56 1a56;1a58 1a5e;1a60 1a60;1a62 1a62;1a65 1a6c;1a73 1a7c;
  1a7f 1a7f;1ab0 1add;1ae0 1aeb;1b00 1b03;1b34 1b34;1b36 1b3a;1b3c 1b3c;1b42 1b42;1b6b 1b73;
  1b80 1b81;1ba2 1ba5;1ba8 1ba9;1bab 1bad;1be6 1be6;1be8 1be9;1bed 1bed;1bef 1bf1;1c2c 1c33;
  1c36 1c37;1cd0 1cd2;1cd4 1ce0;1ce2 1ce8;1ced 1ced;1cf4 1cf4;1cf8 1cf9;1dc0 1dff;200b 200b;
  200e 200f;202a 202e;2060 2064;206a 206f;20d0 20f0;2cef 2cf1;2d7f 2d7f;2de0 2dff;302a 302d;
  3099 309a;a66f a672;a674 a67d;a69e a69f;a6f0 a6f1;a802 a802;a806 a806;a80b a80b;a825 a826;
  a82c a82c;a8c4 a8c5;a8e0 a8f1;a8ff a8ff;a926 a92d;a947 a951;a980 a982;a9b3 a9b3;a9b6 a9b9;
  a9bc a9bd;a9e5 a9e5;aa29 aa2e;aa31 aa32;aa35 aa36;aa43 aa43;aa4c aa4c;aa7c aa7c;aab0 aab0;
  aab2 aab4;aab7 aab8;aabe aabf;aac1 aac1;aaec aaed;aaf6 aaf6;abe5 abe5;abe8 abe8;abed abed;
  fb1e fb1e;fe00 fe0f;fe20 fe2f;feff feff;fff9 fffb;101fd 101fd;102e0 102e0;10376 1037a;
  10a01 10a03;10a05 10a06;10a0c 10a0f;10a38 10a3a;10a3f 10a3f;10ae5 10ae6;10d24 10d27;10d69 10d6d;
  10eab 10eac;10efa 10eff;10f46 10f50;10f82 10f85;11001 11001;11038 11046;11070 11070;11073 11074;
  1107f 11081;110b3 110b6;110b9 110ba;110c2 110c2;11100 11102;11127 1112b;1112d 11134;11173 11173;
  11180 11181;111b6 111be;111c9 111cc;111cf 111cf;1122f 11231;11234 11234;11236 11237;1123e 1123e;
  11241 11241;112df 112df;112e3 112ea;11300 11301;1133b 1133c;11340 11340;11366 1136c;11370 11374;
  113bb 113c0;113ce 113ce;113d0 113d0;113d2 113d2;113e1 113e2;11438 1143f;11442 11444;11446 11446;
  1145e 1145e;114b3 114b8;114ba 114ba;114bf 114c0;114c2 114c3;115b2 115b5;115bc 115bd;115bf 115c0;
  115dc 115dd;11633 1163a;1163d 1163d;1163f 11640;116ab 116ab;116ad 116ad;116b0 116b5;116b7 116b7;
  1171d 1171d;1171f 1171f;11722 11725;11727 1172b;1182f 11837;11839 1183a;1193b 1193c;1193e 1193e;
  11943 11943;119d4 119d7;119da 119db;119e0 119e0;11a01 11a0a;11a33 11a38;11a3b 11a3e;11a47 11a47;
  11a51 11a56;11a59 11a5b;11a8a 11a96;11a98 11a99;11b60 11b60;11b62 11b64;11b66 11b66;11c30 11c36;
  11c38 11c3d;11c3f 11c3f;11c92 11ca7;11caa 11cb0;11cb2 11cb3;11cb5 11cb6;11d31 11d36;11d3a 11d3a;
  11d3c 11d3d;11d3f 11d45;11d47 11d47;11d90 11d91;11d95 11d95;11d97 11d97;11ef3 11ef4;11f00 11f01;
  11f36 11f3a;11f40 11f40;11f42 11f42;11f5a 11f5a;13430 13440;13447 13455;1611e 16129;1612d 1612f;
  16af0 16af4;16b30 16b36;16f4f 16f4f;16f8f 16f92;16fe4 16fe4;1bc9d 1bc9e;1bca0 1bca3;1cf00 1cf2d;
  1cf30 1cf46;1d167 1d169;1d173 1d182;1d185 1d18b;1d1aa 1d1ad;1d242 1d244;1da00 1da36;1da3b 1da6c;
  1da75 1da75;1da84 1da84;1da9b 1da9f;1daa1 1daaf;1e000 1e006;1e008 1e018;1e01b 1e021;1e023 1e024;
  1e026 1e02a;1e08f 1e08f;1e130 1e136;1e2ae 1e2ae;1e2ec 1e2ef;1e4ec 1e4ef;1e5ee 1e5ef;1e6e3 1e6e3;
  1e6e6 1e6e6;1e6ee 1e6ef;1e6f5 1e6f5;1e8d0 1e8d6;1e944 1e94b;e0001 e0001;e0020 e007f;e0100 e01ef"

def joinAcross (before behind : List Char) : Bool :=
  let isIn rs (c : Char) := within rs c.toNat
  (before.dropWhile (isIn transparent)).head?.any (fun c => isIn joinsBoth c || isIn joinsBehind c)
    && (behind.dropWhile (isIn transparent)).head?.any
      fun c => isIn joinsBoth c || isIn joinsBefore c

def joinersFit : List Char → List Char → Bool
  -- The characters before come nearest first.
  | _, [] => true
  | before, c :: cs =>
    let behindVirama := before.head?.any fun b => within viramas b.toNat
    (if c.toNat == 0x200c then behindVirama || joinAcross before cs
      else if c.toNat == 0x200d then behindVirama
      else true) && joinersFit (c :: before) cs

end DiscordBot.Url.Idna
