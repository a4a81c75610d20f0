/-!
# Characters that share a primary weight

`41-4C=61::13` reads: the run from U+0041 sorts like the run from U+0061, with tertiary weight 13.
A second field gives a secondary weight, commas separate the elements of an expansion, and an
element without a letter is a mark. A run steps its letter along.
-/

namespace ListenQuery.Collation

def variantText : String :=
"41-4C=61::13 4C+B7=6C::13,:265 4D-56=6D::13 57=77::16 58-5A=78::13 6C+B7=6C,:265 A0=20::21
AA=61::23 B2-B3=32::18 B5=3BC::3 B9=31::18 BA=6F::23 BC=31::28,2044::16,34::28
BD=31::28,2044::16,32::28 BE=33::28,2044::16,34::28 C6=61:2:16,65::17 D0=64:2:16 D8=6F::13,:28
DE=FE::16 DF=73:2,73::4 E6=61:2,65::4 F0=64:2 F8=6F,:28 110=64::13,:38 111=64,:38 126=68::13,:38
127=68,:38 132=69::17,6A::17 133=69::4,6A::4 13F=6C::13,:265 140=6C,:265 141=6C::13,:38 142=6C,:38
149=2BC::16,6E::4 14A=14B::14 152=6F:2:16,65::17 153=6F:2,65::4 166=167::16 17F=73:5 181=253::16
182=183::16 184=185::16 186=254::16 187=188::16 189-18A=256::16 18B=18C::16 18D=7A::4,77::5
18E=1DD::16 18F=259::12 190=25B::3 191=192::16 193=260::16 194=263::16 196=269::16 197=268::16
198=199::16 19C=26F::16 19D=272::16 19F=275::16 1A2=1A3::16 1A4=1A5::16 1A6=280::14 1A7=1A8::16
1A9=283::14 1AC=1AD::16 1AE=288::16 1B1-1B2=28A::16 1B3=1B4::16 1B5=1B6::16 1B7=292::14
1B8=1B9::16 1BC=1BD::16 1BE=74::4,73::4 1C4=64::17,7A::17,:21:16 1C5=64::17,7A::4,:21:16
1C6=64::4,7A::4,:21:16 1C7=6C::17,6A::17 1C8=6C::17,6A::4 1C9=6C::4,6A::4 1CA=6E::17,6A::17
1CB=6E::17,6A::4 1CC=6E::4,6A::4 1E4=1E5::16 1F1=64::17,7A::17 1F2=64::17,7A::4 1F3=64::4,7A::4
1F6=195::16 1F7=1BF::16 21C=21D::16 220=19E::16 222=223::16 224=225::16 238=64::4,62::4
239=71::4,70::4 23A=2C65::16 23B=23C::16 23D=19A::16 23E=2C66::16 241=242::16 243=180::16
244=289::16 245=28C::16 246=247::16 248=249::16 24A=24B::16 24C=24D::16 24E=24F::16
2A3=64::4,7A::4 2A4=64::4,292::3 2A5=64::4,291::16 2A6=74::4,73::4 2A7=74::4,283::3
2A8=74::4,255::16 2A9=66::4,14B::3 2AA=6C::4,73::4 2AB=6C::4,7A::4 2B0=68::23 2B1=266::25
2B2=6A::23 2B3=72::23 2B4=279::16 2B5=27B::16 2B6=281::16 2B7=77::29 2B8=79::23 2E0=263::25
2E1=6C::23 2E2=73::23 2E3=78::23 2E4=295::16 300=:18 301=:17 302=:20 303=:26 304=:31 305=:39
306=:19 307=:27 308=:24 309=:40 30A=:22 30B=:25 30C=:21 30D-30E=:32 30F=:41 310=:42 311=:43
312=:32 313=:15 314=:16 315=:32 316-319=:33 31A=:32 31B=:44 31C-320=:33 321=:45 322=:46 323=:47
324=:48 325=:49 326=:50 327=:29 328=:30 329-32C=:33 32D=:51 32E=:52 32F=:33 330=:53 331=:54
332=:14 333=:33 334=:55 335=:38 336-337=:34 338=:28 339=:56 33A-33C=:33 33D-33F=:32 342=:23
345=:57 346=:32 347-349=:33 34A-34C=:32 34D-34E=:33 350-352=:32 353-356=:33 357=:32 358=:58
359-35A=:33 35B=:32 35C=:33 35D-35E=:32 35F=:33 360=:59 361=:60 362=:33 363=61::4 364=65::4
365=69::4 366=6F::4 367=75::4 368-369=63::4 36A=68::4 36B=6D::4 36C=72::4 36D=74::4 36E=76::4
36F=78::4 370=371::16 372=373::16 376=377::16 37A=3B9::3 37F=3F3::16 384=B4 391=3B1::20
392=3B2::14 393=3B3::9 394=3B4::12 395=3B5::20 396-398=3B6::14 399=3B9::20 39A=3BA::16 39B=3BB::14
39C=3BC::16 39D-39F=3BD::14 3A0=3C0::20 3A1=3C1::16 3A3-3A4=3C3::14 3A5=3C5::12 3A6=3C6::14
3A7=3C7::9 3A8=3C8::14 3A9=3C9::12 3C2=3C3::28 3CF=3BA::21,3B1::3,3B9::3 3D0=3B2::3 3D1=3B8::3
3D2=3C5::20 3D5=3C6::3 3D6=3C0::3 3D7=3BA::3,3B1::3,3B9::3 3D8=3D9::16 3DA=3DB::16 3DC=3DD::14
3DE=3DF::16 3E0=3E1::16 3E2=3E3::16 3E4=3E5::16 3E6=3E7::16 3E8=3E9::16 3EA=3EB::16 3EC=3ED::16
3EE=3EF::16 3F0=3BA::3 3F1=3C1::3 3F2=3C3::3 3F4=3B8::19 3F5=3B5::3 3F7=3F8::16 3F9=3C3::19
3FA=3FB::16 3FD-3FF=37B::16 402=452::16 404=454::25 405=455::16 406=456::12 408-40B=458::16
40F=45F::16 410-418=430::12 418+306=438+306::16 41A-41B=43A::12 41C-41D=43C::14 41E=43E::9
41F=43F::12 420=440::14 421=441::12 422=442::14 423-428=443::12 429=449::25 42A-42B=44A::12
42C=44C::14 42D=44D::16 42E=44E::14 42F=44F::16 460=461::25 462=463::25 464=465::25 466=467::25
468=469::16 46A=46B::25 46C=46D::25 46E=46F::16 470=471::16 472=473::25 474=475::16 478=479::16
47A=47B::16 47C=47D::16 47E=47F::16 480=481::16 483=:61 484=:32 485=:16 486=:15 487=:32
48A=48B::16 48C=48D::16 48E=48F::16 490=433:2:25 491=433:2:16 492=493::16 494=495::16 496=497::16
498=499::16 49A=49B::16 49C=49D::16 49E=49F::16 4A0=4A1::16 4A2=4A3::16 4A4=4A5::16 4A6=4A7::16
4A8=4A9::16 4AA=4AB::16 4AC=4AD::16 4AE=4AF::16 4B0=4B1::16 4B2=4B3::16 4B4=4B5::16 4B6=4B7::16
4B8=4B9::16 4BA=4BB::16 4BC=4BD::16 4BE=4BF::16 4C0=4CF::16 4C3=4C4::16 4C5=4C6::16 4C7=4C8::16
4C9=4CA::16 4CB=4CC::16 4CD=4CE::16 4D4=4D5::16 4D8=4D9::16 4E0=4E1::16 4E8=4E9::16 4F6=4F7::16
4FA=4FB::16 4FC=4FD::16 4FE=4FF::16 500=501::16 502=503::16 504=505::16 506=507::16 508=509::16
50A=50B::16 50C=50D::16 50E=50F::16 510=511::16 512=513::16 514=515::16 516=517::16 518=519::16
51A=51B::16 51C=51D::16 51E=51F::16 520=521::16 522=523::16 524=525::16 526=527::16 528=529::16
52A=52B::16 52C=52D::16 52E=52F::16 531-534=561::16 535=565::25 536-53A=566::16 53B=56B::25
53C=56C::16 53D=56D::25 53E-543=56E::16 544=574::25 545=575::16 546=576::25 547-54D=577::16
54E=57E::25 54F-551=57F::16 552=582::25 553-556=583::16 587=565::16,582::16 5B0=:63 5B1=:64
5B2=:65 5B3=:66 5B4=:67 5B5=:68 5B6=:69 5B7=:70 5B8=:71 5B9-5BA=:72 5BB=:73 5BC=:76 5BF=:77
5C1=:75 5C2=:74 5C7=:71 5DA=5DB::25 5DD=5DE::25 5DF=5E0::16 5E3=5E4::16 5E5=5E6::16
5EF=5D9::16,5D4::16,5D5::16,5D4::16 5F0=5D5::16,5D5::16 5F1=5D5::16,5D9::16 5F2=5D9::16,5D9::16
5F3=27:11 5F4=22:13 64B=:90 64C=:93 64D=:96 64E=:99 64F=:103 650=:106 651=:109 652=:110 653=:111
654=:112 655=:113 656=:115 657=:116 658=:117 659=:119 65A=:120 65B=:121 65C=:122 65D=:123 65E=:124
65F=:114 660-669=30 670=:133 674=621::16 675=621::16,627::3 676=621::16,648::3 677=621::16,6C7::3
678=621::16,64A::3 6E5=648::3 6E6=64A::3 6F0-6F9=30 6FD=621:2 6FE=645:2 711=:134 714=713:2
71C=71B:2 724=723::16 727=726:2 72D=712:2 72E=713:8 72F=715:2 730=:135 731=:136 732=:137 733=:138
734=:139 735=:140 736=:141 737=:142 738=:143 739=:144 73A=:145 73B=:146 73C=:147 73D=:148 73E=:149
73F=:150 741=:32 742=:33 745=:32 746=:33 7C0-7C9=30 7E8-7E9=7D6:2 7EA=7D9:2 7EB=:151 7EC=:152
7ED=:153 7EE=:154 7EF=:155 7F0=:156 7F1=:157 7F2=:158 7F3=:159 7FD=:33 818=:87 819=:88 81C-81D=:79
81E-820=:80 821-823=:81 824-825=:82 826-827=:83 828-82A=:84 82B=:85 82C=:86 82D=:89 859-85B=:33
870=627::3 871=627::3 872=627::3 873=627::3 874=627::3 875=627::3 876=627::3 877=627::3 878=627::3
879=627::3 87A=627::3 87B=627::3 87C=627::3 87D=627::3 87E=627::3 87F=627::3 880=627::3 881=627::3
882=627::3 883=621::16 884=648::3 885=64A::3 886=64A::3 887=621::16 89E-89F=:111 8AD=627::3
8C9=6CC::3 8E3=:125 8E4=:100 8E5=:104 8E6=:107 8E7=:92 8E8=:95 8E9=:98 8F0=:91 8F1=:94 8F2=:97
8F4=:101 8F5=:102 8F6=:108 8F7=:126 8F8=:127 8F9=:131 8FA=:132 8FB=:129 8FC=:130 8FD=:128 8FE=:105
8FF=:118 900-901=:176 902=:177 903=:178 93C=:175 953=:18 954=:17 966-96F=30 981=:176 982=:177
983=:178 9BC=:175 9CE=9A4::16,9CD::16 9E6-9EF=30 9FE=:179 A01=:176 A02=:177 A03=:178 A3C=:175
A66-A6F=30 A70=:180 A71=:181 A81=:176 A82=:177 A83=:178 ABC=:175 AE6-AEF=30 AFA=:110 AFB=:109
AFC=:111 AFD-AFF=:175 B01=:176 B02=:177 B03=:178 B3C=:175 B55=:32 B66-B6F=30 B82=:177 BE6-BEF=30
C00-C01=:176 C02=:177 C03=:178 C04=:177 C3C=:175 C5D=C28::16,C4D::16 C66-C6F=30 C78-C7B=30
C7C-C7E=31 C81=:176 C82=:177 C83=:178 CBC=:175 CDD=CA8::16,CCD::16 CE6-CEF=30 CF3=:177 D00=:177
D01=:176 D02=:177 D03=:178 D3B=D4D::16 D3C=D4D::16 D4E=D30::16,D4D::16 D54=D2E::16,D4D::16
D55=D2F::16,D4D::16 D56=D34::16,D4D::16 D66-D6F=30 D7A=D23::16,D4D::16 D7B=D28::16,D4D::16
D7C=D30::16,D4D::16 D7D=D32::16,D4D::16 D7E=D33::16,D4D::16 D7F=D15::16,D4D::16 D81=:176 D82=:177
D83=:178 DE6-DEF=30 E47=:193 E48=:194 E49=:195 E4A=:196 E4B=:197 E4C=:198 E4D=:199 E4D+E32=E33
E4E=:192 E50-E59=30 EC8=:201 EC9=:202 ECA=:203 ECB=:204 ECC=:205 ECD=:206 ECD+EB2=EB3 ECE=:200
ED0-ED9=30 EDC=EAB::16,E99::16 EDD=EAB::16,EA1::16 F00=F68::16,F7C::16,:177:16 F0C=F0B::16
F20-F29=30 F2A-F31=31::6 F32=39::7 F33=30::6 F39=:209 F6A=F62:2 F7E=:177 F7F=:178 F82-F83=:176
FB2+F71=FB2,F71 FB2+F71+F72=FB2,F71+F72 FB2+F71+F74=FB2,F71+F74 FB2+F71+F80=F77 FB3+F71=FB3,F71
FB3+F71+F72=FB3,F71+F72 FB3+F71+F74=FB3,F71+F74 FB3+F71+F80=F79 FBA=FAD:2 FBB-FBC=FB1:2
102B=102C::16 1036=:177 1037=:213 1038=:178 103F=101E::16,1039::16,101E::16 1040-1049=30
1090-1099=30 10A0-10C5=2D00::16 10C7=2D27::16 10CD=2D2D::16 10FC=10DC::25 135D=:162 135E=:161
135F=:160 1369-1371=31 13A0-13EF=AB70::16 13F0-13F5=13F8::16 1680=20::9 16A1=16A0:2 16A4=16A2:2
16A5=16A2:8 16A7=16A6:2 16A9=16A8:2 16AC=16A8:5 16AD=16A8:8 16AE=16A8:11 16B3=16B2:2 16B4=16B2:5
16B5=16B2:8 16B6=16B2:11 16BB=16BA:2 16BC=16BA:6 16BD=16BA:10 16BF=16BE:2 16C0=16BE:8 16C2=16C1:2
16C4=16C3:2 16C6=16C5:2 16CB=16CA:2 16CC=16CA:7 16CD=16CA:9 16CE=16CA:11 16D0=16CF:2 16D1=16CF:8
16D3=16D2:2 16D4=16D2:8 16D5=16C8:2 16D8=16D7:2 16D9=16D7:8 16DB=16DA:2 16DD=16DC:2 16E7=16E6:2
16E8=16E6:8 16E9=16B9:2 16EA=16CA:4 16EE=16C5::16,16DA::16 16EF=16D7:2,16D7:2
16F0=16A6::16,16A6::16 17C6=:177 17C7=:178 17C8=:214 17C9=:215 17CA=:216 17CB-17D1=:32 17DD=:32
17E0-17E9=30 17F0-17F9=30 1810-1819=30 191D=1908::16,1929::16 191E=190B::16,192A::16 1939=:225
193A=:226 193B=:227 1946-194F=30 19D0-19D9=30 19DA=31 19DE=199C::16,19B6::16
19DF=199C::16,19B6::16,19C1::16 1A54=1A46::16,1A60::16,1A46::16 1A58=1A26::16 1A59=1A26::16
1A5A=1A3B::16 1A5B=1A3B::16 1A64=1A63::16 1A74=:177 1A75=:217 1A76=:218 1A77=:219 1A78=:220
1A79=:221 1A7A=:222 1A7B=:223 1A7C=:224 1A80-1A89=30 1A90-1A99=30 1AB0-1AB4=:32 1AB5-1ABA=:33
1ABB-1ABC=:32 1ABD=:33 1ABE=:35 1ABF=77::5 1AC0=28D::16 1AC1-1AC2=:32 1AC3-1AC4=:33 1AC5-1AC9=:32
1ACA=:33 1ACB=:32 1ACC=67:2 1ACD=72:2 1ACE=74:8 1B00-1B01=:176 1B02=:177 1B03=:182 1B04=:178
1B34=:175 1B4C=1B1A::16,1B44::16,1B1C::16 1B50-1B59=30 1B80=:177 1B81=:184 1B82=:178 1BB0-1BB9=30
1BBA=1B83::16 1BBE=1B8A::16 1BBF=1B99::16 1BC1=1BC0::16 1BC3=1BC2::16 1BC4=1BC2::16 1BC6=1BC5::16
1BC8=1BC7::16 1BCA=1BC9::16 1BCC=1BCB::16 1BCD=1BCB::16 1BCF=1BCE::16 1BD3=1BD2::16 1BD5=1BD4::16
1BD7=1BD6::16 1BD9=1BD8::16 1BDA=1BD8::16 1BDC=1BDB::16 1BDF=1BDE::16 1BE6=:175 1BE8=1BE7::16
1BEB=1BEA::16 1BED=1BEC::16 1BEF=1BEE::16 1C37=:175 1C40-1C49=30 1C50-1C59=30 1C80=432::3
1C81=434::3 1C82=43E::3 1C83-1C84=441::3 1C85=442::3 1C86=44A::3 1C87=463::16 1C88=A64B::16
1C90-1CBA=10D0::16 1CBD-1CBF=10FD::16 1CEA=1CE9::16 1CEB=1CE9::16 1CEC=1CE9::16 1CED=:177
1CEE=1CE9::16 1CEF=1CE9::16 1CF0=1CE9::16 1CF1=1CE9::16 1CF2-1CF3=:178 1CFA=1CE9::16 1D2C=61::29
1D2D=61:2:25,65::23 1D2E=62::27 1D30=64::27 1D31=65::29 1D32=1DD::25 1D33=67::27 1D34-1D35=68::29
1D36=6A::27 1D37-1D3A=6B::29 1D3C=6F::29 1D3D=223::25 1D3E=70::29 1D3F=72::29 1D40=74::29
1D41=75::27 1D42=77::30 1D43=61::23 1D44=250::25 1D45=251::24 1D46=1D02::16 1D47=62::23
1D48-1D49=64::23 1D4A=259::20 1D4B=25B::24 1D4C=1D08::16 1D4D=67::23 1D4E=1D09::16 1D4F=6B::23
1D50=6D::23 1D51=14B::24 1D52=6F::23 1D53=254::25 1D54-1D55=1D16::16 1D56=70::23 1D57-1D58=74::23
1D59=1D1D::16 1D5A=26F::25 1D5B=76::23 1D5C=1D25::16 1D5D=3B2::24 1D5E=3B3::21 1D5F=3B4::27
1D60=3C6::24 1D61=3C7::21 1D62=69::25 1D63=72::25 1D64-1D65=75::25 1D66=3B2::28 1D67=3B3::26
1D68=3C1::26 1D69=3C6::28 1D6A=3C7::26 1D78=43D::24 1D79=67:2 1D7A=74:2,68::4 1D9B=252::25
1D9C=63::23 1D9D=255::25 1D9E=64:2:25 1D9F=25C::25 1DA0=66::23 1DA1=25F::16 1DA2=261::25
1DA3=265::25 1DA4-1DA6=268::25 1DA7=1D7B::16 1DA8=29D::25 1DA9=26D::16 1DAA=1D85::16 1DAB=29F::25
1DAC=271::25 1DAD=270::16 1DAE=272::25 1DAF=273::16 1DB0-1DB1=274::25 1DB2=278::16
1DB3-1DB4=282::24 1DB5=1AB::16 1DB6-1DB7=289::25 1DB8=1D1C::16 1DB9-1DBA=28B::25 1DBB=7A::23
1DBC-1DBD=290::25 1DBE=292::24 1DBF=3B8::28 1DC0-1DC1=:32 1DC2=:33 1DC3-1DC9=:32 1DCA=72::4
1DCB-1DCE=:32 1DCF-1DD0=:33 1DD1=:32 1DD2=A76F::3 1DD3=61:2 1DD4=61:2,65::4 1DD5=61::4,6F::4
1DD6=61::4,76::4 1DD7=63::4,:29:16 1DD8=64:8 1DD9=64:2 1DDA=67::4 1DDB=262::16 1DDC-1DDD=6B::4
1DDE=29F::16 1DDF=1D0D::16 1DE0=6E::4 1DE1=274::16 1DE2=280::3 1DE3=72:8 1DE4=73::4 1DE5=73:5
1DE6=7A::4 1DE7=251::3 1DE8=62::4 1DE9=A7B5::16 1DEA=259::3 1DEB=66::4 1DEC=AB38::16
1DED=6F::4,:33:16 1DEE=70::4 1DEF=283::3 1DF0=75::4,:33:16 1DF1=77::5 1DF2=61::4,:24:16
1DF3=6F::4,:24:16 1DF4=75::4,:24:16 1DF5-1DF8=:32 1DF9-1DFA=:33 1DFB=:32 1DFC-1DFD=:33 1DFE=:32
1DFF=:33 1E9A=61::4,2BE::16 1E9E=73:2:16,73::17 1EFA=6C::17,6C::17 1EFB=6C::4,6C::4 1EFC=1EFD::16
1EFE=1EFF::16 1FBF=1FBD 2002=20::9 2003=20::9 2004=20::9 2005=20::9 2006=20::9 2007=20::21
2008=20::9 2009=20::9 200A=20::9 2011=2010::16 2018=27:2 2019=27:4 201A=27:7 201B=27:9 201C=22:2
201D=22:3 201E=22:5 201F=22:7 2024=2E::9 2025=2E::9,2E::9 2026=2E::9,2E::9,2E::9 202F=20::21
2033=2032::16,2032::16 2034=2032::16,2032::16,2032::16 2036=2035::16,2035::16
2037=2035::16,2035::16,2035::16 203C=21::9,21::9 2047=3F::12,3F::12 2048=3F::12,21::9
2049=21::9,3F::12 2057=2032::16,2032::16,2032::16,2032::16 205F=20::9 2070=30::18 2071=69::23
2074-2078=34::18 2079=39::21 207A=2B::21 207B=2212::16 207C=3D::21 207D-207E=28::19 207F=6E::23
2080-2088=30::22 2089=39::25 208A=2B::26 208B=2212::25 208C=3D::26 208D-208E=28::24 2090=61::25
2091=65::25 2092=6F::25 2093=78::25 2094=259::27 2095=68::25 2096-2099=6B::25 209A=70::25
209B-209C=73::25 20A7=70::17,74::4,73::4 20D0=:251 20D1=:252 20D2-20D3=:253 20D4=:254 20D5=:255
20D6=:256 20D7=:257 20D8-20DA=:34 20DB=:258 20DC=:259 20DD-20E0=:35 20E1=:260 20E2-20E4=:35
20E5=:34 20E6=:261 20E7=:262 20E8=:263 20E9=:264 20EA-20EB=:34 20EC-20EF=:33 20F0=:32
2100=61::4,2F::25,63::4 2101=61::4,2F::25,73::4 2102=63::19 2103=B0::16,63::17
2105=63::4,2F::25,6F::4 2106=63::4,2F::25,75::4 2107=25B::14 2109=B0::16,66::17 210A=67::7
210B=68::19 210C=68::19 210D=68::19 210E=68::7 210F=68,:38 2110=69::19 2111=69::19 2112=6C::19
2113=6C::7 2115=6E::19 2116=6E::17,6F::4 2119-211B=70::19 211C=72::19 211D=72::19
2120=73::23,6D::23 2121=74::17,65::17,6C::17 2122=74::23,6D::23 2124=7A::19 2128=7A::19
212C-212D=62::19 212F=65::7 2130-2131=65::19 2132=214E::16 2133=6D::19 2134=6F::7
2135-2138=5D0::16 2139=69::7 213B=66::17,61::17,78::17 213C=3C0::12 213D=3B3::3 213E=3B3::16
213F=3C0::27 2140=2211::16 2145=64::19 2146-2147=64::7 2148-2149=69::7 214D=61::17,2F::25,73::17
2150=31::28,2044::16,37::28 2151=31::28,2044::16,39::29 2152=31::28,2044::16,31::28,30::28
2153=31::28,2044::16,33::28 2154=32::28,2044::16,33::28 2155=31::28,2044::16,35::28
2156=32::28,2044::16,35::28 2157=33::28,2044::16,35::28 2158=34::28,2044::16,35::28
2159=31::28,2044::16,36::28 215A=35::28,2044::16,36::28 215B=31::28,2044::16,38::28
215C=33::28,2044::16,38::28 215D=35::28,2044::16,38::28 215E=37::28,2044::16,38::28
215F=31::28,2044::16 2160=69::17 2161=69::17,69::17 2162=69::17,69::17,69::17 2163=69::17,76::17
2164=76::17 2165=76::17,69::17 2166=76::17,69::17,69::17 2167=76::17,69::17,69::17,69::17
2168=69::17,78::17 2169=78::17 216A=78::17,69::17 216B=78::17,69::17,69::17 216C=6C::17
216D-216E=63::17 216F=6D::17 2170=69::4 2171=69::4,69::4 2172=69::4,69::4,69::4 2173=69::4,76::4
2174=76::4 2175=76::4,69::4 2176=76::4,69::4,69::4 2177=76::4,69::4,69::4,69::4 2178=69::4,78::4
2179=78::4 217A=78::4,69::4 217B=78::4,69::4,69::4 217C=6C::4 217D-217E=63::4 217F=6D::4
2183=2184::16 2185=36 2189=30::28,2044::16,33::28 222C=222B::16,222B::16
222D=222B::16,222B::16,222B::16 222F=222E::16,222E::16 2230=222E::16,222E::16,222E::16
2460-2467=31::15 2468=39::17 2469=31::15,30::15 246A=31::15,31::15 246B=31::15,32::15
246C=31::15,33::15 246D=31::15,34::15 246E=31::15,35::15 246F=31::15,36::15 2470=31::15,37::15
2471=31::15,38::15 2472=31::15,39::17 2473=32::15,30::15 2474=28::8,31::6,29::8
2475=28::8,32::6,29::8 2476=28::8,33::6,29::8 2477=28::8,34::6,29::8 2478=28::8,35::6,29::8
2479=28::8,36::6,29::8 247A=28::8,37::6,29::8 247B=28::8,38::6,29::8 247C=28::8,39::7,29::8
247D=28::8,31::6,30::6,29::8 247E=28::8,31::6,31::6,29::8 247F=28::8,31::6,32::6,29::8
2480=28::8,31::6,33::6,29::8 2481=28::8,31::6,34::6,29::8 2482=28::8,31::6,35::6,29::8
2483=28::8,31::6,36::6,29::8 2484=28::8,31::6,37::6,29::8 2485=28::8,31::6,38::6,29::8
2486=28::8,31::6,39::7,29::8 2487=28::8,32::6,30::6,29::8 2488=31::6,2E::9 2489=32::6,2E::9
248A=33::6,2E::9 248B=34::6,2E::9 248C=35::6,2E::9 248D=36::6,2E::9 248E=37::6,2E::9
248F=38::6,2E::9 2490=39::7,2E::9 2491=31::6,30::6,2E::9 2492=31::6,31::6,2E::9
2493=31::6,32::6,2E::9 2494=31::6,33::6,2E::9 2495=31::6,34::6,2E::9 2496=31::6,35::6,2E::9
2497=31::6,36::6,2E::9 2498=31::6,37::6,2E::9 2499=31::6,38::6,2E::9 249A=31::6,39::7,2E::9
249B=32::6,30::6,2E::9 249C=28::8,61::4,29::8 249D=28::8,62::4,29::8 249E=28::8,63::4,29::8
249F=28::8,64::4,29::8 24A0=28::8,65::4,29::8 24A1=28::8,66::4,29::8 24A2=28::8,67::4,29::8
24A3=28::8,68::4,29::8 24A4=28::8,69::4,29::8 24A5=28::8,6A::4,29::8 24A6=28::8,6B::4,29::8
24A7=28::8,6C::4,29::8 24A8=28::8,6D::4,29::8 24A9=28::8,6E::4,29::8 24AA=28::8,6F::4,29::8
24AB=28::8,70::4,29::8 24AC=28::8,71::4,29::8 24AD=28::8,72::4,29::8 24AE=28::8,73::4,29::8
24AF=28::8,74::4,29::8 24B0=28::8,75::4,29::8 24B1=28::8,76::4,29::8 24B2=28::8,77::5,29::8
24B3=28::8,78::4,29::8 24B4=28::8,79::4,29::8 24B5=28::8,7A::4,29::8 24B6-24CB=61::21 24CC=77::26
24CD-24CF=78::21 24D0-24E5=61::10 24E6=77::13 24E7-24E9=78::10 24EA=30::15 24EB=31::15,31::15
24EC=31::15,32::15 24ED=31::15,33::15 24EE=31::15,34::15 24EF=31::15,35::15 24F0=31::15,36::15
24F1=31::15,37::15 24F2=31::15,38::15 24F3=31::15,39::17 24F4=32::15,30::15 24F5-24FC=31::15
24FD=39::17 24FE=31::15,30::15 24FF=30::15 2776-277D=31::15 277E=39::17 277F=31::15,30::15
2780-2787=31::15 2788=39::17 2789=31::15,30::15 278A-2791=31::15 2792=39::17 2793=31::15,30::15
2A0C=222B::16,222B::16,222B::16,222B::16 2A74=3A::12,3A::12,3D::9 2A75=3D::9,3D::9
2A76=3D::9,3D::9,3D::9 2C00-2C06=2C30::25 2C07=2C37::16 2C08-2C18=2C38::25 2C19-2C1A=2C49::16
2C1B-2C21=2C4B::25 2C22=2C52::16 2C23-2C24=2C53::25 2C25=2C55::16 2C26-2C2A=2C56::25
2C2B-2C2F=2C5B::16 2C60=2C61::16 2C62=26B::16 2C63=1D7D::16 2C64=27D::16 2C67=2C68::16
2C69=2C6A::16 2C6B=2C6C::16 2C6D=251::14 2C6E=271::16 2C6F=250::16 2C70=252::16 2C72=2C73::16
2C75=2C76::16 2C7C=6A::25 2C7D=76::29 2C7E-2C7F=23F::16 2C80=2C81::25 2C82=2C83::16 2C84=2C85::16
2C86=2C87::16 2C88=2C89::16 2C8A=2C8B::16 2C8C=2C8D::16 2C8E=2C8F::16 2C90=2C91::16 2C92=2C93::25
2C94=2C95::25 2C96=2C97::16 2C98=2C99::16 2C9A=2C9B::16 2C9C=2C9D::16 2C9E=2C9F::16 2CA0=2CA1::16
2CA2=2CA3::16 2CA4=2CA5::16 2CA6=2CA7::16 2CA8=2CA9::16 2CAA=2CAB::16 2CAC=2CAD::16 2CAE=2CAF::16
2CB0=2CB1::16 2CB2=2CB3::16 2CB4=2CB5::16 2CB6=2CB7::16 2CB8=2CB9::16 2CBA=2CBB::16 2CBC=2CBD::16
2CBE=2CBF::16 2CC0=2CC1::16 2CC2=2CC3::16 2CC4=2CC5::16 2CC6=2CC7::16 2CC8=2CC9::16 2CCA=2CCB::16
2CCC=2CCD::16 2CCE=2CCF::16 2CD0=2CD1::16 2CD2=2CD3::16 2CD4=2CD5::16 2CD6=2CD7::16 2CD8=2CD9::16
2CDA=2CDB::16 2CDC=2CDD::16 2CDE=2CDF::16 2CE0=2CE1::16 2CE2=2CE3::16
2CE4=2C95::16,2C81::16,2C93::16 2CEB=2CEC::16 2CED=2CEE::16 2CEF=:32 2CF0=:16 2CF1=:15
2CF2=2CF3::16 2DE0-2DE3=431::3 2DE4-2DE5=436::3 2DE6-2DEE=43A::3 2DEF-2DF2=445::3 2DF3=449::16
2DF4=473::16 2DF5=441::3,442::3 2DF6=430::3 2DF7=435::3 2DF8=A649::16 2DF9=A64B::16 2DFA=463::16
2DFB=44E::3 2DFC=A657::16 2DFD=467::16 2DFE=46B::16 2DFF=46D::16 2E42=22:8 2E80=4E36:2 2E81=5382:2
2E82=4E5B::3 2E83=4E5A::3 2E84=4E59:2 2E85=4EBB::3 2E86=5182:2 2E87=51E0:2 2E88=5200:2
2E89=5202::3 2E8A=535C:2 2E8B=5369:2 2E8C=5C0F:2 2E8D=5C0F:8 2E8E=5C22:2 2E8F=5C23::3 2E90=5C22::3
2E91=5C23:2 2E92=5DF3::3 2E93=5E7A::3 2E94=5F51::3 2E95=5F50:2 2E96=5FC4::3 2E97=5FC3:2
2E98=624C::3 2E99=6535::3 2E9B=65E1::3 2E9C=65E5:2 2E9D=6708:2 2E9E=6B7A:2 2E9F=6BCD::3
2EA0=6C11::3 2EA1=6C35::3 2EA2=6C3A::3 2EA3=706C::3 2EA4=722B::3 2EA5=722B:2 2EA6=4E2C::3
2EA7=725B:2 2EA8=72AD::3 2EA9=738B:2 2EAA=758B:2 2EAB=76EE:2 2EAC=793A:2 2EAD=793B::3 2EAE=7AF9:2
2EAF=7CF9::3 2EB0=7E9F::3 2EB1=7F53::3 2EB2=7F52::3 2EB3=7F53:2 2EB4=7F53:8 2EB5=7F52:2
2EB6=7F8A:2 2EB7=7F8A:8 2EB8=7F8B::3 2EB9=8002::3 2EBA=8080::3 2EBB=807F:2 2EBC=8089:2 2EBD=81FC:2
2EBE=8279::3 2EBF=8279:2 2EC0=8279:8 2EC1=864E::3 2EC2=8864::3 2EC3=8980::3 2EC4=897F::3
2EC5=89C1::3 2EC6=89D2::3 2EC7=89D2:2 2EC8=8BA0::3 2EC9=8D1D::3 2ECA=8DB3:2 2ECB=8F66::3
2ECC=8FB6::3 2ECD=8FB6:2 2ECE=8FB6:8 2ECF=9091:2 2ED0=9485::3 2ED1-2ED2=9577::3 2ED3=957F::3
2ED4=95E8::3 2ED5=961C:2 2ED6=961D::3 2ED7=96E8:2 2ED8=9752::3 2ED9=97E6::3 2EDA=9875::3
2EDB=98CE::3 2EDC-2EDD=98DE::3 2EDE=98E0:2 2EDF=98E0::3 2EE0=9963::3 2EE1=9996:2 2EE2=9A6C::3
2EE3=9AA8:2 2EE4=9B3C:2 2EE5=9C7C::3 2EE6=9E1F::3 2EE7=9E75:2 2EE8=9EA6::3 2EE9=9EC4::3
2EEA=9EFE::3 2EEB=9F4A:2 2EEC=9F50::3 2EED=9F52:2 2EEE=9F7F::3 2EEF=9F8D:2 2EF0=9F99::3
2EF1=9F9C:2 2EF2=9F9C:8 2EF3=9F9F::3 2F00=4E00::3 2F01=4E28::3 2F02=4E36::3 2F03=4E3F::3
2F04=4E59::3 2F05=4E85::3 2F06=4E8C::3 2F07=4EA0::3 2F08=4EBA::3 2F09=513F::3 2F0A=5165::3
2F0B=516B::3 2F0C=5182::3 2F0D=5196::3 2F0E=51AB::3 2F0F=51E0::3 2F10=51F5::3 2F11=5200::3
2F12=529B::3 2F13=52F9::3 2F14=5315::3 2F15=531A::3 2F16=5338::3 2F17=5341::3 2F18=535C::3
2F19=5369::3 2F1A=5382::3 2F1B=53B6::3 2F1C=53C8::3 2F1D=53E3::3 2F1E=56D7::3 2F1F=571F::3
2F20=58EB::3 2F21=5902::3 2F22=590A::3 2F23=5915::3 2F24=5927::3 2F25=5973::3 2F26=5B50::3
2F27=5B80::3 2F28=5BF8::3 2F29=5C0F::3 2F2A=5C22::3 2F2B=5C38::3 2F2C=5C6E::3 2F2D=5C71::3
2F2E=5DDB::3 2F2F=5DE5::3 2F30=5DF1::3 2F31=5DFE::3 2F32=5E72::3 2F33=5E7A::3 2F34=5E7F::3
2F35=5EF4::3 2F36=5EFE::3 2F37=5F0B::3 2F38=5F13::3 2F39=5F50::3 2F3A=5F61::3 2F3B=5F73::3
2F3C=5FC3::3 2F3D=6208::3 2F3E=6236::3 2F3F=624B::3 2F40=652F::3 2F41=6534::3 2F42=6587::3
2F43=6597::3 2F44=65A4::3 2F45=65B9::3 2F46=65E0::3 2F47=65E5::3 2F48=66F0::3 2F49=6708::3
2F4A=6728::3 2F4B=6B20::3 2F4C=6B62::3 2F4D=6B79::3 2F4E=6BB3::3 2F4F=6BCB::3 2F50=6BD4::3
2F51=6BDB::3 2F52=6C0F::3 2F53=6C14::3 2F54=6C34::3 2F55=706B::3 2F56=722A::3 2F57=7236::3
2F58=723B::3 2F59=723F::3 2F5A=7247::3 2F5B=7259::3 2F5C=725B::3 2F5D=72AC::3 2F5E=7384::3
2F5F=7389::3 2F60=74DC::3 2F61=74E6::3 2F62=7518::3 2F63=751F::3 2F64=7528::3 2F65=7530::3
2F66=758B::3 2F67=7592::3 2F68=7676::3 2F69=767D::3 2F6A=76AE::3 2F6B=76BF::3 2F6C=76EE::3
2F6D=77DB::3 2F6E=77E2::3 2F6F=77F3::3 2F70=793A::3 2F71=79B8::3 2F72=79BE::3 2F73=7A74::3
2F74=7ACB::3 2F75=7AF9::3 2F76=7C73::3 2F77=7CF8::3 2F78=7F36::3 2F79=7F51::3 2F7A=7F8A::3
2F7B=7FBD::3 2F7C=8001::3 2F7D=800C::3 2F7E=8012::3 2F7F=8033::3 2F80=807F::3 2F81=8089::3
2F82=81E3::3 2F83=81EA::3 2F84=81F3::3 2F85=81FC::3 2F86=820C::3 2F87=821B::3 2F88=821F::3
2F89=826E::3 2F8A=8272::3 2F8B=8278::3 2F8C=864D::3 2F8D=866B::3 2F8E=8840::3 2F8F=884C::3
2F90=8863::3 2F91=897E::3 2F92=898B::3 2F93=89D2::3 2F94=8A00::3 2F95=8C37::3 2F96=8C46::3
2F97=8C55::3 2F98=8C78::3 2F99=8C9D::3 2F9A=8D64::3 2F9B=8D70::3 2F9C=8DB3::3 2F9D=8EAB::3
2F9E=8ECA::3 2F9F=8F9B::3 2FA0=8FB0::3 2FA1=8FB5::3 2FA2=9091::3 2FA3=9149::3 2FA4=91C6::3
2FA5=91CC::3 2FA6=91D1::3 2FA7=9577::3 2FA8=9580::3 2FA9=961C::3 2FAA=96B6::3 2FAB=96B9::3
2FAC=96E8::3 2FAD=9751::3 2FAE=975E::3 2FAF=9762::3 2FB0=9769::3 2FB1=97CB::3 2FB2=97ED::3
2FB3=97F3::3 2FB4=9801::3 2FB5=98A8::3 2FB6=98DB::3 2FB7=98DF::3 2FB8=9996::3 2FB9=9999::3
2FBA=99AC::3 2FBB=9AA8::3 2FBC=9AD8::3 2FBD=9ADF::3 2FBE=9B25::3 2FBF=9B2F::3 2FC0=9B32::3
2FC1=9B3C::3 2FC2=9B5A::3 2FC3=9CE5::3 2FC4=9E75::3 2FC5=9E7F::3 2FC6=9EA5::3 2FC7=9EBB::3
2FC8=9EC3::3 2FC9=9ECD::3 2FCA=9ED1::3 2FCB=9EF9::3 2FCC=9EFD::3 2FCD=9F0E::3 2FCE=9F13::3
2FCF=9F20::3 2FD0=9F3B::3 2FD1=9F4A::3 2FD2=9F52::3 2FD3=9F8D::3 2FD4=9F9C::3 2FD5=9FA0::3
3000=20::3 3006=3057::1,3081::1 3007=30 301D=22:10 301E=22:11 301F=22:12 3021-3029=31 302A=:243
302B=:244 302C=:245 302D=:246 302E=:247 302F=:248 3032=3031,:36 3034=3033,:36 3036=3012::16
3038=5341::3 3039-303A=5344::3 303C=307E::1,3059::1 3041=3042::1 3043=3044::1 3045=3046::1
3047=3048::1 3049=304A::1 3063=3064::1 3083=3084::1 3085=3086::1 3087=3088::1 308E=308F::1
3095=304B::1 3096=3051::1 3099=:36 309A=:37 309F=3088::25,308A::24 30A1=3042::3 30A2=3042::14
30A3=3044::3 30A4=3044::14 30A5=3046::3 30A6=3046::14 30A7=3048::3 30A8=3048::14 30A9=304A::3
30AA=304A::14 30AB=304B::9 30AD=304D::3 30AF=304F::9 30B1=3051::9 30B3=3053::8 30B5=3055::3
30B7=3057::9 30B9=3059::9 30BB=305B::3 30BD=305D::3 30BF=305F::3 30C1=3061::3 30C3=3064::3
30C4=3064::14 30C6=3066::3 30C8=3068::8 30CA-30CB=306A::3 30CC=306C::12 30CD-30CE=306D::3
30CF=306F::9 30D2=3072::9 30D5=3075::9 30D8=3078::9 30DB=307B::9 30DE-30DF=307E::3 30E0=3080::9
30E1-30E2=3081::3 30E3=3084::3 30E4=3084::14 30E5=3086::3 30E6=3086::14 30E7=3088::3 30E8=3088::13
30E9=3089::9 30EA=308A::8 30EB-30ED=308B::9 30EE=308F::3 30EF=308F::9 30F0-30F1=3090::14
30F2-30F3=3092::12 30F5=304B::3 30F6=3051::3 30FF=3053::24,3068::24 312E=311C::16 3131=1100::3
3132=1101::16 3133=11AA::16 3134=1102::3 3135-3136=11AC::16 3137=1103::3 3138=1104::16
3139=1105::3 313A-313F=11B0::16 3140=111A::16 3141-3142=1106::3 3143=1108::16 3144=1121::16
3145=1109::3 3146=110A::16 3147-3148=110B::3 3149=110D::16 314A-314E=110E::3 314F=1161::3
3150-3156=1162::16 3157=1169::3 3158-315B=116A::16 315C=116E::3 315D-3161=116F::16 3162=1174::3
3163=1175::16 3164=1160::16 3165-3166=1114::16 3167-3168=11C7::16 3169=11CC::16 316A=11CE::16
316B=11D3::16 316C=11D7::16 316D=11D9::16 316E=111C::16 316F=11DD::16 3170=11DF::16
3171-3172=111D::16 3173=1120::16 3174-3175=1122::16 3176=1127::16 3177=1129::16 3178-317C=112B::16
317D=1132::16 317E=1136::16 317F=1140::16 3180=1147::16 3181=114C::16 3182-3183=11F1::16
3184-3186=1157::16 3187-3188=1184::16 3189=1188::16 318A-318B=1191::16 318C=1194::16 318D=119E::16
318E=11A1::16 3192=4E00::20 3193=4E8C::20 3194=4E09::20 3195=56DB::20 3196=4E0A::20 3197=4E2D::20
3198=4E0B::20 3199=7532::20 319A=4E59::20 319B=4E19::20 319C=4E01::20 319D=5929::20 319E=5730::20
319F=4EBA::20 31A0=3105:2 31A1=3117:2 31A2=3110:2 31A3=310D:2 31A5=31A4:2 31A7=311B:2 31A8=3128:8
31A9=311A:2 31AA-31AB=3127:2 31AE=311E:2 31AF=3120:2 31B3=3127:2:16 31B4=3106::16 31B5=310A::16
31B6-31B7=310E::16 31BB=310D::16 31F0=304F::3 31F1=3057::3 31F2=3059::3 31F3=3068::3 31F4=306C::3
31F5=306F::3 31F6=3072::3 31F7=3075::3 31F8=3078::3 31F9=307B::3 31FA=3080::3 31FB-31FF=3089::3
3200=28::8,1100::3,29::8 3201=28::8,1102::3,29::8 3202=28::8,1103::3,29::8
3203=28::8,1105::3,29::8 3204=28::8,1106::3,29::8 3205=28::8,1107::3,29::8
3206=28::8,1109::3,29::8 3207=28::8,110B::3,29::8 3208=28::8,110C::3,29::8
3209=28::8,110E::3,29::8 320A=28::8,110F::3,29::8 320B=28::8,1110::3,29::8
320C=28::8,1111::3,29::8 320D=28::8,1112::3,29::8 320E=28::8,1100::3,1161::3,29::8
320F=28::8,1102::3,1161::3,29::8 3210=28::8,1103::3,1161::3,29::8 3211=28::8,1105::3,1161::3,29::8
3212=28::8,1106::3,1161::3,29::8 3213=28::8,1107::3,1161::3,29::8 3214=28::8,1109::3,1161::3,29::8
3215=28::8,110B::3,1161::3,29::8 3216=28::8,110C::3,1161::3,29::8 3217=28::8,110E::3,1161::3,29::8
3218=28::8,110F::3,1161::3,29::8 3219=28::8,1110::3,1161::3,29::8 321A=28::8,1111::3,1161::3,29::8
321B=28::8,1112::3,1161::3,29::8 321C=28::8,110C::3,116E::3,29::8
321D=28::8,110B::3,1169::3,110C::3,1165::16,11AB::16,29::8
321E=28::8,110B::3,1169::3,1112::3,116E::3,29::8 3220=28::8,4E00::3,29::8 3221=28::8,4E8C::3,29::8
3222=28::8,4E09::3,29::8 3223=28::8,56DB::3,29::8 3224=28::8,4E94::3,29::8
3225=28::8,516D::3,29::8 3226=28::8,4E03::3,29::8 3227=28::8,516B::3,29::8
3228=28::8,4E5D::3,29::8 3229=28::8,5341::3,29::8 322A=28::8,6708::3,29::8
322B=28::8,706B::3,29::8 322C=28::8,6C34::3,29::8 322D=28::8,6728::3,29::8
322E=28::8,91D1::3,29::8 322F=28::8,571F::3,29::8 3230=28::8,65E5::3,29::8
3231=28::8,682A::3,29::8 3232=28::8,6709::3,29::8 3233=28::8,793E::3,29::8
3234=28::8,540D::3,29::8 3235=28::8,7279::3,29::8 3236=28::8,8CA1::3,29::8
3237=28::8,795D::3,29::8 3238=28::8,52B4::3,29::8 3239=28::8,4EE3::3,29::8
323A=28::8,547C::3,29::8 323B=28::8,5B66::3,29::8 323C=28::8,76E3::3,29::8
323D=28::8,4F01::3,29::8 323E=28::8,8CC7::3,29::8 323F=28::8,5354::3,29::8
3240=28::8,796D::3,29::8 3241=28::8,4F11::3,29::8 3242=28::8,81EA::3,29::8
3243=28::8,81F3::3,29::8 3244=554F::12 3245=5E7C::12 3246=6587::12 3247=7B8F::12
3248=31::15,30::15 3249=32::15,30::15 324A=33::15,30::15 324B=34::15,30::15 324C=35::15,30::15
324D=36::15,30::15 324E=37::15,30::15 324F=38::15,30::15 3250=70::29,74::29,65::29
3251=32::15,31::15 3252=32::15,32::15 3253=32::15,33::15 3254=32::15,34::15 3255=32::15,35::15
3256=32::15,36::15 3257=32::15,37::15 3258=32::15,38::15 3259=32::15,39::17 325A=33::15,30::15
325B=33::15,31::15 325C=33::15,32::15 325D=33::15,33::15 325E=33::15,34::15 325F=33::15,35::15
3260=1100::14 3261-3262=1102::14 3263-3265=1105::14 3266=1109::14 3267-3268=110B::14
3269-326D=110E::14 326E=1100::14,1161::14 326F=1102::14,1161::14 3270=1103::14,1161::14
3271=1105::14,1161::14 3272=1106::14,1161::14 3273=1107::14,1161::14 3274=1109::14,1161::14
3275=110B::14,1161::14 3276=110C::14,1161::14 3277=110E::14,1161::14 3278=110F::14,1161::14
3279=1110::14,1161::14 327A=1111::14,1161::14 327B=1112::14,1161::14
327C=110E::14,1161::14,11B7::16,1100::14,1169::14 327D=110C::14,116E::14,110B::14,1174::14
327E=110B::14,116E::14 3280=4E00::12 3281=4E8C::12 3282=4E09::12 3283=56DB::12 3284=4E94::12
3285=516D::12 3286=4E03::12 3287=516B::12 3288=4E5D::12 3289=5341::12 328A=6708::12 328B=706B::12
328C=6C34::12 328D=6728::12 328E=91D1::12 328F=571F::12 3290=65E5::12 3291=682A::12 3292=6709::12
3293=793E::12 3294=540D::12 3295=7279::12 3296=8CA1::12 3297=795D::12 3298=52B4::12 3299=79D8::12
329A=7537::12 329B=5973::12 329C=9069::12 329D=512A::12 329E=5370::12 329F=6CE8::12 32A0=9805::12
32A1=4F11::12 32A2=5199::12 32A3=6B63::12 32A4=4E0A::12 32A5=4E2D::12 32A6=4E0B::12 32A7=5DE6::12
32A8=53F3::12 32A9=533B::12 32AA=5B97::12 32AB=5B66::12 32AC=76E3::12 32AD=4F01::12 32AE=8CC7::12
32AF=5354::12 32B0=591C::12 32B1=33::15,36::15 32B2=33::15,37::15 32B3=33::15,38::15
32B4=33::15,39::17 32B5=34::15,30::15 32B6=34::15,31::15 32B7=34::15,32::15 32B8=34::15,33::15
32B9=34::15,34::15 32BA=34::15,35::15 32BB=34::15,36::15 32BC=34::15,37::15 32BD=34::15,38::15
32BE=34::15,39::17 32BF=35::15,30::15 32C0=31::6,6708::3 32C1=32::6,6708::3 32C2=33::6,6708::3
32C3=34::6,6708::3 32C4=35::6,6708::3 32C5=36::6,6708::3 32C6=37::6,6708::3 32C7=38::6,6708::3
32C8=39::7,6708::3 32C9=31::6,30::6,6708::3 32CA=31::6,31::6,6708::3 32CB=31::6,32::6,6708::3
32CC=68::29,67::25 32CD=65::27,72::27,67::25 32CE=65::27,76::29 32CF=6C::29,74::29,64::27
32D0=3042::24 32D1=3044::24 32D2=3046::24 32D3=3048::24 32D4=304A::24 32D5=304B::21 32D6=304D::20
32D7=304F::21 32D8=3051::21 32D9=3053::19 32DA=3055::20 32DB=3057::21 32DC=3059::21 32DD=305B::20
32DE=305D::20 32DF=305F::20 32E0=3061::20 32E1=3064::24 32E2=3066::20 32E3=3068::19
32E4-32E5=306A::20 32E6=306C::27 32E7-32E8=306D::20 32E9=306F::21 32EA=3072::21 32EB=3075::21
32EC=3078::21 32ED=307B::21 32EE-32EF=307E::20 32F0=3080::21 32F1=3081::20 32F2=3082::24
32F3=3084::24 32F4=3086::24 32F5-32F6=3088::21 32F7=308A::19 32F8-32FA=308B::21 32FB=308F::21
32FC-32FD=3090::24 32FE=3092::27 32FF=4EE4::27,548C::27
3300=3042::28,306F::26,:37:25,30FC::25,3068::28 3301=3042::28,308B::26,3075::26,3042::28
3302=3042::28,3093::27,3078::26,:37:25,3042::28 3303=3042::28,30FC::25,308B::26
3304=3044::28,306B::27,3093::27,304F::26,:36:25 3305=3044::28,3093::27,3061::27
3306=3046::28,304A::28,3093::27 3307=3048::28,3059::26,304F::26,30FC::25,3068::28,:36:25
3308=3048::28,30FC::25,304B::26,30FC::25 3309=304A::28,3093::27,3059::26
330A=304A::28,30FC::25,3080::26 330B=304B::26,3044::28,308A::28
330C=304B::26,3089::26,3064::28,3068::28 330D=304B::26,308D::26,308A::28,30FC::25
330E=304B::26,:36:25,308D::26,3093::27 330F=304B::26,:36:25,3093::27,307E::27
3310=304D::27,:36:25,304B::26,:36:25 3311=304D::27,:36:25,306B::27,30FC::25
3312=304D::27,3086::28,308A::28,30FC::25 3313=304D::27,:36:25,308B::26,305F::27,:36:25,30FC::25
3314=304D::27,308D::26 3315=304D::27,308D::26,304F::26,:36:25,3089::26,3080::26
3316=304D::27,308D::26,3081::27,30FC::25,3068::28,308B::26
3317=304D::27,308D::26,308F::26,3064::28,3068::28 3318=304F::26,:36:25,3089::26,3080::26
3319=304F::26,:36:25,3089::26,3080::26,3068::28,3093::27
331A=304F::26,308B::26,305B::27,:36:25,3044::28,308D::26 331B=304F::26,308D::26,30FC::25,306D::27
331C=3051::26,30FC::25,3059::26 331D=3053::28,308B::26,306A::27
331E=3053::28,30FC::25,307B::26,:37:25 331F=3055::27,3044::28,304F::26,308B::26
3320=3055::27,3093::27,3061::27,30FC::25,3080::26 3321=3057::26,308A::28,3093::27,304F::26,:36:25
3322=305B::27,3093::27,3061::27 3323=305B::27,3093::27,3068::28
3324=305F::27,:36:25,30FC::25,3059::26 3325=3066::27,:36:25,3057::26 3326=3068::28,:36:25,308B::26
3327=3068::28,3093::27 3328=306A::27,306E::27 3329=306E::27,3064::28,3068::28
332A=306F::26,3044::28,3064::28 332B=306F::26,:37:25,30FC::25,305B::27,3093::27,3068::28
332C=306F::26,:37:25,30FC::25,3064::28 332D=306F::26,:36:25,30FC::25,308C::26,308B::26
332E=3072::26,:37:25,3042::28,3059::26,3068::28,308B::26 332F=3072::26,:37:25,304F::26,308B::26
3330=3072::26,:37:25,3053::28 3331=3072::26,:36:25,308B::26
3332=3075::26,3042::28,3089::26,3064::28,3068::28,:36:25 3333=3075::26,3044::28,30FC::25,3068::28
3334=3075::26,:36:25,3064::28,3057::26,3048::28,308B::26 3335=3075::26,3089::26,3093::27
3336=3078::26,304F::26,305F::27,30FC::25,308B::26 3337=3078::26,:37:25,305D::27
3338=3078::26,:37:25,306B::27,3072::26 3339=3078::26,308B::26,3064::28
333A=3078::26,:37:25,3093::27,3059::26 333B=3078::26,:37:25,30FC::25,3057::26,:36:25
333C=3078::26,:36:25,30FC::25,305F::27 333D=307B::26,:37:25,3044::28,3093::27,3068::28
333E=307B::26,:36:25,308B::26,3068::28 333F=307B::26,3093::27
3340=307B::26,:37:25,3093::27,3068::28,:36:25 3341=307B::26,30FC::25,308B::26
3342=307B::26,30FC::25,3093::27 3343=307E::27,3044::28,304F::26,308D::26
3344=307E::27,3044::28,308B::26 3345=307E::27,3064::28,306F::26 3346=307E::27,308B::26,304F::26
3347=307E::27,3093::27,3057::26,3088::29,3093::27 3348=307F::27,304F::26,308D::26,3093::27
3349=307F::27,308A::28 334A=307F::27,308A::28,306F::26,:36:25,30FC::25,308B::26
334B=3081::27,304B::26,:36:25 334C=3081::27,304B::26,:36:25,3068::28,3093::27
334D=3081::27,30FC::25,3068::28,308B::26 334E=3084::28,30FC::25,3068::28,:36:25
334F=3084::28,30FC::25,308B::26 3350=3086::28,3042::28,3093::27
3351=308A::28,3064::28,3068::28,308B::26 3352=308A::28,3089::26
3353=308B::26,3072::26,:37:25,30FC::25 3354=308B::26,30FC::25,3075::26,:36:25,308B::26
3355=308C::26,3080::26 3356=308C::26,3093::27,3068::28,3051::26,:36:25,3093::27
3357=308F::26,3064::28,3068::28 3358=30::6,70B9::3 3359=31::6,70B9::3 335A=32::6,70B9::3
335B=33::6,70B9::3 335C=34::6,70B9::3 335D=35::6,70B9::3 335E=36::6,70B9::3 335F=37::6,70B9::3
3360=38::6,70B9::3 3361=39::7,70B9::3 3362=31::6,30::6,70B9::3 3363=31::6,31::6,70B9::3
3364=31::6,32::6,70B9::3 3365=31::6,33::6,70B9::3 3366=31::6,34::6,70B9::3
3367=31::6,35::6,70B9::3 3368=31::6,36::6,70B9::3 3369=31::6,37::6,70B9::3
336A=31::6,38::6,70B9::3 336B=31::6,39::7,70B9::3 336C=32::6,30::6,70B9::3
336D=32::6,31::6,70B9::3 336E=32::6,32::6,70B9::3 336F=32::6,33::6,70B9::3
3370=32::6,34::6,70B9::3 3371=68::27,70::29,61::27 3372=64::25,61::27 3373=61::29,75::27
3374=62::25,61::27,72::27 3375=6F::27,76::29 3376=70::27,63::25 3377=64::25,6D::27
3378=64::25,6D::27,32::25 3379=64::25,6D::27,33::25 337A=69::29,75::27 337B=5E73::27,6210::27
337C=662D::27,548C::27 337D=5927::27,6B63::27 337E=660E::27,6CBB::27
337F=682A::27,5F0F::27,4F1A::27,793E::27 3380=70::27,61::29 3381=6E::27,61::29 3382=3BC::26,61::29
3383=6D::27,61::29 3384=6B::27,61::29 3385=6B::29,62::27 3386=6D::29,62::27 3387=67::27,62::27
3388=63::25,61::27,6C::27 3389=6B::27,63::25,61::27,6C::27 338A=70::27,66::27 338B=6E::27,66::27
338C=3BC::26,66::27 338D=3BC::26,67::25 338E=6D::27,67::25 338F=6B::27,67::25 3390=68::29,7A::25
3391=6B::27,68::29,7A::25 3392=6D::29,68::29,7A::25 3393=67::27,68::29,7A::25
3394=74::29,68::29,7A::25 3395=3BC::26,6C::27 3396=6D::27,6C::27 3397=64::25,6C::27
3398=6B::27,6C::27 3399=66::25,6D::27 339A=6E::27,6D::27 339B=3BC::26,6D::27 339C=6D::27,6D::27
339D=63::25,6D::27 339E=6B::27,6D::27 339F=6D::27,6D::27,32::25 33A0=63::25,6D::27,32::25
33A1=6D::27,32::25 33A2=6B::27,6D::27,32::25 33A3=6D::27,6D::27,33::25 33A4=63::25,6D::27,33::25
33A5=6D::27,33::25 33A6=6B::27,6D::27,33::25 33A7=6D::27,2215::16,73::27
33A8=6D::27,2215::16,73::27,32::25 33A9=70::29,61::27 33AA=6B::27,70::29,61::27
33AB=6D::29,70::29,61::27 33AC=67::27,70::29,61::27 33AD=72::27,61::27,64::25
33AE=72::27,61::27,64::25,2215::16,73::27 33AF=72::27,61::27,64::25,2215::16,73::27,32::25
33B0=70::27,73::27 33B1=6E::27,73::27 33B2=3BC::26,73::27 33B3=6D::27,73::27 33B4=70::27,76::29
33B5=6E::27,76::29 33B6=3BC::26,76::29 33B7=6D::27,76::29 33B8=6B::27,76::29 33B9=6D::29,76::29
33BA=70::27,77::30 33BB=6E::27,77::30 33BC=3BC::26,77::30 33BD=6D::27,77::30 33BE=6B::27,77::30
33BF=6D::29,77::30 33C0=6B::27,3C9::27 33C1=6D::29,3C9::27 33C2=61::27,2E::26,6D::27,2E::26
33C3=62::27,71::25 33C4=63::25,63::25 33C5=63::25,64::25 33C6=63::27,2215::16,6B::27,67::25
33C7=63::27,6F::27,2E::26 33C8=64::25,62::27 33C9=67::27,79::25 33CA=68::27,61::27
33CB=68::29,70::29 33CC=69::27,6E::27 33CD=6B::29,6B::29 33CE=6B::29,6D::29 33CF=6B::27,74::27
33D0=6C::27,6D::27 33D1=6C::27,6E::27 33D2=6C::27,6F::27,67::25 33D3=6C::27,78::27
33D4=6D::27,62::25 33D5=6D::27,69::27,6C::27 33D6=6D::27,6F::27,6C::27 33D7=70::29,68::29
33D8=70::27,2E::26,6D::27,2E::26 33D9=70::29,70::29,6D::29 33DA=70::29,72::29 33DB=73::27,72::27
33DC=73::29,76::27 33DD=77::30,62::25 33DE=76::29,2215::16,6D::27 33DF=61::29,2215::16,6D::27
33E0=31::6,65E5::3 33E1=32::6,65E5::3 33E2=33::6,65E5::3 33E3=34::6,65E5::3 33E4=35::6,65E5::3
33E5=36::6,65E5::3 33E6=37::6,65E5::3 33E7=38::6,65E5::3 33E8=39::7,65E5::3
33E9=31::6,30::6,65E5::3 33EA=31::6,31::6,65E5::3 33EB=31::6,32::6,65E5::3
33EC=31::6,33::6,65E5::3 33ED=31::6,34::6,65E5::3 33EE=31::6,35::6,65E5::3
33EF=31::6,36::6,65E5::3 33F0=31::6,37::6,65E5::3 33F1=31::6,38::6,65E5::3
33F2=31::6,39::7,65E5::3 33F3=32::6,30::6,65E5::3 33F4=32::6,31::6,65E5::3
33F5=32::6,32::6,65E5::3 33F6=32::6,33::6,65E5::3 33F7=32::6,34::6,65E5::3
33F8=32::6,35::6,65E5::3 33F9=32::6,36::6,65E5::3 33FA=32::6,37::6,65E5::3
33FB=32::6,38::6,65E5::3 33FC=32::6,39::7,65E5::3 33FD=33::6,30::6,65E5::3
33FE=33::6,31::6,65E5::3 33FF=67::25,61::27,6C::27 A610=A558::16 A611=A56A::16 A612=A587::16
A613=A50C::16,A60B::16 A614=A51E::16,A60B::16 A615=A533::16,A60B::16 A616=A547::16,A60C::16
A617=A552::16,A60B::16 A618=A558::16,A60C::16 A619=A55A::16,A60C::16 A61A=A560::16,A60B::16
A61B=A585::16,A60B::16 A61C=A5B4::16,A60B::16 A61D=A5CB::16,A60B::16 A61E=A5D1::16,A60C::16
A61F=A5D8::16,A60B::16 A620-A629=30 A62A=A56E::16 A62B=A5D1::16 A640=A641::16 A642=A643::16
A644=A645::16 A646=A647::16 A648=A649::25 A64A=A64B::25 A64C=A64D::16 A64E=A64F::16 A650=A651::16
A652=A653::16 A654=A655::16 A656=A657::25 A658=A659::16 A65A=A65B::16 A65C=A65D::16 A65E=A65F::16
A660=A661::16 A662=A663::16 A664=A665::16 A666=A667::16 A668=43E::16 A669=43E::3 A66A=43E::16
A66B=43E::3 A66C=43E::16 A66D=43E::3 A66E=43E::3 A66F=:62 A674=454::16 A675=438::3
A676=456::3,:24:16 A677=443::3 A678-A67A=44A::3 A67B=461::16 A67C-A67D=:32 A680=A681::16
A682=A683::16 A684=A685::16 A686=A687::16 A688=A689::16 A68A=A68B::16 A68C=A68D::16 A68E=A68F::16
A690=A691::16 A692=A693::16 A694=A695::16 A696=A697::16 A698=43E::16 A699=43E::3 A69A=43E::16
A69B=43E::3 A69C=44A::20 A69D=44C::24 A69E=444::3 A69F=465::16 A6F0=:163 A6F1=:164 A722=A723::16
A724=A725::16 A726=A727::16 A728=74::17,7A::4 A729=74::4,7A::4 A72A=A72B::16 A72C=A72D::16
A72E=A72F::16 A732=61::17,61::17 A733=61::4,61::4 A734=61::17,6F::17 A735=61::4,6F::4
A736=61::17,75::17 A737=61::4,75::4 A738=61::17,76::17 A739=61::4,76::4 A73A=61:2:16,76::17
A73B=61:2,76::4 A73C=61::17,79::17 A73D=61::4,79::4 A73E=A73F::16 A740=A741::16 A742=A743::16
A744=A745::16 A746=A747::16 A748=A749::16 A74A=A74B::16 A74C=A74D::16 A74E=6F::17,6F::17
A74F=6F::4,6F::4 A750=A751::16 A752=A753::16 A754=A755::16 A756=A757::16 A758=A759::16
A75A=72:8:16 A75B=72:8 A75C=A75D::16 A75E=A75F::16 A760=76::17,79::17 A761=76::4,79::4
A762=A763::16 A764=A765::16 A766=A767::16 A768=A769::16 A76A=A76B::16 A76C=A76D::16 A76E=A76F::14
A770=A76F::24 A779=64:8:16 A77A=64:8 A77B=66:2:16 A77C=66:2 A77D=67:2:16 A77E=A77F::16
A780=A781::16 A782=72:2:16 A783=72:2 A784=73:8:16 A785=73:8 A786=74:8:16 A787=74:8 A78B=A78C::16
A78D=265::16 A790=A791::16 A792=A793::16 A796=A797::16 A798=A799::16 A79A=61::17,:24:16
A79B=61::4,:24:16 A79C=6F::17,:24:16 A79D=6F::4,:24:16 A79E=75::17,:24:16 A79F=75::4,:24:16
A7A0=67::17,:34:16 A7A1=67::4,:34:16 A7A2=6B::17,:34:16 A7A3=6B::4,:34:16 A7A4=6E::17,:34:16
A7A5=6E::4,:34:16 A7A6=72::17,:34:16 A7A7=72::4,:34:16 A7A8=73::17,:34:16 A7A9=73::4,:34:16
A7AA=266::16 A7AB=25C::16 A7AC=261::16 A7AD=26C::16 A7AE=26A::16 A7B0=29E::16 A7B1=287::16
A7B2=29D::16 A7B3=AB53::16 A7B4=A7B5::25 A7B6=A7B7::16 A7B8=A7B9::16 A7BA=A7BB::16 A7BC=A7BD::16
A7BE=A7BF::16 A7C0=61::17,:30:16 A7C1=61::4,:30:16 A7C2=77:2:16 A7C3=77:2 A7C4=A794::16
A7C5=282::14 A7C6=1D8E::16 A7C7=A7C8::16 A7C9=A7CA::16 A7D0=A7D1::16 A7D6=A7D7::16 A7D8=73:11:16
A7D9=73:11 A7F2=63::27 A7F3=66::27 A7F4=71::27 A7F5=A7F6::16 A7F8=68::23,:38:16
A7F9=6F:2:25,65::23 A80B=:177 A880=:177 A881=:178 A8C5=:176 A8D0-A8D9=30 A8F3=A8F2::16
A8F4=A8F2::16 A8F5=A8F2::16 A8F6=A8F2::16 A8F7=A8F2::16 A900-A909=30 A92B=:210 A92C=:211 A92D=:212
A980=:176 A981=:177 A982=:183 A983=:178 A9AC=A9AB::16 A9B3=:175 A9B5=A9B4::16 A9D0-A9D9=30
A9F0-A9F9=30 AA50-AA59=30 AABF=:207 AAC1=:208 AB5C=A727::25 AB5D=AB37::16 AB5E=26B::25
AB5F=AB52::16 AB66=64::4,290::16 AB67=74::4,282::3 AB69=28D::25 ABEC=:185 ABF0-ABF9=30
FB00=66::4,66::4 FB01=66::4,69::4 FB02=66::4,6C::4 FB03=66::4,66::4,69::4 FB04=66::4,66::4,6C::4
FB05=73:5,74::4 FB06=73::4,74::4 FB13=574::16,576::16 FB14=574::16,565::16 FB15=574::16,56B::16
FB16=57E::16,576::16 FB17=574::16,56D::16 FB1E=:78 FB20=5E2::16 FB21=5D0::25 FB22-FB23=5D3::25
FB24=5DB::16 FB25=5DC::25 FB26=5DE::16 FB27=5E8::16 FB28=5EA::16 FB29=2B::9 FB4F=5D0::16,5DC::16
FB50=671::25 FB51=671::16 FB52=67B::27 FB53=67B::20 FB54=67B::3 FB55=67B::12 FB56=67E::27
FB57=67E::20 FB58=67E::3 FB59=67E::12 FB5A=680::27 FB5B=680::20 FB5C=680::3 FB5D=680::12
FB5E=67A::27 FB5F=67A::20 FB60=67A::3 FB61=67A::12 FB62=67F::27 FB63=67F::20 FB64=67F::3
FB65=67F::12 FB66=679::27 FB67=679::20 FB68=679::3 FB69=679::12 FB6A=6A4::27 FB6B=6A4::20
FB6C=6A4::3 FB6D=6A4::12 FB6E=6A6::27 FB6F=6A6::20 FB70=6A6::3 FB71=6A6::12 FB72=684::27
FB73=684::20 FB74=684::3 FB75=684::12 FB76=683::27 FB77=683::20 FB78=683::3 FB79=683::12
FB7A=686::27 FB7B=686::20 FB7C=686::3 FB7D=686::12 FB7E=687::27 FB7F=687::20 FB80=687::3
FB81=687::12 FB82=68D::25 FB83=68D::16 FB84=68C::25 FB85=68C::16 FB86=68E::25 FB87=68E::16
FB88=688::25 FB89=688::16 FB8A=698::25 FB8B=698::16 FB8C=691::25 FB8D=691::16 FB8E=6A9::27
FB8F=6A9::20 FB90=6A9::3 FB91=6A9::12 FB92=6AF::27 FB93=6AF::20 FB94=6AF::3 FB95=6AF::12
FB96=6B3::27 FB97=6B3::20 FB98=6B3::3 FB99=6B3::12 FB9A=6B1::27 FB9B=6B1::20 FB9C=6B1::3
FB9D=6B1::12 FB9E=6BA::24 FB9F=6BA::14 FBA0=6BB::27 FBA1=6BB::20 FBA2=6BB::3 FBA3=6BB::12
FBA4=6D5::25,:112:25 FBA5=6D5::16,:112:16 FBA6=6C1::27 FBA7=6C1::20 FBA8=6C1::3 FBA9=6C1::12
FBAA=6BE::27 FBAB=6BE::20 FBAC=6BE::3 FBAD=6BE::12 FBAE=6D2::25 FBAF=6D2::16 FBB0=6D2::25,:112:25
FBB1=6D2::16,:112:16 FBD3=6AD::27 FBD4=6AD::20 FBD5=6AD::3 FBD6=6AD::12 FBD7=6C7::24 FBD8=6C7::14
FBD9=6C6::25 FBDA=6C6::16 FBDB=6C8::25 FBDC=6C8::16 FBDD=621::25,6C7::24 FBDE=6CB::25 FBDF=6CB::16
FBE0=6C5::25 FBE1=6C5::16 FBE2=6C9::25 FBE3=6C9::16 FBE4=6D0::27 FBE5=6D0::20 FBE6=6D0::3
FBE7=6D0::12 FBE8=649::3 FBE9=649::12 FBEA=64A+654::27,627::27 FBEB=64A+654::20,627::20
FBEC=64A+654::27,6D5::25 FBED=64A+654::20,6D5::16 FBEE=64A+654::27,648::27
FBEF=64A+654::20,648::20 FBF0=64A+654::27,6C7::24 FBF1=64A+654::20,6C7::14
FBF2=64A+654::27,6C6::25 FBF3=64A+654::20,6C6::16 FBF4=64A+654::27,6C8::25
FBF5=64A+654::20,6C8::16 FBF6=64A+654::27,6D0::27 FBF7=64A+654::20,6D0::20 FBF8=64A+654::3,6D0::3
FBF9=64A+654::27,649::27 FBFA=64A+654::20,649::20 FBFB=64A+654::3,649::3 FBFC=6CC::26 FBFD=6CC::21
FBFE=6CC::9 FBFF=6CC::16 FC00=64A+654::27,62C::26 FC01=64A+654::27,62D::26
FC02=64A+654::27,645::26 FC03=64A+654::27,649::27 FC04=64A+654::27,64A::28 FC05=628::26,62C::26
FC06=628::26,62D::26 FC07=628::26,62E::26 FC08=628::26,645::26 FC09=628::26,649::27
FC0A=628::26,64A::28 FC0B=62A::26,62C::26 FC0C=62A::26,62D::26 FC0D=62A::26,62E::26
FC0E=62A::26,645::26 FC0F=62A::26,649::27 FC10=62A::26,64A::28 FC11=62B::26,62C::26
FC12=62B::26,645::26 FC13=62B::26,649::27 FC14=62B::26,64A::28 FC15=62C::26,62D::26
FC16=62C::26,645::26 FC17=62D::26,62C::26 FC18=62D::26,645::26 FC19=62E::26,62C::26
FC1A=62E::26,62D::26 FC1B=62E::26,645::26 FC1C=633::26,62C::26 FC1D=633::26,62D::26
FC1E=633::26,62E::26 FC1F=633::26,645::26 FC20=635::26,62D::26 FC21=635::26,645::26
FC22=636::26,62C::26 FC23=636::26,62D::26 FC24=636::26,62E::26 FC25=636::26,645::26
FC26=637::26,62D::26 FC27=637::26,645::26 FC28=638::26,645::26 FC29=639::26,62C::26
FC2A=639::26,645::26 FC2B=63A::26,62C::26 FC2C=63A::26,645::26 FC2D=641::26,62C::26
FC2E=641::26,62D::26 FC2F=641::26,62E::26 FC30=641::26,645::26 FC31=641::26,649::27
FC32=641::26,64A::28 FC33=642::26,62D::26 FC34=642::26,645::26 FC35=642::26,649::27
FC36=642::26,64A::28 FC37=643::26,627::27 FC38=643::26,62C::26 FC39=643::26,62D::26
FC3A=643::26,62E::26 FC3B=643::26,644::26 FC3C=643::26,645::26 FC3D=643::26,649::27
FC3E=643::26,64A::28 FC3F=644::26,62C::26 FC40=644::26,62D::26 FC41=644::26,62E::26
FC42=644::26,645::26 FC43=644::26,649::27 FC44=644::26,64A::28 FC45=645::26,62C::26
FC46=645::26,62D::26 FC47=645::26,62E::26 FC48=645::26,645::26 FC49=645::26,649::27
FC4A=645::26,64A::28 FC4B=646::26,62C::26 FC4C=646::26,62D::26 FC4D=646::26,62E::26
FC4E=646::26,645::26 FC4F=646::26,649::27 FC50=646::26,64A::28 FC51=647::26,62C::26
FC52=647::26,645::26 FC53=647::26,649::27 FC54=647::26,64A::28 FC55=64A::28,62C::26
FC56=64A::28,62D::26 FC57=64A::28,62E::26 FC58=64A::28,645::26 FC59=64A::28,649::27
FC5A=64A::28,64A::28 FC5B=630::24,:133:24 FC5C=631::24,:133:24 FC5D=649::27,:133:24
FC5E=:93:16,:109:25 FC5F=:96:16,:109:25 FC60=:99:25,:109:25 FC61=:103:25,:109:25
FC62=:106:25,:109:25 FC63=:109:25,:133:24 FC64=64A+654::20,631::14 FC65=64A+654::20,632::14
FC66=64A+654::20,645::21 FC67=64A+654::20,646::21 FC68=64A+654::20,649::20
FC69=64A+654::20,64A::24 FC6A=628::21,631::14 FC6B=628::21,632::14 FC6C=628::21,645::21
FC6D=628::21,646::21 FC6E=628::21,649::20 FC6F=628::21,64A::24 FC70=62A::21,631::14
FC71=62A::21,632::14 FC72=62A::21,645::21 FC73=62A::21,646::21 FC74=62A::21,649::20
FC75=62A::21,64A::24 FC76=62B::21,631::14 FC77=62B::21,632::14 FC78=62B::21,645::21
FC79=62B::21,646::21 FC7A=62B::21,649::20 FC7B=62B::21,64A::24 FC7C=641::21,649::20
FC7D=641::21,64A::24 FC7E=642::21,649::20 FC7F=642::21,64A::24 FC80=643::21,627::20
FC81=643::21,644::21 FC82=643::21,645::21 FC83=643::21,649::20 FC84=643::21,64A::24
FC85=644::21,645::21 FC86=644::21,649::20 FC87=644::21,64A::24 FC88=645::21,627::20
FC89=645::21,645::21 FC8A=646::21,631::14 FC8B=646::21,632::14 FC8C=646::21,645::21
FC8D=646::21,646::21 FC8E=646::21,649::20 FC8F=646::21,64A::24 FC90=649::20,:133:14
FC91=64A::24,631::14 FC92=64A::24,632::14 FC93=64A::24,645::21 FC94=64A::24,646::21
FC95=64A::24,649::20 FC96=64A::24,64A::24 FC97=64A+654::3,62C::9 FC98=64A+654::3,62D::9
FC99=64A+654::3,62E::9 FC9A=64A+654::3,645::9 FC9B=64A+654::3,647::9 FC9C=628::9,62C::9
FC9D=628::9,62D::9 FC9E=628::9,62E::9 FC9F=628::9,645::9 FCA0=628::9,647::9 FCA1=62A::9,62C::9
FCA2=62A::9,62D::9 FCA3=62A::9,62E::9 FCA4=62A::9,645::9 FCA5=62A::9,647::9 FCA6=62B::9,645::9
FCA7=62C::9,62D::9 FCA8=62C::9,645::9 FCA9=62D::9,62C::9 FCAA=62D::9,645::9 FCAB=62E::9,62C::9
FCAC=62E::9,645::9 FCAD=633::9,62C::9 FCAE=633::9,62D::9 FCAF=633::9,62E::9 FCB0=633::9,645::9
FCB1=635::9,62D::9 FCB2=635::9,62E::9 FCB3=635::9,645::9 FCB4=636::9,62C::9 FCB5=636::9,62D::9
FCB6=636::9,62E::9 FCB7=636::9,645::9 FCB8=637::9,62D::9 FCB9=638::9,645::9 FCBA=639::9,62C::9
FCBB=639::9,645::9 FCBC=63A::9,62C::9 FCBD=63A::9,645::9 FCBE=641::9,62C::9 FCBF=641::9,62D::9
FCC0=641::9,62E::9 FCC1=641::9,645::9 FCC2=642::9,62D::9 FCC3=642::9,645::9 FCC4=643::9,62C::9
FCC5=643::9,62D::9 FCC6=643::9,62E::9 FCC7=643::9,644::9 FCC8=643::9,645::9 FCC9=644::9,62C::9
FCCA=644::9,62D::9 FCCB=644::9,62E::9 FCCC=644::9,645::9 FCCD=644::9,647::9 FCCE=645::9,62C::9
FCCF=645::9,62D::9 FCD0=645::9,62E::9 FCD1=645::9,645::9 FCD2=646::9,62C::9 FCD3=646::9,62D::9
FCD4=646::9,62E::9 FCD5=646::9,645::9 FCD6=646::9,647::9 FCD7=647::9,62C::9 FCD8=647::9,645::9
FCD9=647::9,:133:3 FCDA=64A::14,62C::9 FCDB=64A::14,62D::9 FCDC=64A::14,62E::9 FCDD=64A::14,645::9
FCDE=64A::14,647::9 FCDF=64A+654::12,645::16 FCE0=64A+654::12,647::16 FCE1=628::16,645::16
FCE2=628::16,647::16 FCE3=62A::16,645::16 FCE4=62A::16,647::16 FCE5=62B::16,645::16
FCE6=62B::16,647::16 FCE7=633::16,645::16 FCE8=633::16,647::16 FCE9=634::16,645::16
FCEA=634::16,647::16 FCEB=643::16,644::16 FCEC=643::16,645::16 FCED=644::16,645::16
FCEE=646::16,645::16 FCEF=646::16,647::16 FCF0=64A::19,645::16 FCF1=64A::19,647::16
FCF2=:99:16,:109:16 FCF3=:103:16,:109:16 FCF4=:106:16,:109:16 FCF5=637::26,649::27
FCF6=637::26,64A::28 FCF7=639::26,649::27 FCF8=639::26,64A::28 FCF9=63A::26,649::27
FCFA=63A::26,64A::28 FCFB=633::26,649::27 FCFC=633::26,64A::28 FCFD=634::26,649::27
FCFE=634::26,64A::28 FCFF=62D::26,649::27 FD00=62D::26,64A::28 FD01=62C::26,649::27
FD02=62C::26,64A::28 FD03=62E::26,649::27 FD04=62E::26,64A::28 FD05=635::26,649::27
FD06=635::26,64A::28 FD07=636::26,649::27 FD08=636::26,64A::28 FD09=634::26,62C::26
FD0A=634::26,62D::26 FD0B=634::26,62E::26 FD0C=634::26,645::26 FD0D=634::26,631::24
FD0E=633::26,631::24 FD0F=635::26,631::24 FD10=636::26,631::24 FD11=637::21,649::20
FD12=637::21,64A::24 FD13=639::21,649::20 FD14=639::21,64A::24 FD15=63A::21,649::20
FD16=63A::21,64A::24 FD17=633::21,649::20 FD18=633::21,64A::24 FD19=634::21,649::20
FD1A=634::21,64A::24 FD1B=62D::21,649::20 FD1C=62D::21,64A::24 FD1D=62C::21,649::20
FD1E=62C::21,64A::24 FD1F=62E::21,649::20 FD20=62E::21,64A::24 FD21=635::21,649::20
FD22=635::21,64A::24 FD23=636::21,649::20 FD24=636::21,64A::24 FD25=634::21,62C::21
FD26=634::21,62D::21 FD27=634::21,62E::21 FD28=634::21,645::21 FD29=634::21,631::14
FD2A=633::21,631::14 FD2B=635::21,631::14 FD2C=636::21,631::14 FD2D=634::9,62C::9
FD2E=634::9,62D::9 FD2F=634::9,62E::9 FD30=634::9,645::9 FD31=633::9,647::9 FD32=634::9,647::9
FD33=637::9,645::9 FD34=633::16,62C::16 FD35=633::16,62D::16 FD36=633::16,62E::16
FD37=634::16,62C::16 FD38=634::16,62D::16 FD39=634::16,62E::16 FD3A=637::16,645::16
FD3B=638::16,645::16 FD3C=627::20,:90:14 FD3D=627::27,:90:24 FD50=62A::9,62C::9,645::9
FD51=62A::21,62D::21,62C::21 FD52=62A::9,62D::9,62C::9 FD53=62A::9,62D::9,645::9
FD54=62A::9,62E::9,645::9 FD55=62A::9,645::9,62C::9 FD56=62A::9,645::9,62D::9
FD57=62A::9,645::9,62E::9 FD58=62C::21,645::21,62D::21 FD59=62C::9,645::9,62D::9
FD5A=62D::21,645::21,64A::24 FD5B=62D::21,645::21,649::20 FD5C=633::9,62D::9,62C::9
FD5D=633::9,62C::9,62D::9 FD5E=633::21,62C::21,649::20 FD5F=633::21,645::21,62D::21
FD60=633::9,645::9,62D::9 FD61=633::9,645::9,62C::9 FD62=633::21,645::21,645::21
FD63=633::9,645::9,645::9 FD64=635::21,62D::21,62D::21 FD65=635::9,62D::9,62D::9
FD66=635::21,645::21,645::21 FD67=634::21,62D::21,645::21 FD68=634::9,62D::9,645::9
FD69=634::21,62C::21,64A::24 FD6A=634::21,645::21,62E::21 FD6B=634::9,645::9,62E::9
FD6C=634::21,645::21,645::21 FD6D=634::9,645::9,645::9 FD6E=636::21,62D::21,649::20
FD6F=636::21,62E::21,645::21 FD70=636::9,62E::9,645::9 FD71=637::21,645::21,62D::21
FD72=637::9,645::9,62D::9 FD73=637::9,645::9,645::9 FD74=637::21,645::21,64A::24
FD75=639::21,62C::21,645::21 FD76=639::21,645::21,645::21 FD77=639::9,645::9,645::9
FD78=639::21,645::21,649::20 FD79=63A::21,645::21,645::21 FD7A=63A::21,645::21,64A::24
FD7B=63A::21,645::21,649::20 FD7C=641::21,62E::21,645::21 FD7D=641::9,62E::9,645::9
FD7E=642::21,645::21,62D::21 FD7F=642::21,645::21,645::21 FD80=644::21,62D::21,645::21
FD81=644::21,62D::21,64A::24 FD82=644::21,62D::21,649::20 FD83=644::9,62C::9,62C::9
FD84=644::21,62C::21,62C::21 FD85=644::21,62E::21,645::21 FD86=644::9,62E::9,645::9
FD87=644::21,645::21,62D::21 FD88=644::9,645::9,62D::9 FD89=645::9,62D::9,62C::9
FD8A=645::9,62D::9,645::9 FD8B=645::21,62D::21,64A::24 FD8C=645::9,62C::9,62D::9
FD8D=645::9,62C::9,645::9 FD8E=645::9,62E::9,62C::9 FD8F=645::9,62E::9,645::9
FD92=645::9,62C::9,62E::9 FD93=647::9,645::9,62C::9 FD94=647::9,645::9,645::9
FD95=646::9,62D::9,645::9 FD96=646::21,62D::21,649::20 FD97=646::21,62C::21,645::21
FD98=646::9,62C::9,645::9 FD99=646::21,62C::21,649::20 FD9A=646::21,645::21,64A::24
FD9B=646::21,645::21,649::20 FD9C=64A::24,645::21,645::21 FD9D=64A::14,645::9,645::9
FD9E=628::21,62E::21,64A::24 FD9F=62A::21,62C::21,64A::24 FDA0=62A::21,62C::21,649::20
FDA1=62A::21,62E::21,64A::24 FDA2=62A::21,62E::21,649::20 FDA3=62A::21,645::21,64A::24
FDA4=62A::21,645::21,649::20 FDA5=62C::21,645::21,64A::24 FDA6=62C::21,62D::21,649::20
FDA7=62C::21,645::21,649::20 FDA8=633::21,62E::21,649::20 FDA9=635::21,62D::21,64A::24
FDAA=634::21,62D::21,64A::24 FDAB=636::21,62D::21,64A::24 FDAC=644::21,62C::21,64A::24
FDAD=644::21,645::21,64A::24 FDAE=64A::24,62D::21,64A::24 FDAF=64A::24,62C::21,64A::24
FDB0=64A::24,645::21,64A::24 FDB1=645::21,645::21,64A::24 FDB2=642::21,645::21,64A::24
FDB3=646::21,62D::21,64A::24 FDB4=642::9,645::9,62D::9 FDB5=644::9,62D::9,645::9
FDB6=639::21,645::21,64A::24 FDB7=643::21,645::21,64A::24 FDB8=646::9,62C::9,62D::9
FDB9=645::21,62E::21,64A::24 FDBA=644::9,62C::9,645::9 FDBB=643::21,645::21,645::21
FDBC=644::21,62C::21,645::21 FDBD=646::21,62C::21,62D::21 FDBE=62C::21,62D::21,64A::24
FDBF=62D::21,62C::21,64A::24 FDC0=645::21,62C::21,64A::24 FDC1=641::21,645::21,64A::24
FDC2=628::21,62D::21,64A::24 FDC3=643::9,645::9,645::9 FDC4=639::9,62C::9,645::9
FDC5=635::9,645::9,645::9 FDC6=633::21,62E::21,64A::24 FDC7=646::21,62C::21,64A::24
FDF0=635::26,644::26,6D2::25 FDF1=642::26,644::26,6D2::25 FDF2=627::27,644::26,644::26,647::26
FDF3=627::27,643::26,628::26,631::24 FDF4=645::26,62D::26,645::26,62F::24
FDF5=635::26,644::26,639::26,645::26 FDF6=631::24,633::26,648::27,644::26
FDF7=639::26,644::26,64A::28,647::26 FDF8=648::27,633::26,644::26,645::26
FDF9=635::26,644::26,649::27
FDFA=635::26,644::26,649::27,20::16,627::27,644::26,644::26,647::26,20::16,639::26,644::26,64A::28,647::26,20::16,648::27,633::26,644::26,645::26
FDFB=62C::26,644::26,20::16,62C::26,644::26,627::27,644::26,647::26 FE10=2C::27 FE11=3001::24
FE12=3002::25 FE13=3A::27 FE14=3B::24 FE15=21::21 FE16=3F::27 FE17-FE18=3016::16
FE19=2E::21,2E::21,2E::21 FE20=:60 FE22=:59 FE27=:33 FE29=:59 FE2E=:61 FE30=2E::21,2E::21
FE31=2014::25 FE32=2013::16 FE33=5F::24 FE34=5F::24 FE35-FE36=28::28 FE37=7B::24 FE38=7D::24
FE39-FE3A=3014::24 FE3B-FE3C=3010::16 FE3D-FE3E=300A::16 FE3F-FE40=3008::16 FE41-FE42=300C::25
FE43-FE44=300E::16 FE47=5B::25 FE48=5D::25 FE49=203E::16 FE4A=203E::16 FE4B=203E::16 FE4C=203E::16
FE4D=5F::14 FE4E=5F::14 FE4F=5F::14 FE50=2C::20 FE51=3001::3 FE52=2E::16 FE54=3B::14 FE55=3A::20
FE56=3F::20 FE57=21::16 FE58=2014::16 FE59-FE5A=28::14 FE5B=7B::14 FE5C=7D::14 FE5D-FE5E=3014::14
FE5F=23::25 FE60=26::25 FE61=2A::25 FE62=2B::16 FE63=2D::25 FE64=3C::25 FE65=3E::25 FE66=3D::16
FE68=5C::25 FE69-FE6A=24::25 FE6B=40::25 FE70=:90:24 FE71=:90:3 FE72=:93:16 FE74=:96:16
FE76=:99:25 FE77=:99:16 FE78=:103:25 FE79=:103:16 FE7A=:106:25 FE7B=:106:16 FE7C=:109:25
FE7D=:109:16 FE7E=:110:25 FE7F=:110:16 FE80=621::25 FE81=627+653::25 FE82=627+653::16
FE83=627+654::25 FE84=627+654::16 FE85=648+654::25 FE86=648+654::16 FE87=627+655::25
FE88=627+655::16 FE89=64A+654::27 FE8A=64A+654::20 FE8B=64A+654::3 FE8C=64A+654::12 FE8D=627::27
FE8E=627::20 FE8F=628::26 FE90=628::21 FE91=628::9 FE92=628::16 FE93=629::25 FE94=629::16
FE95=62A::26 FE96=62A::21 FE97=62A::9 FE98=62A::16 FE99=62B::26 FE9A=62B::21 FE9B=62B::9
FE9C=62B::16 FE9D=62C::26 FE9E=62C::21 FE9F=62C::9 FEA0=62C::16 FEA1=62D::26 FEA2=62D::21
FEA3=62D::9 FEA4=62D::16 FEA5=62E::26 FEA6=62E::21 FEA7=62E::9 FEA8=62E::16 FEA9=62F::24
FEAA=62F::14 FEAB=630::24 FEAC=630::14 FEAD=631::24 FEAE=631::14 FEAF=632::24 FEB0=632::14
FEB1=633::26 FEB2=633::21 FEB3=633::9 FEB4=633::16 FEB5=634::26 FEB6=634::21 FEB7=634::9
FEB8=634::16 FEB9=635::26 FEBA=635::21 FEBB=635::9 FEBC=635::16 FEBD=636::26 FEBE=636::21
FEBF=636::9 FEC0=636::16 FEC1=637::26 FEC2=637::21 FEC3=637::9 FEC4=637::16 FEC5=638::26
FEC6=638::21 FEC7=638::9 FEC8=638::16 FEC9=639::26 FECA=639::21 FECB=639::9 FECC=639::16
FECD=63A::26 FECE=63A::21 FECF=63A::9 FED0=63A::16 FED1=641::26 FED2=641::21 FED3=641::9
FED4=641::16 FED5=642::26 FED6=642::21 FED7=642::9 FED8=642::16 FED9=643::26 FEDA=643::21
FEDB=643::9 FEDC=643::16 FEDD=644::26 FEDE=644::21 FEDF=644::9 FEE0=644::16 FEE1=645::26
FEE2=645::21 FEE3=645::9 FEE4=645::16 FEE5=646::26 FEE6=646::21 FEE7=646::9 FEE8=646::16
FEE9=647::26 FEEA=647::21 FEEB=647::9 FEEC=647::16 FEED=648::27 FEEE=648::20 FEEF=649::27
FEF0=649::20 FEF1=64A::28 FEF2=64A::24 FEF3=64A::14 FEF4=64A::19 FEF5=644::26,627+653::25
FEF6=644::21,627+653::16 FEF7=644::26,627+654::25 FEF8=644::21,627+654::16
FEF9=644::26,627+655::25 FEFA=644::21,627+655::16 FEFB=644::26,627::27 FEFC=644::21,627::20
FF01=21::3 FF02-FF07=22::16 FF08-FF09=28::3 FF0A=2A::16 FF0B-FF0C=2B::3 FF0D=2D::16 FF0E=2E::3
FF0F=2F::16 FF10-FF1B=30::3 FF1C=3C::16 FF1D=3D::3 FF1E=3E::16 FF1F=3F::3 FF20=40::16
FF21-FF36=61::15 FF37=77::18 FF38-FF3A=78::15 FF3B-FF3E=5B::16 FF3F=5F::3 FF40=60::16
FF41-FF5B=61::3 FF5C=7C::16 FF5D=7D::3 FF5E=7E::16 FF5F-FF60=2985::16 FF61=3002::16
FF62-FF63=300C::16 FF64=3001::14 FF65=30FB::16 FF66=3092::20 FF67=3042::8 FF68=3044::8
FF69=3046::8 FF6A=3048::8 FF6B=304A::8 FF6C=3084::8 FF6D=3086::8 FF6E=3088::7 FF6F=3064::8
FF70=30FC::16 FF71=3042::19 FF72=3044::19 FF73=3046::19 FF74=3048::19 FF75=304A::19 FF76=304B::16
FF77=304D::12 FF78=304F::16 FF79=3051::16 FF7A=3053::14 FF7B=3055::12 FF7C=3057::16 FF7D=3059::16
FF7E=305B::12 FF7F=305D::12 FF80=305F::12 FF81=3061::12 FF82=3064::19 FF83=3066::12 FF84=3068::14
FF85-FF86=306A::12 FF87=306C::20 FF88-FF89=306D::12 FF8A=306F::16 FF8B=3072::16 FF8C=3075::16
FF8D=3078::16 FF8E=307B::16 FF8F-FF90=307E::12 FF91=3080::16 FF92=3081::12 FF93=3082::14
FF94=3084::19 FF95=3086::19 FF96=3088::17 FF97=3089::16 FF98=308A::14 FF99-FF9B=308B::16
FF9C=308F::16 FF9D=3093::20 FF9E=:36:16 FF9F=:37:16 FFA0=1160::25 FFA1=1100::24 FFA2=1101::25
FFA3=11AA::25 FFA4=1102::24 FFA5-FFA6=11AC::25 FFA7=1103::24 FFA8=1104::25 FFA9=1105::24
FFAA-FFAF=11B0::25 FFB0=111A::25 FFB1-FFB2=1106::24 FFB3=1108::25 FFB4=1121::25 FFB5=1109::24
FFB6=110A::25 FFB7-FFB8=110B::24 FFB9=110D::25 FFBA-FFBE=110E::24 FFC2=1161::24 FFC3-FFC7=1162::25
FFCA-FFCB=1167::25 FFCC=1169::24 FFCD-FFCF=116A::25 FFD2=116D::25 FFD3=116E::24 FFD4-FFD7=116F::25
FFDA=1173::25 FFDB=1174::24 FFDC=1175::25 FFE0-FFE1=A2::16 FFE2=AC::16 FFE3=AF::16 FFE4=A6::16
FFE5=A5::16 FFE6=20A9::16 FFE8=2502::16 FFE9-FFEC=2190::16 FFED=25A0::16 FFEE=25CB::16
10107-1010F=31 10142=31 10143=35 10148=35 1014F=35 10158=31 10159=31 1015A-1015B=31 1015C=32
1015D=32 1015E=32 1015F=35 10173=35 1018A=30 101FD=:33 102E1-102E9=31 10320=31 10321=35
10376=10350::16 10377=10353::16 10378=10357::16 10379=1035D::16 1037A=10361::16 103D1-103D2=31
10400-10427=10428::16 104A0-104A9=30 104B0-104D3=104D8::16 10570-1057A=10597::16
1057C-1058A=105A3::16 1058C-10592=105B3::16 10594-10595=105BB::16 10780=61::23,61::23
10781-10782=2D0::16 10783=61:2:25,65::23 10784=299::16 10785=253::25 10787=64::23,7A::23
10788=64::23,290::25 10789=64::23,291::25 1078A=64::23,292::24 1078B-1078C=256::25 1078D=1D91::16
1078E=258::16 1078F=25E::16 10790=66::23,14B::24 10791=264::25 10792=262::25 10793=260::25
10794=29B::16 10795=68::23,:38:16 10796=29C::16 10797=267::16 10798=284::16 10799=6C::23,73::23
1079A=6C::23,7A::23 1079B=26C::25 1079C=1DF04::16 1079D=A78E::16 1079E=26E::16 1079F=1DF05::16
107A0=28E::16 107A1=1DF06::16 107A2=6F::23,:28:16 107A3-107A4=276::16 107A5=71::23 107A6=27A::16
107A7=1DF08::16 107A8=27D::25 107A9=27E::16 107AA=280::24 107AB=74::23,255::25 107AC=74::23,73::23
107AD=74::23,282::24 107AE=74::23,283::24 107AF=288::25 107B0=2C71::16 107B2=28F::16
107B3-107B4=2A1::16 107B5=298::16 107B6-107B8=1C0::16 107B9=1DF0A::16 107BA=1DF1E::16
10858-1085A=31 1086D=1086E::16 10879-1087D=31 10880=10881::16 10882=10883::16 10886=10887::16
1088C=1088D::16 1088E=1088F::16 10890=10891::16 10892=10893::16 10894=10895::16 1089C=1089D::16
108A7-108AA=31 108AB-108AC=34 108FB=31 108FC=35 10916=31 1091A-1091B=32 10980-10986=109A0:2
10987=109A6:8 10988-1098A=109A7:2 1098B=109A9:8 1098C=109AA:2 1098D=109AA:8 1098E=109AB:2
1098F=109AB:8 10990-10992=109AC:2 10993=109AF:6 10994=109AF:10 10995-10998=109B1:2 10999=109B4:8
1099A=109B5:2 1099B=109B5:8 1099C-1099D=109B6:2 109B0=109AF:2 109C0-109C8=31 10A0D=:33 10A0E=:177
10A0F=:178 10A38=:186 10A39=:187 10A3A=:188 10A40-10A43=31 10A7D=31 10A9D=31 10AC8=10AC7:2
10AE5=:32 10AE6=:33 10AEB=31 10AEC=35 10B2E=10B2D:2 10B58-10B5B=31 10B78-10B7B=31 10BA9-10BAC=31
10C01=10C00:2 10C04=10C03:2 10C08=10C07:2 10C0A=10C09:2 10C0C=10C0B:2 10C0E=10C0D:2 10C10=10C0F:2
10C12=10C11:2 10C15=10C14:2 10C17=10C16:2 10C19=10C18:2 10C1B=10C1A:2 10C1D=10C1C:2 10C1F=10C1E:2
10C25=10C24:2 10C27=10C26:2 10C29=10C28:2 10C2B=10C2A:2 10C2E=10C2D:2 10C33=10C32:2 10C35=10C34:2
10C37=10C36:2 10C39=10C38:2 10C3B=10C3A:2 10C40=10C3F:2 10C42=10C41:2 10C44=10C43:2 10C46=10C45:2
10C80=10CC0::16 10C81=10CC0:2:16 10C82-10C89=10CC2::16 10C8A=10CC9:2:16 10C8B=10CC9:8:16
10C8C-10C90=10CCC::16 10C91=10CD0:2:16 10C92-10C9B=10CD2::16 10C9C=10CDB:2:16 10C9D=10CDD::16
10C9E=10CDD:2:16 10C9F=10CDD:8:16 10CA0-10CA2=10CE0::16 10CA3=10CE2:2:16 10CA4-10CAA=10CE4::16
10CAB=10CEA:2:16 10CAC=10CEC::16 10CAD=10CEC:2:16 10CAE-10CB2=10CEE::16 10CC1=10CC0:2
10CCA=10CC9:2 10CCB=10CC9:8 10CD1=10CD0:2 10CDC=10CDB:2 10CDE=10CDD:2 10CDF=10CDD:8 10CE3=10CE2:2
10CEB=10CEA:2 10CED=10CEC:2 10CFA=31 10CFB=35 10D24-10D27=:32 10D30-10D39=30 10E60-10E68=31
10EAB=:112 10EAC=:111 10F01=10F00::16 10F03=10F02::16 10F06=10F05::16 10F0F=10F0E::16
10F10=10F0E:2 10F13=10F12:2 10F16=10F15::16 10F17=10F15:2 10F1B=10F1A::16 10F1C=10F1A:2
10F1D-10F21=31 10F27=10F12::16,10F18::16 10F45=10F41:2 10F46-10F47=:33 10F48-10F4A=:32 10F4B=:33
10F4C=:32 10F4D-10F50=:33 10F51=31 10F82=:32 10F83=:33 10F84=:32 10F85=:33 10FC5-10FC8=31
10FF6=10FE6::16,10FE9::16 11000=:176 11001=:177 11002=:178 11052-1105A=31 11066-1106F=30
11080=:176 11081=:177 11082=:178 110BA=:175 110F0-110F9=30 11100=:176 11101=:177 11102=:178
11136-1113F=30 11173=:175 11180=:176 11181=:177 11182=:178 111C9=:179 111CA=:175 111CB=:189
111CC=:190 111CF=:176 111D0-111D9=30 111E1-111E9=31 11234=:177 11236=:175 11237=:109 1123E=:110
112DF=:177 112E9=:175 112F0-112F9=30 11300=:177 11301=:176 11302=:177 11303=:178 1133B-1133C=:175
11443=:176 11444=:177 11445=:178 11446=:175 11450-11459=30 1145E=:179 114BF=:176 114C0=:177
114C1=:178 114C3=:175 114D0-114D9=30 115BC=:176 115BD=:177 115BE=:178 115C0=:175 115D8=11582:2
115D9=11582:8 115DA-115DB=11583:2 115DC-115DD=115B2:2 1163D=:177 1163E=:178 11640=:176
11650-11659=30 116AB=:177 116AC=:178 116B7=:175 116C0-116C9=30 11705=11704:2 11716=11715:2
1171A=11708:2 11730-11739=30 11837=:177 11838=:178 1183A=:175 118A0-118BF=118C0::16 118E0-118E9=30
1193B=:177 1193C=:176 11943=:175 11950-11959=30 119DE=:177 119DF=:178 11A33=:175 11A35-11A37=:176
11A38=:177 11A39=:178 11A3A=11A2B::16 11A3B=11A2A::16 11A3C=11A2B::25 11A3D-11A3E=11A2C::16
11A86-11A87=11A7C::16 11A88=11A7F::16 11A89=11A81::16 11A8A-11A8B=11A5C::16 11A8C=11A60::16
11A8D=11A6B::16 11A8E-11A8F=11A6F::16 11A90=11A74::16 11A91-11A92=11A7C::25 11A93=11A7F::25
11A94=11A81::25 11A95=11A7A::16 11A96=:177 11A97=:178 11A98=:191 11C3C=:176 11C3D=:177 11C3E=:178
11C50-11C59=30 11C5A-11C62=31 11CB5=:177 11CB6=:176 11D40=:177 11D41=:178 11D42=:175 11D43=:176
11D46=11D26::16 11D47=11D26::25 11D50-11D59=30 11D95=:177 11D96=:178 11DA0-11DA9=30 11F00=:176
11F01=:177 11F03=:178 11F50-11F59=30 12400-12407=32 12408-1240E=33 1240F-12414=34 12415-1241D=31
1241E-12422=31 12423-12424=32 12425-1242B=33 1242C-1242E=31 1242F-12431=33 12434-12436=31
12437-12439=33 1243A=33 1243B-1243C=33 1243D=34 1243E=34 1243F=34 12440-12441=36 12442=37
12443-12444=37 12445-12446=38 12447=39 12448=39 12449=39 1244A-1244E=32 1244F-12452=31
12453-12454=34 12455=35 12456-12457=32 12458-12459=31 12469-1246E=34 16A60-16A69=30 16AC0-16AC9=30
16AF0=:165 16AF1=:166 16AF2=:167 16AF3=:168 16AF4=:169 16B30=:228 16B31=:229 16B32=:230 16B33=:231
16B34=:232 16B35=:233 16B36=:234 16B50-16B59=30 16E40-16E5F=16E60::16 16E80-16E89=30
16E94-16E96=31:2 16F06=16F04::16 16F13=16F10::16 16F25=16F23::16 16F3F=16F3D::16 16FF0=:249
16FF1=:250 1B122=1B11F::16 1B132=3053::1 1B150-1B152=3090::1 1B155=3053::3 1B164-1B167=3090::3
1BC9D=:32 1BC9E=:34 1D2C0-1D2C9=30 1D2E0-1D2E9=30 1D360-1D368=31 1D372-1D376=31 1D377=31 1D378=35
1D400-1D415=61::19 1D416=77::24 1D417-1D419=78::19 1D41A-1D42F=61::7 1D430=77::9 1D431-1D433=78::7
1D434-1D449=61::19 1D44A=77::24 1D44B-1D44D=78::19 1D44E-1D454=61::7 1D456-1D463=69::7 1D464=77::9
1D465-1D467=78::7 1D468-1D47D=61::19 1D47E=77::24 1D47F-1D481=78::19 1D482-1D497=61::7 1D498=77::9
1D499-1D49B=78::7 1D49C=61::19 1D49E-1D49F=63::19 1D4A2=67::19 1D4A5-1D4A6=6A::19
1D4A9-1D4AC=6E::19 1D4AE-1D4B1=73::19 1D4B2=77::24 1D4B3-1D4B5=78::19 1D4B6-1D4B9=61::7
1D4BB=66::7 1D4BD-1D4C3=68::7 1D4C5-1D4CB=70::7 1D4CC=77::9 1D4CD-1D4CF=78::7 1D4D0-1D4E5=61::19
1D4E6=77::24 1D4E7-1D4E9=78::19 1D4EA-1D4FF=61::7 1D500=77::9 1D501-1D503=78::7 1D504-1D505=61::19
1D507-1D50A=64::19 1D50D-1D514=6A::19 1D516-1D519=73::19 1D51A=77::24 1D51B-1D51C=78::19
1D51E-1D533=61::7 1D534=77::9 1D535-1D537=78::7 1D538-1D539=61::19 1D53B-1D53E=64::19
1D540-1D544=69::19 1D546=6F::19 1D54A-1D54D=73::19 1D54E=77::24 1D54F-1D550=78::19
1D552-1D567=61::7 1D568=77::9 1D569-1D56B=78::7 1D56C-1D581=61::19 1D582=77::24 1D583-1D585=78::19
1D586-1D59B=61::7 1D59C=77::9 1D59D-1D59F=78::7 1D5A0-1D5B5=61::19 1D5B6=77::24 1D5B7-1D5B9=78::19
1D5BA-1D5CF=61::7 1D5D0=77::9 1D5D1-1D5D3=78::7 1D5D4-1D5E9=61::19 1D5EA=77::24 1D5EB-1D5ED=78::19
1D5EE-1D603=61::7 1D604=77::9 1D605-1D607=78::7 1D608-1D61D=61::19 1D61E=77::24 1D61F-1D621=78::19
1D622-1D637=61::7 1D638=77::9 1D639-1D63B=78::7 1D63C-1D651=61::19 1D652=77::24 1D653-1D655=78::19
1D656-1D66B=61::7 1D66C=77::9 1D66D-1D66F=78::7 1D670-1D685=61::19 1D686=77::24 1D687-1D689=78::19
1D68A-1D69F=61::7 1D6A0=77::9 1D6A1-1D6A3=78::7 1D6A4=131::16 1D6A5=237::16 1D6A8=3B1::27
1D6A9=3B2::19 1D6AA=3B3::16 1D6AB=3B4::20 1D6AC=3B5::27 1D6AD-1D6AF=3B6::24 1D6B0=3B9::27
1D6B1=3BA::26 1D6B2=3BB::24 1D6B3=3BC::21 1D6B4-1D6B6=3BD::24 1D6B7=3C0::27 1D6B8=3C1::21
1D6B9=3B8::24 1D6BA-1D6BB=3C3::24 1D6BC=3C5::27 1D6BD=3C6::19 1D6BE=3C7::16 1D6BF=3C8::24
1D6C0=3C9::20 1D6C1=2207::16 1D6C2=3B1::12 1D6C3=3B2::8 1D6C4-1D6C5=3B3::3 1D6C6=3B5::12
1D6C7-1D6C8=3B6::3 1D6C9=3B8::8 1D6CA=3B9::12 1D6CB=3BA::9 1D6CC=3BB::3 1D6CD=3BC::9
1D6CE-1D6D0=3BD::3 1D6D1=3C0::12 1D6D2=3C1::9 1D6D3=3C3::8 1D6D4=3C3::8 1D6D5-1D6D6=3C4::3
1D6D7=3C6::8 1D6D8-1D6DA=3C7::3 1D6DB=2202::16 1D6DC=3B5::12 1D6DD=3B8::8 1D6DE=3BA::9
1D6DF=3C6::8 1D6E0=3C1::9 1D6E1=3C0::12 1D6E2=3B1::27 1D6E3=3B2::19 1D6E4=3B3::16 1D6E5=3B4::20
1D6E6=3B5::27 1D6E7-1D6E9=3B6::24 1D6EA=3B9::27 1D6EB=3BA::26 1D6EC=3BB::24 1D6ED=3BC::21
1D6EE-1D6F0=3BD::24 1D6F1=3C0::27 1D6F2=3C1::21 1D6F3=3B8::24 1D6F4-1D6F5=3C3::24 1D6F6=3C5::27
1D6F7=3C6::19 1D6F8=3C7::16 1D6F9=3C8::24 1D6FA=3C9::20 1D6FB=2207::16 1D6FC=3B1::12 1D6FD=3B2::8
1D6FE-1D6FF=3B3::3 1D700=3B5::12 1D701-1D702=3B6::3 1D703=3B8::8 1D704=3B9::12 1D705=3BA::9
1D706=3BB::3 1D707=3BC::9 1D708-1D70A=3BD::3 1D70B=3C0::12 1D70C=3C1::9 1D70D=3C3::8 1D70E=3C3::8
1D70F-1D710=3C4::3 1D711=3C6::8 1D712-1D714=3C7::3 1D715=2202::16 1D716=3B5::12 1D717=3B8::8
1D718=3BA::9 1D719=3C6::8 1D71A=3C1::9 1D71B=3C0::12 1D71C=3B1::27 1D71D=3B2::19 1D71E=3B3::16
1D71F=3B4::20 1D720=3B5::27 1D721-1D723=3B6::24 1D724=3B9::27 1D725=3BA::26 1D726=3BB::24
1D727=3BC::21 1D728-1D72A=3BD::24 1D72B=3C0::27 1D72C=3C1::21 1D72D=3B8::24 1D72E-1D72F=3C3::24
1D730=3C5::27 1D731=3C6::19 1D732=3C7::16 1D733=3C8::24 1D734=3C9::20 1D735=2207::16 1D736=3B1::12
1D737=3B2::8 1D738-1D739=3B3::3 1D73A=3B5::12 1D73B-1D73C=3B6::3 1D73D=3B8::8 1D73E=3B9::12
1D73F=3BA::9 1D740=3BB::3 1D741=3BC::9 1D742-1D744=3BD::3 1D745=3C0::12 1D746=3C1::9 1D747=3C3::8
1D748=3C3::8 1D749-1D74A=3C4::3 1D74B=3C6::8 1D74C-1D74E=3C7::3 1D74F=2202::16 1D750=3B5::12
1D751=3B8::8 1D752=3BA::9 1D753=3C6::8 1D754=3C1::9 1D755=3C0::12 1D756=3B1::27 1D757=3B2::19
1D758=3B3::16 1D759=3B4::20 1D75A=3B5::27 1D75B-1D75D=3B6::24 1D75E=3B9::27 1D75F=3BA::26
1D760=3BB::24 1D761=3BC::21 1D762-1D764=3BD::24 1D765=3C0::27 1D766=3C1::21 1D767=3B8::24
1D768-1D769=3C3::24 1D76A=3C5::27 1D76B=3C6::19 1D76C=3C7::16 1D76D=3C8::24 1D76E=3C9::20
1D76F=2207::16 1D770=3B1::12 1D771=3B2::8 1D772-1D773=3B3::3 1D774=3B5::12 1D775-1D776=3B6::3
1D777=3B8::8 1D778=3B9::12 1D779=3BA::9 1D77A=3BB::3 1D77B=3BC::9 1D77C-1D77E=3BD::3 1D77F=3C0::12
1D780=3C1::9 1D781=3C3::8 1D782=3C3::8 1D783-1D784=3C4::3 1D785=3C6::8 1D786-1D788=3C7::3
1D789=2202::16 1D78A=3B5::12 1D78B=3B8::8 1D78C=3BA::9 1D78D=3C6::8 1D78E=3C1::9 1D78F=3C0::12
1D790=3B1::27 1D791=3B2::19 1D792=3B3::16 1D793=3B4::20 1D794=3B5::27 1D795-1D797=3B6::24
1D798=3B9::27 1D799=3BA::26 1D79A=3BB::24 1D79B=3BC::21 1D79C-1D79E=3BD::24 1D79F=3C0::27
1D7A0=3C1::21 1D7A1=3B8::24 1D7A2-1D7A3=3C3::24 1D7A4=3C5::27 1D7A5=3C6::19 1D7A6=3C7::16
1D7A7=3C8::24 1D7A8=3C9::20 1D7A9=2207::16 1D7AA=3B1::12 1D7AB=3B2::8 1D7AC-1D7AD=3B3::3
1D7AE=3B5::12 1D7AF-1D7B0=3B6::3 1D7B1=3B8::8 1D7B2=3B9::12 1D7B3=3BA::9 1D7B4=3BB::3 1D7B5=3BC::9
1D7B6-1D7B8=3BD::3 1D7B9=3C0::12 1D7BA=3C1::9 1D7BB=3C3::8 1D7BC=3C3::8 1D7BD-1D7BE=3C4::3
1D7BF=3C6::8 1D7C0-1D7C2=3C7::3 1D7C3=2202::16 1D7C4=3B5::12 1D7C5=3B8::8 1D7C6=3BA::9
1D7C7=3C6::8 1D7C8=3C1::9 1D7C9=3C0::12 1D7CA=3DD::24 1D7CB=3DD::3 1D7CE-1D7D6=30::11 1D7D7=39::13
1D7D8-1D7E0=30::11 1D7E1=39::13 1D7E2-1D7EA=30::11 1D7EB=39::13 1D7EC-1D7F4=30::11 1D7F5=39::13
1D7F6-1D7FE=30::11 1D7FF=39::13 1DF00=66:8,14B::3 1DF12=64::4,1DF18::16 1DF17=74::4,1D8B::16
1DF19=64::4,1D9A::16 1DF1C=74::4,1D98::16 1E000-1E006=2C30::16 1E008-1E018=2C38::16
1E01B-1E021=2C4B::16 1E023-1E024=2C53::16 1E026-1E02A=2C56::16 1E030-1E038=430::20
1E039-1E03A=43A::20 1E03B=43C::24 1E03C=43E::21 1E03D=43F::20 1E03E=440::24 1E03F=441::20
1E040=442::24 1E041-1E046=443::20 1E047=44B::20 1E048=44D::25 1E049=44E::24 1E04A=A689::25
1E04B=4D9::25 1E04C=456::20 1E04D=458::25 1E04E=4E9::25 1E04F=4AF::25 1E050=4CF::25
1E051-1E059=430::27 1E05A-1E05B=43A::27 1E05C=43E::26 1E05D=43F::27 1E05E=441::27
1E05F-1E064=443::27 1E065-1E066=44A::27 1E067=433:2 1E068=456::27 1E069=455::25 1E06A=45F::25
1E06B=4AB::25 1E06C=A651::25 1E06D=4B1::25 1E08F=456::3 1E130=:232 1E131=:228 1E132=:230
1E133=:231 1E134=:233 1E135=:234 1E136=:229 1E140-1E149=30 1E2AE=:32 1E2EC=:235 1E2ED=:236
1E2EE=:237 1E2EF=:238 1E2F0-1E2F9=30 1E4EC=:239 1E4ED=:240 1E4EE=:241 1E4EF=:242 1E4F0-1E4F9=30
1E8C7-1E8CF=31 1E900-1E921=1E922::16 1E944-1E946=:170 1E947=:172 1E948=:173 1E949=:174 1E94A=:171
1E950-1E959=30 1EC71-1EC79=31 1ECA3-1ECAB=31 1ECB1-1ECB2=31:2 1ED01-1ED09=31 1ED2F=32:2
1ED30=33:2:16 1ED31-1ED36=34:2 1EE00=627::12 1EE01=628::3 1EE02=62C::3 1EE03=62F::3 1EE05=648::12
1EE06=632::3 1EE07=62D::3 1EE08=637::3 1EE09=64A::8 1EE0A-1EE0D=643::3 1EE0E=633::3 1EE0F=639::3
1EE10=641::3 1EE11=635::3 1EE12=642::3 1EE13=631::3 1EE14=634::3 1EE15-1EE16=62A::3 1EE17=62E::3
1EE18=630::3 1EE19=636::3 1EE1A=638::3 1EE1B=63A::3 1EE1C=66E::16 1EE1D=6BA::3 1EE1E=6A1::16
1EE1F=66F::16 1EE21=628::3 1EE22=62C::3 1EE24=647::3 1EE27=62D::3 1EE29=64A::8 1EE2A-1EE2D=643::3
1EE2E=633::3 1EE2F=639::3 1EE30=641::3 1EE31=635::3 1EE32=642::3 1EE34=634::3 1EE35-1EE36=62A::3
1EE37=62E::3 1EE39=636::3 1EE3B=63A::3 1EE42=62C::3 1EE47=62D::3 1EE49=64A::8 1EE4B=644::3
1EE4D=646::3 1EE4E=633::3 1EE4F=639::3 1EE51=635::3 1EE52=642::3 1EE54=634::3 1EE57=62E::3
1EE59=636::3 1EE5B=63A::3 1EE5D=6BA::3 1EE5F=66F::16 1EE61=628::3 1EE62=62C::3 1EE64=647::3
1EE67=62D::3 1EE68=637::3 1EE69=64A::8 1EE6A=643::3 1EE6C-1EE6D=645::3 1EE6E=633::3 1EE6F=639::3
1EE70=641::3 1EE71=635::3 1EE72=642::3 1EE74=634::3 1EE75-1EE76=62A::3 1EE77=62E::3 1EE79=636::3
1EE7A=638::3 1EE7B=63A::3 1EE7C=66E::16 1EE7E=6A1::16 1EE80=627::12 1EE81=628::3 1EE82=62C::3
1EE83=62F::3 1EE84=647::3 1EE85=648::12 1EE86=632::3 1EE87=62D::3 1EE88=637::3 1EE89=64A::8
1EE8B-1EE8D=644::3 1EE8E=633::3 1EE8F=639::3 1EE90=641::3 1EE91=635::3 1EE92=642::3 1EE93=631::3
1EE94=634::3 1EE95-1EE96=62A::3 1EE97=62E::3 1EE98=630::3 1EE99=636::3 1EE9A=638::3 1EE9B=63A::3
1EEA1=628::3 1EEA2=62C::3 1EEA3=62F::3 1EEA5=648::12 1EEA6=632::3 1EEA7=62D::3 1EEA8=637::3
1EEA9=64A::8 1EEAB-1EEAD=644::3 1EEAE=633::3 1EEAF=639::3 1EEB0=641::3 1EEB1=635::3 1EEB2=642::3
1EEB3=631::3 1EEB4=634::3 1EEB5-1EEB6=62A::3 1EEB7=62E::3 1EEB8=630::3 1EEB9=636::3 1EEBA=638::3
1EEBB=63A::3 1F100=30::6,2E::9 1F101=30::6,2C::12 1F102=31::6,2C::12 1F103=32::6,2C::12
1F104=33::6,2C::12 1F105=34::6,2C::12 1F106=35::6,2C::12 1F107=36::6,2C::12 1F108=37::6,2C::12
1F109=38::6,2C::12 1F10A=39::7,2C::12 1F10B=30::15 1F10C=30::15 1F110=28::8,61::17,29::8
1F111=28::8,62::17,29::8 1F112=28::8,63::17,29::8 1F113=28::8,64::17,29::8
1F114=28::8,65::17,29::8 1F115=28::8,66::17,29::8 1F116=28::8,67::17,29::8
1F117=28::8,68::17,29::8 1F118=28::8,69::17,29::8 1F119=28::8,6A::17,29::8
1F11A=28::8,6B::17,29::8 1F11B=28::8,6C::17,29::8 1F11C=28::8,6D::17,29::8
1F11D=28::8,6E::17,29::8 1F11E=28::8,6F::17,29::8 1F11F=28::8,70::17,29::8
1F120=28::8,71::17,29::8 1F121=28::8,72::17,29::8 1F122=28::8,73::17,29::8
1F123=28::8,74::17,29::8 1F124=28::8,75::17,29::8 1F125=28::8,76::17,29::8
1F126=28::8,77::21,29::8 1F127=28::8,78::17,29::8 1F128=28::8,79::17,29::8
1F129=28::8,7A::17,29::8 1F12A=3014::3,73::17,3015::3 1F12B=63::21 1F12C=72::21
1F12D=63::21,64::21 1F12E=77::26,7A::21 1F130=61::29 1F131-1F133=62::27 1F134=65::29
1F135-1F136=66::27 1F137-1F138=68::29 1F139=6A::27 1F13A-1F13F=6B::29 1F140=71::27
1F141-1F143=72::29 1F144=75::27 1F145=76::29 1F146=77::30 1F147=78::29 1F148-1F149=79::27
1F14A=68::29,76::29 1F14B=6D::29,76::29 1F14C=73::29,64::27 1F14D=73::29,73::29
1F14E=70::29,70::29,76::29 1F14F=77::30,63::27 1F150-1F165=61::21 1F166=77::26 1F167-1F169=78::21
1F16A=6D::23,63::23 1F16B=6D::23,64::23 1F16C=6D::23,72::23 1F170=61::29 1F171-1F173=62::27
1F174=65::29 1F175-1F176=66::27 1F177-1F178=68::29 1F179=6A::27 1F17A-1F17F=6B::29 1F180=71::27
1F181-1F183=72::29 1F184=75::27 1F185=76::29 1F186=77::30 1F187=78::29 1F188-1F189=79::27
1F18A=70::29 1F18B=69::29,63::27 1F18C=70::29,61::29 1F18D=73::29,61::29 1F18E=61::29,62::27
1F18F=77::30,63::27 1F190=64::27,6A::27 1F191=63::27,6C::29 1F192=63::27,6F::29,6F::29,6C::29
1F193=66::27,72::29,65::29,65::29 1F194=69::29,64::27 1F195=6E::29,65::29,77::30
1F196=6E::29,67::27 1F197=6F::29,6B::29 1F198=73::29,6F::29,73::29 1F199=75::27,70::29,21::26
1F19A=76::29,73::29 1F19B=33::25,64::27 1F19C=32::25,6E::27,64::25,20::26,73::29,63::25,72::27
1F19D=32::25,6B::29 1F19E=34::25,6B::29 1F19F=38::25,6B::29 1F1A0=35::25,2E::26,31::25
1F1A1=37::25,2E::26,31::25 1F1A2=32::25,32::25,2E::26,32::25 1F1A3=36::25,30::25,70::29
1F1A4=31::25,32::25,30::25,70::29 1F1A5=64::25 1F1A6=68::29,63::25 1F1A7=68::29,64::25,72::29
1F1A8=68::29,69::27,20::26,72::29,65::27,73::27
1F1A9=6C::29,6F::27,73::27,73::27,6C::27,65::27,73::27,73::27 1F1AA=73::29,68::29,76::29
1F1AB=75::27,68::29,64::27 1F1AC=76::29,6F::29,64::27 1F200=307B::26,304B::26
1F201=3053::28,3053::28 1F202=3055::27 1F210=624B::27 1F211=5B57::27 1F212=53CC::27
1F213=3066::27,:36:25 1F214=4E8C::27 1F215=591A::27 1F216=89E3::27 1F217=5929::27 1F218=4EA4::27
1F219=6620::27 1F21A=7121::27 1F21B=6599::27 1F21C=524D::27 1F21D=5F8C::27 1F21E=518D::27
1F21F=65B0::27 1F220=521D::27 1F221=7D42::27 1F222=751F::27 1F223=8CA9::27 1F224=58F0::27
1F225=5439::27 1F226=6F14::27 1F227=6295::27 1F228=6355::27 1F229=4E00::27 1F22A=4E09::27
1F22B=904A::27 1F22C=5DE6::27 1F22D=4E2D::27 1F22E=53F3::27 1F22F=6307::27 1F230=8D70::27
1F231=6253::27 1F232=7981::27 1F233=7A7A::27 1F234=5408::27 1F235=6E80::27 1F236=6709::27
1F237=6708::27 1F238=7533::27 1F239=5272::27 1F23A=55B6::27 1F23B=914D::27
1F240=3014::3,672C::3,3015::3 1F241=3014::3,4E09::3,3015::3 1F242=3014::3,4E8C::3,3015::3
1F243=3014::3,5B89::3,3015::3 1F244=3014::3,70B9::3,3015::3 1F245=3014::3,6253::3,3015::3
1F246=3014::3,76D7::3,3015::3 1F247=3014::3,52DD::3,3015::3 1F248=3014::3,6557::3,3015::3
1F250=5F97::12 1F251=53EF::12 1FBF0-1FBF8=30::11 1FBF9=39::13"

/-- Characters that are ignored at every level. -/
def ignorableText : String :=
"0-8 E-1F 7F-84 86-9F AD 34F 488-489 591-5AF 5BD 5C4-5C5 600-605 610-61A 61C 640 6D6-6DD 6DF-6E4
6E7-6E8 6EA-6ED 70F 740 743-744 747-74A 7FA 890-891 898-89D 8CA-8E2 8EA-8EF 8F3 951-952 F18-F19
F35 F37 F3E-F3F F86-F87 FC6 17B4-17B5 17D3 180A-180F 1A7F 1B6B-1B73 1CD0-1CE8 1CF4 1CF7-1CF9
200B-200F 202A-202E 2060-2064 2066-206F 2D7F A670-A672 A8E0-A8F1 FE00-FE0F FE21 FE23-FE26 FE28
FE2A-FE2D FE2F FE73 FEFF FFF9-FFFB 102E0 10EFD-10EFF 110BD 110CD 11366-1136C 11370-11374
13430-13440 13447-13455 16FE4 1BCA0-1BCA3 1CF00-1CF2D 1CF30-1CF46 1D165-1D169 1D16D-1D182
1D185-1D18B 1D1AA-1D1AD 1D242-1D244 1DA00-1DA36 1DA3B-1DA6C 1DA75 1DA84 1DA9B-1DA9F 1DAA1-1DAAF
1E8D0-1E8D6 E0001 E0020-E007F E0100-E01EF"

end ListenQuery.Collation
