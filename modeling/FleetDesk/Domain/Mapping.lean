import FleetDesk.Domain.Row

/-!
# The characters of a domain name

Before a domain name is looked up each of its characters is kept, dropped, refused, or replaced by
its plain form: capitals become small letters, and variants of a character the character itself.
This is the mapping of internationalized domain names, in its non-transitional form.
-/

namespace FleetDesk.Domain

inductive Image where
  | kept
  | dropped
  | refused
  | replaced (cs : List Char)
  deriving DecidableEq, Repr

/-- Signs: `-` dropped; `!` refused; `+` replaced by as many characters from the second number on;
`*` every other character replaced by the next; `=` replaced by a group each. -/
def mappingLines : List String :=
  ["41+1a.61 80!20 a0=20 a8=20.308 aa=61 ad-1 af=20.304 b2=32,33,20.301,3bc b8=20.327,31,6f",
    "bc=31.2044.34,31.2044.32,33.2044.34 c0+17.e0 d8+7.f8 100*30 130=69.307 132=69.6a,69.6a 134*4",
    "139*6 13f=6c.b7,6c.b7 141*8 149=2bc.6e 14a*2e 178=ff 179*6 17f=73 181=253 182*4 186=254 187*2",
    "189=256,257 18b*2 18e=1dd,259,25b 191*2 193=260,263 196=269,268 198*2 19c=26f,272 19f=275",
    "1a0*6 1a6=280 1a7*2 1a9=283 1ac*2 1ae=288 1af*2 1b1=28a,28b 1b3*4 1b7=292 1b8*2 1bc*2",
    "1c4=64.17e,64.17e,64.17e,6c.6a,6c.6a,6c.6a,6e.6a,6e.6a,6e.6a 1cd*10 1de*12",
    "1f1=64.7a,64.7a,64.7a 1f4*2 1f6=195,1bf 1f8*28 220=19e 222*12 23a=2c65 23b*2 23d=19a,2c66",
    "241*2 243=180,289,28c 246*a 2b0=68,266,6a,72,279,27b,281,77,79",
    "2d8=20.306,20.307,20.30a,20.328,20.303,20.30b 2e0=263,6c,73,78,295 340=300,301",
    "343=313,308.301,3b9 34f-1 370*4 374=2b9 376*2 378!2 37a=20.3b9 37e=3b,3f3 380!4",
    "384=20.301,20.308.301,3ac,b7 388+3.3ad 38b!1 38c=3cc 38d!1 38e=3cd,3ce 391+11.3b1 3a2!1",
    "3a3+9.3c3 3cf=3d7,3b2,3b8,3c5,3cd,3cb,3c6,3c0 3d8*18 3f0=3ba,3c1,3c3 3f4=3b8,3b5 3f7*2 3f9=3c3",
    "3fa*2 3fd+3.37b 400+10.450 410+20.430 460*22 48a*36 4c0=4cf 4c1*e 4d0*60 530!1 531+26.561",
    "557!2 587=565.582 58b!2 590!1 5c8!8 5eb!4 5f5!11 61c!1 675=627.674,648.674,6c7.674,64a.674",
    "6dd!1 70e!2 74b!2 7b2!e 7fb!2 82e!2 83f!1 85c!2 85f!1 86b!5 890!7 8e2!1",
    "958=915.93c,916.93c,917.93c,91c.93c,921.93c,922.93c,92b.93c,92f.93c 984!1 98d!2 991!2 9a9!1",
    "9b1!1 9b3!3 9ba!2 9c5!2 9c9!2 9cf!8 9d8!4 9dc=9a1.9bc,9a2.9bc 9de!1 9df=9af.9bc 9e4!2 9ff!2",
    "a04!1 a0b!4 a11!2 a29!1 a31!1 a33=a32.a3c a34!1 a36=a38.a3c a37!1 a3a!2 a3d!1 a43!4 a49!2",
    "a4e!3 a52!7 a59=a16.a3c,a17.a3c,a1c.a3c a5d!1 a5e=a2b.a3c a5f!7 a77!a a84!1 a8e!1 a92!1 aa9!1",
    "ab1!1 ab4!1 aba!2 ac6!1 aca!1 ace!2 ad1!f ae4!2 af2!7 b00!1 b04!1 b0d!2 b11!2 b29!1 b31!1",
    "b34!1 b3a!2 b45!2 b49!2 b4e!7 b58!4 b5c=b21.b3c,b22.b3c b5e!1 b64!2 b78!a b84!1 b8b!3 b91!1",
    "b96!3 b9b!1 b9d!1 ba0!3 ba5!3 bab!3 bba!4 bc3!3 bc9!1 bce!2 bd1!6 bd8!e bfb!5 c0d!1 c11!1",
    "c29!1 c3a!2 c45!1 c49!1 c4e!7 c57!1 c5b!1 c5e!2 c64!2 c70!7 c8d!1 c91!1 ca9!1 cb4!1 cba!2",
    "cc5!1 cc9!1 cce!7 cd7!5 cdf!1 ce4!2 cf0!1 cf4!c d0d!1 d11!1 d45!1 d49!1 d50!4 d64!2 d80!1",
    "d84!1 d97!3 db2!1 dbc!1 dbe!2 dc7!3 dcb!4 dd5!1 dd7!1 de0!6 df0!2 df5!c e33=e4d.e32 e3b!4",
    "e5c!25 e83!1 e85!1 e8b!1 ea4!1 ea6!1 eb3=ecd.eb2 ebe!2 ec5!1 ec7!1 ecf!1 eda!2",
    "edc=eab.e99,eab.ea1 ee0!20 f0c=f0b f43=f42.fb7 f48!1 f4d=f4c.fb7 f52=f51.fb7 f57=f56.fb7",
    "f5c=f5b.fb7 f69=f40.fb5 f6d!4 f73=f71.f72 f75=f71.f74,fb2.f80,fb2.f71.f80,fb3.f80,fb3.f71.f80",
    "f81=f71.f80 f93=f92.fb7 f98!1 f9d=f9c.fb7 fa2=fa1.fb7 fa7=fa6.fb7 fac=fab.fb7 fb9=f90.fb5",
    "fbd!1 fcd!1 fdb!25 10a0+26.2d00 10c6!1 10c7=2d27 10c8!5 10cd=2d2d 10ce!2 10fc=10dc 115f-2",
    "1249!1 124e!2 1257!1 1259!1 125e!2 1289!1 128e!2 12b1!1 12b6!2 12bf!1 12c1!1 12c6!2 12d7!1",
    "1311!1 1316!2 135b!2 137d!3 139a!6 13f6!2 13f8+6.13f0 13fe!2 1680!1 169d!3 16f9!7 1716!9",
    "1737!9 1754!c 176d!1 1771!1 1774!c 17b4-2 17de!2 17ea!6 17fa!6 180b-5 181a!6 1879!7 18ab!5",
    "18f6!a 191f!1 192c!4 193c!4 1941!3 196e!2 1975!b 19ac!4 19ca!6 19db!3 1a1c!2 1a5f!1 1a7d!2",
    "1a8a!6 1a9a!6 1aae!2 1ade!2 1aec!14 1b4d!1 1bf4!8 1c38!3 1c4a!3",
    "1c80=432,434,43e,441,442,442,44a,463,a64b 1c89*2 1c8b!5 1c90+2b.10d0 1cbb!2 1cbd+3.10fd 1cc8!8",
    "1cfb!5 1d2c=61,e6,62 1d30=64,65,1dd 1d33+8.67",
    "1d3c=6f,223,70,72,74,75,77,61,250,251,1d02,62,64,65,259,25b,25c,67",
    "1d4f=6b,6d,14b,6f,254,1d16,1d17,70,74,75,1d1d,26f,76,1d25 1d5d+3.3b2",
    "1d60=3c6,3c7,69,72,75,76,3b2,3b3,3c1,3c6,3c7 1d78=43d 1d9b=252,63,255,f0,25c,66,25f,261,265",
    "1da4+3.268 1da7=1d7b,29d,26d,1d85,29f,271,270 1dae+4.272",
    "1db2=278,282,283,1ab,289,28a,1d1c,28b,28c,7a 1dbc+3.290 1dbf=3b8 1e00*96 1e9a=61.2be,1e61",
    "1e9e=df 1ea0*60 1f08+8.1f00 1f16!2 1f18+6.1f10 1f1e!2 1f28+8.1f20 1f38+8.1f30 1f46!2",
    "1f48+6.1f40 1f4e!2 1f58!1 1f59=1f51 1f5a!1 1f5b=1f53 1f5c!1 1f5d=1f55 1f5e!1 1f5f=1f57",
    "1f68+8.1f60 1f71=3ac 1f73=3ad 1f75=3ae 1f77=3af 1f79=3cc 1f7b=3cd 1f7d=3ce 1f7e!2",
    "1f80=1f00.3b9,1f01.3b9,1f02.3b9,1f03.3b9,1f04.3b9,1f05.3b9,1f06.3b9,1f07.3b9,1f00.3b9",
    "1f89=1f01.3b9,1f02.3b9,1f03.3b9,1f04.3b9,1f05.3b9,1f06.3b9,1f07.3b9,1f20.3b9,1f21.3b9",
    "1f92=1f22.3b9,1f23.3b9,1f24.3b9,1f25.3b9,1f26.3b9,1f27.3b9,1f20.3b9,1f21.3b9,1f22.3b9",
    "1f9b=1f23.3b9,1f24.3b9,1f25.3b9,1f26.3b9,1f27.3b9,1f60.3b9,1f61.3b9,1f62.3b9,1f63.3b9",
    "1fa4=1f64.3b9,1f65.3b9,1f66.3b9,1f67.3b9,1f60.3b9,1f61.3b9,1f62.3b9,1f63.3b9,1f64.3b9",
    "1fad=1f65.3b9,1f66.3b9,1f67.3b9 1fb2=1f70.3b9,3b1.3b9,3ac.3b9 1fb5!1",
    "1fb7=1fb6.3b9,1fb0,1fb1,1f70,3ac,3b1.3b9,20.313,3b9,20.313,20.342,20.308.342,1f74.3b9",
    "1fc3=3b7.3b9,3ae.3b9 1fc5!1",
    "1fc7=1fc6.3b9,1f72,3ad,1f74,3ae,3b7.3b9,20.313.300,20.313.301,20.313.342 1fd3=390 1fd4!2",
    "1fd8=1fd0,1fd1,1f76,3af 1fdc!1 1fdd=20.314.300,20.314.301,20.314.342 1fe3=3b0",
    "1fe8=1fe0,1fe1,1f7a,3cd,1fe5,20.308.300,20.308.301,60 1ff0!2 1ff2=1f7c.3b9,3c9.3b9,3ce.3b9",
    "1ff5!1 1ff7=1ff6.3b9,1f78,3cc,1f7c,3ce,3c9.3b9,20.301,20.314 1fff!1",
    "2000=20,20,20,20,20,20,20,20,20,20,20 200b-1 200e!2 2011=2010 2017=20.333 2024!3 2028!7",
    "202f=20 2033=2032.2032,2032.2032.2032 2036=2035.2035,2035.2035.2035 203c=21.21 203e=20.305",
    "2047=3f.3f,3f.21,21.3f 2057=2032.2032.2032.2032 205f=20 2060-5 2065!5 206a-6 2070=30,69 2072!2",
    "2074+6.34 207a=2b,2212,3d,28,29,6e 2080+a.30 208a=2b,2212,3d,28,29 208f!1",
    "2090=61,65,6f,78,259,68 2096+4.6b 209a=70,73,74 209d!3 20a8=72.73 20c2!e 20f1!f",
    "2100=61.2f.63,61.2f.73,63,b0.63 2105=63.2f.6f,63.2f.75,25b",
    "2109=b0.66,67,68,68,68,68,127,69,69,6c,6c 2115=6e,6e.6f 2119+3.70 211c=72,72",
    "2120=73.6d,74.65.6c,74.6d 2124=7a 2126=3c9 2128=7a 212a=6b,e5,62,63 212f=65,65,66,214e,6d,6f",
    "2135+4.5d0 2139=69 213b=66.61.78,3c0,3b3,3b3,3c0,2211 2145=64,64,65,69,6a",
    "2150=31.2044.37,31.2044.39,31.2044.31.30,31.2044.33,32.2044.33,31.2044.35,32.2044.35",
    "2157=33.2044.35,34.2044.35,31.2044.36,35.2044.36,31.2044.38,33.2044.38,35.2044.38,37.2044.38",
    "215f=31.2044,69,69.69,69.69.69,69.76,76,76.69,76.69.69,76.69.69.69,69.78,78,78.69,78.69.69",
    "216c=6c,63,64,6d,69,69.69,69.69.69,69.76,76,76.69,76.69.69,76.69.69.69,69.78,78,78.69",
    "217b=78.69.69,6c,63,64,6d 2183*2 2189=30.2044.33 218c!4 222c=222b.222b,222b.222b.222b",
    "222f=222e.222e,222e.222e.222e 2329=3008,3009 242a!16 244b!15 2460+9.31",
    "2469=31.30,31.31,31.32,31.33,31.34,31.35,31.36,31.37,31.38,31.39,32.30,28.31.29,28.32.29",
    "2476=28.33.29,28.34.29,28.35.29,28.36.29,28.37.29,28.38.29,28.39.29,28.31.30.29,28.31.31.29",
    "247f=28.31.32.29,28.31.33.29,28.31.34.29,28.31.35.29,28.31.36.29,28.31.37.29,28.31.38.29",
    "2486=28.31.39.29,28.32.30.29 2488!14",
    "249c=28.61.29,28.62.29,28.63.29,28.64.29,28.65.29,28.66.29,28.67.29,28.68.29,28.69.29",
    "24a5=28.6a.29,28.6b.29,28.6c.29,28.6d.29,28.6e.29,28.6f.29,28.70.29,28.71.29,28.72.29",
    "24ae=28.73.29,28.74.29,28.75.29,28.76.29,28.77.29,28.78.29,28.79.29,28.7a.29 24b6+1a.61",
    "24d0+1a.61 24ea=30 2a0c=222b.222b.222b.222b 2a74=3a.3a.3d,3d.3d,3d.3d.3d 2adc=2add.338 2b74!2",
    "2c00+30.2c30 2c60*2 2c62=26b,1d7d,27d 2c67*6 2c6d=251,271,250,252 2c72*2 2c75*2",
    "2c7c=6a,76,23f,240 2c80*64 2ceb*4 2cf2*2 2cf4!5 2d26!1 2d28!5 2d2e!2 2d68!7 2d6f=2d61 2d71!e",
    "2d97!9 2da7!1 2daf!1 2db7!1 2dbf!1 2dc7!1 2dcf!1 2dd7!1 2ddf!1 2e5e!22 2e9a!1 2e9f=6bcd",
    "2ef3=9f9f 2ef4!c",
    "2f00=4e00,4e28,4e36,4e3f,4e59,4e85,4e8c,4ea0,4eba,513f,5165,516b,5182,5196,51ab,51e0,51f5",
    "2f11=5200,529b,52f9,5315,531a,5338,5341,535c,5369,5382,53b6,53c8,53e3,56d7,571f,58eb,5902",
    "2f22=590a,5915,5927,5973,5b50,5b80,5bf8,5c0f,5c22,5c38,5c6e,5c71,5ddb,5de5,5df1,5dfe,5e72",
    "2f33=5e7a,5e7f,5ef4,5efe,5f0b,5f13,5f50,5f61,5f73,5fc3,6208,6236,624b,652f,6534,6587,6597",
    "2f44=65a4,65b9,65e0,65e5,66f0,6708,6728,6b20,6b62,6b79,6bb3,6bcb,6bd4,6bdb,6c0f,6c14,6c34",
    "2f55=706b,722a,7236,723b,723f,7247,7259,725b,72ac,7384,7389,74dc,74e6,7518,751f,7528,7530",
    "2f66=758b,7592,7676,767d,76ae,76bf,76ee,77db,77e2,77f3,793a,79b8,79be,7a74,7acb,7af9,7c73",
    "2f77=7cf8,7f36,7f51,7f8a,7fbd,8001,800c,8012,8033,807f,8089,81e3,81ea,81f3,81fc,820c,821b",
    "2f88=821f,826e,8272,8278,864d,866b,8840,884c,8863,897e,898b,89d2,8a00,8c37,8c46,8c55,8c78",
    "2f99=8c9d,8d64,8d70,8db3,8eab,8eca,8f9b,8fb0,8fb5,9091,9149,91c6,91cc,91d1,9577,9580,961c",
    "2faa=96b6,96b9,96e8,9751,975e,9762,9769,97cb,97ed,97f3,9801,98a8,98db,98df,9996,9999,99ac",
    "2fbb=9aa8,9ad8,9adf,9b25,9b2f,9b32,9b3c,9b5a,9ce5,9e75,9e7f,9ea5,9ebb,9ec3,9ecd,9ed1,9ef9",
    "2fcc=9efd,9f0e,9f13,9f20,9f3b,9f4a,9f52,9f8d,9f9c,9fa0 2fd6!2a 3000=20 3002=2e 3036=3012",
    "3038=5341,5344,5345 3040!1 3097!2 309b=20.3099,20.309a 309f=3088.308a 30ff=30b3.30c8 3100!5",
    "3130!1 3131=1100,1101,11aa,1102,11ac,11ad 3137+3.1103 313a+6.11b0 3140=111a 3141+3.1106",
    "3144=1121 3145+a.1109 314f+15.1161 3164-1",
    "3165=1114,1115,11c7,11c8,11cc,11ce,11d3,11d7,11d9,111c,11dd,11df,111d,111e,1120,1122,1123",
    "3176=1127,1129 3178+5.112b 317d=1132,1136,1140,1147,114c,11f1,11f2 3184+3.1157",
    "3187=1184,1185,1188,1191,1192,1194,119e,11a1 318f!1",
    "3192=4e00,4e8c,4e09,56db,4e0a,4e2d,4e0b,7532,4e59,4e19,4e01,5929,5730,4eba 31e6!a",
    "3200=28.1100.29,28.1102.29,28.1103.29,28.1105.29,28.1106.29,28.1107.29,28.1109.29,28.110b.29",
    "3208=28.110c.29,28.110e.29,28.110f.29,28.1110.29,28.1111.29,28.1112.29,28.ac00.29,28.b098.29",
    "3210=28.b2e4.29,28.b77c.29,28.b9c8.29,28.bc14.29,28.c0ac.29,28.c544.29,28.c790.29,28.cc28.29",
    "3218=28.ce74.29,28.d0c0.29,28.d30c.29,28.d558.29,28.c8fc.29,28.c624.c804.29,28.c624.d6c4.29",
    "321f!1",
    "3220=28.4e00.29,28.4e8c.29,28.4e09.29,28.56db.29,28.4e94.29,28.516d.29,28.4e03.29,28.516b.29",
    "3228=28.4e5d.29,28.5341.29,28.6708.29,28.706b.29,28.6c34.29,28.6728.29,28.91d1.29,28.571f.29",
    "3230=28.65e5.29,28.682a.29,28.6709.29,28.793e.29,28.540d.29,28.7279.29,28.8ca1.29,28.795d.29",
    "3238=28.52b4.29,28.4ee3.29,28.547c.29,28.5b66.29,28.76e3.29,28.4f01.29,28.8cc7.29,28.5354.29",
    "3240=28.796d.29,28.4f11.29,28.81ea.29,28.81f3.29,554f,5e7c,6587,7b8f",
    "3250=70.74.65,32.31,32.32,32.33,32.34,32.35,32.36,32.37,32.38,32.39,33.30,33.31,33.32,33.33",
    "325e=33.34,33.35,1100,1102,1103 3263+3.1105 3266=1109,110b,110c 3269+5.110e",
    "326e=ac00,b098,b2e4,b77c,b9c8,bc14,c0ac,c544,c790,cc28,ce74,d0c0,d30c,d558,cc38.ace0",
    "327d=c8fc.c758,c6b0",
    "3280=4e00,4e8c,4e09,56db,4e94,516d,4e03,516b,4e5d,5341,6708,706b,6c34,6728,91d1,571f,65e5",
    "3291=682a,6709,793e,540d,7279,8ca1,795d,52b4,79d8,7537,5973,9069,512a,5370,6ce8,9805,4f11",
    "32a2=5199,6b63,4e0a,4e2d,4e0b,5de6,53f3,533b,5b97,5b66,76e3,4f01,8cc7,5354,591c,33.36,33.37",
    "32b3=33.38,33.39,34.30,34.31,34.32,34.33,34.34,34.35,34.36,34.37,34.38,34.39,35.30,31.6708",
    "32c1=32.6708,33.6708,34.6708,35.6708,36.6708,37.6708,38.6708,39.6708,31.30.6708,31.31.6708",
    "32cb=31.32.6708,68.67,65.72.67,65.76,6c.74.64,30a2,30a4,30a6,30a8,30aa,30ab,30ad,30af,30b1",
    "32d9=30b3,30b5,30b7,30b9,30bb,30bd,30bf,30c1,30c4,30c6,30c8 32e4+6.30ca",
    "32ea=30d2,30d5,30d8,30db 32ee+5.30de 32f3=30e4,30e6 32f5+6.30e8 32fb+4.30ef",
    "32ff=4ee4.548c,30a2.30d1.30fc.30c8,30a2.30eb.30d5.30a1,30a2.30f3.30da.30a2,30a2.30fc.30eb",
    "3304=30a4.30cb.30f3.30b0,30a4.30f3.30c1,30a6.30a9.30f3,30a8.30b9.30af.30fc.30c9",
    "3308=30a8.30fc.30ab.30fc,30aa.30f3.30b9,30aa.30fc.30e0,30ab.30a4.30ea,30ab.30e9.30c3.30c8",
    "330d=30ab.30ed.30ea.30fc,30ac.30ed.30f3,30ac.30f3.30de,30ae.30ac,30ae.30cb.30fc",
    "3312=30ad.30e5.30ea.30fc,30ae.30eb.30c0.30fc,30ad.30ed,30ad.30ed.30b0.30e9.30e0",
    "3316=30ad.30ed.30e1.30fc.30c8.30eb,30ad.30ed.30ef.30c3.30c8,30b0.30e9.30e0",
    "3319=30b0.30e9.30e0.30c8.30f3,30af.30eb.30bc.30a4.30ed,30af.30ed.30fc.30cd,30b1.30fc.30b9",
    "331d=30b3.30eb.30ca,30b3.30fc.30dd,30b5.30a4.30af.30eb,30b5.30f3.30c1.30fc.30e0",
    "3321=30b7.30ea.30f3.30b0,30bb.30f3.30c1,30bb.30f3.30c8,30c0.30fc.30b9,30c7.30b7,30c9.30eb",
    "3327=30c8.30f3,30ca.30ce,30ce.30c3.30c8,30cf.30a4.30c4,30d1.30fc.30bb.30f3.30c8",
    "332c=30d1.30fc.30c4,30d0.30fc.30ec.30eb,30d4.30a2.30b9.30c8.30eb,30d4.30af.30eb,30d4.30b3",
    "3331=30d3.30eb,30d5.30a1.30e9.30c3.30c9,30d5.30a3.30fc.30c8,30d6.30c3.30b7.30a7.30eb",
    "3335=30d5.30e9.30f3,30d8.30af.30bf.30fc.30eb,30da.30bd,30da.30cb.30d2,30d8.30eb.30c4",
    "333a=30da.30f3.30b9,30da.30fc.30b8,30d9.30fc.30bf,30dd.30a4.30f3.30c8,30dc.30eb.30c8",
    "333f=30db.30f3,30dd.30f3.30c9,30db.30fc.30eb,30db.30fc.30f3,30de.30a4.30af.30ed",
    "3344=30de.30a4.30eb,30de.30c3.30cf,30de.30eb.30af,30de.30f3.30b7.30e7.30f3",
    "3348=30df.30af.30ed.30f3,30df.30ea,30df.30ea.30d0.30fc.30eb,30e1.30ac,30e1.30ac.30c8.30f3",
    "334d=30e1.30fc.30c8.30eb,30e4.30fc.30c9,30e4.30fc.30eb,30e6.30a2.30f3,30ea.30c3.30c8.30eb",
    "3352=30ea.30e9,30eb.30d4.30fc,30eb.30fc.30d6.30eb,30ec.30e0,30ec.30f3.30c8.30b2.30f3",
    "3357=30ef.30c3.30c8,30.70b9,31.70b9,32.70b9,33.70b9,34.70b9,35.70b9,36.70b9,37.70b9,38.70b9",
    "3361=39.70b9,31.30.70b9,31.31.70b9,31.32.70b9,31.33.70b9,31.34.70b9,31.35.70b9,31.36.70b9",
    "3369=31.37.70b9,31.38.70b9,31.39.70b9,32.30.70b9,32.31.70b9,32.32.70b9,32.33.70b9,32.34.70b9",
    "3371=68.70.61,64.61,61.75,62.61.72,6f.76,70.63,64.6d,64.6d.32,64.6d.33,69.75,5e73.6210",
    "337c=662d.548c,5927.6b63,660e.6cbb,682a.5f0f.4f1a.793e,70.61,6e.61,3bc.61,6d.61,6b.61,6b.62",
    "3386=6d.62,67.62,63.61.6c,6b.63.61.6c,70.66,6e.66,3bc.66,3bc.67,6d.67,6b.67,68.7a,6b.68.7a",
    "3392=6d.68.7a,67.68.7a,74.68.7a,3bc.6c,6d.6c,64.6c,6b.6c,66.6d,6e.6d,3bc.6d,6d.6d,63.6d",
    "339e=6b.6d,6d.6d.32,63.6d.32,6d.32,6b.6d.32,6d.6d.33,63.6d.33,6d.33,6b.6d.33,6d.2215.73",
    "33a8=6d.2215.73.32,70.61,6b.70.61,6d.70.61,67.70.61,72.61.64,72.61.64.2215.73",
    "33af=72.61.64.2215.73.32,70.73,6e.73,3bc.73,6d.73,70.76,6e.76,3bc.76,6d.76,6b.76,6d.76,70.77",
    "33bb=6e.77,3bc.77,6d.77,6b.77,6d.77,6b.3c9,6d.3c9 33c2!1 33c3=62.71,63.63,63.64,63.2215.6b.67",
    "33c7!1 33c8=64.62,67.79,68.61,68.70,69.6e,6b.6b,6b.6d,6b.74,6c.6d,6c.6e,6c.6f.67,6c.78,6d.62",
    "33d5=6d.69.6c,6d.6f.6c,70.68 33d8!1",
    "33d9=70.70.6d,70.72,73.72,73.76,77.62,76.2215.6d,61.2215.6d,31.65e5,32.65e5,33.65e5,34.65e5",
    "33e4=35.65e5,36.65e5,37.65e5,38.65e5,39.65e5,31.30.65e5,31.31.65e5,31.32.65e5,31.33.65e5",
    "33ed=31.34.65e5,31.35.65e5,31.36.65e5,31.37.65e5,31.38.65e5,31.39.65e5,32.30.65e5,32.31.65e5",
    "33f5=32.32.65e5,32.33.65e5,32.34.65e5,32.35.65e5,32.36.65e5,32.37.65e5,32.38.65e5,32.39.65e5",
    "33fd=33.30.65e5,33.31.65e5,67.61.6c a48d!3 a4c7!9 a62c!14 a640*2e a680*1c a69c=44a,44c a6f8!8",
    "a722*e a732*3e a770=a76f a779*4 a77d=1d79 a77e*a a78b*2 a78d=265 a790*4 a796*14",
    "a7aa=266,25c,261,26c,26a a7b0=29e,287,29d,ab53 a7b4*10 a7c4=a794,282,1d8e a7c7*4 a7cb=264",
    "a7cc*10 a7dc=19b a7dd!14 a7f1=73,63,66,71 a7f5*2 a7f8=127,153 a82d!3 a83a!6 a878!8 a8c6!8",
    "a8da!6 a954!b a97d!3 a9ce!1 a9da!4 a9ff!1 aa37!9 aa4e!2 aa5a!2 aac3!18 aaf7!a ab07!2 ab0f!2",
    "ab17!9 ab27!1 ab2f!1 ab5c=a727,ab37,26b,ab52 ab69=28d ab6c!4 ab70+50.13a0 abee!2 abfa!6 d7a4!c",
    "d7c7!4 d7fc!2104",
    "f900=8c48,66f4,8eca,8cc8,6ed1,4e32,53e5,9f9c,9f9c,5951,91d1,5587,5948,61f6,7669,7f85,863f",
    "f911=87ba,88f8,908f,6a02,6d1b,70d9,73de,843d,916a,99f1,4e82,5375,6b04,721b,862d,9e1e,5d50",
    "f922=6feb,85cd,8964,62c9,81d8,881f,5eca,6717,6d6a,72fc,90ce,4f86,51b7,52de,64c4,6ad3,7210",
    "f933=76e7,8001,8606,865c,8def,9732,9b6f,9dfa,788c,797f,7da0,83c9,9304,9e7f,8ad6,58df,5f04",
    "f944=7c60,807e,7262,78ca,8cc2,96f7,58d8,5c62,6a13,6dda,6f0f,7d2f,7e37,964b,52d2,808b,51dc",
    "f955=51cc,7a1c,7dbe,83f1,9675,8b80,62cf,6a02,8afe,4e39,5be7,6012,7387,7570,5317,78fb,4fbf",
    "f966=5fa9,4e0d,6ccc,6578,7d22,53c3,585e,7701,8449,8aaa,6bba,8fb0,6c88,62fe,82e5,63a0,7565",
    "f977=4eae,5169,51c9,6881,7ce7,826f,8ad2,91cf,52f5,5442,5973,5eec,65c5,6ffe,792a,95ad,9a6a",
    "f988=9e97,9ece,529b,66c6,6b77,8f62,5e74,6190,6200,649a,6f23,7149,7489,79ca,7df4,806f,8f26",
    "f999=84ee,9023,934a,5217,52a3,54bd,70c8,88c2,8aaa,5ec9,5ff5,637b,6bae,7c3e,7375,4ee4,56f9",
    "f9aa=5be7,5dba,601c,73b2,7469,7f9a,8046,9234,96f6,9748,9818,4f8b,79ae,91b4,96b8,60e1,4e86",
    "f9bb=50da,5bee,5c3f,6599,6a02,71ce,7642,84fc,907c,9f8d,6688,962e,5289,677b,67f3,6d41,6e9c",
    "f9cc=7409,7559,786b,7d10,985e,516d,622e,9678,502b,5d19,6dea,8f2a,5f8b,6144,6817,7387,9686",
    "f9dd=5229,540f,5c65,6613,674e,68a8,6ce5,7406,75e2,7f79,88cf,88e1,91cc,96e2,533f,6eba,541d",
    "f9ee=71d0,7498,85fa,96a3,9c57,9e9f,6797,6dcb,81e8,7acb,7b20,7c92,72c0,7099,8b58,4ec0,8336",
    "f9ff=523a,5207,5ea6,62d3,7cd6,5b85,6d1e,66b4,8f3b,884c,964d,898b,5ed3,5140,55c0 fa10=585a",
    "fa12=6674 fa15=51de,732a,76ca,793c,795e,7965,798f,9756,7cbe,7fbd fa20=8612 fa22=8af8",
    "fa25=9038,90fd",
    "fa2a=98ef,98fc,9928,9db4,90de,96b7,4fae,50e7,514d,52c9,52e4,5351,559d,5606,5668,5840,58a8",
    "fa3b=5c64,5c6e,6094,6168,618e,61f2,654f,65e2,6691,6885,6d77,6e1a,6f22,716e,722b,7422,7891",
    "fa4c=793e,7949,7948,7950,7956,795d,798d,798e,7a40,7a81,7bc0,7df4,7e09,7e41,7f72,8005,81ed",
    "fa5d=8279,8279,8457,8910,8996,8b01,8b39,8cd3,8d08,8fb6,9038,96e3,97ff,983b,6075,242ee,8218",
    "fa6e!2",
    "fa70=4e26,51b5,5168,4f80,5145,5180,52c7,52fa,559d,5555,5599,55e2,585a,58b3,5944,5954,5a62",
    "fa81=5b28,5ed2,5ed9,5f69,5fad,60d8,614e,6108,618e,6160,61f2,6234,63c4,641c,6452,6556,6674",
    "fa92=6717,671b,6756,6b79,6bba,6d41,6edb,6ecb,6f22,701e,716e,77a7,7235,72af,732a,7471,7506",
    "faa3=753b,761d,761f,76ca,76db,76f4,774a,7740,78cc,7ab1,7bc0,7c7b,7d5b,7df4,7f3e,8005,8352",
    "fab4=83ef,8779,8941,8986,8996,8abf,8af8,8acb,8b01,8afe,8aed,8b39,8b8a,8d08,8f38,9072,9199",
    "fac5=9276,967c,96e3,9756,97db,97ff,980b,983b,9b12,9f9c,2284a,22844,233d5,3b9d,4018,4039",
    "fad5=25249,25cd0,27ed3,9f43,9f8e fada!26 fb00=66.66,66.69,66.6c,66.66.69,66.66.6c,73.74,73.74",
    "fb07!c fb13=574.576,574.565,574.56b,57e.576,574.56d fb18!5 fb1d=5d9.5b4",
    "fb1f=5f2.5b7,5e2,5d0,5d3,5d4 fb24+3.5db",
    "fb27=5e8,5ea,2b,5e9.5c1,5e9.5c2,5e9.5bc.5c1,5e9.5bc.5c2,5d0.5b7,5d0.5b8,5d0.5bc,5d1.5bc",
    "fb32=5d2.5bc,5d3.5bc,5d4.5bc,5d5.5bc,5d6.5bc fb37!1",
    "fb38=5d8.5bc,5d9.5bc,5da.5bc,5db.5bc,5dc.5bc fb3d!1 fb3e=5de.5bc fb3f!1 fb40=5e0.5bc,5e1.5bc",
    "fb42!1 fb43=5e3.5bc,5e4.5bc fb45!1",
    "fb46=5e6.5bc,5e7.5bc,5e8.5bc,5e9.5bc,5ea.5bc,5d5.5b9,5d1.5bf,5db.5bf,5e4.5bf,5d0.5dc,671,671",
    "fb52=67b,67b,67b,67b,67e,67e,67e,67e,680,680,680,680,67a,67a,67a,67a,67f,67f,67f,67f,679,679",
    "fb68=679,679,6a4,6a4,6a4,6a4,6a6,6a6,6a6,6a6,684,684,684,684,683,683,683,683,686,686,686,686",
    "fb7e=687,687,687,687,68d,68d,68c,68c,68e,68e,688,688,698,698,691,691,6a9,6a9,6a9,6a9,6af,6af",
    "fb94=6af,6af,6b3,6b3,6b3,6b3,6b1,6b1,6b1,6b1,6ba,6ba,6bb,6bb,6bb,6bb,6c0,6c0,6c1,6c1,6c1,6c1",
    "fbaa=6be,6be,6be,6be,6d2,6d2,6d3,6d3",
    "fbd3=6ad,6ad,6ad,6ad,6c7,6c7,6c6,6c6,6c8,6c8,6c7.674,6cb,6cb,6c5,6c5,6c9,6c9,6d0,6d0,6d0,6d0",
    "fbe8=649,649,626.627,626.627,626.6d5,626.6d5,626.648,626.648,626.6c7,626.6c7,626.6c6,626.6c6",
    "fbf4=626.6c8,626.6c8,626.6d0,626.6d0,626.6d0,626.649,626.649,626.649,6cc,6cc,6cc,6cc,626.62c",
    "fc01=626.62d,626.645,626.649,626.64a,628.62c,628.62d,628.62e,628.645,628.649,628.64a,62a.62c",
    "fc0c=62a.62d,62a.62e,62a.645,62a.649,62a.64a,62b.62c,62b.645,62b.649,62b.64a,62c.62d,62c.645",
    "fc17=62d.62c,62d.645,62e.62c,62e.62d,62e.645,633.62c,633.62d,633.62e,633.645,635.62d,635.645",
    "fc22=636.62c,636.62d,636.62e,636.645,637.62d,637.645,638.645,639.62c,639.645,63a.62c,63a.645",
    "fc2d=641.62c,641.62d,641.62e,641.645,641.649,641.64a,642.62d,642.645,642.649,642.64a,643.627",
    "fc38=643.62c,643.62d,643.62e,643.644,643.645,643.649,643.64a,644.62c,644.62d,644.62e,644.645",
    "fc43=644.649,644.64a,645.62c,645.62d,645.62e,645.645,645.649,645.64a,646.62c,646.62d,646.62e",
    "fc4e=646.645,646.649,646.64a,647.62c,647.645,647.649,647.64a,64a.62c,64a.62d,64a.62e,64a.645",
    "fc59=64a.649,64a.64a,630.670,631.670,649.670,20.64c.651,20.64d.651,20.64e.651,20.64f.651",
    "fc62=20.650.651,20.651.670,626.631,626.632,626.645,626.646,626.649,626.64a,628.631,628.632",
    "fc6c=628.645,628.646,628.649,628.64a,62a.631,62a.632,62a.645,62a.646,62a.649,62a.64a,62b.631",
    "fc77=62b.632,62b.645,62b.646,62b.649,62b.64a,641.649,641.64a,642.649,642.64a,643.627,643.644",
    "fc82=643.645,643.649,643.64a,644.645,644.649,644.64a,645.627,645.645,646.631,646.632,646.645",
    "fc8d=646.646,646.649,646.64a,649.670,64a.631,64a.632,64a.645,64a.646,64a.649,64a.64a,626.62c",
    "fc98=626.62d,626.62e,626.645,626.647,628.62c,628.62d,628.62e,628.645,628.647,62a.62c,62a.62d",
    "fca3=62a.62e,62a.645,62a.647,62b.645,62c.62d,62c.645,62d.62c,62d.645,62e.62c,62e.645,633.62c",
    "fcae=633.62d,633.62e,633.645,635.62d,635.62e,635.645,636.62c,636.62d,636.62e,636.645,637.62d",
    "fcb9=638.645,639.62c,639.645,63a.62c,63a.645,641.62c,641.62d,641.62e,641.645,642.62d,642.645",
    "fcc4=643.62c,643.62d,643.62e,643.644,643.645,644.62c,644.62d,644.62e,644.645,644.647,645.62c",
    "fccf=645.62d,645.62e,645.645,646.62c,646.62d,646.62e,646.645,646.647,647.62c,647.645,647.670",
    "fcda=64a.62c,64a.62d,64a.62e,64a.645,64a.647,626.645,626.647,628.645,628.647,62a.645,62a.647",
    "fce5=62b.645,62b.647,633.645,633.647,634.645,634.647,643.644,643.645,644.645,646.645,646.647",
    "fcf0=64a.645,64a.647,640.64e.651,640.64f.651,640.650.651,637.649,637.64a,639.649,639.64a",
    "fcf9=63a.649,63a.64a,633.649,633.64a,634.649,634.64a,62d.649,62d.64a,62c.649,62c.64a,62e.649",
    "fd04=62e.64a,635.649,635.64a,636.649,636.64a,634.62c,634.62d,634.62e,634.645,634.631,633.631",
    "fd0f=635.631,636.631,637.649,637.64a,639.649,639.64a,63a.649,63a.64a,633.649,633.64a,634.649",
    "fd1a=634.64a,62d.649,62d.64a,62c.649,62c.64a,62e.649,62e.64a,635.649,635.64a,636.649,636.64a",
    "fd25=634.62c,634.62d,634.62e,634.645,634.631,633.631,635.631,636.631,634.62c,634.62d,634.62e",
    "fd30=634.645,633.647,634.647,637.645,633.62c,633.62d,633.62e,634.62c,634.62d,634.62e,637.645",
    "fd3b=638.645,627.64b,627.64b",
    "fd50=62a.62c.645,62a.62d.62c,62a.62d.62c,62a.62d.645,62a.62e.645,62a.645.62c,62a.645.62d",
    "fd57=62a.645.62e,62c.645.62d,62c.645.62d,62d.645.64a,62d.645.649,633.62d.62c,633.62c.62d",
    "fd5e=633.62c.649,633.645.62d,633.645.62d,633.645.62c,633.645.645,633.645.645,635.62d.62d",
    "fd65=635.62d.62d,635.645.645,634.62d.645,634.62d.645,634.62c.64a,634.645.62e,634.645.62e",
    "fd6c=634.645.645,634.645.645,636.62d.649,636.62e.645,636.62e.645,637.645.62d,637.645.62d",
    "fd73=637.645.645,637.645.64a,639.62c.645,639.645.645,639.645.645,639.645.649,63a.645.645",
    "fd7a=63a.645.64a,63a.645.649,641.62e.645,641.62e.645,642.645.62d,642.645.645,644.62d.645",
    "fd81=644.62d.64a,644.62d.649,644.62c.62c,644.62c.62c,644.62e.645,644.62e.645,644.645.62d",
    "fd88=644.645.62d,645.62d.62c,645.62d.645,645.62d.64a,645.62c.62d,645.62c.645,645.62e.62c",
    "fd8f=645.62e.645",
    "fd92=645.62c.62e,647.645.62c,647.645.645,646.62d.645,646.62d.649,646.62c.645,646.62c.645",
    "fd99=646.62c.649,646.645.64a,646.645.649,64a.645.645,64a.645.645,628.62e.64a,62a.62c.64a",
    "fda0=62a.62c.649,62a.62e.64a,62a.62e.649,62a.645.64a,62a.645.649,62c.645.64a,62c.62d.649",
    "fda7=62c.645.649,633.62e.649,635.62d.64a,634.62d.64a,636.62d.64a,644.62c.64a,644.645.64a",
    "fdae=64a.62d.64a,64a.62c.64a,64a.645.64a,645.645.64a,642.645.64a,646.62d.64a,642.645.62d",
    "fdb5=644.62d.645,639.645.64a,643.645.64a,646.62c.62d,645.62e.64a,644.62c.645,643.645.645",
    "fdbc=644.62c.645,646.62c.62d,62c.62d.64a,62d.62c.64a,645.62c.64a,641.645.64a,628.62d.64a",
    "fdc3=643.645.645,639.62c.645,635.645.645,633.62e.64a,646.62c.64a fdd0!20",
    "fdf0=635.644.6d2,642.644.6d2,627.644.644.647,627.643.628.631,645.62d.645.62f,635.644.639.645",
    "fdf6=631.633.648.644,639.644.64a.647,648.633.644.645,635.644.649",
    "fdfa=635.644.649.20.627.644.644.647.20.639.644.64a.647.20.648.633.644.645",
    "fdfb=62c.644.20.62c.644.627.644.647,631.6cc.627.644 fe00-10 fe10=2c,3001 fe12!1",
    "fe13=3a,3b,21,3f,3016,3017 fe19!7 fe30!1",
    "fe31=2014,2013,5f,5f,28,29,7b,7d,3014,3015,3010,3011,300a,300b,3008,3009 fe41+4.300c",
    "fe47=5b,5d,20.305,20.305,20.305,20.305,5f,5f,5f,2c,3001 fe52!2",
    "fe54=3b,3a,3f,21,2014,28,29,7b,7d,3014,3015,23,26,2a,2b,2d,3c,3e,3d fe67!1 fe68=5c,24,25,40",
    "fe6c!4 fe70=20.64b,640.64b,20.64c fe74=20.64d fe75!1",
    "fe76=20.64e,640.64e,20.64f,640.64f,20.650,640.650,20.651,640.651,20.652,640.652,621,622,622",
    "fe83=623,623,624,624,625,625,626,626,626,626,627,627,628,628,628,628,629,629,62a,62a,62a,62a",
    "fe99=62b,62b,62b,62b,62c,62c,62c,62c,62d,62d,62d,62d,62e,62e,62e,62e,62f,62f,630,630,631,631",
    "feaf=632,632,633,633,633,633,634,634,634,634,635,635,635,635,636,636,636,636,637,637,637,637",
    "fec5=638,638,638,638,639,639,639,639,63a,63a,63a,63a,641,641,641,641,642,642,642,642,643,643",
    "fedb=643,643,644,644,644,644,645,645,645,645,646,646,646,646,647,647,647,647,648,648,649,649",
    "fef1=64a,64a,64a,64a,644.622,644.622,644.623,644.623,644.625,644.625,644.627,644.627 fefd!2",
    "feff-1 ff00!1 ff01+20.21 ff21+1a.61 ff3b+24.5b",
    "ff5f=2985,2986,2e,300c,300d,3001,30fb,30f2,30a1,30a3,30a5,30a7,30a9,30e3,30e5,30e7,30c3,30fc",
    "ff71=30a2,30a4,30a6,30a8,30aa,30ab,30ad,30af,30b1,30b3,30b5,30b7,30b9,30bb,30bd,30bf,30c1",
    "ff82=30c4,30c6,30c8 ff85+6.30ca ff8b=30d2,30d5,30d8,30db ff8f+5.30de ff94=30e4,30e6",
    "ff96+6.30e8 ff9c=30ef,30f3,3099,309a ffa0-1 ffa1=1100,1101,11aa,1102,11ac,11ad ffa7+3.1103",
    "ffaa+6.11b0 ffb0=111a ffb1+3.1106 ffb4=1121 ffb5+a.1109 ffbf!3 ffc2+6.1161 ffc8!2 ffca+6.1167",
    "ffd0!2 ffd2+6.116d ffd8!2 ffda+3.1173 ffdd!3 ffe0=a2,a3,ac,20.304,a6,a5,20a9 ffe7!1 ffe8=2502",
    "ffe9+4.2190 ffed=25a0,25cb ffef!11 1000c!1 10027!1 1003b!1 1003e!1 1004e!2 1005e!22 100fb!5",
    "10103!4 10134!3 1018f!1 1019d!3 101a1!2f 101fe!82 1029d!3 102d1!f 102fc!4 10324!9 1034b!5",
    "1037b!5 1039e!1 103c4!4 103d6!2a 10400+28.10428 1049e!2 104aa!6 104b0+24.104d8 104d4!4 104fc!4",
    "10528!8 10564!b 10570+b.10597 1057b!1 1057c+f.105a3 1058b!1 1058c+7.105b3 10593!1",
    "10594=105bb,105bc 10596!1 105a2!1 105b2!1 105ba!1 105bd!3 105f4!c 10737!9 10756!a 10768!18",
    "10781=2d0,2d1,e6,299,253 10786!1",
    "10787=2a3,ab66,2a5,2a4,256,257,1d91,258,25e,2a9,264,262,260,29b,127,29c,267,284,2aa,2ab,26c",
    "1079c=1df04,a78e,26e,1df05,28e,1df06,f8,276,277,71,27a,1df08,27d,27e,280,2a8,2a6,ab67,2a7",
    "107af=288,2c71 107b1!1 107b2=28f,2a1,2a2,298 107b6+3.1c0 107b9=1df0a,1df1e 107bb!45 10806!2",
    "10809!1 10836!1 10839!3 1083d!2 10856!1 1089f!8 108b0!30 108f3!1 108f6!5 1091c!3 1093a!5",
    "1095a!26 109b8!4 109d0!2 10a04!1 10a07!5 10a14!1 10a18!1 10a36!2 10a3b!4 10a49!7 10a59!7",
    "10aa0!20 10ae7!4 10af7!9 10b36!3 10b56!2 10b73!5 10b92!7 10b9d!c 10bb0!50 10c49!37",
    "10c80+33.10cc0 10cb3!d 10cf3!7 10d28!8 10d3a!6 10d50+16.10d70 10d66!3 10d86!8 10d90!d0 10e7f!1",
    "10eaa!1 10eae!2 10eb2!10 10ec8!8 10ed9!21 10f28!8 10f5a!16 10f8a!26 10fcc!14 10ff7!9 1104e!4",
    "11076!9 110bd!1 110c3!d 110e9!7 110fa!6 11135!1 11148!8 11177!9 111e0!1 111f5!b 11212!1",
    "11242!3e 11287!1 11289!1 1128e!1 1129e!1 112aa!6 112eb!5 112fa!6 11304!1 1130d!2 11311!2",
    "11329!1 11331!1 11334!1 1133a!1 11345!2 11349!2 1134e!2 11351!6 11358!5 11364!2 1136d!3",
    "11375!b 1138a!1 1138c!2 1138f!1 113b6!1 113c1!1 113c3!2 113c6!1 113cb!1 113d6!1 113d9!8",
    "113e3!1d 1145c!1 11462!1e 114c8!8 114da!a6 115b6!2 115de!22 11645!b 1165a!6 1166d!13 116ba!6",
    "116ca!6 116e4!1c 1171b!2 1172c!4 11747!b9 1183c!64 118a0+20.118c0 118f3!c 11907!2 1190a!2",
    "11914!1 11917!1 11936!1 11939!2 11947!9 1195a!46 119a8!2 119d8!2 119e5!1b 11a48!8 11aa3!d",
    "11af9!7 11b0a!56 11b68!58 11be2!e 11bfa!6 11c09!1 11c37!1 11c46!a 11c6d!3 11c90!2 11ca8!1",
    "11cb7!49 11d07!1 11d0a!1 11d37!3 11d3b!1 11d3e!1 11d48!8 11d5a!6 11d66!1 11d69!1 11d8f!1",
    "11d92!1 11d99!7 11daa!6 11ddc!4 11dea!f6 11ef9!7 11f11!1 11f3b!3 11f5b!55 11fb1!f 11ff2!d",
    "1239a!66 1246f!1 12475!b 12544!a4c 12ff3!d 13430!10 13456!a 143fb!5 14647!1ab9 1613a!6c6",
    "16a39!7 16a5f!1 16a6a!4 16abf!1 16aca!6 16aee!2 16af6!a 16b46!a 16b5a!1 16b62!1 16b78!5",
    "16b90!1b0 16d7a!c6 16e40+20.16e60 16e9b!5 16ea0+19.16ebb 16eb9!2 16ed4!2c 16f4b!4 16f88!7",
    "16fa0!40 16fe5!b 16ff7!9 18cd6!29 18d1f!61 18df3!21fd 1aff4!1 1affc!1 1afff!1 1b123!f 1b133!1d",
    "1b153!2 1b156!e 1b168!8 1b2fc!904 1bc6b!5 1bc7d!3 1bc89!7 1bc9a!2 1bca0-4 1bca4!f5c",
    "1ccd6+1a.61 1ccf0+a.30 1ccfd!3 1ceb4!6 1ced1!f 1cef1!f 1cf2e!2 1cf47!9 1cfc4!3c 1d0f6!a",
    "1d127!2 1d15e=1d157.1d165,1d158.1d165,1d158.1d165.1d16e,1d158.1d165.1d16f,1d158.1d165.1d170",
    "1d163=1d158.1d165.1d171,1d158.1d165.1d172 1d173-8",
    "1d1bb=1d1b9.1d165,1d1ba.1d165,1d1b9.1d165.1d16e,1d1ba.1d165.1d16e,1d1b9.1d165.1d16f",
    "1d1c0=1d1ba.1d165.1d16f 1d1eb!15 1d246!7a 1d2d4!c 1d2f4!c 1d357!9 1d379!87 1d400+1a.61",
    "1d41a+1a.61 1d434+1a.61 1d44e+7.61 1d455!1 1d456+12.69 1d468+1a.61 1d482+1a.61 1d49c=61",
    "1d49d!1 1d49e=63,64 1d4a0!2 1d4a2=67 1d4a3!2 1d4a5=6a,6b 1d4a7!2 1d4a9+4.6e 1d4ad!1 1d4ae+8.73",
    "1d4b6+4.61 1d4ba!1 1d4bb=66 1d4bc!1 1d4bd+7.68 1d4c4!1 1d4c5+b.70 1d4d0+1a.61 1d4ea+1a.61",
    "1d504=61,62 1d506!1 1d507+4.64 1d50b!2 1d50d+8.6a 1d515!1 1d516+7.73 1d51d!1 1d51e+1a.61",
    "1d538=61,62 1d53a!1 1d53b+4.64 1d53f!1 1d540+5.69 1d545!1 1d546=6f 1d547!3 1d54a+7.73 1d551!1",
    "1d552+1a.61 1d56c+1a.61 1d586+1a.61 1d5a0+1a.61 1d5ba+1a.61 1d5d4+1a.61 1d5ee+1a.61",
    "1d608+1a.61 1d622+1a.61 1d63c+1a.61 1d656+1a.61 1d670+1a.61 1d68a+1a.61 1d6a4=131,237 1d6a6!2",
    "1d6a8+11.3b1 1d6b9=3b8 1d6ba+7.3c3 1d6c1=2207 1d6c2+11.3b1 1d6d3=3c3 1d6d4+7.3c3",
    "1d6db=2202,3b5,3b8,3ba,3c6,3c1,3c0 1d6e2+11.3b1 1d6f3=3b8 1d6f4+7.3c3 1d6fb=2207 1d6fc+11.3b1",
    "1d70d=3c3 1d70e+7.3c3 1d715=2202,3b5,3b8,3ba,3c6,3c1,3c0 1d71c+11.3b1 1d72d=3b8 1d72e+7.3c3",
    "1d735=2207 1d736+11.3b1 1d747=3c3 1d748+7.3c3 1d74f=2202,3b5,3b8,3ba,3c6,3c1,3c0 1d756+11.3b1",
    "1d767=3b8 1d768+7.3c3 1d76f=2207 1d770+11.3b1 1d781=3c3 1d782+7.3c3",
    "1d789=2202,3b5,3b8,3ba,3c6,3c1,3c0 1d790+11.3b1 1d7a1=3b8 1d7a2+7.3c3 1d7a9=2207 1d7aa+11.3b1",
    "1d7bb=3c3 1d7bc+7.3c3 1d7c3=2202,3b5,3b8,3ba,3c6,3c1,3c0,3dd,3dd 1d7cc!2 1d7ce+a.30 1d7d8+a.30",
    "1d7e2+a.30 1d7ec+a.30 1d7f6+a.30 1da8c!f 1daa0!1 1dab0!450 1df1f!6 1df2b!d5 1e007!1 1e019!2",
    "1e022!1 1e025!1 1e02b!5 1e030+9.430 1e039+3.43a 1e03c+b.43e",
    "1e047=44b,44d,44e,a689,4d9,456,458,4e9,4af,4cf 1e051+9.430 1e05a=43a,43b,43e,43f,441",
    "1e05f+6.443 1e065=44a,44b,491,456,455,45f,4ab,a651,4b1 1e06e!21 1e090!70 1e12d!3 1e13e!2",
    "1e14a!4 1e150!140 1e2af!11 1e2fa!5 1e300!1d0 1e4fa!d6 1e5fb!4 1e600!c0 1e6df!1 1e6f6!8",
    "1e700!e0 1e7e7!1 1e7ec!1 1e7ef!1 1e7ff!1 1e8c5!2 1e8d7!29 1e900+22.1e922 1e94c!4 1e95a!4",
    "1e960!311 1ecb5!4c 1ed3e!c2 1ee00=627,628,62c,62f 1ee04!1 1ee05=648,632,62d,637,64a",
    "1ee0a+4.643 1ee0e=633,639,641,635,642,631,634,62a,62b,62e,630,636,638,63a,66e,6ba,6a1,66f",
    "1ee20!1 1ee21=628,62c 1ee23!1 1ee24=647 1ee25!2 1ee27=62d 1ee28!1 1ee29=64a 1ee2a+4.643",
    "1ee2e=633,639,641,635,642 1ee33!1 1ee34=634,62a,62b,62e 1ee38!1 1ee39=636 1ee3a!1 1ee3b=63a",
    "1ee3c!6 1ee42=62c 1ee43!4 1ee47=62d 1ee48!1 1ee49=64a 1ee4a!1 1ee4b=644 1ee4c!1",
    "1ee4d=646,633,639 1ee50!1 1ee51=635,642 1ee53!1 1ee54=634 1ee55!2 1ee57=62e 1ee58!1 1ee59=636",
    "1ee5a!1 1ee5b=63a 1ee5c!1 1ee5d=6ba 1ee5e!1 1ee5f=66f 1ee60!1 1ee61=628,62c 1ee63!1 1ee64=647",
    "1ee65!2 1ee67=62d,637,64a,643 1ee6b!1 1ee6c=645,646,633,639,641,635,642 1ee73!1",
    "1ee74=634,62a,62b,62e 1ee78!1 1ee79=636,638,63a,66e 1ee7d!1 1ee7e=6a1 1ee7f!1",
    "1ee80=627,628,62c,62f,647,648,632,62d,637,64a 1ee8a!1 1ee8b+3.644",
    "1ee8e=633,639,641,635,642,631,634,62a,62b,62e,630,636,638,63a 1ee9c!5 1eea1=628,62c,62f",
    "1eea4!1 1eea5=648,632,62d,637,64a 1eeaa!1 1eeab+3.644",
    "1eeae=633,639,641,635,642,631,634,62a,62b,62e,630,636,638,63a 1eebc!34 1eef2!10e 1f02c!4",
    "1f094!c 1f0af!2 1f0c0!1 1f0d0!1 1f0f6!b",
    "1f101=30.2c,31.2c,32.2c,33.2c,34.2c,35.2c,36.2c,37.2c,38.2c,39.2c",
    "1f110=28.61.29,28.62.29,28.63.29,28.64.29,28.65.29,28.66.29,28.67.29,28.68.29,28.69.29",
    "1f119=28.6a.29,28.6b.29,28.6c.29,28.6d.29,28.6e.29,28.6f.29,28.70.29,28.71.29,28.72.29",
    "1f122=28.73.29,28.74.29,28.75.29,28.76.29,28.77.29,28.78.29,28.79.29,28.7a.29,3014.73.3015",
    "1f12b=63,72,63.64,77.7a 1f130+1a.61 1f14a=68.76,6d.76,73.64,73.73,70.70.76,77.63",
    "1f16a=6d.63,6d.64,6d.72 1f190=64.6a 1f1ae!38 1f200=307b.304b,30b3.30b3,30b5 1f203!d",
    "1f210=624b,5b57,53cc,30c7,4e8c,591a,89e3,5929,4ea4,6620,7121,6599,524d,5f8c,518d,65b0,521d",
    "1f221=7d42,751f,8ca9,58f0,5439,6f14,6295,6355,4e00,4e09,904a,5de6,4e2d,53f3,6307,8d70,6253",
    "1f232=7981,7a7a,5408,6e80,6709,6708,7533,5272,55b6,914d 1f23c!4",
    "1f240=3014.672c.3015,3014.4e09.3015,3014.4e8c.3015,3014.5b89.3015,3014.70b9.3015",
    "1f245=3014.6253.3015,3014.76d7.3015,3014.52dd.3015,3014.6557.3015 1f249!7 1f250=5f97,53ef",
    "1f252!e 1f266!9a 1f6d9!3 1f6ed!3 1f6fd!3 1f7da!6 1f7ec!4 1f7f1!f 1f80c!4 1f848!8 1f85a!6",
    "1f888!8 1f8ae!2 1f8bc!4 1f8c2!e 1f8d9!27 1fa58!8 1fa6e!2 1fa7d!3 1fa8b!3 1fac7!1 1fac9!4",
    "1fadd!2 1faeb!4 1faf9!7 1fb93!1 1fbf0+a.30 1fbfb!405 2a6e0!20 2b81e!2 2ceae!2 2ebe1!f",
    "2ee5e!9a2",
    "2f800=4e3d,4e38,4e41,20122,4f60,4fae,4fbb,5002,507a,5099,50e7,50cf,349e,2063a,514d,5154,5164",
    "2f811=5177,2051c,34b9,5167,518d,2054b,5197,51a4,4ecc,51ac,51b5,291df,51f5,5203,34df,523b",
    "2f821=5246,5272,5277,3515,52c7,52c9,52e4,52fa,5305,5306,5317,5349,5351,535a,5373,537d,537f",
    "2f832=537f,537f,20a2c,7070,53ca,53df,20b63,53eb,53f1,5406,549e,5438,5448,5468,54a2,54f6,5510",
    "2f843=5553,5563,5584,5584,5599,55ab,55b3,55c2,5716,5606,5717,5651,5674,5207,58ee,57ce,57f4",
    "2f854=580d,578b,5832,5831,58ac,214e4,58f2,58f7,5906,591a,5922,5962,216a8,216ea,59ec,5a1b",
    "2f864=5a27,59d8,5a66,36ee,36fc,5b08,5b3e,5b3e,219c8,5bc3,5bd8,5be7,5bf3,21b18,5bff,5c06,5f53",
    "2f875=5c22,3781,5c60,5c6e,5cc0,5c8d,21de4,5d43,21de6,5d6e,5d6b,5d7c,5de1,5de2,382f,5dfd,5e28",
    "2f886=5e3d,5e69,3862,22183,387c,5eb0,5eb3,5eb6,5eca,2a392,5efe,22331,22331,8201,5f22,5f22",
    "2f896=38c7,232b8,261da,5f62,5f6b,38e3,5f9a,5fcd,5fd7,5ff9,6081,393a,391c,6094,226d4,60c7",
    "2f8a6=6148,614c,614e,614c,617a,618e,61b2,61a4,61af,61de,61f2,61f6,6210,621b,625d,62b1,62d4",
    "2f8b7=6350,22b0c,633d,62fc,6368,6383,63e4,22bf1,6422,63c5,63a9,3a2e,6469,647e,649d,6477,3a6c",
    "2f8c8=654f,656c,2300a,65e3,66f8,6649,3b19,6691,3b08,3ae4,5192,5195,6700,669c,80ad,43d9,6717",
    "2f8d9=671b,6721,675e,6753,233c3,3b49,67fa,6785,6852,6885,2346d,688e,681f,6914,3b9d,6942,69a3",
    "2f8ea=69ea,6aa8,236a3,6adb,3c18,6b21,238a7,6b54,3c4e,6b72,6b9f,6bba,6bbb,23a8d,21d0b,23afa",
    "2f8fa=6c4e,23cbc,6cbf,6ccd,6c67,6d16,6d3e,6d77,6d41,6d69,6d78,6d85,23d1e,6d34,6e2f,6e6e,3d33",
    "2f90b=6ecb,6ec7,23ed1,6df9,6f6e,23f5e,23f8e,6fc6,7039,701e,701b,3d96,704a,707d,7077,70ad",
    "2f91b=20525,7145,24263,719c,243ab,7228,7235,7250,24608,7280,7295,24735,24814,737a,738b,3eac",
    "2f92b=73a5,3eb8,3eb8,7447,745c,7471,7485,74ca,3f1b,7524,24c36,753e,24c92,7570,2219f,7610",
    "2f93b=24fa1,24fb8,25044,3ffc,4008,76f4,250f3,250f2,25119,25133,771e,771f,771f,774a,4039,778b",
    "2f94b=4046,4096,2541d,784e,788c,78cc,40e3,25626,7956,2569a,256c5,798f,79eb,412f,7a40,7a4a",
    "2f95b=7a4f,2597c,25aa7,25aa7,7aee,4202,25bab,7bc6,7bc9,4227,25c80,7cd2,42a0,7ce8,7ce3,7d00",
    "2f96b=25f86,7d63,4301,7dc7,7e02,7e45,4334,26228,26247,4359,262d9,7f7a,2633e,7f95,7ffa,8005",
    "2f97b=264da,26523,8060,265a8,8070,2335f,43d5,80b2,8103,440b,813e,5ab5,267a7,267b5,23393",
    "2f98a=2339c,8201,8204,8f9e,446b,8291,828b,829d,52b3,82b1,82b3,82bd,82e6,26b3c,82e5,831d,8363",
    "2f99b=83ad,8323,83bd,83e7,8457,8353,83ca,83cc,83dc,26c36,26d6b,26cd5,452b,84f1,84f3,8516",
    "2f9ab=273ca,8564,26f2c,455d,4561,26fb1,270d2,456b,8650,865c,8667,8669,86a9,8688,870e,86e2",
    "2f9bb=8779,8728,876b,8786,45d7,87e1,8801,45f9,8860,8863,27667,88d7,88de,4635,88fa,34bb,278ae",
    "2f9cc=27966,46be,46c7,8aa0,8aed,8b8a,8c55,27ca8,8cab,8cc1,8d1b,8d77,27f2f,20804,8dcb,8dbc",
    "2f9dc=8df0,208de,8ed4,8f38,285d2,285ed,9094,90f1,9111,2872e,911b,9238,92d7,92d8,927c,93f9",
    "2f9ec=9415,28bfa,958b,4995,95b7,28d77,49e6,96c3,5db2,9723,29145,2921a,4a6e,4a76,97e0,2940a",
    "2f9fc=4ab2,29496,980b,980b,9829,295b6,98e2,4b33,9929,99a7,99c2,99fe,4bce,29b30,9b12,9c40",
    "2fa0c=9cfd,4cce,4ced,9d67,2a0ce,4cf8,2a105,2a20e,2a291,9ebb,4d56,9ef9,9efe,9f05,9f0f,9f16",
    "2fa1c=9f3b,2a600 2fa1e!5e2 3134b!5 3347a!acc86 e0100-f0 e01f0!2fe10"]

def mappingRows : List Row := Row.ofLines mappingLines

namespace Row

/-- The characters of its run that a row of the mapping speaks of. -/
def runLength (r : Row) : Nat := if r.sign = '=' then r.groups.length else r.field 0

/-- The image of the character at a place of the run. -/
def image (r : Row) (place : Nat) : Image :=
  match r.sign with
  | '-' => .dropped
  | '!' => .refused
  | '+' => .replaced [Char.ofNat (r.field 1 + place)]
  | '*' => if place % 2 = 0 then .replaced [Char.ofNat (r.first + place + 1)] else .kept
  | _ => .replaced (((r.groups[place]?).getD []).map Char.ofNat)

end Row

def image (c : Char) : Image :=
  match mappingRows.find? fun r => r.first ≤ c.toNat && c.toNat < r.first + r.runLength with
  | some r => r.image (c.toNat - r.first)
  | none => .kept

def isKept (c : Char) : Bool := image c = .kept

/-- A name with its characters replaced, unless one is refused. -/
def mapped? : List Char → Option (List Char)
  | [] => some []
  | c :: cs =>
    match image c with
    | .kept => (mapped? cs).map (c :: ·)
    | .dropped => mapped? cs
    | .refused => none
    | .replaced xs => (mapped? cs).map (xs ++ ·)

end FleetDesk.Domain
