import FleetDesk.Domain.Composition

/-!
# Characters that depend on their neighbours

A label must not begin with a mark, and may hold an invisible joiner only where it changes how the
letters around it are written. In a name with letters that run from right to left, every label keeps
to one direction.
-/

namespace FleetDesk.Domain

/-- Runs of combining marks, by their length. -/
def markLines : List String :=
  ["300M70 483M7 591M2d 5bfM1 5c1M2 5c4M2 5c7M1 610Mb 64bM15 670M1 6d6M7 6dfM6 6e7M2 6eaM4 711M1",
    "730M1b 7a6Mb 7ebM9 7fdM1 816M4 81bM9 825M3 829M5 859M3 897M9 8caM3a 93aM3 93eM12 951M7 962M2",
    "981M3 9bcM1 9beM10 9d7M1 9e2M2 9feM6 a3cM16 a70M2 a75M1 a81M3 abcM1 abeM10 ae2M2 afaMa b3cM1",
    "b3eM1a b62M2 b82M1 bbeM10 bd7M1 c00M5 c3cM1 c3eM19 c62M2 c81M3 cbcM1 cbeM19 ce2M2 cf3M11 d3bM2",
    "d3eM10 d57M1 d62M2 d81M3 dcaM16 df2M2 e31M1 e34M7 e47M8 eb1M1 eb4M9 ec8M7 f18M2 f35M1 f37M1",
    "f39M1 f3eM2 f71M14 f86M2 f8dM30 fc6M1 102bM14 1056M4 105eM3 1062M3 1067M7 1071M4 1082Mc 108fM1",
    "109aM4 135dM3 1712M4 1732M3 1752M2 1772M2 17b6M1e 17ddM1 1885M2 18a9M1 1920M1c 1a17M5 1a55M2b",
    "1ab0M55 1b34M11 1b6bM9 1b80M3 1ba1Md 1be6Me 1c24M14 1cd0M3 1cd4M15 1cedM1 1cf4M1 1cf7M3",
    "1dc0M40 20d0M21 2cefM3 2d7fM1 2de0M20 302aM6 3099M2 a66fM4 a674Ma a69eM2 a6f0M2 a802M1 a806M1",
    "a80bM1 a823M5 a82cM1 a880M2 a8b4M12 a8e0M12 a8ffM1 a926M8 a947Md a980M4 a9b3Me a9e5M1 aa29Me",
    "aa43M1 aa4cM2 aa7bM3 aab0M1 aab2M3 aab7M2 aabeM2 aac1M1 aaebM5 aaf5M2 abe3M8 abecM2 fb1eM1",
    "fe20M10 101fdM1 102e0M1 10376M5 10a01Mf 10a38M8 10ae5M2 10d24M4 10d69M5 10eabM2 10efaM6",
    "10f46Mb 10f82M4 11000M3 11038Mf 11070M1 11073M2 1107fM4 110b0Mb 110c2M1 11100M3 11127Me",
    "11145M2 11173M1 11180M3 111b3Me 111c9M4 111ceM2 1122cMc 1123eM1 11241M1 112dfMc 11300M4",
    "1133bM2 1133eM10 11357M1 11362M13 113b8M19 113d2M1 113e1M2 11435M12 1145eM1 114b0M14 115afM12",
    "115dcM2 11630M11 116abMd 1171dMf 1182cMf 11930Mf 11940M1 11942M2 119d1M10 119e4M1 11a01Ma",
    "11a33M7 11a3bM4 11a47M1 11a51Mb 11a8aM10 11b60M8 11c2fM11 11c92M25 11d31M15 11d47M1 11d8aMe",
    "11ef3M4 11f00M2 11f03M1 11f34Mf 11f5aM1 13440M1 13447Mf 1611eM12 16af0M5 16b30M7 16f4fM1",
    "16f51M42 16fe4Me 1bc9dM2 1cf00M47 1d165M5 1d16dM16 1d185M7 1d1aaM4 1d242M3 1da00M37 1da3bM32",
    "1da75M1 1da84M1 1da9bM15 1e000M90 1e130M7 1e2aeM1 1e2ecM4 1e4ecM4 1e5eeM2 1e6e3M1 1e6e6M1",
    "1e6eeM2 1e6f5M1 1e8d0M7 1e944M7"]

/-- Runs of joining types: `D` joins on both sides, `L` to the left, `R` to the right, `C` causes
joining, `T` is passed over. -/
def joiningLines : List String :=
  ["300T70 483T7 591T2d 5bfT1 5c1T2 5c4T2 5c7T1 610Tb 620D1 622R4 626D1 627R1 628D1 629R1 62aD5",
    "62fR4 633Dd 640C1 641D7 648R1 649D2 64bT15 66eD2 670T1 671R3 679Df 688R12 69aD26 6c0R1 6c1D2",
    "6c3R9 6ccD1 6cdR1 6ceD1 6cfR1 6d0D2 6d2R2 6d5R1 6d6T7 6dfT6 6e7T2 6eaT4 6eeR2 6faD3 6ffD1",
    "710R1 711T1 712D3 715R5 71aD4 71eR1 71fD9 728R1 729D1 72aR1 72bD1 72cR1 72dD2 72fR1 730T1b",
    "74dR1 74eDb 759R3 75cDf 76bR2 76dD4 771R1 772D1 773R2 775D3 778R2 77aD6 7a6Tb 7caD21 7ebT9",
    "7faC1 7fdT1 816T4 81bT9 825T3 829T5 840R1 841D5 846R2 848D1 849R1 84aDa 854R1 855D1 856R3",
    "859T3 860D1 862D4 867R1 868D1 869R1a 883C3 886D1 889D5 88eR1 88fD1 897T9 8a0Da 8aaR3 8aeR1",
    "8afD2 8b1R2 8b3D6 8b9R1 8baDf 8caT39 93aT1 93cT1 941T8 94dT1 951T7 962T2 981T1 9bcT1 9c1T4",
    "9cdT1 9e2T2 9feT5 a3cT1 a41T11 a70T2 a75T1 a81T2 abcT1 ac1T8 acdT1 ae2T2 afaT8 b3cT1 b3fT1",
    "b41T4 b4dTa b62T2 b82T1 bc0T1 bcdT1 c00T1 c04T1 c3cT1 c3eT3 c46T11 c62T2 c81T1 cbcT1 cbfT1",
    "cc6T1 cccT2 ce2T2 d00T2 d3bT2 d41T4 d4dT1 d62T2 d81T1 dcaT1 dd2T5 e31T1 e34T7 e47T8 eb1T1",
    "eb4T9 ec8T7 f18T2 f35T1 f37T1 f39T1 f71Te f80T5 f86T2 f8dT30 fc6T1 102dT4 1032T6 1039T2 103dT2",
    "1058T2 105eT3 1071T4 1082T1 1085T2 108dT1 109dT1 135dT3 1712T3 1732T2 1752T2 1772T2 17b7T7",
    "17c6T1 17c9Tb 17ddT1 1807D1 180aC1 1820D59 1885T2 1887D22 18a9T1 18aaD1 1920T3 1927T2 1932T1",
    "1939T3 1a17T2 1a1bT1 1a56T1 1a58T9 1a62T1 1a65T8 1a73Td 1ab0T54 1b34T1 1b36T5 1b3cT1 1b42T1",
    "1b6bT9 1b80T2 1ba2T4 1ba8T2 1babT3 1be6T1 1be8T2 1bedT1 1befT3 1c2cT8 1c36T2 1cd0T3 1cd4Td",
    "1ce2T7 1cedT1 1cf4T1 1cf8T2 1dc0T40 200dC1 20d0T21 2cefT3 2d7fT1 2de0T20 302aT4 3099T2 a66fT4",
    "a674Ta a69eT2 a6f0T2 a802T1 a806T1 a80bT1 a825T2 a82cT1 a840D32 a872L1 a8c4T2 a8e0T12 a8ffT1",
    "a926T8 a947Tb a980T3 a9b3T1 a9b6T4 a9bcT2 a9e5T1 aa29T6 aa31T2 aa35T2 aa43T1 aa4cT1 aa7cT1",
    "aab0T1 aab2T3 aab7T2 aabeT2 aac1T1 aaecT2 aaf6T1 abe5T1 abe8T1 abedT1 fb1eT1 fe20T10 101fdT1",
    "102e0T1 10376T5 10a01Tf 10a38T8 10ac0D5 10ac5R1 10ac7R1 10ac9R2 10acdL1 10aceR5 10ad3D4",
    "10ad7L1 10ad8D5 10addR1 10adeD3 10ae1R1 10ae4R1 10ae5T2 10aebD4 10aefR1 10b80D1 10b81R1",
    "10b82D1 10b83R3 10b86D3 10b89R1 10b8aD2 10b8cR1 10b8dD1 10b8eR2 10b90D1 10b91R1 10ba9R4",
    "10badD2 10d00L1 10d01D21 10d22R1 10d23D1 10d24T4 10d69T5 10eabT2 10ec2R1 10ec3D2 10ec6D2",
    "10efaT6 10f30D3 10f33R1 10f34D11 10f46Tb 10f51D3 10f54R1 10f70D4 10f74R2 10f76Dc 10f82T4",
    "10fb0D1 10fb2D2 10fb4R3 10fb8D1 10fb9R2 10fbbD2 10fbdR1 10fbeD2 10fc1D1 10fc2R2 10fc4D1",
    "10fc9R1 10fcaD1 10fcbL1 11001T1 11038Tf 11070T1 11073T2 1107fT3 110b3T4 110b9T2 110c2T1",
    "11100T3 11127T5 1112dT8 11173T1 11180T2 111b6T9 111c9T4 111cfT1 1122fT3 11234T1 11236T2",
    "1123eT1 11241T1 112dfT1 112e3T8 11300T2 1133bT2 11340T1 11366Tf 113bbT6 113ceT1 113d0T1",
    "113d2T1 113e1T2 11438T8 11442T3 11446T1 1145eT1 114b3T6 114baT1 114bfT2 114c2T2 115b2T4",
    "115bcT2 115bfT2 115dcT2 11633T8 1163dT1 1163fT2 116abT1 116adT1 116b0T6 116b7T1 1171dT1",
    "1171fT1 11722T4 11727T5 1182fT9 11839T2 1193bT2 1193eT1 11943T1 119d4T8 119e0T1 11a01Ta",
    "11a33T6 11a3bT4 11a47T1 11a51T6 11a59T3 11a8aTd 11a98T2 11b60T1 11b62T3 11b66T1 11c30Te",
    "11c3fT1 11c92T16 11caaT7 11cb2T2 11cb5T2 11d31T15 11d47T1 11d90T2 11d95T1 11d97T1 11ef3T2",
    "11f00T2 11f36T5 11f40T1 11f42T1 11f5aT1 13440T1 13447Tf 1611eTc 1612dT3 16af0T5 16b30T7",
    "16f4fT1 16f8fT4 16fe4T1 1bc9dT2 1cf00T47 1d167T3 1d17bT8 1d185T7 1d1aaT4 1d242T3 1da00T37",
    "1da3bT32 1da75T1 1da84T1 1da9bT15 1e000T90 1e130T7 1e2aeT1 1e2ecT4 1e4ecT4 1e5eeT2 1e6e3T1",
    "1e6e6T1 1e6eeT2 1e6f5T1 1e8d0T7 1e922D22 1e944T8"]

/-- Runs of directions: `R` and `A` from right to left, `N` Arabic digits, `E` digits, `S` signs,
`C` separators and `T` marks of numbers, `O` neutral, `B` invisible, `M` marks, `W` blanks. All
others run from left to right. -/
def directionLines : List String :=
  ["0B9 9W5 eBe 1cW5 21O2 23T3 26O5 2bS1 2cC1 2dS1 2eC2 30Ea 3aC1 3bO26 7bO4 7fB1 a1O1 a2T4 a6O9",
    "b0T2 b6O22 f7O1 2b9O2 2c2Oe 2d2O1c 2efO11 300M70 375O1 3f6O1 483M7 58aO5 58fT1 591M2d 5beR1",
    "5bfM1 5c0R1 5c1M2 5c3R1 5c4M2 5c6R1 5c7M1 5d0R25 606O2 608A1 609T2 60bA1 60cC1 60dA1 60eO2",
    "610Mb 61bA30 64bM15 660Na 66aT1 66bN2 66dA3 670M1 671A65 6d6M7 6deO1 6dfM6 6e5A2 6e7M2 6e9O1",
    "6eaM4 6eeA2 6f0Ea 6faA17 711M1 712A1e 730M1b 74dA59 7a6Mb 7b1A1 7c0R2b 7ebM9 7f4R2 7f6O4 7faR1",
    "7fdM1 7feR18 816M4 81aR1 81bM9 824R1 825M3 828R1 829M5 830R29 859M3 85eR1 860A30 897M9 8a0A2a",
    "8caM39 93aM1 93cM1 941M8 94dM1 951M7 962M2 981M1 9bcM1 9c1M4 9cdM1 9e2M2 9f2T2 9fbT1 9feM5",
    "a3cM1 a41M11 a70M2 a75M1 a81M2 abcM1 ac1M8 acdM1 ae2M2 af1T1 afaM8 b3cM1 b3fM1 b41M4 b4dMa",
    "b62M2 b82M1 bc0M1 bcdM1 bf3O6 bf9T1 bfaO1 c00M1 c04M1 c3cM1 c3eM3 c46M11 c62M2 c78O7 c81M1",
    "cbcM1 cccM2 ce2M2 cf3Mf d3bM2 d41M4 d4dM1 d62M2 d81M1 dcaM1 dd2M5 e31M1 e34M7 e3fT1 e47M8",
    "eb1M1 eb4M9 ec8M7 f18M2 f35M1 f37M1 f39M1 f3aO4 f71Me f80M5 f86M2 f8dM30 fc6M1 102dM4 1032M6",
    "1039M2 103dM2 1058M2 105eM3 1071M4 1082M1 1085M2 108dM1 109dM1 135dM3 1390Oa 1400O1 169bO2",
    "1712M3 1732M2 1752M2 1772M2 17b7M7 17c6M1 17c9Mb 17dbT1 17ddM1 17f0O1b 1885M2 18a9M1 1920M3",
    "1927M2 1932M1 1939M3 1940O6 19deO22 1a17M2 1a1bM1 1a56M1 1a58M9 1a62M1 1a65M8 1a73Md 1ab0M54",
    "1b34M1 1b36M5 1b3cM1 1b42M1 1b6bM9 1b80M2 1ba2M4 1ba8M2 1babM3 1be6M1 1be8M2 1bedM1 1befM3",
    "1c2cM8 1c36M2 1cd0M3 1cd4Md 1ce2M7 1cedM1 1cf4M1 1cf8M2 1dc0M40 200cB2 2010O18 2030T3 2035Of",
    "2044C1 2045O1a 20a0T21 20d0M21 2104O26 212eT1 213aO14 218aO88 2212S1 2213T1 2214O122 237bO1a",
    "2396O91 2440O26c 26adO153 2900O296 2b97O69 2ce5O6 2cefM3 2cf9O7 2d7fM1 2de0M20 2e00O205",
    "3008O19 302aM4 3030O1 3037O1 303dO3 3099M2 30a0O1 30fbO1 31c0O24 4dc0O40 a490O37 a60dO3 a66fM4",
    "a673O1 a674Ma a67eO2 a69eM2 a6f0M2 a700O22 a788O1 a802M1 a806M1 a80bM1 a825M2 a828O4 a82cM1",
    "a838T2 a874O4 a8c4M2 a8e0M12 a8ffM1 a926M8 a947Mb a980M3 a9b3M1 a9b6M4 a9bcM2 a9e5M1 aa29M6",
    "aa31M2 aa35M2 aa43M1 aa4cM1 aa7cM1 aab0M1 aab2M3 aab7M2 aabeM2 aac1M1 aaecM2 aaf6M1 ab6aO2",
    "abe5M1 abe8M1 abedM1 fb1eM1 fbb2A21 fd3eO12 fd90A3f fdcfO31 fe20M10 fe45O2 fe73A1 10101O1",
    "10140O4d 10190O11 101fdM1 102e0M1 102e1E1b 10376M5 10800R11c 1091fO1 10920Re1 10a01Mf 10a10R26",
    "10a38M8 10a40Ra5 10ae5M2 10aebR4b 10b39O7 10b40R1c0 10d00A24 10d24M4 10d30Na 10d40R10 10d69M5",
    "10d6eR22 10e60N1f 10e80R2a 10eabM2 10eadR5 10ec2A17 10efaM6 10f00R28 10f30A16 10f46Mb 10f51A9",
    "10f70R12 10f82M4 10f86R71 11001M1 11038Mf 11052O14 11070M1 11073M2 1107fM3 110b3M4 110b9M2",
    "110c2M1 11100M3 11127M5 1112dM8 11173M1 11180M2 111b6M9 111c9M4 111cfM1 1122fM3 11234M1",
    "11236M2 1123eM1 11241M1 112dfM1 112e3M8 11300M2 1133bM2 11340M1 11366Mf 113b8M19 113d2M1",
    "113e1M2 11438M8 11442M3 11446M1 1145eM1 114b3M6 114baM1 114bfM2 114c2M2 115b2M4 115bcM2",
    "115bfM2 115dcM2 11633M8 1163dM1 1163fM2 11660Od 116abM1 116adM1 116b0M6 116b7M1 1171dM3",
    "11722M4 11727M5 1182fM9 11839M2 1193bM2 1193eM1 11943M1 119d4M8 119e0M1 11a01M6 11a09M2",
    "11a33M6 11a3bM4 11a47M1 11a51M6 11a59M3 11a8aMd 11a98M2 11b60M8 11c30Me 11c92M16 11caaM7",
    "11cb2M2 11cb5M2 11d31M15 11d47M1 11d90M2 11d95M1 11d97M1 11ef3M2 11f00M2 11f03M1 11f34Mf",
    "11f5aM1 11fd5O8 11fddT4 11fe1O11 13440M1 13447Mf 1611eM12 16af0M5 16b30M7 16f4fM1 16f8fM4",
    "16fe2O1 16fe4M1 1bc9dM2 1cf00M47 1d167M3 1d17bM8 1d185M7 1d1aaM4 1d1e9O59 1d242M3 1d245O1",
    "1d300O57 1da00M37 1da3bM32 1da75M1 1da84M1 1da9bM15 1e000M90 1e130M7 1e2aeM1 1e2ecM4 1e2ffT1",
    "1e4ecM4 1e5eeM2 1e6e3M1 1e6e6M1 1e6eeM2 1e6f5M1 1e800Rd0 1e8d0M7 1e922R22 1e944M7 1e94bR15",
    "1ec71Acd 1eef0O240 1f16dO3 1f1adO1 1f260O478 1f6ddO97 1f780O59 1f7e0Od2 1f900O154 1fa60O15",
    "1fa78Of 1fa90O1d 1fab0Ob 1fac0O6 1fad0Oa 1fae0O8 1faf0O7 1fb00Ocb"]

def markRows : List Row := Row.ofLines markLines

def joiningRows : List Row := Row.ofLines joiningLines

def directionRows : List Row := Row.ofLines directionLines

def isMark (c : Char) : Bool := c.toNat ≥ 0x300 && (Row.find? markRows c.toNat).isSome

def joiningType (c : Char) : Char := Row.signOf joiningRows 'U' c.toNat

def direction (c : Char) : Char := Row.signOf directionRows 'L' c.toNat

/-! ### Joiners -/

def nonJoiner : Char := '\u200c'

def joiner : Char := '\u200d'

/-- The class of the marks that suppress a vowel. -/
def viramaClass : Nat := 9

/-- The joining type of the first character that is not passed over. -/
def nextJoining (cs : List Char) : Option Char := (cs.map joiningType).find? (· != 'T')

/-- Joiners stand behind a virama; a non-joiner also between letters that would join. `before` holds
the characters in front, last first. -/
def joinersFit (before : List Char) : List Char → Bool
  | [] => true
  | c :: cs =>
    let virama := before.head?.any (markClass · = viramaClass)
    let between := (nextJoining before).any (fun t => t = 'L' || t = 'D')
      && (nextJoining cs).any (fun t => t = 'R' || t = 'D')
    let fits := if c = joiner then virama else if c = nonJoiner then virama || between else true
    fits && joinersFit (c :: before) cs

/-! ### Directions -/

def isRightToLeft (d : Char) : Bool := d = 'R' || d = 'A'

/-- A name with such a character has the labels' directions checked. -/
def turnsAround (cs : List Char) : Bool :=
  cs.any fun c => isRightToLeft (direction c) || direction c = 'N'

/-- The directions of a label without the marks at its end, last first. -/
def lastDirection (ds : List Char) : Option Char := (ds.reverse.dropWhile (· = 'M')).head?

def within (allowed : List Char) (ds : List Char) : Bool := ds.all allowed.contains

def keepsDirection (label : List Char) : Bool :=
  let ds := label.map direction
  match ds with
  | [] => true
  | d :: _ =>
    if isRightToLeft d then
      within "RANESCTOBM".toList ds
        && (lastDirection ds).any (within "RAEN".toList [·])
        && !(ds.contains 'E' && ds.contains 'N')
    else if d = 'L' then
      within "LESCTOBM".toList ds && (lastDirection ds).any (within "LE".toList [·])
    else false

end FleetDesk.Domain
