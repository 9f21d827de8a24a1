import JobScheduling.Text.Trim

/-!
The zone database that the machines of this project are set up with: regions of release 2026f, each as a compiled
file. Each region has its offset before the first change, the rule after the last one, and the changes in between,
which are written compactly: the second since 1970 of a change, a colon, and the offset in seconds from then on.
-/

namespace JobScheduling

/-- A region as the database describes it. -/
structure Region where
  key : String
  before : Int
  rule : String
  changes : List String

namespace Region

/-! ### Compiling -/

/-- The change that a pair of numbers around a colon describes. -/
def change? (s : List Char) : Option (Int × Int) :=
  match Text.cut ':' s with
  | (second, some offset) => do some (← (String.ofList second).toInt?, ← (String.ofList offset).toInt?)
  | _ => none

/-- A number in two's complement, the most significant byte first. -/
def bytesOf (count : Nat) (n : Int) : List UInt8 :=
  ((List.range count).map fun i => UInt8.ofNat ((n / 256 ^ i) % 256).toNat).reverse

/-- A header for so many changes and types, whose only name has four bytes. -/
def headerBytes (changes types : Nat) : List UInt8 :=
  "TZif2".toUTF8.toList ++ List.replicate 15 0 ++
    [0, 0, 0, changes, types, 4].flatMap fun n => bytesOf 4 (Int.ofNat n)

/-- The compiled file of a region. All offsets go by the same name, and none of them counts as summer time. -/
def bytes (r : Region) : List UInt8 :=
  let changes := r.changes.flatMap fun line => (Text.words line.toList).filterMap change?
  let offsets := (r.before :: changes.map (·.2)).eraseDups
  let name := "LMT".toUTF8.toList ++ [0]
  let typeBytes := fun offset : Int => bytesOf 4 offset ++ [0, 0]
  headerBytes 0 1 ++ typeBytes 0 ++ name ++ headerBytes changes.length offsets.length ++
    changes.flatMap (fun c => bytesOf 8 c.1) ++ changes.map (fun c => UInt8.ofNat (offsets.idxOf c.2)) ++
    offsets.flatMap typeBytes ++ name ++ 10 :: r.rule.toUTF8.toList ++ [10]

/-! ### The database -/

/-- The known regions. -/
def all : List Region := [
  { key := "Africa/Cairo", before := 7509, rule := "EET-2EEST,M4.5.5/0,M10.5.4/24", changes := [
     "-2185409109:7200 -929844000:10800 -923108400:7200 -906170400:10800 -892868400:7200 -875844000:10800",
     "-857790000:7200 -844308000:10800 -825822000:7200 -812685600:10800 -794199600:7200 -779853600:10800",
     "-762663600:7200 -399088800:10800 -386650800:7200 -368330400:10800 -355114800:7200 -336790800:10800",
     "-323654400:7200 -305168400:10800 -292032000:7200 -273632400:10800 -260496000:7200 -242096400:10800",
     "-228960000:7200 -210560400:10800 -197424000:7200 -178938000:10800 -165801600:7200 -147402000:10800",
     "-134265600:7200 -115866000:10800 -102643200:7200 -84330000:10800 -71107200:7200 -52707600:10800",
     "-39484800:7200 -21171600:10800 -7948800:7200 10364400:10800 23587200:7200 41900400:10800 55123200:7200",
     "73522800:10800 86745600:7200 105058800:10800 118281600:7200 136594800:10800 149817600:7200 168130800:10800",
     "181353600:7200 199753200:10800 212976000:7200 231289200:10800 244512000:7200 262825200:10800",
     "276048000:7200 294361200:10800 307584000:7200 325983600:10800 339206400:7200 357519600:10800",
     "370742400:7200 396399600:10800 402278400:7200 426812400:10800 433814400:7200 452214000:10800",
     "465436800:7200 483750000:10800 496972800:7200 515286000:10800 528508800:7200 546822000:10800",
     "560044800:7200 578444400:10800 591667200:7200 610412400:10800 623203200:7200 641516400:10800",
     "654739200:7200 673052400:10800 686275200:7200 704674800:10800 717897600:7200 736210800:10800",
     "749433600:7200 767746800:10800 780969600:7200 799020000:10800 812322000:7200 830469600:10800",
     "843771600:7200 861919200:10800 875221200:7200 893368800:10800 906670800:7200 925423200:10800",
     "938725200:7200 956872800:10800 970174800:7200 988322400:10800 1001624400:7200 1019772000:10800",
     "1033074000:7200 1051221600:10800 1064523600:7200 1083276000:10800 1096578000:7200 1114725600:10800",
     "1128027600:7200 1146175200:10800 1158872400:7200 1177624800:10800 1189112400:7200 1209074400:10800",
     "1219957200:7200 1240524000:10800 1250802000:7200 1272578400:10800 1281474000:7200 1284069600:10800",
     "1285880400:7200 1400191200:10800 1403816400:7200 1406844000:10800 1411678800:7200 1682632800:10800"] },
  { key := "Africa/Casablanca", before := -1820, rule := "<+00>0", changes := [
     "-1773012580:0 -956361600:3600 -950490000:0 -942019200:3600 -761187600:0 -617241600:3600 -605149200:0",
     "-81432000:3600 -71110800:0 141264000:3600 147222000:0 199756800:3600 207702000:0 231292800:3600",
     "244249200:0 265507200:3600 271033200:0 448243200:3600 504918000:0 1212278400:3600 1220223600:0",
     "1243814400:3600 1250809200:0 1272758400:3600 1281222000:0 1301788800:3600 1312066800:0 1335664800:3600",
     "1342749600:0 1345428000:3600 1348970400:0 1367114400:3600 1373162400:0 1376100000:3600 1382839200:0",
     "1396144800:3600 1403920800:0 1406944800:3600 1414288800:0 1427594400:3600 1434247200:0 1437271200:3600",
     "1445738400:0 1459044000:3600 1465092000:0 1468116000:3600 1477792800:0 1490493600:3600 1495332000:0",
     "1498960800:3600 1509242400:0 1521943200:3600 1526176800:0 1529200800:3600 1557021600:0 1560045600:3600",
     "1587261600:0 1590890400:3600 1618106400:0 1621130400:3600 1648346400:0 1651975200:3600 1679191200:0",
     "1682215200:3600 1710036000:0 1713060000:3600 1740276000:0 1743904800:3600 1771120800:0 1774144800:3600",
     "1789866000:0"] },
  { key := "Africa/Monrovia", before := -2588, rule := "GMT0", changes := [
     "-1604359012:-2670 63593070:0"] },
  { key := "America/Chicago", before := -21036, rule := "CST6CDT,M3.2.0,M11.1.0", changes := [
     "-2717647200:-21600 -1633276800:-18000 -1615136400:-21600 -1601827200:-18000 -1583686800:-21600",
     "-1563724800:-18000 -1551632400:-21600 -1538928000:-18000 -1520182800:-21600 -1504454400:-18000",
     "-1491757200:-21600 -1473004800:-18000 -1459702800:-21600 -1441555200:-18000 -1428253200:-21600",
     "-1410105600:-18000 -1396803600:-21600 -1378656000:-18000 -1365354000:-21600 -1347206400:-18000",
     "-1333904400:-21600 -1315152000:-18000 -1301850000:-21600 -1283702400:-18000 -1270400400:-21600",
     "-1252252800:-18000 -1238950800:-21600 -1220803200:-18000 -1207501200:-21600 -1189353600:-18000",
     "-1176051600:-21600 -1157299200:-18000 -1144602000:-21600 -1125849600:-18000 -1112547600:-21600",
     "-1094400000:-18000 -1081098000:-21600 -1067788800:-18000 -1045414800:-21600 -1031500800:-18000",
     "-1018198800:-21600 -1000051200:-18000 -986749200:-21600 -967996800:-18000 -955299600:-21600",
     "-936547200:-18000 -923245200:-21600 -905097600:-18000 -891795600:-21600 -880214400:-18000",
     "-765392400:-21600 -747244800:-18000 -733942800:-21600 -715795200:-18000 -702493200:-21600",
     "-684345600:-18000 -671043600:-21600 -652896000:-18000 -639594000:-21600 -620841600:-18000",
     "-608144400:-21600 -589392000:-18000 -576090000:-21600 -557942400:-18000 -544640400:-21600",
     "-526492800:-18000 -513190800:-21600 -495043200:-18000 -481741200:-21600 -463593600:-18000",
     "-447267600:-21600 -431539200:-18000 -415818000:-21600 -400089600:-18000 -384368400:-21600",
     "-368640000:-18000 -352918800:-21600 -337190400:-18000 -321469200:-21600 -305740800:-18000",
     "-289414800:-21600 -273686400:-18000 -257965200:-21600 -242236800:-18000 -226515600:-21600",
     "-210787200:-18000 -195066000:-21600 -179337600:-18000 -163616400:-21600 -147888000:-18000",
     "-131562000:-21600 -116438400:-18000 -100112400:-21600 -84384000:-18000 -68662800:-21600 -52934400:-18000",
     "-37213200:-21600 -21484800:-18000 -5763600:-21600 9964800:-18000 25686000:-21600 41414400:-18000",
     "57740400:-21600 73468800:-18000 89190000:-21600 104918400:-18000 120639600:-21600 126691200:-18000",
     "152089200:-21600 162374400:-18000 183538800:-21600 199267200:-18000 215593200:-21600 230716800:-18000",
     "247042800:-21600 262771200:-18000 278492400:-21600 294220800:-18000 309942000:-21600 325670400:-18000",
     "341391600:-21600 357120000:-18000 372841200:-21600 388569600:-18000 404895600:-21600 420019200:-18000",
     "436345200:-21600 452073600:-18000 467794800:-21600 483523200:-18000 499244400:-21600 514972800:-18000",
     "530694000:-21600 544608000:-18000 562143600:-21600 576057600:-18000 594198000:-21600 607507200:-18000",
     "625647600:-21600 638956800:-18000 657097200:-21600 671011200:-18000 688546800:-21600 702460800:-18000",
     "719996400:-21600 733910400:-18000 752050800:-21600 765360000:-18000 783500400:-21600 796809600:-18000",
     "814950000:-21600 828864000:-18000 846399600:-21600 860313600:-18000 877849200:-21600 891763200:-18000",
     "909298800:-21600 923212800:-18000 941353200:-21600 954662400:-18000 972802800:-21600 986112000:-18000",
     "1004252400:-21600 1018166400:-18000 1035702000:-21600 1049616000:-18000 1067151600:-21600",
     "1081065600:-18000 1099206000:-21600 1112515200:-18000 1130655600:-21600 1143964800:-18000",
     "1162105200:-21600 1173600000:-18000"] },
  { key := "America/New_York", before := -17762, rule := "EST5EDT,M3.2.0,M11.1.0", changes := [
     "-2717650800:-18000 -1633280400:-14400 -1615140000:-18000 -1601830800:-14400 -1583690400:-18000",
     "-1570381200:-14400 -1551636000:-18000 -1536512400:-14400 -1523210400:-18000 -1504458000:-14400",
     "-1491760800:-18000 -1473008400:-14400 -1459706400:-18000 -1441558800:-14400 -1428256800:-18000",
     "-1410109200:-14400 -1396807200:-18000 -1378659600:-14400 -1365357600:-18000 -1347210000:-14400",
     "-1333908000:-18000 -1315155600:-14400 -1301853600:-18000 -1283706000:-14400 -1270404000:-18000",
     "-1252256400:-14400 -1238954400:-18000 -1220806800:-14400 -1207504800:-18000 -1189357200:-14400",
     "-1176055200:-18000 -1157302800:-14400 -1144605600:-18000 -1125853200:-14400 -1112551200:-18000",
     "-1094403600:-14400 -1081101600:-18000 -1062954000:-14400 -1049652000:-18000 -1031504400:-14400",
     "-1018202400:-18000 -1000054800:-14400 -986752800:-18000 -968000400:-14400 -955303200:-18000",
     "-936550800:-14400 -923248800:-18000 -905101200:-14400 -891799200:-18000 -880218000:-14400",
     "-765396000:-18000 -747248400:-14400 -733946400:-18000 -715798800:-14400 -702496800:-18000",
     "-684349200:-14400 -671047200:-18000 -652899600:-14400 -639597600:-18000 -620845200:-14400",
     "-608148000:-18000 -589395600:-14400 -576093600:-18000 -557946000:-14400 -544644000:-18000",
     "-526496400:-14400 -513194400:-18000 -495046800:-14400 -481744800:-18000 -463597200:-14400",
     "-447271200:-18000 -431542800:-14400 -415821600:-18000 -400093200:-14400 -384372000:-18000",
     "-368643600:-14400 -352922400:-18000 -337194000:-14400 -321472800:-18000 -305744400:-14400",
     "-289418400:-18000 -273690000:-14400 -257968800:-18000 -242240400:-14400 -226519200:-18000",
     "-210790800:-14400 -195069600:-18000 -179341200:-14400 -163620000:-18000 -147891600:-14400",
     "-131565600:-18000 -116442000:-14400 -100116000:-18000 -84387600:-14400 -68666400:-18000 -52938000:-14400",
     "-37216800:-18000 -21488400:-14400 -5767200:-18000 9961200:-14400 25682400:-18000 41410800:-14400",
     "57736800:-18000 73465200:-14400 89186400:-18000 104914800:-14400 120636000:-18000 126687600:-14400",
     "152085600:-18000 162370800:-14400 183535200:-18000 199263600:-14400 215589600:-18000 230713200:-14400",
     "247039200:-18000 262767600:-14400 278488800:-18000 294217200:-14400 309938400:-18000 325666800:-14400",
     "341388000:-18000 357116400:-14400 372837600:-18000 388566000:-14400 404892000:-18000 420015600:-14400",
     "436341600:-18000 452070000:-14400 467791200:-18000 483519600:-14400 499240800:-18000 514969200:-14400",
     "530690400:-18000 544604400:-14400 562140000:-18000 576054000:-14400 594194400:-18000 607503600:-14400",
     "625644000:-18000 638953200:-14400 657093600:-18000 671007600:-14400 688543200:-18000 702457200:-14400",
     "719992800:-18000 733906800:-14400 752047200:-18000 765356400:-14400 783496800:-18000 796806000:-14400",
     "814946400:-18000 828860400:-14400 846396000:-18000 860310000:-14400 877845600:-18000 891759600:-14400",
     "909295200:-18000 923209200:-14400 941349600:-18000 954658800:-14400 972799200:-18000 986108400:-14400",
     "1004248800:-18000 1018162800:-14400 1035698400:-18000 1049612400:-14400 1067148000:-18000",
     "1081062000:-14400 1099202400:-18000 1112511600:-14400 1130652000:-18000 1143961200:-14400",
     "1162101600:-18000 1173596400:-14400"] },
  { key := "America/Santiago", before := -16965, rule := "<-04>4<-03>,M9.1.6/24,M4.1.6/24", changes := [
     "-1892661435:-18000 -1688410800:-16965 -1619205435:-14400 -1593806400:-16965 -1335986235:-14400",
     "-1317585600:-18000 -1304362800:-14400 -1286049600:-18000 -1272826800:-14400 -1254513600:-18000",
     "-1241290800:-14400 -1222977600:-18000 -1209754800:-14400 -1191355200:-18000 -1178132400:-14400",
     "-870552000:-18000 -865278000:-14400 -740520000:-10800 -736635600:-14400 -718056000:-18000",
     "-713649600:-14400 -36619200:-10800 -23922000:-14400 -3355200:-10800 7527600:-14400 24465600:-10800",
     "37767600:-14400 55915200:-10800 69217200:-14400 87969600:-10800 100666800:-14400 118209600:-10800",
     "132116400:-14400 150868800:-10800 163566000:-14400 182318400:-10800 195620400:-14400 213768000:-10800",
     "227070000:-14400 245217600:-10800 258519600:-14400 277272000:-10800 289969200:-14400 308721600:-10800",
     "321418800:-14400 340171200:-10800 353473200:-14400 371620800:-10800 384922800:-14400 403070400:-10800",
     "416372400:-14400 434520000:-10800 447822000:-14400 466574400:-10800 479271600:-14400 498024000:-10800",
     "510721200:-14400 529473600:-10800 545194800:-14400 560923200:-10800 574225200:-14400 592372800:-10800",
     "605674800:-14400 624427200:-10800 637124400:-14400 653457600:-10800 668574000:-14400 687326400:-10800",
     "700628400:-14400 718776000:-10800 732078000:-14400 750225600:-10800 763527600:-14400 781675200:-10800",
     "794977200:-14400 813729600:-10800 826426800:-14400 845179200:-10800 859690800:-14400 876628800:-10800",
     "889930800:-14400 906868800:-10800 923194800:-14400 939528000:-10800 952830000:-14400 971582400:-10800",
     "984279600:-14400 1003032000:-10800 1015729200:-14400 1034481600:-10800 1047178800:-14400 1065931200:-10800",
     "1079233200:-14400 1097380800:-10800 1110682800:-14400 1128830400:-10800 1142132400:-14400",
     "1160884800:-10800 1173582000:-14400 1192334400:-10800 1206846000:-14400 1223784000:-10800",
     "1237086000:-14400 1255233600:-10800 1270350000:-14400 1286683200:-10800 1304823600:-14400",
     "1313899200:-10800 1335668400:-14400 1346558400:-10800 1367118000:-14400 1378612800:-10800",
     "1398567600:-14400 1410062400:-10800 1463281200:-14400 1471147200:-10800 1494730800:-14400",
     "1502596800:-10800 1526180400:-14400 1534046400:-10800 1554606000:-14400 1567915200:-10800",
     "1586055600:-14400 1599364800:-10800 1617505200:-14400 1630814400:-10800 1648954800:-14400",
     "1662868800:-10800 1680404400:-14400"] },
  { key := "America/Sao_Paulo", before := -11188, rule := "<-03>3", changes := [
     "-1767214412:-10800 -1206957600:-7200 -1191362400:-10800 -1175374800:-7200 -1159826400:-10800",
     "-633819600:-7200 -622069200:-10800 -602283600:-7200 -591832800:-10800 -570747600:-7200 -560210400:-10800",
     "-539125200:-7200 -531352800:-10800 -195426000:-7200 -184197600:-10800 -155163600:-7200 -149983200:-10800",
     "-128898000:-7200 -121122000:-10800 -99954000:-7200 -89589600:-10800 -68418000:-7200 -57967200:-10800",
     "499748400:-7200 511236000:-10800 530593200:-7200 540266400:-10800 562129200:-7200 571197600:-10800",
     "592974000:-7200 602042400:-10800 624423600:-7200 634701600:-10800 656478000:-7200 666756000:-10800",
     "687927600:-7200 697600800:-10800 719982000:-7200 728445600:-10800 750826800:-7200 761709600:-10800",
     "782276400:-7200 793159200:-10800 813726000:-7200 824004000:-10800 844570800:-7200 856058400:-10800",
     "876106800:-7200 888717600:-10800 908074800:-7200 919562400:-10800 938919600:-7200 951616800:-10800",
     "970974000:-7200 982461600:-10800 1003028400:-7200 1013911200:-10800 1036292400:-7200 1045360800:-10800",
     "1066532400:-7200 1076810400:-10800 1099364400:-7200 1108864800:-10800 1129431600:-7200 1140314400:-10800",
     "1162695600:-7200 1172368800:-10800 1192330800:-7200 1203213600:-10800 1224385200:-7200 1234663200:-10800",
     "1255834800:-7200 1266717600:-10800 1287284400:-7200 1298167200:-10800 1318734000:-7200 1330221600:-10800",
     "1350788400:-7200 1361066400:-10800 1382238000:-7200 1392516000:-10800 1413687600:-7200 1424570400:-10800",
     "1445137200:-7200 1456020000:-10800 1476586800:-7200 1487469600:-10800 1508036400:-7200 1518919200:-10800",
     "1541300400:-7200 1550368800:-10800"] },
  { key := "America/Scoresbysund", before := -5272, rule := "<-02>2<-01>,M3.5.0/-1,M10.5.0/0", changes := [
     "-1686090728:-7200 323841600:-3600 338961600:-7200 354679200:0 370400400:-3600 386125200:0 401850000:-3600",
     "417574800:0 433299600:-3600 449024400:0 465354000:-3600 481078800:0 496803600:-3600 512528400:0",
     "528253200:-3600 543978000:0 559702800:-3600 575427600:0 591152400:-3600 606877200:0 622602000:-3600",
     "638326800:0 654656400:-3600 670381200:0 686106000:-3600 701830800:0 717555600:-3600 733280400:0",
     "749005200:-3600 764730000:0 780454800:-3600 796179600:0 811904400:-3600 828234000:0 846378000:-3600",
     "859683600:0 877827600:-3600 891133200:0 909277200:-3600 922582800:0 941331600:-3600 954032400:0",
     "972781200:-3600 985482000:0 1004230800:-3600 1017536400:0 1035680400:-3600 1048986000:0 1067130000:-3600",
     "1080435600:0 1099184400:-3600 1111885200:0 1130634000:-3600 1143334800:0 1162083600:-3600 1174784400:0",
     "1193533200:-3600 1206838800:0 1224982800:-3600 1238288400:0 1256432400:-3600 1269738000:0 1288486800:-3600",
     "1301187600:0 1319936400:-3600 1332637200:0 1351386000:-3600 1364691600:0 1382835600:-3600 1396141200:0",
     "1414285200:-3600 1427590800:0 1445734800:-3600 1459040400:0 1477789200:-3600 1490490000:0 1509238800:-3600",
     "1521939600:0 1540688400:-3600 1553994000:0 1572138000:-3600 1585443600:0 1603587600:-3600 1616893200:0",
     "1635642000:-3600 1648342800:0 1667091600:-3600 1679792400:0 1698541200:-3600 1711846800:-3600"] },
  { key := "America/St_Johns", before := -12652, rule := "NST3:30NDT,M3.2.0,M11.1.0", changes := [
     "-1664130548:-9052 -1650137348:-12652 -1632076148:-9052 -1615145348:-12652 -1598650148:-9052",
     "-1590100148:-12652 -1567286948:-9052 -1551565748:-12652 -1535837348:-9052 -1520116148:-12652",
     "-1503782948:-9052 -1488666548:-12652 -1472333348:-9052 -1457216948:-12652 -1440883748:-9052",
     "-1425767348:-12652 -1409434148:-9052 -1394317748:-12652 -1377984548:-9052 -1362263348:-12652",
     "-1346534948:-9052 -1330813748:-12652 -1314480548:-9052 -1299364148:-12652 -1283030948:-9052",
     "-1267914548:-12652 -1251581348:-9052 -1236464948:-12652 -1220131748:-9052 -1205015348:-12652",
     "-1188682148:-9052 -1172960948:-12652 -1156627748:-9052 -1141511348:-12652 -1125178148:-9052",
     "-1110061748:-12652 -1096921748:-12600 -1093728600:-9000 -1078612200:-12600 -1061670600:-9000",
     "-1048973400:-12600 -1030221000:-9000 -1017523800:-12600 -998771400:-9000 -986074200:-12600",
     "-966717000:-9000 -954624600:-12600 -935267400:-9000 -922570200:-12600 -903817800:-9000 -891120600:-12600",
     "-872368200:-9000 -765401400:-12600 -746044200:-9000 -733347000:-12600 -714594600:-9000 -701897400:-12600",
     "-683145000:-9000 -670447800:-12600 -651695400:-9000 -638998200:-12600 -619641000:-9000 -606943800:-12600",
     "-589401000:-9000 -576099000:-12600 -557951400:-9000 -544649400:-12600 -526501800:-9000 -513199800:-12600",
     "-495052200:-9000 -481750200:-12600 -463602600:-9000 -450300600:-12600 -431548200:-9000 -418246200:-12600",
     "-400098600:-9000 -386796600:-12600 -368649000:-9000 -355347000:-12600 -337199400:-9000 -323897400:-12600",
     "-305749800:-9000 -289423800:-12600 -273695400:-9000 -257974200:-12600 -242245800:-9000 -226524600:-12600",
     "-210796200:-9000 -195075000:-12600 -179346600:-9000 -163625400:-12600 -147897000:-9000 -131571000:-12600",
     "-116447400:-9000 -100121400:-12600 -84393000:-9000 -68671800:-12600 -52943400:-9000 -37222200:-12600",
     "-21493800:-9000 -5772600:-12600 9955800:-9000 25677000:-12600 41405400:-9000 57731400:-12600",
     "73459800:-9000 89181000:-12600 104909400:-9000 120630600:-12600 136359000:-9000 152080200:-12600",
     "167808600:-9000 183529800:-12600 199258200:-9000 215584200:-12600 230707800:-9000 247033800:-12600",
     "262762200:-9000 278483400:-12600 294211800:-9000 309933000:-12600 325661400:-9000 341382600:-12600",
     "357111000:-9000 372832200:-12600 388560600:-9000 404886600:-12600 420010200:-9000 436336200:-12600",
     "452064600:-9000 467785800:-12600 483514200:-9000 499235400:-12600 514963800:-9000 530685000:-12600",
     "544591860:-9000 562127460:-12600 576041460:-5400 594178260:-12600 607491060:-9000 625631460:-12600",
     "638940660:-9000 657081060:-12600 670995060:-9000 688530660:-12600 702444660:-9000 719980260:-12600",
     "733894260:-9000 752034660:-12600 765343860:-9000 783484260:-12600 796793460:-9000 814933860:-12600",
     "828847860:-9000 846383460:-12600 860297460:-9000 877833060:-12600 891747060:-9000 909282660:-12600",
     "923196660:-9000 941337060:-12600 954646260:-9000 972786660:-12600 986095860:-9000 1004236260:-12600",
     "1018150260:-9000 1035685860:-12600 1049599860:-9000 1067135460:-12600 1081049460:-9000 1099189860:-12600",
     "1112499060:-9000 1130639460:-12600 1143948660:-9000 1162089060:-12600 1173583860:-9000 1194143460:-12600",
     "1205033460:-9000 1225593060:-12600 1236483060:-9000 1257042660:-12600 1268537460:-9000 1289097060:-12600",
     "1299987060:-9000 1320114600:-9000"] },
  { key := "Antarctica/Troll", before := 0, rule := "<+00>0<+02>-2,M3.5.0/1,M10.5.0/3", changes := [
     "1108166400:0"] },
  { key := "Asia/Kathmandu", before := 20476, rule := "<+0545>-5:45", changes := [
     "-1577943676:19800 504901800:20700"] },
  { key := "Asia/Kolkata", before := 21208, rule := "IST-5:30", changes := [
     "-3645237208:21200 -3155694800:19270 -2019705670:19800 -891581400:23400 -872058600:19800 -862637400:23400",
     "-764145000:19800"] },
  { key := "Asia/Tehran", before := 12344, rule := "<+0330>-3:30", changes := [
     "-1090466744:12600 227820600:16200 246223800:14400 259617600:18000 271108800:14400 279576000:12600",
     "296512200:16200 306531000:12600 322432200:16200 338499000:12600 673216200:16200 685481400:12600",
     "701209800:16200 717103800:12600 732745800:16200 748639800:12600 764281800:16200 780175800:12600",
     "795817800:16200 811711800:12600 827353800:16200 843247800:12600 858976200:16200 874870200:12600",
     "890512200:16200 906406200:12600 922048200:16200 937942200:12600 953584200:16200 969478200:12600",
     "985206600:16200 1001100600:12600 1016742600:16200 1032636600:12600 1048278600:16200 1064172600:12600",
     "1079814600:16200 1095708600:12600 1111437000:16200 1127331000:12600 1206045000:16200 1221939000:12600",
     "1237667400:16200 1253561400:12600 1269203400:16200 1285097400:12600 1300739400:16200 1316633400:12600",
     "1332275400:16200 1348169400:12600 1363897800:16200 1379791800:12600 1395433800:16200 1411327800:12600",
     "1426969800:16200 1442863800:12600 1458505800:16200 1474399800:12600 1490128200:16200 1506022200:12600",
     "1521664200:16200 1537558200:12600 1553200200:16200 1569094200:12600 1584736200:16200 1600630200:12600",
     "1616358600:16200 1632252600:12600 1647894600:16200 1663788600:12600"] },
  { key := "Asia/Tokyo", before := 33539, rule := "JST-9", changes := [
     "-2587712400:32400 -683802000:36000 -672310800:32400 -654771600:36000 -640861200:32400 -620298000:36000",
     "-609411600:32400 -588848400:36000 -577962000:32400"] },
  { key := "Australia/Lord_Howe", before := 38180, rule := "<+1030>-10:30<+11>-11,M10.1.0,M4.1.0", changes := [
     "-2364114980:36000 352216800:37800 372785400:41400 384273000:37800 404839800:41400 415722600:37800",
     "436289400:41400 447172200:37800 467739000:41400 478621800:37800 499188600:39600 511282800:37800",
     "530033400:39600 542732400:37800 562087800:39600 574786800:37800 594142200:39600 606236400:37800",
     "625591800:39600 636476400:37800 657041400:39600 667926000:37800 688491000:39600 699375600:37800",
     "719940600:39600 731430000:37800 751995000:39600 762879600:37800 783444600:39600 794329200:37800",
     "814894200:39600 828198000:37800 846343800:39600 859647600:37800 877793400:39600 891097200:37800",
     "909243000:39600 922546800:37800 941297400:39600 953996400:37800 967303800:39600 985446000:37800",
     "1004196600:39600 1017500400:37800 1035646200:39600 1048950000:37800 1067095800:39600 1080399600:37800",
     "1099150200:39600 1111849200:37800 1130599800:39600 1143903600:37800 1162049400:39600 1174748400:37800",
     "1193499000:39600 1207407600:37800"] },
  { key := "Australia/Sydney", before := 36292, rule := "AEST-10AEDT,M10.1.0,M4.1.0/3", changes := [
     "-2364113092:36000 -1672560000:39600 -1665388800:36000 -883641600:39600 -876124800:36000 -860400000:39600",
     "-844675200:36000 -828345600:39600 -813225600:36000 57686400:39600 67968000:36000 89136000:39600",
     "100022400:36000 120585600:39600 131472000:36000 152035200:39600 162921600:36000 183484800:39600",
     "194976000:36000 215539200:39600 226425600:36000 246988800:39600 257875200:36000 278438400:39600",
     "289324800:36000 309888000:39600 320774400:36000 341337600:39600 352224000:36000 372787200:39600",
     "386697600:36000 404841600:39600 415728000:36000 436291200:39600 447177600:36000 467740800:39600",
     "478627200:36000 499190400:39600 511286400:36000 530035200:39600 542736000:36000 562089600:39600",
     "574790400:36000 594144000:39600 606240000:36000 625593600:39600 636480000:36000 657043200:39600",
     "667929600:36000 688492800:39600 699379200:36000 719942400:39600 731433600:36000 751996800:39600",
     "762883200:36000 783446400:39600 794332800:36000 814896000:39600 828201600:36000 846345600:39600",
     "859651200:36000 877795200:39600 891100800:36000 909244800:39600 922550400:36000 941299200:39600",
     "954000000:36000 967305600:39600 985449600:36000 1004198400:39600 1017504000:36000 1035648000:39600",
     "1048953600:36000 1067097600:39600 1080403200:36000 1099152000:39600 1111852800:36000 1130601600:39600",
     "1143907200:36000 1162051200:39600 1174752000:36000 1193500800:39600 1207411200:36000"] },
  { key := "EST5EDT", before := -18000, rule := "EST5EDT,M3.2.0,M11.1.0", changes := [
     "-1633280400:-14400 -1615140000:-18000 -1601830800:-14400 -1583690400:-18000 -880218000:-14400",
     "-765396000:-18000 -84387600:-14400 -68666400:-18000 -52938000:-14400 -37216800:-18000 -21488400:-14400",
     "-5767200:-18000 9961200:-14400 25682400:-18000 41410800:-14400 57736800:-18000 73465200:-14400",
     "89186400:-18000 104914800:-14400 120636000:-18000 126687600:-14400 152085600:-18000 162370800:-14400",
     "183535200:-18000 199263600:-14400 215589600:-18000 230713200:-14400 247039200:-18000 262767600:-14400",
     "278488800:-18000 294217200:-14400 309938400:-18000 325666800:-14400 341388000:-18000 357116400:-14400",
     "372837600:-18000 388566000:-14400 404892000:-18000 420015600:-14400 436341600:-18000 452070000:-14400",
     "467791200:-18000 483519600:-14400 499240800:-18000 514969200:-14400 530690400:-18000 544604400:-14400",
     "562140000:-18000 576054000:-14400 594194400:-18000 607503600:-14400 625644000:-18000 638953200:-14400",
     "657093600:-18000 671007600:-14400 688543200:-18000 702457200:-14400 719992800:-18000 733906800:-14400",
     "752047200:-18000 765356400:-14400 783496800:-18000 796806000:-14400 814946400:-18000 828860400:-14400",
     "846396000:-18000 860310000:-14400 877845600:-18000 891759600:-14400 909295200:-18000 923209200:-14400",
     "941349600:-18000 954658800:-14400 972799200:-18000 986108400:-14400 1004248800:-18000 1018162800:-14400",
     "1035698400:-18000 1049612400:-14400 1067148000:-18000 1081062000:-14400 1099202400:-18000",
     "1112511600:-14400 1130652000:-18000 1143961200:-14400 1162101600:-18000 1173596400:-14400"] },
  { key := "Etc/GMT+5", before := -18000, rule := "<-05>5", changes := [] },
  { key := "Etc/UTC", before := 0, rule := "UTC0", changes := [] },
  { key := "Europe/Brussels", before := 1050, rule := "CET-1CEST,M3.5.0,M10.5.0/3", changes := [
     "-2450995200:0 -1740355200:3600 -1693702800:7200 -1680483600:3600 -1663455600:7200 -1650150000:3600",
     "-1632006000:7200 -1618700400:3600 -1613826000:0 -1604278800:3600 -1585530000:0 -1574038800:3600",
     "-1552266000:0 -1539997200:3600 -1520557200:0 -1507510800:3600 -1490576400:0 -1473642000:3600 -1459126800:0",
     "-1444006800:3600 -1427677200:0 -1411952400:3600 -1396227600:0 -1379293200:3600 -1364778000:0",
     "-1348448400:3600 -1333328400:0 -1316394000:3600 -1301263200:0 -1284328800:3600 -1269813600:0",
     "-1253484000:3600 -1238364000:0 -1221429600:3600 -1206914400:0 -1191189600:3600 -1175464800:0",
     "-1160344800:3600 -1143410400:0 -1127685600:3600 -1111960800:0 -1096840800:3600 -1080511200:0",
     "-1063576800:3600 -1049061600:0 -1033336800:3600 -1017612000:0 -1002492000:3600 -986162400:0",
     "-969228000:3600 -950479200:0 -942012000:3600 -934668000:7200 -857257200:3600 -844556400:7200",
     "-828226800:3600 -812502000:7200 -798073200:3600 -781052400:7200 -766623600:3600 -745455600:7200",
     "-733273200:3600 228877200:7200 243997200:3600 260326800:7200 276051600:3600 291776400:7200 307501200:3600",
     "323830800:7200 338950800:3600 354675600:7200 370400400:3600 386125200:7200 401850000:3600 417574800:7200",
     "433299600:3600 449024400:7200 465354000:3600 481078800:7200 496803600:3600 512528400:7200 528253200:3600",
     "543978000:7200 559702800:3600 575427600:7200 591152400:3600 606877200:7200 622602000:3600 638326800:7200",
     "654656400:3600 670381200:7200 686106000:3600 701830800:7200 717555600:3600 733280400:7200 749005200:3600",
     "764730000:7200 780454800:3600 796179600:7200 811904400:3600 828234000:7200"] },
  { key := "Europe/Dublin", before := -1521, rule := "IST-1GMT0,M10.5.0,M3.5.0/1", changes := [
     "-1691962479:2079 -1680471279:0 -1664143200:3600 -1650146400:0 -1633903200:3600 -1617487200:0",
     "-1601848800:3600 -1586037600:0 -1570399200:3600 -1552168800:0 -1538344800:3600 -1522533600:0",
     "-1507500000:3600 -1490565600:0 -1473631200:3600 -1460930400:0 -1442786400:3600 -1428876000:0",
     "-1410732000:3600 -1397426400:0 -1379282400:3600 -1364767200:0 -1348437600:3600 -1333317600:0",
     "-1315778400:3600 -1301263200:0 -1284328800:3600 -1269813600:0 -1253484000:3600 -1238364000:0",
     "-1221429600:3600 -1206914400:0 -1189980000:3600 -1175464800:0 -1159135200:3600 -1143410400:0",
     "-1126476000:3600 -1111960800:0 -1095631200:3600 -1080511200:0 -1063576800:3600 -1049061600:0",
     "-1032127200:3600 -1017612000:0 -1001282400:3600 -986162400:0 -969228000:3600 -950479200:0 -942012000:3600",
     "-733356000:0 -719445600:3600 -699487200:0 -684972000:3600 -668037600:0 -654732000:3600 -636588000:0",
     "-622072800:3600 -605743200:0 -590623200:3600 -574293600:0 -558568800:3600 -542239200:0 -527119200:3600",
     "-512604000:0 -496274400:3600 -481154400:0 -464220000:3600 -449704800:0 -432165600:3600 -417650400:0",
     "-401320800:3600 -386200800:0 -369266400:3600 -354751200:0 -337816800:3600 -323301600:0 -306972000:3600",
     "-291852000:0 -276732000:3600 -257983200:0 -245282400:3600 -226533600:0 -213228000:3600 -195084000:0",
     "-182383200:3600 -163634400:0 -150933600:3600 -132184800:0 -119484000:3600 -100735200:0 -88034400:3600",
     "-68680800:0 -59004000:3600 57722400:0 69818400:3600 89172000:0 101268000:3600 120621600:0 132717600:3600",
     "152071200:0 164167200:3600 183520800:0 196221600:3600 214970400:0 227671200:3600 246420000:0",
     "259120800:3600 278474400:0 290570400:3600 309924000:0 322020000:3600 341373600:0 354675600:3600",
     "372819600:0 386125200:3600 404269200:0 417574800:3600 435718800:0 449024400:3600 467773200:0",
     "481078800:3600 499222800:0 512528400:3600 530672400:0 543978000:3600 562122000:0 575427600:3600",
     "593571600:0 606877200:3600 625626000:0 638326800:3600 657075600:0 670381200:3600 688525200:0",
     "701830800:3600 719974800:0 733280400:3600 751424400:0 764730000:3600 782874000:0 796179600:3600",
     "814323600:0 828234000:3600"] },
  { key := "Europe/Lisbon", before := -2205, rule := "WET0WEST,M3.5.0/1,M10.5.0", changes := [
     "-1830384000:0 -1689555600:3600 -1677801600:0 -1667433600:3600 -1647738000:0 -1635897600:3600 -1616202000:0",
     "-1604361600:3600 -1584666000:0 -1572739200:3600 -1553043600:0 -1541203200:3600 -1521507600:0",
     "-1442451600:3600 -1427677200:0 -1379293200:3600 -1364778000:0 -1348448400:3600 -1333328400:0",
     "-1316394000:3600 -1301274000:0 -1284339600:3600 -1269824400:0 -1221440400:3600 -1206925200:0",
     "-1191200400:3600 -1175475600:0 -1127696400:3600 -1111971600:0 -1096851600:3600 -1080522000:0",
     "-1063587600:3600 -1049072400:0 -1033347600:3600 -1017622800:0 -1002502800:3600 -986173200:0",
     "-969238800:3600 -950490000:0 -942022800:3600 -922496400:0 -906944400:3600 -891133200:0 -877309200:3600",
     "-873684000:7200 -864007200:3600 -857955600:0 -845859600:3600 -842839200:7200 -831348000:3600 -825901200:0",
     "-814410000:3600 -810784800:7200 -799898400:3600 -794451600:0 -782960400:3600 -779335200:7200",
     "-768448800:3600 -763002000:0 -749091600:3600 -733366800:0 -717631200:3600 -701906400:0 -686181600:3600",
     "-670456800:0 -654732000:3600 -639007200:0 -623282400:3600 -607557600:0 -591832800:3600 -575503200:0",
     "-559778400:3600 -544053600:0 -528328800:3600 -512604000:0 -496879200:3600 -481154400:0 -465429600:3600",
     "-449704800:0 -433980000:3600 -417650400:0 -401925600:3600 -386200800:0 -370476000:3600 -354751200:0",
     "-339026400:3600 -323301600:0 -307576800:3600 -291852000:0 -276127200:3600 -260402400:0 -244677600:3600",
     "-228348000:0 -212623200:3600 -196898400:0 -181173600:3600 -165448800:0 -149724000:3600 -133999200:0",
     "-118274400:3600 212544000:0 228268800:3600 243993600:0 260326800:3600 276051600:0 291776400:3600",
     "307501200:0 323830800:3600 338950800:0 354672000:3600 370396800:0 386121600:3600 401846400:0",
     "417571200:3600 433296000:0 449020800:3600 465350400:0 481075200:3600 496800000:0 512528400:3600",
     "528253200:0 543978000:3600 559702800:0 575427600:3600 591152400:0 606877200:3600 622602000:0",
     "638326800:3600 654656400:0 670381200:3600 686106000:0 701830800:3600 733280400:7200 749005200:3600",
     "764730000:7200 780454800:3600 796179600:7200 811904400:3600 828234000:3600"] },
  { key := "Europe/London", before := -75, rule := "GMT0BST,M3.5.0/1,M10.5.0", changes := [
     "-3852662325:0 -1691964000:3600 -1680472800:0 -1664143200:3600 -1650146400:0 -1633903200:3600 -1617487200:0",
     "-1601848800:3600 -1586037600:0 -1570399200:3600 -1552168800:0 -1538344800:3600 -1522533600:0",
     "-1507500000:3600 -1490565600:0 -1473631200:3600 -1460930400:0 -1442786400:3600 -1428876000:0",
     "-1410732000:3600 -1396216800:0 -1379282400:3600 -1364767200:0 -1348437600:3600 -1333317600:0",
     "-1315778400:3600 -1301263200:0 -1284328800:3600 -1269813600:0 -1253484000:3600 -1238364000:0",
     "-1221429600:3600 -1206914400:0 -1189980000:3600 -1175464800:0 -1159135200:3600 -1143410400:0",
     "-1126476000:3600 -1111960800:0 -1095631200:3600 -1080511200:0 -1063576800:3600 -1049061600:0",
     "-1032127200:3600 -1017612000:0 -1001282400:3600 -986162400:0 -969228000:3600 -950479200:0 -942012000:3600",
     "-904518000:7200 -896050800:3600 -875487600:7200 -864601200:3600 -844038000:7200 -832546800:3600",
     "-812588400:7200 -798073200:3600 -781052400:7200 -772066800:3600 -764805600:0 -748476000:3600 -733356000:0",
     "-719445600:3600 -717030000:7200 -706748400:3600 -699487200:0 -687996000:3600 -668037600:0 -654732000:3600",
     "-636588000:0 -622072800:3600 -605743200:0 -590623200:3600 -574293600:0 -558568800:3600 -542239200:0",
     "-527119200:3600 -512604000:0 -496274400:3600 -481154400:0 -464220000:3600 -449704800:0 -432165600:3600",
     "-417650400:0 -401320800:3600 -386200800:0 -369266400:3600 -354751200:0 -337816800:3600 -323301600:0",
     "-306972000:3600 -291852000:0 -276732000:3600 -257983200:0 -245282400:3600 -226533600:0 -213228000:3600",
     "-195084000:0 -182383200:3600 -163634400:0 -150933600:3600 -132184800:0 -119484000:3600 -100735200:0",
     "-88034400:3600 -68680800:0 -59004000:3600 57722400:0 69818400:3600 89172000:0 101268000:3600 120621600:0",
     "132717600:3600 152071200:0 164167200:3600 183520800:0 196221600:3600 214970400:0 227671200:3600",
     "246420000:0 259120800:3600 278474400:0 290570400:3600 309924000:0 322020000:3600 341373600:0",
     "354675600:3600 372819600:0 386125200:3600 404269200:0 417574800:3600 435718800:0 449024400:3600",
     "467773200:0 481078800:3600 499222800:0 512528400:3600 530672400:0 543978000:3600 562122000:0",
     "575427600:3600 593571600:0 606877200:3600 625626000:0 638326800:3600 657075600:0 670381200:3600",
     "688525200:0 701830800:3600 719974800:0 733280400:3600 751424400:0 764730000:3600 782874000:0",
     "796179600:3600 814323600:0 820454400:0"] },
  { key := "GMT", before := 0, rule := "GMT0", changes := [] },
  { key := "Pacific/Apia", before := 45184, rule := "<+13>-13", changes := [
     "-2445424384:-41216 -1861878784:-41400 -631110600:-39600 1285498800:-36000 1301752800:-39600",
     "1316872800:-36000 1325239200:50400 1333202400:46800 1348927200:50400 1365256800:46800 1380376800:50400",
     "1396706400:46800 1411826400:50400 1428156000:46800 1443276000:50400 1459605600:46800 1474725600:50400",
     "1491055200:46800 1506175200:50400 1522504800:46800 1538229600:50400 1554559200:46800 1569679200:50400",
     "1586008800:46800 1601128800:50400 1617458400:46800"] },
  { key := "Pacific/Chatham", before := 44028, rule := "<+1245>-12:45<+1345>,M9.5.0/2:45,M4.1.0/3:45", changes := [
     "-3192437628:44100 -757426500:45900 152632800:49500 162309600:45900 183477600:49500 194968800:45900",
     "215532000:49500 226418400:45900 246981600:49500 257868000:45900 278431200:49500 289317600:45900",
     "309880800:49500 320767200:45900 341330400:49500 352216800:45900 372780000:49500 384271200:45900",
     "404834400:49500 415720800:45900 436284000:49500 447170400:45900 467733600:49500 478620000:45900",
     "499183200:49500 510069600:45900 530632800:49500 541519200:45900 562082400:49500 573573600:45900",
     "594136800:49500 605023200:45900 623772000:49500 637682400:45900 655221600:49500 669132000:45900",
     "686671200:49500 700581600:45900 718120800:49500 732636000:45900 749570400:49500 764085600:45900",
     "781020000:49500 795535200:45900 812469600:49500 826984800:45900 844524000:49500 858434400:45900",
     "875973600:49500 889884000:45900 907423200:49500 921938400:45900 938872800:49500 953388000:45900",
     "970322400:49500 984837600:45900 1002376800:49500 1016287200:45900 1033826400:49500 1047736800:45900",
     "1065276000:49500 1079791200:45900 1096725600:49500 1111240800:45900 1128175200:49500 1142690400:45900",
     "1159624800:49500 1174140000:45900 1191074400:49500"] },
  { key := "Pacific/Kwajalein", before := 40160, rule := "<+12>-12", changes := [
     "-2177492960:39600 -1041418800:36000 -907408800:32400 -817462800:39600 -7988400:-43200 745934400:43200"] }]

/-- The compiled files of the known regions, by their keys. -/
def database : List (String × List UInt8) := all.map fun r => (r.key, r.bytes)

/-- The modules of the package that holds the database: one in each of its packages. -/
def modules : List String :=
  "__init__" :: ["Africa", "America", "America.Argentina", "America.Indiana", "America.Kentucky", "America.North_Dakota",
    "Antarctica", "Arctic", "Asia", "Atlantic", "Australia", "Brazil", "Canada", "Chile", "Etc", "Europe", "Indian",
    "Mexico", "Pacific", "US"].map (· ++ ".__init__")

end Region
end JobScheduling
