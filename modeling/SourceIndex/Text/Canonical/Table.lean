/-!
# Tables of canonical equivalence

Which characters stand for others, and in which order the marks after a character belong. Each
table is in blocks: a number and the characters that belong to it.
-/

set_option autoImplicit false

namespace SourceIndex.Text.Canonical

/-- Two characters that join into one, under the second of the two: the first, and what they join
into. -/
def joining : List (Nat × String) :=
  [(0x300, "AÀEÈIÌNǸOÒUÙWẀYỲaàeèiìnǹoòuùwẁyỳ¨῭ÂẦÊỀÔỒÜǛâầêềôồüǜĂẰăằĒḔēḕŌṐōṑƠỜơờƯỪưừΑᾺ"),
    (0x300, "ΕῈΗῊΙῚΟῸΥῪΩῺαὰεὲηὴιὶοὸυὺωὼϊῒϋῢЕЀИЍеѐиѝἀἂἁἃἈἊἉἋἐἒἑἓἘἚἙἛἠἢἡἣἨἪἩἫἰἲἱἳἸἺἹἻὀὂ"),
    (0x300, "ὁὃὈὊὉὋὐὒὑὓὙὛὠὢὡὣὨὪὩὫ᾿῍῾῝"),
    (0x301, "AÁCĆEÉGǴIÍKḰLĹMḾNŃOÓPṔRŔSŚUÚWẂYÝZŹaácćeégǵiíkḱlĺmḿnńoópṕrŕsśuúwẃyýzź¨΅ÂẤ"),
    (0x301, "ÅǺÆǼÇḈÊẾÏḮÔỐÕṌØǾÜǗâấåǻæǽçḉêếïḯôốõṍøǿüǘĂẮăắĒḖēḗŌṒōṓŨṸũṹƠỚơớƯỨưứΑΆΕΈΗΉΙΊΟΌ"),
    (0x301, "ΥΎΩΏαάεέηήιίοόυύωώϊΐϋΰϒϓГЃКЌгѓкќἀἄἁἅἈἌἉἍἐἔἑἕἘἜἙἝἠἤἡἥἨἬἩἭἰἴἱἵἸἼἹἽὀὄὁὅὈὌὉὍ"),
    (0x301, "ὐὔὑὕὙὝὠὤὡὥὨὬὩὭ᾿῎῾῞"),
    (0x302, "AÂCĈEÊGĜHĤIÎJĴOÔSŜUÛWŴYŶZẐaâcĉeêgĝhĥiîjĵoôsŝuûwŵyŷzẑẠẬạậẸỆẹệỌỘọộ"),
    (0x303, "AÃEẼIĨNÑOÕUŨVṼYỸaãeẽiĩnñoõuũvṽyỹÂẪÊỄÔỖâẫêễôỗĂẴăẵƠỠơỡƯỮưữ"),
    (0x304, "AĀEĒGḠIĪOŌUŪYȲaāeēgḡiīoōuūyȳÄǞÆǢÕȬÖȪÜǕäǟæǣõȭöȫüǖǪǬǫǭȦǠȧǡȮȰȯȱΑᾹΙῙΥῩαᾱιῑυῡ"),
    (0x304, "ИӢУӮиӣуӯḶḸḷḹṚṜṛṝ"),
    (0x306, "AĂEĔGĞIĬOŎUŬaăeĕgğiĭoŏuŭȨḜȩḝΑᾸΙῘΥῨαᾰιῐυῠАӐЕӖЖӁИЙУЎаӑеӗжӂийуўẠẶạặ"),
    (0x307, "AȦBḂCĊDḊEĖFḞGĠHḢIİMṀNṄOȮPṖRṘSṠTṪWẆXẊYẎZŻaȧbḃcċdḋeėfḟgġhḣmṁnṅoȯpṗrṙsṡtṫwẇ"),
    (0x307, "xẋyẏzżŚṤśṥŠṦšṧſẛṢṨṣṩ𐗒𐗉𐗚𐗤"),
    (0x308, "AÄEËHḦIÏOÖUÜWẄXẌYŸaäeëhḧiïoötẗuüwẅxẍyÿÕṎõṏŪṺūṻΙΪΥΫιϊυϋϒϔІЇАӒЕЁЖӜЗӞИӤОӦУӰ"),
    (0x308, "ЧӴЫӸЭӬаӓеёжӝзӟиӥоӧуӱчӵыӹэӭіїӘӚәӛӨӪөӫ"),
    (0x309, "AẢEẺIỈOỎUỦYỶaảeẻiỉoỏuủyỷÂẨÊỂÔỔâẩêểôổĂẲăẳƠỞơởƯỬưử"), (0x30A, "AÅUŮaåuůwẘyẙ"),
    (0x30B, "OŐUŰoőuűУӲуӳ"),
    (0x30C, "AǍCČDĎEĚGǦHȞIǏKǨLĽNŇOǑRŘSŠTŤUǓZŽaǎcčdďeěgǧhȟiǐjǰkǩlľnňoǒrřsštťuǔzžÜǙüǚƷǮ"),
    (0x30C, "ʒǯ"), (0x30F, "AȀEȄIȈOȌRȐUȔaȁeȅiȉoȍrȑuȕѴѶѵѷ"), (0x311, "AȂEȆIȊOȎRȒUȖaȃeȇiȋoȏrȓuȗ"),
    (0x313, "ΑἈΕἘΗἨΙἸΟὈΩὨαἀεἐηἠιἰοὀρῤυὐωὠ"), (0x314, "ΑἉΕἙΗἩΙἹΟὉΡῬΥὙΩὩαἁεἑηἡιἱοὁρῥυὑωὡ"),
    (0x31B, "OƠUƯoơuư"),
    (0x323, "AẠBḄDḌEẸHḤIỊKḲLḶMṂNṆOỌRṚSṢTṬUỤVṾWẈYỴZẒaạbḅdḍeẹhḥiịkḳlḷmṃnṇoọrṛsṣtṭuụvṿwẉ"),
    (0x323, "yỵzẓƠỢơợƯỰưự"), (0x324, "UṲuṳ"), (0x325, "AḀaḁ"), (0x326, "SȘTȚsștț"),
    (0x327, "CÇDḐEȨGĢHḨKĶLĻNŅRŖSŞTŢcçdḑeȩgģhḩkķlļnņrŗsştţ"), (0x328, "AĄEĘIĮOǪUŲaąeęiįoǫuų"),
    (0x32D, "DḒEḘLḼNṊTṰUṶdḓeḙlḽnṋtṱuṷ"), (0x32E, "HḪhḫ"), (0x330, "EḚIḬUṴeḛiḭuṵ"),
    (0x331, "BḆDḎKḴLḺNṈRṞTṮZẔbḇdḏhẖkḵlḻnṉrṟtṯzẕ"),
    (0x338, "<≮=≠>≯←↚→↛↔↮⇐⇍⇒⇏⇔⇎∃∄∈∉∋∌∣∤∥∦∼≁≃≄≅≇≈≉≍≭≡≢≤≰≥≱≲≴≳≵≶≸≷≹≺⊀≻⊁≼⋠≽⋡⊂⊄⊃⊅⊆⊈⊇⊉⊑⋢⊒⋣"),
    (0x338, "⊢⊬⊨⊭⊩⊮⊫⊯⊲⋪⊳⋫⊴⋬⊵⋭"),
    (0x342, "¨῁αᾶηῆιῖυῦωῶϊῗϋῧἀἆἁἇἈἎἉἏἠἦἡἧἨἮἩἯἰἶἱἷἸἾἹἿὐὖὑὗὙὟὠὦὡὧὨὮὩὯ᾿῏῾῟"),
    (0x345, "ΑᾼΗῌΩῼάᾴήῄαᾳηῃωῳώῴἀᾀἁᾁἂᾂἃᾃἄᾄἅᾅἆᾆἇᾇἈᾈἉᾉἊᾊἋᾋἌᾌἍᾍἎᾎἏᾏἠᾐἡᾑἢᾒἣᾓἤᾔἥᾕἦᾖἧᾗἨᾘἩᾙἪᾚ"),
    (0x345, "ἫᾛἬᾜἭᾝἮᾞἯᾟὠᾠὡᾡὢᾢὣᾣὤᾤὥᾥὦᾦὧᾧὨᾨὩᾩὪᾪὫᾫὬᾬὭᾭὮᾮὯᾯὰᾲὴῂὼῲᾶᾷῆῇῶῷ"), (0x653, "اآ"),
    (0x654, "اأوؤيئہۂےۓەۀ"), (0x655, "اإ"), (0x93C, "नऩरऱळऴ"), (0x9BE, "েো"), (0x9D7, "েৌ"),
    (0xB3E, "େୋ"), (0xB56, "େୈ"), (0xB57, "େୌ"), (0xBBE, "ெொேோ"), (0xBD7, "ஒஔெௌ"),
    (0xC56, "ెై"), (0xCC2, "ೆೊ"), (0xCD5, "ಿೀೆೇೊೋ"), (0xCD6, "ೆೈ"), (0xD3E, "െൊേോ"),
    (0xD57, "െൌ"), (0xDCA, "ෙේොෝ"), (0xDCF, "ෙො"), (0xDDF, "ෙෞ"), (0x102E, "ဥဦ"),
    (0x1B35, "ᬅᬆᬇᬈᬉᬊᬋᬌᬍᬎᬑᬒᬺᬻᬼᬽᬾᭀᬿᭁᭂᭃ"),
    (0x3099, "うゔかがきぎくぐけげこごさざしじすずせぜそぞただちぢつづてでとどはばひびふぶへべほぼゝゞウヴカガキギクグケゲコゴサザシジスズセゼソゾタダチヂツヅ"),
    (0x3099, "テデトドハバヒビフブヘベホボワヷヰヸヱヹヲヺヽヾ"), (0x309A, "はぱひぴふぷへぺほぽハパヒピフプヘペホポ"), (0x110BA, "𑂙𑂚𑂛𑂜𑂥𑂫"),
    (0x11127, "𑄱𑄮𑄲𑄯"), (0x1133E, "𑍇𑍋"), (0x11357, "𑍇𑍌"), (0x113B8, "𑏅𑎸"), (0x113BB, "𑎄𑎅"),
    (0x113C2, "𑎋𑎎𑏅𑏂"), (0x113C9, "𑎂𑎃𑎐𑎑𑏅𑏉"), (0x114B0, "𑒹𑒼"), (0x114BA, "𑒹𑒻"), (0x114BD, "𑒹𑒾"),
    (0x115AF, "𑖸𑖺𑖹𑖻"), (0x11930, "𑤵𑤸"), (0x1611E, "𖄡𖄞"), (0x1611F, "𖄦𖄡𖄦𖄢𖄧𖄩𖄤"),
    (0x16120, "𖄨𖄡𖄨"), (0x16129, "𖄡𖄩"), (0x16D67, "𖵣𖵪𖵨𖵩𖵪")]

/-- Two characters that one stands for although they do not join, under the second of the two: the
first, and what stands for them. -/
def splitting : List (Nat × String) :=
  [(0x301, "̈̈́"), (0x338, "⫝⫝̸"), (0x5B4, "ייִ"), (0x5B7, "אאַײײַ"), (0x5B8, "אאָ"), (0x5B9, "ווֹ"),
    (0x5BC, "אאּבבּגגּדדּההּווּזזּטטּייּךךּככּללּממּננּססּףףּפפּצצּקקּררּששּתתּ"), (0x5BF, "בבֿככֿפפֿ"), (0x5C1, "ששׁשּשּׁ"),
    (0x5C2, "ששׂשּשּׂ"), (0x93C, "कक़खख़गग़जज़डड़ढढ़फफ़यय़"), (0x9BC, "ডড়ঢঢ়যয়"), (0xA3C, "ਖਖ਼ਗਗ਼ਜਜ਼ਫਫ਼ਲਲ਼ਸਸ਼"),
    (0xB3C, "ଡଡ଼ଢଢ଼"), (0xF72, "ཱཱི"), (0xF74, "ཱཱུ"), (0xF80, "ཱཱྀྲྲྀླླྀ"), (0xFB5, "ཀཀྵྐྐྵ"),
    (0xFB7, "གགྷཌཌྷདདྷབབྷཛཛྷྒྒྷྜྜྷྡྡྷྦྦྷྫྫྷ"), (0x1D165, "𝅗𝅗𝅥𝅘𝅘𝅥𝆹𝆹𝅥𝆺𝆺𝅥"), (0x1D16E, "𝅘𝅥𝅘𝅥𝅮𝆹𝅥𝆹𝅥𝅮𝆺𝅥𝆺𝅥𝅮"),
    (0x1D16F, "𝅘𝅥𝅘𝅥𝅯𝆹𝅥𝆹𝅥𝅯𝆺𝅥𝆺𝅥𝅯"), (0x1D170, "𝅘𝅥𝅘𝅥𝅰"), (0x1D171, "𝅘𝅥𝅘𝅥𝅱"), (0x1D172, "𝅘𝅥𝅘𝅥𝅲")]

/-- Characters that stand for a single other one. Each block has a code point and what the
characters from there on stand for. -/
def standing : List (Nat × String) :=
  [(0x340, "̀́"), (0x343, "̓"), (0x374, "ʹ"), (0x37E, ";"), (0x387, "·"), (0x1F71, "ά"),
    (0x1F73, "έ"), (0x1F75, "ή"), (0x1F77, "ί"), (0x1F79, "ό"), (0x1F7B, "ύ"),
    (0x1F7D, "ώ"), (0x1FBB, "Ά"), (0x1FBE, "ι"), (0x1FC9, "Έ"), (0x1FCB, "Ή"),
    (0x1FD3, "ΐ"), (0x1FDB, "Ί"), (0x1FE3, "ΰ"), (0x1FEB, "Ύ"), (0x1FEE, "΅\x60"),
    (0x1FF9, "Ό"), (0x1FFB, "Ώ"), (0x1FFD, "´"), (0x2000, "  "), (0x2126, "Ω"),
    (0x212A, "KÅ"), (0x2329, "〈〉"), (0xF900, "豈更車賈滑串句龜龜契金喇奈懶癩羅蘿螺裸邏樂洛烙珞落酪駱亂卵欄爛蘭鸞嵐濫藍襤拉臘蠟"),
    (0xF928, "廊朗浪狼郎來冷勞擄櫓爐盧老蘆虜路露魯鷺碌祿綠菉錄鹿論壟弄籠聾牢磊賂雷壘屢樓淚漏累"),
    (0xF950, "縷陋勒肋凜凌稜綾菱陵讀拏樂諾丹寧怒率異北磻便復不泌數索參塞省葉說殺辰沈拾若掠略亮"),
    (0xF978, "兩凉梁糧良諒量勵呂女廬旅濾礪閭驪麗黎力曆歷轢年憐戀撚漣煉璉秊練聯輦蓮連鍊列劣咽烈"),
    (0xF9A0, "裂說廉念捻殮簾獵令囹寧嶺怜玲瑩羚聆鈴零靈領例禮醴隸惡了僚寮尿料樂燎療蓼遼龍暈阮劉"),
    (0xF9C8, "杻柳流溜琉留硫紐類六戮陸倫崙淪輪律慄栗率隆利吏履易李梨泥理痢罹裏裡里離匿溺吝燐璘"),
    (0xF9F0, "藺隣鱗麟林淋臨立笠粒狀炙識什茶刺切度拓糖宅洞暴輻行降見廓兀嗀"), (0xFA10, "塚"), (0xFA12, "晴"),
    (0xFA15, "凞猪益礼神祥福靖精羽"), (0xFA20, "蘒"), (0xFA22, "諸"), (0xFA25, "逸都"),
    (0xFA2A, "飯飼館鶴郞隷侮僧免勉勤卑喝嘆器塀墨層屮悔慨憎懲敏既暑梅海渚漢煮爫琢碑社祉祈祐祖祝"),
    (0xFA52, "禍禎穀突節練縉繁署者臭艹艹著褐視謁謹賓贈辶逸難響頻恵𤋮舘"),
    (0xFA70, "並况全侀充冀勇勺喝啕喙嗢塚墳奄奔婢嬨廒廙彩徭惘慎愈憎慠懲戴揄搜摒敖晴朗望杖歹殺流"),
    (0xFA98, "滛滋漢瀞煮瞧爵犯猪瑱甆画瘝瘟益盛直睊着磌窱節类絛練缾者荒華蝹襁覆視調諸請謁諾諭謹"),
    (0xFAC0, "變贈輸遲醙鉶陼難靖韛響頋頻鬒龜𢡊𢡄𣏕㮝䀘䀹𥉉𥳐𧻓齃龎"),
    (0x2F800, "丽丸乁𠄢你侮侻倂偺備僧像㒞𠘺免兔兤具𠔜㒹內再𠕋冗冤仌冬况𩇟凵刃㓟刻剆割剷㔕勇勉勤"),
    (0x2F828, "勺包匆北卉卑博即卽卿卿卿𠨬灰及叟𠭣叫叱吆咞吸呈周咢哶唐啓啣善善喙喫喳嗂圖嘆圗噑噴"),
    (0x2F850, "切壮城埴堍型堲報墬𡓤売壷夆多夢奢𡚨𡛪姬娛娧姘婦㛮㛼嬈嬾嬾𡧈寃寘寧寳𡬘寿将当尢㞁屠"),
    (0x2F878, "屮峀岍𡷤嵃𡷦嵮嵫嵼巡巢㠯巽帨帽幩㡢𢆃㡼庰庳庶廊𪎒廾𢌱𢌱舁弢弢㣇𣊸𦇚形彫㣣徚忍志忹"),
    (0x2F8A0, "悁㤺㤜悔𢛔惇慈慌慎慌慺憎憲憤憯懞懲懶成戛扝抱拔捐𢬌挽拼捨掃揤𢯱搢揅掩㨮摩摾撝摷㩬"),
    (0x2F8C8, "敏敬𣀊旣書晉㬙暑㬈㫤冒冕最暜肭䏙朗望朡杞杓𣏃㭉柺枅桒梅𣑭梎栟椔㮝楂榣槪檨𣚣櫛㰘次"),
    (0x2F8F0, "𣢧歔㱎歲殟殺殻𣪍𡴋𣫺汎𣲼沿泍汧洖派海流浩浸涅𣴞洴港湮㴳滋滇𣻑淹潮𣽞𣾎濆瀹瀞瀛㶖灊"),
    (0x2F918, "災灷炭𠔥煅𤉣熜𤎫爨爵牐𤘈犀犕𤜵𤠔獺王㺬玥㺸㺸瑇瑜瑱璅瓊㼛甤𤰶甾𤲒異𢆟瘐𤾡𤾸𥁄㿼䀈"),
    (0x2F940, "直𥃳𥃲𥄙𥄳眞真真睊䀹瞋䁆䂖𥐝硎碌磌䃣𥘦祖𥚚𥛅福秫䄯穀穊穏𥥼𥪧𥪧竮䈂𥮫篆築䈧𥲀糒䊠"),
    (0x2F968, "糨糣紀𥾆絣䌁緇縂繅䌴𦈨𦉇䍙𦋙罺𦌾羕翺者𦓚𦔣聠𦖨聰𣍟䏕育脃䐋脾媵𦞧𦞵𣎓𣎜舁舄辞䑫芑"),
    (0x2F990, "芋芝劳花芳芽苦𦬼若茝荣莭茣莽菧著荓菊菌菜𦰶𦵫𦳕䔫蓱蓳蔖𧏊蕤𦼬䕝䕡𦾱𧃒䕫虐虜虧虩蚩"),
    (0x2F9B8, "蚈蜎蛢蝹蜨蝫螆䗗蟡蠁䗹衠衣𧙧裗裞䘵裺㒻𧢮𧥦䚾䛇誠諭變豕𧲨貫賁贛起𧼯𠠄跋趼跰𠣞軔輸"),
    (0x2F9E0, "𨗒𨗭邔郱鄑𨜮鄛鈸鋗鋘鉼鏹鐕𨯺開䦕閷𨵷䧦雃嶲霣𩅅𩈚䩮䩶韠𩐊䪲𩒖頋頋頩𩖶飢䬳餩馧駂駾"),
    (0x2FA08, "䯎𩬰鬒鱀鳽䳎䳭鵧𪃎䳸𪄅𪈎𪊑麻䵖黹黾鼅鼏鼖鼻𪘀")]

/-- The combining classes of the code points, as runs: how many code points, and their class. -/
def orderRuns : List String :=
  ["768 0 21 230 1 232 4 220 1 232 1 216 5 220 2 202 4 220 2 202 11 220 5 1 4 220 8 230",
    "1 240 1 230 3 220 3 230 2 220 1 0 3 230 4 220 1 230 1 232 2 220 1 230 1 233 2 234 1 233",
    "2 234 1 233 13 230 275 0 5 230 265 0 1 220 4 230 1 220 3 230 1 222 1 220 6 230 6 220",
    "2 230 1 220 2 230 1 222 1 228 1 230 1 10 1 11 1 12 1 13 1 14 1 15 1 16 1 17 1 18 2 19",
    "1 20 1 21 1 22 1 0 1 23 1 0 1 24 1 25 1 0 1 230 1 220 1 0 9 18 64 0 8 230 1 30 1 31 1 32",
    "48 0 1 27 1 28 1 29 1 30 1 31 1 32 1 33 1 34 2 230 2 220 5 230 1 220 2 230 1 220 16 0",
    "1 35 101 0 7 230 2 0 4 230 1 220 1 230 2 0 2 230 1 0 1 220 2 230 1 220 35 0 1 36 30 0",
    "1 230 1 220 2 230 1 220 2 230 3 220 1 230 2 220 1 230 1 220 3 230 1 220 1 230 1 220",
    "1 230 1 220 1 230 1 220 4 230 158 0 7 230 1 220 1 230 9 0 1 220 24 0 4 230 1 0 9 230 1 0",
    "3 230 1 0 7 230 41 0 5 220 57 0 2 230 3 220 4 230 42 0 5 230 5 220 14 230 1 0 1 220",
    "2 230 1 220 2 230 1 220 3 230 3 220 1 27 1 28 1 29 3 230 1 220 2 230 2 220 5 230 60 0",
    "1 7 16 0 1 9 3 0 1 230 1 220 2 230 103 0 1 7 16 0 1 9 48 0 3 230 59 0 2 7 15 0 4 9 107 0",
    "1 7 16 0 3 9 108 0 1 7 16 0 6 9 122 0 3 9 108 0 1 7 16 0 8 9 1 84 2 91 100 0 1 7 16 0",
    "8 9 102 0 2 9 16 0 1 9 124 0 5 9 105 0 2 103 5 9 9 0 4 107 108 0 2 118 1 9 13 0 4 122",
    "76 0 2 220 27 0 1 220 1 0 1 220 1 0 1 216 55 0 1 129 2 130 3 132 3 0 4 130 2 0 2 130",
    "2 230 1 9 1 0 2 230 62 0 1 220 112 0 1 7 1 0 2 9 82 0 1 220 719 0 3 230 948 0 11 9 21 0",
    "1 9 157 0 1 9 10 0 3 230 201 0 1 228 143 0 1 222 1 230 5 220 215 0 1 230 1 220 71 0 1 9",
    "20 0 10 230 1 220 48 0 5 230 6 220 2 230 1 220 1 0 2 220 2 230 2 220 5 230 1 220 18 230",
    "1 220 2 0 6 230 1 220 4 230 1 234 72 0 1 7 15 0 1 9 38 0 1 230 1 220 7 230 54 0 2 9 58 0",
    "1 7 11 0 10 9 59 0 4 7 149 0 3 230 1 0 1 1 5 220 2 230 4 220 1 230 1 0 7 1 4 0 1 220 6 0",
    "1 230 3 0 2 230 198 0 2 230 1 220 7 230 1 220 2 230 1 234 1 214 1 220 1 202 37 230 1 232",
    "2 228 1 220 1 218 1 230 1 233 1 220 1 230 155 220 566 0 2 230 2 1 4 230 3 1 2 230 4 0",
    "1 230 3 0 2 1 1 230 1 220 1 230 2 1 4 220 16 230 3055 0 3 230 141 0 1 9 96 0 32 230",
    "554 0 1 218 1 228 1 232 1 222 2 224 105 0 2 8 30164 0 1 230 4 0 10 230 32 0 2 230 80 0",
    "2 230 276 0 1 9 37 0 4 9 148 0 1 9 27 0 18 230 57 0 3 220 37 0 12 9 84 0 1 7 12 0 1 9",
    "239 0 1 230 1 0 2 230 1 220 2 0 2 230 5 0 2 230 1 0 1 230 52 0 11 9 236 0 3 9 20270 0",
    "2 26 768 0 7 230 7 220 2 230 973 0 131 220 96 0 1 220 149 0 10 230 1677 0 1 220 1 0",
    "1 230 40 0 1 230 1 1 5 220 1 9 165 0 1 230 5 220 569 0 12 230 57 0 5 230 317 0 2 230",
    "77 0 2 220 1 0 3 220 70 0 2 220 3 230 1 220 1 230 4 220 49 0 1 230 1 220 1 230 1 220",
    "192 0 1 9 41 0 1 9 14 0 1 9 57 0 1 9 1 7 69 0 3 230 48 0 3 9 61 0 1 7 76 0 1 9 9 0 1 7",
    "106 0 1 9 1 7 178 0 1 7 6 9 75 0 2 7 16 0 3 9 22 0 26 230 78 0 3 9 113 0 1 9 3 0 1 7",
    "23 0 1 230 99 0 1 9 1 7 251 0 1 9 1 7 126 0 1 9 118 0 1 9 1 7 115 0 5 9 265 0 1 9 1 7",
    "258 0 2 9 4 0 1 7 156 0 1 9 83 0 1 9 18 0 9 9 73 0 1 9 421 0 1 9 258 0 1 7 1 0 2 9 81 0",
    "1 9 425 0 2 9 16876 0 1 9 2496 0 5 1 59 0 7 230 1209 0 2 6 19628 0 1 1 5318 0 2 216 3 1",
    "3 0 1 226 5 216 8 0 8 220 2 0 5 230 2 220 30 0 4 230 148 0 3 230 3515 0 48 230 95 0",
    "113 230 48 0 7 230 375 0 18 230 44 0 4 230 508 0 2 232 1 220 1 230 254 0 1 230 1 220",
    "243 0 1 230 2 0 1 230 7 0 2 230 5 0 9 230 466 0 48 220 68 0 6 230 1 7 988853 0"]

end SourceIndex.Text.Canonical
