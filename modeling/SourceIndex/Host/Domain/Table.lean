/-!
# Tables of the characters of domain names

What the characters that a name cannot hold are replaced by, which direction characters are written
in, and which of them are joined to their neighbours.
-/

set_option autoImplicit false

namespace SourceIndex.Host.Domain

/-- Characters that are replaced by a single one. Each block has a code point and the replacements
of the characters from there on, where `/` replaces a character that no name can hold. -/
def replacements : List (Nat × String) :=
  [(0xA0, "/"), (0xA8, "/©a"), (0xAF, "/°±23/μ¶·/1o"), (0xC6, "æ"), (0xD0, "ð"), (0xD8, "ø"),
    (0xDE, "þ"), (0x110, "đ"), (0x126, "ħ"), (0x141, "ł"), (0x14A, "ŋ"), (0x152, "œ"),
    (0x166, "ŧ"), (0x17F, "sƀɓƃƃƅƅɔƈƈɖɗƌƌƍǝəɛƒƒɠɣƕɩɨƙƙƚƛɯɲƞɵ"), (0x1A2, "ƣƣƥƥʀƨƨʃƪƫƭƭʈ"),
    (0x1B1, "ʊʋƴƴƶƶʒƹƹƺƻƽ"), (0x1E4, "ǥ"), (0x1F6, "ƕƿ"), (0x21C, "ȝ"), (0x220, "ƞȡȣȣȥ"),
    (0x23A, "ⱥȼȼƚⱦȿɀɂɂƀʉʌɇɇɉɉɋɋɍɍɏ"), (0x2B0, "hɦjrɹɻʁwy"), (0x2D8, "//////˞˟ɣlsxʕ"),
    (0x345, "ι"), (0x370, "ͱͱͳ"), (0x376, "ͷ"), (0x37A, "/"), (0x37F, "ϳ"), (0x384, "/"),
    (0x391, "αβγδεζηθικλμνξοπρ"), (0x3A3, "στυφχψω"), (0x3CF, "ϗβθυ"),
    (0x3D5, "φπϗϙϙϛϛϝϝϟϟϡϡϣϣϥϥϧϧϩϩϫϫϭϭϯϯκρσϳθε϶ϸϸσϻϻϼͻͼͽ"), (0x402, "ђ"), (0x404, "єѕі"),
    (0x408, "јљњћ"), (0x40F, "џабвгдежзи"), (0x41A, "клмнопрстуфхцчшщъыьэюя"),
    (0x460, "ѡѡѣѣѥѥѧѧѩѩѫѫѭѭѯѯѱѱѳѳѵ"), (0x478, "ѹѹѻѻѽѽѿѿҁ"),
    (0x48A, "ҋҋҍҍҏҏґґғғҕҕҗҗҙҙққҝҝҟҟҡҡңңҥҥҧҧҩҩҫҫҭҭүүұұҳҳҵҵҷҷҹҹһһҽҽҿҿӏ"), (0x4C3, "ӄӄӆӆӈӈӊӊӌӌӎ"),
    (0x4D4, "ӕ"), (0x4D8, "ә"), (0x4E0, "ӡ"), (0x4E8, "ө"), (0x4F6, "ӷ"),
    (0x4FA, "ӻӻӽӽӿӿԁԁԃԃԅԅԇԇԉԉԋԋԍԍԏԏԑԑԓԓԕԕԗԗԙԙԛԛԝԝԟԟԡԡԣԣԥԥԧԧԩԩԫԫԭԭԯ"),
    (0x531, "աբգդեզէըթժիլխծկհձղճմյնշոչպջռսվտրցւփքօֆ"), (0x558, "է"), (0x58B, "ի"), (0xF0C, "་"),
    (0x10A0, "ⴀⴁⴂⴃⴄⴅⴆⴇⴈⴉⴊⴋⴌⴍⴎⴏⴐⴑⴒⴓⴔⴕⴖⴗⴘⴙⴚⴛⴜⴝⴞⴟⴠⴡⴢⴣⴤⴥ"), (0x10C7, "ⴧ"), (0x10CD, "ⴭ"),
    (0x10FC, "ნ"), (0x13F8, "ᏰᏱᏲᏳᏴᏵ"), (0x1C80, "вдосттъѣꙋᲊ"),
    (0x1C90, "აბგდევზთიკლმნოპჟრსტუფქღყშჩცძწჭხჯჰჱჲჳჴჵჶჷჸჹჺ"), (0x1CBD, "ჽჾჿ"),
    (0x1D2C, "aæbᴯdeǝghijklmnᴻoȣprtuwaɐɑᴂbdeəɛɜgᵎkmŋoɔᴖᴗptuᴝɯvᴥβγδφχiruvβγρφχ"), (0x1D78, "н"),
    (0x1D9B, "ɒcɕðɜfɟɡɥɨɩɪᵻʝɭᶅʟɱɰɲɳɴɵɸʂʃƫʉʊᴜʋʌzʐʑʒθ"), (0x1E9E, "ß"), (0x1EFA, "ỻỻỽỽỿ"),
    (0x1FBD, "/"), (0x1FBF, "//"), (0x1FFE, "/"), (0x2002, "/////////"), (0x2011, "‐"),
    (0x2017, "/"), (0x2024, "///"), (0x202F, "/"), (0x203E, "/"), (0x2047, "///"),
    (0x205F, "/"), (0x2070, "0i"), (0x2074, "456789+−=()n0123456789+−=()"),
    (0x2090, "aeoxəhklmnpstwyz"), (0x2100, "//c"), (0x2105, "//ɛ"), (0x210A, "ghhhhħiill℔n"),
    (0x2119, "pqrrr"), (0x2124, "z"), (0x2128, "z"), (0x212C, "bc℮eefⅎmoאבגדi"),
    (0x213C, "πγγπ∑"), (0x2145, "ddeij"), (0x2160, "i"), (0x2164, "v"), (0x2169, "x"),
    (0x216C, "lcdmi"), (0x2174, "v"), (0x2179, "x"), (0x217C, "lcdmↀↁↂↄ"),
    (0x2460, "123456789"), (0x2488, "////////////////////"),
    (0x24B6, "abcdefghijklmnopqrstuvwxyzabcdefghijklmnopqrstuvwxyz0"), (0x2A74, "/"),
    (0x2C00, "ⰰⰱⰲⰳⰴⰵⰶⰷⰸⰹⰺⰻⰼⰽⰾⰿⱀⱁⱂⱃⱄⱅⱆⱇⱈⱉⱊⱋⱌⱍⱎⱏⱐⱑⱒⱓⱔⱕⱖⱗⱘⱙⱚⱛⱜⱝⱞⱟ"),
    (0x2C60, "ⱡⱡɫᵽɽⱥⱦⱨⱨⱪⱪⱬⱬɑɱɐɒⱱⱳⱳⱴⱶ"),
    (0x2C7C, "jvȿɀⲁⲁⲃⲃⲅⲅⲇⲇⲉⲉⲋⲋⲍⲍⲏⲏⲑⲑⲓⲓⲕⲕⲗⲗⲙⲙⲛⲛⲝⲝⲟⲟⲡⲡⲣⲣⲥⲥⲧⲧⲩⲩⲫⲫⲭⲭⲯⲯⲱⲱⲳⲳⲵⲵⲷⲷⲹⲹⲻⲻ"),
    (0x2CBC, "ⲽⲽⲿⲿⳁⳁⳃⳃⳅⳅⳇⳇⳉⳉⳋⳋⳍⳍⳏⳏⳑⳑⳓⳓⳕⳕⳗⳗⳙⳙⳛⳛⳝⳝⳟⳟⳡⳡⳣ"), (0x2CEB, "ⳬⳬⳮ"), (0x2CF2, "ⳳ"),
    (0x2D6F, "ⵡ"), (0x2E9F, "母"), (0x2EF3, "龟"),
    (0x2F00, "一丨丶丿乙亅二亠人儿入八冂冖冫几凵刀力勹匕匚匸十卜卩厂厶又口囗土士夂夊夕大女子宀寸小尢尸屮山巛工己巾干幺广廴廾弋弓彐彡彳心戈戶手"),
    (0x2F40, "支攴文斗斤方无日曰月木欠止歹殳毋比毛氏气水火爪父爻爿片牙牛犬玄玉瓜瓦甘生用田疋疒癶白皮皿目矛矢石示禸禾穴立竹米糸缶网羊羽老而耒耳"),
    (0x2F80, "聿肉臣自至臼舌舛舟艮色艸虍虫血行衣襾見角言谷豆豕豸貝赤走足身車辛辰辵邑酉釆里金長門阜隶隹雨靑非面革韋韭音頁風飛食首香馬骨高髟鬥鬯"),
    (0x2FC0, "鬲鬼魚鳥鹵鹿麥麻黃黍黑黹黽鼎鼓鼠鼻齊齒龍龜龠"), (0x2FF0, "/////////////////、."), (0x3036, "〒〷十卄卅"),
    (0x309B, "//"), (0x3131, "ᄀᄁᆪᄂᆬᆭᄃᄄᄅᆰᆱᆲᆳᆴᆵᄚᄆᄇᄈᄡᄉᄊᄋᄌᄍᄎᄏᄐᄑ하ᅢᅣᅤᅥᅦᅧᅨᅩᅪᅫᅬᅭᅮᅯᅰᅱᅲᅳᅴᅵ"),
    (0x3165, "ᄔᄕᇇᇈᇌᇎᇓᇗᇙᄜᇝᇟᄝᄞᄠᄢᄣᄧᄩᄫᄬᄭᄮᄯᄲᄶᅀᅇᅌᇱᇲᅗᅘᅙᆄᆅᆈᆑᆒᆔᆞᆡ"), (0x3192, "一二三四上中下甲乙丙丁天地人"),
    (0x31EF, "/"), (0x3244, "問幼文箏"), (0x3260, "ᄀᄂᄃᄅᄆᄇᄉᄋᄌᄎᄏᄐᄑᄒ가나다라마바사아자차카타파하"),
    (0x327E, "우㉿一二三四五六七八九十月火水木金土日株有社名特財祝労秘男女適優印注項休写正上中下左右医宗学監企資協夜"),
    (0x32D0, "アイウエオカキクケコサシスセソタチツテトナニヌネノハヒフヘホマミムメモヤユヨラリルレロワヰヱヲ"), (0x33C2, "/"), (0x33C7, "/"),
    (0x33D8, "/"), (0xA640, "ꙁꙁꙃꙃꙅꙅꙇꙇꙉꙉꙋꙋꙍꙍꙏꙏꙑꙑꙓꙓꙕꙕꙗꙗꙙꙙꙛꙛꙝꙝꙟꙟꙡꙡꙣꙣꙥꙥꙧꙧꙩꙩꙫꙫꙭ"),
    (0xA680, "ꚁꚁꚃꚃꚅꚅꚇꚇꚉꚉꚋꚋꚍꚍꚏꚏꚑꚑꚓꚓꚕꚕꚗꚗꚙꚙꚛꚛъь"),
    (0xA722, "ꜣꜣꜥꜥꜧꜧꜩꜩꜫꜫꜭꜭꜯꜯꜰꜱꜳꜳꜵꜵꜷꜷꜹꜹꜻꜻꜽꜽꜿꜿꝁꝁꝃꝃꝅꝅꝇꝇꝉꝉꝋꝋꝍꝍꝏꝏꝑꝑꝓꝓꝕꝕꝗꝗꝙꝙꝛꝛꝝꝝꝟꝟꝡꝡ"),
    (0xA762, "ꝣꝣꝥꝥꝧꝧꝩꝩꝫꝫꝭꝭꝯꝯꝯ"), (0xA779, "ꝺꝺꝼꝼᵹꝿꝿꞁꞁꞃꞃꞅꞅꞇ"),
    (0xA78B, "ꞌꞌɥꞎꞏꞑꞑꞓꞓꞔꞕꞗꞗꞙꞙꞛꞛꞝꞝꞟꞟꞡꞡꞣꞣꞥꞥꞧꞧꞩꞩɦɜɡɬɪꞯʞʇʝꭓꞵꞵꞷꞷꞹꞹꞻꞻꞽꞽꞿꞿꟁꟁꟃꟃꞔʂᶎꟈꟈꟊꟊ"),
    (0xA7CB, "ɤꟍꟍ꟏꟏ꟑꟑꟓꟓꟕꟕꟗꟗꟙꟙꟛꟛƛɷ"), (0xA7F1, "scfqꟶꟶꟷħœ"), (0xAB5C, "ꜧꬷɫꭒ"), (0xAB69, "ʍ꭪꭫ꭋ"),
    (0xAB70, "ᎠᎡᎢᎣᎤᎥᎦᎧᎨᎩᎪᎫᎬᎭᎮᎯᎰᎱᎲᎳᎴᎵᎶᎷᎸᎹᎺᎻᎼᎽᎾᎿᏀᏁᏂᏃᏄᏅᏆᏇᏈᏉᏊᏋᏌᏍᏎᏏᏐᏑᏒᏓᏔᏕᏖᏗᏘᏙᏚᏛᏜᏝᏞᏟ"),
    (0xABB0, "ᏠᏡᏢᏣᏤᏥᏦᏧᏨᏩᏪᏫᏬᏭᏮᏯ"), (0xFB20, "עאדהכלםרת+"),
    (0xFB50, "ٱٱٻٻٻٻپپپپڀڀڀڀٺٺٺٺٿٿٿٿٹٹٹٹڤڤڤڤڦڦڦڦڄڄڄڄڃڃڃڃچچچچڇڇڇڇڍڍڌڌڎڎڈڈژژڑڑکک"),
    (0xFB90, "ککگگگگڳڳڳڳڱڱڱڱںںڻڻڻڻۀۀہہہہھھھھےےۓۓ"), (0xFBD3, "ڭڭڭڭۇۇۆۆۈۈ"),
    (0xFBDE, "ۋۋۅۅۉۉېېېېىى"), (0xFBFC, "یییی"), (0xFC5E, "//////"), (0xFDFA, "//"),
    (0xFE10, ",、//;!/〖〗/"), (0xFE30, "/—–__()\x7b\x7d〔〕【】《》〈〉「」『』﹅﹆//////___,、/"),
    (0xFE54, ";//!—()\x7b\x7d〔〕/&*+-//="), (0xFE68, "/$//"), (0xFE70, "/"), (0xFE72, "/ﹳ/"),
    (0xFE76, "/"), (0xFE78, "/"), (0xFE7A, "/"), (0xFE7C, "/"), (0xFE7E, "/"),
    (0xFE80, "ءآآأأؤؤإإئئئئااببببةةتتتتثثثثججججححححخخخخددذذررززسسسسششششصصصصضضض"),
    (0xFEC0, "ضططططظظظظععععغغغغففففققققككككللللممممننننههههووىىيييي"),
    (0xFF01, "!\x22/$/&'()*+,-./0123456789/;/=///abcdefghijklmnopqrstuvwxyz////_\x60"),
    (0xFF41, "abcdefghijklmnopqrstuvwxyz\x7b/\x7d~⦅⦆.「」、・ヲァィゥェォャュョッーアイウエオカキクケコサシスセソタ"),
    (0xFF81, "チツテトナニヌネノハヒフヘホマミムメモヤユヨラリルレロワン゙゚"), (0xFFA1, "ᄀᄁᆪᄂᆬᆭᄃᄄᄅᆰᆱᆲᆳᆴᆵᄚᄆᄇᄈᄡᄉᄊᄋᄌᄍᄎᄏᄐᄑᄒ"),
    (0xFFC2, "ᅡᅢᅣᅤᅥᅦ"), (0xFFCA, "ᅧᅨᅩᅪᅫᅬ"), (0xFFD2, "ᅭᅮᅯᅰᅱᅲ"), (0xFFDA, "ᅳᅴᅵ"),
    (0xFFE0, "¢£¬/¦¥₩"), (0xFFE8, "│←↑→↓■○"), (0xFFFC, "//"),
    (0x10400, "𐐨𐐩𐐪𐐫𐐬𐐭𐐮𐐯𐐰𐐱𐐲𐐳𐐴𐐵𐐶𐐷𐐸𐐹𐐺𐐻𐐼𐐽𐐾𐐿𐑀𐑁𐑂𐑃𐑄𐑅𐑆𐑇𐑈𐑉𐑊𐑋𐑌𐑍𐑎𐑏"),
    (0x104B0, "𐓘𐓙𐓚𐓛𐓜𐓝𐓞𐓟𐓠𐓡𐓢𐓣𐓤𐓥𐓦𐓧𐓨𐓩𐓪𐓫𐓬𐓭𐓮𐓯𐓰𐓱𐓲𐓳𐓴𐓵𐓶𐓷𐓸𐓹𐓺𐓻"), (0x10570, "𐖗𐖘𐖙𐖚𐖛𐖜𐖝𐖞𐖟𐖠𐖡"),
    (0x1057C, "𐖣𐖤𐖥𐖦𐖧𐖨𐖩𐖪𐖫𐖬𐖭𐖮𐖯𐖰𐖱"), (0x1058C, "𐖳𐖴𐖵𐖶𐖷𐖸𐖹"), (0x10594, "𐖻𐖼"), (0x10781, "ːˑæʙɓ"),
    (0x10787, "ʣꭦʥʤɖɗᶑɘɞʩɤɢɠʛħʜɧʄʪʫɬ𝼄ꞎɮ𝼅ʎ𝼆øɶɷqɺ𝼈ɽɾʀʨʦꭧʧʈⱱ"), (0x107B2, "ʏʡʢʘǀǁǂ𝼊𝼞"),
    (0x10C80, "𐳀𐳁𐳂𐳃𐳄𐳅𐳆𐳇𐳈𐳉𐳊𐳋𐳌𐳍𐳎𐳏𐳐𐳑𐳒𐳓𐳔𐳕𐳖𐳗𐳘𐳙𐳚𐳛𐳜𐳝𐳞𐳟𐳠𐳡𐳢𐳣𐳤𐳥𐳦𐳧𐳨𐳩𐳪𐳫𐳬𐳭𐳮𐳯𐳰𐳱𐳲"),
    (0x10D50, "𐵰𐵱𐵲𐵳𐵴𐵵𐵶𐵷𐵸𐵹𐵺𐵻𐵼𐵽𐵾𐵿𐶀𐶁𐶂𐶃𐶄𐶅"), (0x118A0, "𑣀𑣁𑣂𑣃𑣄𑣅𑣆𑣇𑣈𑣉𑣊𑣋𑣌𑣍𑣎𑣏𑣐𑣑𑣒𑣓𑣔𑣕𑣖𑣗𑣘𑣙𑣚𑣛𑣜𑣝𑣞𑣟"),
    (0x16E40, "𖹠𖹡𖹢𖹣𖹤𖹥𖹦𖹧𖹨𖹩𖹪𖹫𖹬𖹭𖹮𖹯𖹰𖹱𖹲𖹳𖹴𖹵𖹶𖹷𖹸𖹹𖹺𖹻𖹼𖹽𖹾𖹿"), (0x16EA0, "𖺻𖺼𖺽𖺾𖺿𖻀𖻁𖻂𖻃𖻄𖻅𖻆𖻇𖻈𖻉𖻊𖻋𖻌𖻍𖻎𖻏𖻐𖻑𖻒𖻓"),
    (0x1CCD6, "abcdefghijklmnopqrstuvwxyz0123456789"),
    (0x1D400, "abcdefghijklmnopqrstuvwxyzabcdefghijklmnopqrstuvwxyzabcdefghijkl"),
    (0x1D440, "mnopqrstuvwxyzabcdefg"),
    (0x1D456, "ijklmnopqrstuvwxyzabcdefghijklmnopqrstuvwxyzabcdefghijklmnopqrst"),
    (0x1D496, "uvwxyza"), (0x1D49E, "cd"), (0x1D4A2, "g"), (0x1D4A5, "jk"), (0x1D4A9, "nopq"),
    (0x1D4AE, "stuvwxyzabcd"), (0x1D4BB, "f"), (0x1D4BD, "hijklmn"),
    (0x1D4C5, "pqrstuvwxyzabcdefghijklmnopqrstuvwxyzabcdefghijklmnopqrstuvwxyza"),
    (0x1D505, "b"), (0x1D507, "defg"), (0x1D50D, "jklmnopq"), (0x1D516, "stuvwxy"),
    (0x1D51E, "abcdefghijklmnopqrstuvwxyzab"), (0x1D53B, "defg"), (0x1D540, "ijklm"),
    (0x1D546, "o"), (0x1D54A, "stuvwxy"),
    (0x1D552, "abcdefghijklmnopqrstuvwxyzabcdefghijklmnopqrstuvwxyzabcdefghijkl"),
    (0x1D592, "mnopqrstuvwxyzabcdefghijklmnopqrstuvwxyzabcdefghijklmnopqrstuvwx"),
    (0x1D5D2, "yzabcdefghijklmnopqrstuvwxyzabcdefghijklmnopqrstuvwxyzabcdefghij"),
    (0x1D612, "klmnopqrstuvwxyzabcdefghijklmnopqrstuvwxyzabcdefghijklmnopqrstuv"),
    (0x1D652, "wxyzabcdefghijklmnopqrstuvwxyzabcdefghijklmnopqrstuvwxyzabcdefgh"),
    (0x1D692, "ijklmnopqrstuvwxyzıȷ"),
    (0x1D6A8, "αβγδεζηθικλμνξοπρθστυφχψω∇αβγδεζηθικλμνξοπρσστυφχψω∂εθκφρπαβγδεζ"),
    (0x1D6E8, "ηθικλμνξοπρθστυφχψω∇αβγδεζηθικλμνξοπρσστυφχψω∂εθκφρπαβγδεζηθικλμ"),
    (0x1D728, "νξοπρθστυφχψω∇αβγδεζηθικλμνξοπρσστυφχψω∂εθκφρπαβγδεζηθικλμνξοπρθ"),
    (0x1D768, "στυφχψω∇αβγδεζηθικλμνξοπρσστυφχψω∂εθκφρπαβγδεζηθικλμνξοπρθστυφχψ"),
    (0x1D7A8, "ω∇αβγδεζηθικλμνξοπρσστυφχψω∂εθκφρπϝϝ"),
    (0x1D7CE, "01234567890123456789012345678901234567890123456789"),
    (0x1E030, "абвгдежзиклмопрстуфхцчшыэюꚉәіјөүӏабвгдежзиклопсуфхцчшъыґіѕџҫꙑұ"),
    (0x1E900, "𞤢𞤣𞤤𞤥𞤦𞤧𞤨𞤩𞤪𞤫𞤬𞤭𞤮𞤯𞤰𞤱𞤲𞤳𞤴𞤵𞤶𞤷𞤸𞤹𞤺𞤻𞤼𞤽𞤾𞤿𞥀𞥁𞥂𞥃"), (0x1EE00, "ابجد"),
    (0x1EE05, "وزحطيكلمنسعفصقرشتثخذضظغٮںڡٯ"), (0x1EE21, "بج"), (0x1EE24, "ه"), (0x1EE27, "ح"),
    (0x1EE29, "يكلمنسعفصق"), (0x1EE34, "شتثخ"), (0x1EE39, "ض"), (0x1EE3B, "غ"), (0x1EE42, "ج"),
    (0x1EE47, "ح"), (0x1EE49, "ي"), (0x1EE4B, "ل"), (0x1EE4D, "نسع"), (0x1EE51, "صق"),
    (0x1EE54, "ش"), (0x1EE57, "خ"), (0x1EE59, "ض"), (0x1EE5B, "غ"), (0x1EE5D, "ں"),
    (0x1EE5F, "ٯ"), (0x1EE61, "بج"), (0x1EE64, "ه"), (0x1EE67, "حطيك"), (0x1EE6C, "منسعفصق"),
    (0x1EE74, "شتثخ"), (0x1EE79, "ضظغٮ"), (0x1EE7E, "ڡ"), (0x1EE80, "ابجدهوزحطي"),
    (0x1EE8B, "لمنسعفصقرشتثخذضظغ"), (0x1EEA1, "بجد"), (0x1EEA5, "وزحطي"),
    (0x1EEAB, "لمنسعفصقرشتثخذضظغ"), (0x1F100, "/"), (0x1F12B, "cr"),
    (0x1F130, "abcdefghijklmnopqrstuvwxyz"), (0x1F202, "サ"),
    (0x1F210, "手字双デ二多解天交映無料前後再新初終生販声吹演投捕一三遊左中右指走打禁空合満有月申割営配"), (0x1F250, "得可"),
    (0x1FBF0, "0123456789")]

/-- Characters that are replaced by several. Each block has a code point and the replacements of the
characters from there on, with blanks between them. -/
def expansions : List (Nat × String) :=
  [(0xBC, "1⁄4 1⁄2 3⁄4"), (0x132, "ij ij"), (0x13F, "l· l·"), (0x149, "ʼn"),
    (0x1C4, "dž dž dž lj lj lj nj nj nj"), (0x1F1, "dz dz dz"), (0x587, "եւ"),
    (0x675, "اٴ وٴ ۇٴ يٴ"), (0xE33, "ํา"), (0xEB3, "ໍາ"), (0xEDC, "ຫນ ຫມ"), (0xF77, "ྲཱྀ"),
    (0xF79, "ླཱྀ"), (0x1E9A, "aʾ"), (0x2033, "′′ ′′′ ‵ ‵‵ ‵‵‵"), (0x203C, "!!"),
    (0x2057, "′′′′"), (0x20A8, "rs"), (0x2103, "°c"), (0x2109, "°f"), (0x2116, "no"),
    (0x2120, "sm tel tm"), (0x213B, "fax"),
    (0x2150, "1⁄7 1⁄9 1⁄10 1⁄3 2⁄3 1⁄5 2⁄5 3⁄5 4⁄5 1⁄6 5⁄6 1⁄8 3⁄8 5⁄8 7⁄8 1⁄"),
    (0x2161, "ii iii iv"), (0x2165, "vi vii viii ix"), (0x216A, "xi xii"),
    (0x2171, "ii iii iv"), (0x2175, "vi vii viii ix"), (0x217A, "xi xii"), (0x2189, "0⁄3"),
    (0x222C, "∫∫ ∫∫∫ ∮ ∮∮ ∮∮∮"),
    (0x2469, "10 11 12 13 14 15 16 17 18 19 20 (1) (2) (3) (4) (5) (6) (7)"),
    (0x247B, "(8) (9) (10) (11) (12) (13) (14) (15) (16) (17) (18) (19) (20)"),
    (0x249C, "(a) (b) (c) (d) (e) (f) (g) (h) (i) (j) (k) (l) (m) (n) (o) (p)"),
    (0x24AC, "(q) (r) (s) (t) (u) (v) (w) (x) (y) (z)"), (0x2A0C, "∫∫∫∫"), (0x2A75, "== ==="),
    (0x309F, "より"), (0x30FF, "コト"),
    (0x3200, "(ᄀ) (ᄂ) (ᄃ) (ᄅ) (ᄆ) (ᄇ) (ᄉ) (ᄋ) (ᄌ) (ᄎ) (ᄏ) (ᄐ) (ᄑ) (ᄒ) (가) (나)"),
    (0x3210, "(다) (라) (마) (바) (사) (아) (자) (차) (카) (타) (파) (하) (주) (오전) (오후)"),
    (0x3220, "(一) (二) (三) (四) (五) (六) (七) (八) (九) (十) (月) (火) (水) (木) (金) (土)"),
    (0x3230, "(日) (株) (有) (社) (名) (特) (財) (祝) (労) (代) (呼) (学) (監) (企) (資) (協)"),
    (0x3240, "(祭) (休) (自) (至)"), (0x3250, "pte 21 22 23 24 25 26 27 28 29 30 31 32 33 34 35"),
    (0x327C, "참고 주의"),
    (0x32B1, "36 37 38 39 40 41 42 43 44 45 46 47 48 49 50 1月 2月 3月 4月 5月 6月"),
    (0x32C6, "7月 8月 9月 10月 11月 12月 hg erg ev ltd"),
    (0x32FF, "令和 アパート アルファ アンペア アール イニング インチ ウォン エスクード エーカー オンス オーム カイリ カラット"),
    (0x330D, "カロリー ガロン ガンマ ギガ ギニー キュリー ギルダー キロ キログラム キロメートル キロワット グラム グラムトン"),
    (0x331A, "クルゼイロ クローネ ケース コルナ コーポ サイクル サンチーム シリング センチ セント ダース デシ ドル トン ナノ"),
    (0x3329, "ノット ハイツ パーセント パーツ バーレル ピアストル ピクル ピコ ビル ファラッド フィート ブッシェル フラン"),
    (0x3336, "ヘクタール ペソ ペニヒ ヘルツ ペンス ページ ベータ ポイント ボルト ホン ポンド ホール ホーン マイクロ マイル"),
    (0x3345, "マッハ マルク マンション ミクロン ミリ ミリバール メガ メガトン メートル ヤード ヤール ユアン リットル リラ"),
    (0x3353, "ルピー ルーブル レム レントゲン ワット 0点 1点 2点 3点 4点 5点 6点 7点 8点 9点 10点 11点 12点"),
    (0x3365, "13点 14点 15点 16点 17点 18点 19点 20点 21点 22点 23点 24点 hpa da au bar"),
    (0x3375, "ov pc dm dm2 dm3 iu 平成 昭和 大正 明治 株式会社 pa na μa ma ka kb mb gb"),
    (0x3388, "cal kcal pf nf μf μg mg kg hz khz mhz ghz thz μl ml dl kl fm nm"),
    (0x339B, "μm mm cm km mm2 cm2 m2 km2 mm3 cm3 m3 km3 m∕s m∕s2 pa kpa mpa"),
    (0x33AC, "gpa rad rad∕s rad∕s2 ps ns μs ms pv nv μv mv kv mv pw nw μw mw"),
    (0x33BE, "kw mw kω mω"), (0x33C3, "bq cc cd c∕kg"),
    (0x33C8, "db gy ha hp in kk km kt lm ln log lx mb mil mol ph"),
    (0x33D9, "ppm pr sr sv wb v∕m a∕m 1日 2日 3日 4日 5日 6日 7日 8日 9日 10日 11日 12日"),
    (0x33EC, "13日 14日 15日 16日 17日 18日 19日 20日 21日 22日 23日 24日 25日 26日 27日 28日"),
    (0x33FC, "29日 30日 31日 gal"), (0xFB00, "ff fi fl ffi ffl st st"), (0xFB13, "մն մե մի վն մխ"),
    (0xFB4F, "אל"), (0xFBDD, "ۇٴ"),
    (0xFBEA, "ئا ئا ئە ئە ئو ئو ئۇ ئۇ ئۆ ئۆ ئۈ ئۈ ئې ئې ئې ئى ئى ئى"),
    (0xFC00, "ئج ئح ئم ئى ئي بج بح بخ بم بى بي تج تح تخ تم تى تي ثج ثم ثى ثي"),
    (0xFC15, "جح جم حج حم خج خح خم سج سح سخ سم صح صم ضج ضح ضخ ضم طح طم ظم عج"),
    (0xFC2A, "عم غج غم فج فح فخ فم فى في قح قم قى قي كا كج كح كخ كل كم كى كي"),
    (0xFC3F, "لج لح لخ لم لى لي مج مح مخ مم مى مي نج نح نخ نم نى ني هج هم هى"),
    (0xFC54, "هي يج يح يخ يم يى يي ذٰ رٰ ىٰ"),
    (0xFC64, "ئر ئز ئم ئن ئى ئي بر بز بم بن بى بي تر تز تم تن تى تي ثر ثز ثم"),
    (0xFC79, "ثن ثى ثي فى في قى قي كا كل كم كى كي لم لى لي ما مم نر نز نم نن"),
    (0xFC8E, "نى ني ىٰ ير يز يم ين يى يي ئج ئح ئخ ئم ئه بج بح بخ بم به تج تح"),
    (0xFCA3, "تخ تم ته ثم جح جم حج حم خج خم سج سح سخ سم صح صخ صم ضج ضح ضخ ضم"),
    (0xFCB8, "طح ظم عج عم غج غم فج فح فخ فم قح قم كج كح كخ كل كم لج لح لخ لم"),
    (0xFCCD, "له مج مح مخ مم نج نح نخ نم نه هج هم هٰ يج يح يخ يم يه ئم ئه بم"),
    (0xFCE2, "به تم ته ثم ثه سم سه شم شه كل كم لم نم نه يم يه ـَّ ـُّ ـِّ طى"),
    (0xFCF6, "طي عى عي غى غي سى سي شى شي حى حي جى جي خى خي صى صي ضى ضي شج شح"),
    (0xFD0B, "شخ شم شر سر صر ضر طى طي عى عي غى غي سى سي شى شي حى حي جى جي خى"),
    (0xFD20, "خي صى صي ضى ضي شج شح شخ شم شر سر صر ضر شج شح شخ شم سه شه طم سج"),
    (0xFD35, "سح سخ شج شح شخ طم ظم اً اً"),
    (0xFD50, "تجم تحج تحج تحم تخم تمج تمح تمخ جمح جمح حمي حمى سحج سجح سجى سمح"),
    (0xFD60, "سمح سمج سمم سمم صحح صحح صمم شحم شحم شجي شمخ شمخ شمم شمم ضحى ضخم"),
    (0xFD70, "ضخم طمح طمح طمم طمي عجم عمم عمم عمى غمم غمي غمى فخم فخم قمح قمم"),
    (0xFD80, "لحم لحي لحى لجج لجج لخم لخم لمح لمح محج محم محي مجح مجم مخج مخم"),
    (0xFD90, "﶐ ﶑ مجخ همج همم نحم نحى نجم نجم نجى نمي نمى يمم يمم بخي تجي تجى"),
    (0xFDA1, "تخي تخى تمي تمى جمي جحى جمى سخى صحي شحي ضحي لجي لمي يحي يجي يمي"),
    (0xFDB1, "ممي قمي نحي قمح لحم عمي كمي نجح مخي لجم كمم لجم نجح جحي حجي مجي"),
    (0xFDC1, "فمي بحي كمم عجم صمم سخي نجي"),
    (0xFDF0, "صلے قلے الله اكبر محمد صلعم رسول عليه وسلم صلى"), (0xFDFC, "ریال"),
    (0xFE71, "ـً"), (0xFE77, "ـَ"), (0xFE79, "ـُ"), (0xFE7B, "ـِ"), (0xFE7D, "ـّ"),
    (0xFE7F, "ـْ"), (0xFEF5, "لآ لآ لأ لأ لإ لإ لا لا"),
    (0x1F101, "0, 1, 2, 3, 4, 5, 6, 7, 8, 9,"),
    (0x1F110, "(a) (b) (c) (d) (e) (f) (g) (h) (i) (j) (k) (l) (m) (n) (o) (p)"),
    (0x1F120, "(q) (r) (s) (t) (u) (v) (w) (x) (y) (z) 〔s〕"), (0x1F12D, "cd wz"),
    (0x1F14A, "hv mv sd ss ppv wc"), (0x1F16A, "mc md mr"), (0x1F190, "dj"), (0x1F200, "ほか ココ"),
    (0x1F240, "〔本〕 〔三〕 〔二〕 〔安〕 〔点〕 〔打〕 〔盗〕 〔勝〕 〔敗〕")]

/-- The directions of the code points, as runs: how many code points, and the number of their
direction. -/
def directionRuns : List String :=
  ["9 6 5 7 14 6 5 7 15 6 10 5 7 6 26 0 6 6 26 0 100 6 24 0 1 6 449 0 2 6 7 0 14 6 2 0 28 6",
    "1 0 17 6 113 2 4 0 2 6 127 0 2 6 139 0 8 2 255 0 2 6 1 0 4 6 45 2 1 3 1 2 1 3 2 2 1 3",
    "2 2 1 3 9 2 54 3 2 6 1 3 2 6 1 3 1 6 1 3 2 6 11 2 48 3 21 2 10 4 1 6 2 4 3 3 1 2 101 3",
    "8 2 1 6 6 2 2 3 2 2 1 6 4 2 2 3 10 5 23 3 1 2 30 3 29 2 89 3 11 2 58 3 9 2 2 3 4 6 3 3",
    "1 2 24 3 4 2 1 3 9 2 1 3 3 2 1 3 7 2 41 3 5 2 57 3 9 2 42 3 57 2 1 1 54 0 1 2 1 1 1 2",
    "1 0 3 1 8 2 4 1 1 2 2 1 1 0 15 2 2 0 2 2 29 0 1 2 3 1 55 0 1 2 1 0 3 1 6 2 6 1 1 2 9 0",
    "9 1 2 0 4 2 12 0 2 6 7 0 1 6 2 0 5 2 2 1 55 0 2 2 3 1 27 2 20 0 2 2 3 0 1 2 11 0 2 2 2 1",
    "55 0 1 2 1 0 3 1 8 2 4 1 3 2 18 0 4 2 11 0 8 6 1 0 8 2 3 1 55 0 1 2 1 0 1 1 1 2 1 1 6 2",
    "6 1 10 2 8 1 3 0 4 2 28 0 1 2 59 0 2 1 1 2 12 1 3 2 7 0 15 1 13 0 13 6 1 2 3 1 1 2 55 0",
    "1 2 1 0 3 2 5 1 18 2 10 0 4 2 18 0 7 6 2 0 1 2 2 1 56 0 1 2 1 0 14 1 9 2 7 1 6 0 4 2",
    "13 0 13 1 2 2 2 1 55 0 2 2 1 0 3 1 5 2 7 1 1 2 9 0 1 1 10 0 4 2 27 0 1 2 3 1 69 0 5 2",
    "3 1 6 2 14 1 12 0 2 1 61 0 1 2 2 0 11 2 1 6 7 0 8 2 98 0 1 2 2 0 9 2 11 0 8 2 72 0 2 2",
    "27 0 1 2 1 0 1 2 1 0 1 2 4 6 2 1 49 0 14 2 1 1 5 2 1 0 2 2 5 0 49 2 8 0 1 2 100 0 2 1",
    "4 2 1 1 6 2 1 1 2 2 2 1 2 2 23 0 2 1 2 2 4 0 3 2 1 0 3 1 2 0 7 1 3 0 4 2 13 0 1 2 2 1",
    "2 2 6 1 1 2 1 0 1 1 10 0 3 1 1 2 703 0 3 2 48 0 16 6 96 0 1 6 666 0 5 6 114 0 3 2 10 1",
    "19 0 2 2 1 1 29 0 14 2 18 0 14 2 54 0 1 1 7 2 8 1 1 2 2 1 11 2 7 0 1 6 1 0 3 2 16 0 32 6",
    "117 0 2 2 34 0 1 2 118 0 3 2 4 1 2 2 9 1 1 2 6 1 7 2 6 6 152 0 34 6 23 0 2 2 2 1 3 2",
    "55 0 1 1 1 2 1 1 9 2 1 1 1 2 2 1 8 2 6 1 13 2 48 0 84 2 1 1 47 0 1 2 1 1 4 2 11 1 38 0",
    "9 2 12 0 2 2 1 1 30 0 1 1 4 2 2 1 2 2 1 1 3 2 56 0 1 2 1 1 2 2 3 1 1 2 1 1 3 2 10 1 40 0",
    "8 1 8 2 2 1 5 2 149 0 3 2 1 0 13 2 1 1 7 2 4 0 1 2 6 0 1 2 2 0 1 1 2 2 198 0 65 2 523 0",
    "196 6 52 2 74 6 60 0 428 6 69 0 26 6 1 0 790 6 1 0 339 6 256 0 816 6 181 0 7 6 3 0 4 2",
    "6 0 7 6 127 0 1 2 96 0 32 2 517 6 3 0 25 6 9 0 4 2 2 1 1 6 6 0 4 6 2 0 4 6 88 0 4 2 3 0",
    "1 6 90 0 1 6 196 0 48 6 7120 0 64 6 22160 0 64 6 317 0 3 6 95 0 4 2 1 6 10 2 3 6 29 0",
    "2 2 80 0 2 2 14 0 35 6 101 0 1 6 121 0 1 2 3 0 1 2 4 0 1 2 23 0 2 1 2 2 1 1 4 6 4 2 8 0",
    "8 6 52 0 12 6 2 1 50 0 16 1 10 2 18 0 18 2 13 0 1 2 38 0 8 2 25 0 11 2 13 1 33 0 3 2 1 1",
    "47 0 1 2 2 1 4 2 2 1 2 2 3 1 36 0 1 2 67 0 6 2 2 1 2 2 2 1 11 2 3 0 1 2 8 0 1 2 3 1 43 0",
    "1 1 1 2 1 1 50 0 1 2 1 0 3 2 2 0 2 2 5 0 2 2 1 0 1 2 41 0 1 1 2 2 2 1 5 0 1 1 11 2 105 0",
    "3 6 118 0 2 1 1 2 2 1 1 2 2 1 1 0 1 1 3 2 20270 0 148 2 17 3 605 6 37 2 46 6 397 3 257 0",
    "1 6 62 0 77 6 3 0 64 6 45 0 131 2 96 0 1 2 31 5 118 0 10 2 1152 0 287 3 1 6 225 3 15 2",
    "40 3 8 2 165 3 6 2 78 3 7 6 484 3 12 2 26 4 31 3 5 2 1 6 241 3 32 4 43 3 2 2 35 3 9 6",
    "33 3 6 2 70 3 11 2 49 3 4 2 122 3 1 1 1 2 1 1 53 0 15 2 11 0 20 6 10 0 1 2 2 0 2 2 10 0",
    "3 2 1 1 45 0 3 1 4 2 2 1 2 2 7 0 14 2 48 0 3 2 36 0 5 2 1 1 9 2 15 0 2 1 44 0 1 2 12 0",
    "2 2 1 1 48 0 3 1 9 2 2 1 8 0 4 2 1 0 1 1 1 2 92 0 3 1 3 2 2 1 1 2 1 1 2 2 6 0 1 2 2 0",
    "63 2 95 0 1 2 3 1 13 2 16 0 2 2 3 1 54 0 2 2 1 0 2 1 1 2 15 1 7 0 6 1 5 0 4 1 26 2 56 0",
    "3 1 7 2 12 1 1 2 1 1 1 2 1 0 1 2 14 0 31 2 53 0 3 1 8 2 2 1 3 2 1 1 1 2 23 0 1 2 81 0",
    "3 1 6 2 1 1 1 2 4 1 2 2 1 1 2 2 235 0 3 1 6 2 4 1 2 2 1 1 2 2 27 0 36 2 48 0 3 1 8 2 2 1",
    "1 2 1 1 2 2 31 0 32 6 43 0 1 2 1 1 1 2 2 1 6 2 1 1 1 2 101 0 3 2 2 1 4 2 1 1 9 2 252 0",
    "3 1 9 2 1 1 2 2 245 0 11 1 2 2 1 1 1 2 1 0 1 1 1 0 1 1 1 2 141 0 3 1 8 2 4 1 1 2 3 0",
    "28 1 1 0 6 2 2 1 2 2 40 0 6 2 1 1 1 0 4 2 8 0 9 2 1 0 6 2 2 1 3 2 46 0 13 2 1 1 2 2",
    "198 0 1 2 1 1 3 2 1 1 1 2 89 1 111 0 1 1 14 2 2 1 82 0 23 2 1 1 7 2 1 1 2 2 1 1 75 2",
    "49 0 21 2 1 0 9 2 58 0 6 1 3 2 2 1 1 2 1 1 1 2 347 0 2 2 2 1 9 0 2 2 1 0 1 1 48 0 2 1",
    "8 2 2 1 1 2 1 1 1 2 23 0 86 2 37 0 42 6 5185 0 1 2 6 0 25 2 11454 0 12 2 3 1 3 2 2496 0",
    "5 2 59 0 7 2 1048 0 1 2 1 0 62 1 4 2 79 0 1 6 1 0 12 2 2 1 19627 0 2 2 3937 0 768 6 80 2",
    "533 0 2 1 3 2 3 0 14 1 8 2 2 0 7 2 30 0 4 2 59 0 89 6 3 2 123 6 64 0 96 6 1696 0 55 2",
    "4 0 50 2 8 0 1 2 14 0 1 2 22 0 1125 2 256 0 256 2 48 0 7 2 375 0 18 2 44 0 4 2 15 0",
    "465 6 28 0 4 2 254 0 2 2 243 0 1 2 2 0 1 2 7 0 2 2 5 0 9 2 258 0 208 3 82 2 34 3 7 2",
    "1445 3 608 6 29 0 3 6 61 0 57 6 122 0 3488 6 983040 0"]

/-- How the code points are joined to their neighbours, as runs: how many code points, 0 for not at
all, 1 for the one after, 2 for the one before, 3 for both, and 4 if they do not come between those
around them. -/
def joiningRuns : List String :=
  ["173 0 1 4 594 0 112 4 275 0 7 4 263 0 45 4 1 0 1 4 1 0 2 4 1 0 2 4 1 0 9 4 64 0 11 4 1 0",
    "1 4 3 0 1 3 1 0 4 2 1 3 1 2 1 3 1 2 5 3 4 2 13 3 1 0 7 3 1 2 2 3 21 4 14 0 2 3 1 4 3 2",
    "1 0 3 2 16 3 18 2 38 3 1 2 2 3 9 2 1 3 1 2 1 3 1 2 2 3 2 2 1 0 1 2 7 4 2 0 6 4 2 0 2 4",
    "1 0 4 4 2 2 10 0 3 3 2 0 1 3 15 0 1 4 1 2 1 4 3 3 5 2 4 3 1 2 9 3 1 2 1 3 1 2 1 3 1 2",
    "2 3 1 2 29 4 1 2 11 3 3 2 15 3 2 2 4 3 1 2 1 3 2 2 3 3 2 2 6 3 38 0 11 4 25 0 33 3 9 4",
    "9 0 1 4 24 0 4 4 1 0 9 4 1 0 3 4 1 0 7 4 16 0 1 2 5 3 2 2 1 3 1 2 10 3 1 2 1 3 3 2 5 4",
    "2 0 1 3 1 0 4 3 1 0 1 2 1 3 26 2 3 0 1 3 2 0 5 3 1 2 1 3 7 0 9 4 10 3 3 2 1 0 1 2 2 3",
    "2 2 6 3 1 2 15 3 1 0 24 4 1 0 32 4 55 0 1 4 1 0 1 4 4 0 8 4 4 0 1 4 3 0 7 4 10 0 2 4",
    "29 0 1 4 58 0 1 4 4 0 6 4 6 0 1 4 20 0 4 4 24 0 5 4 57 0 2 4 3 0 24 4 23 0 2 4 3 0 1 4",
    "11 0 2 4 57 0 1 4 4 0 8 4 4 0 3 4 18 0 4 4 20 0 8 4 58 0 1 4 2 0 1 4 1 0 6 4 6 0 10 4",
    "11 0 4 4 28 0 1 4 61 0 1 4 12 0 3 4 48 0 1 4 3 0 1 4 55 0 1 4 1 0 3 4 5 0 18 4 10 0 4 4",
    "27 0 1 4 58 0 1 4 2 0 1 4 6 0 1 4 5 0 9 4 13 0 4 4 26 0 2 4 57 0 2 4 4 0 5 4 7 0 1 4",
    "20 0 4 4 27 0 1 4 72 0 5 4 3 0 6 4 89 0 1 4 2 0 11 4 8 0 8 4 98 0 1 4 2 0 9 4 11 0 8 4",
    "72 0 2 4 27 0 1 4 1 0 1 4 1 0 1 4 55 0 14 4 1 0 5 4 1 0 2 4 5 0 49 4 8 0 1 4 102 0 4 4",
    "1 0 6 4 1 0 2 4 2 0 2 4 25 0 2 4 4 0 3 4 16 0 4 4 13 0 1 4 2 0 2 4 6 0 1 4 15 0 1 4",
    "703 0 3 4 946 0 3 4 29 0 2 4 30 0 14 4 18 0 14 4 52 0 2 4 1 0 7 4 8 0 1 4 2 0 11 4 9 0",
    "3 4 39 0 1 3 3 0 3 4 1 0 1 4 16 0 96 3 5 0 2 4 34 3 1 4 6 3 112 0 3 4 4 0 2 4 9 0 1 4",
    "6 0 7 4 215 0 2 4 2 0 3 4 56 0 1 4 1 0 9 4 1 0 1 4 2 0 8 4 6 0 13 4 48 0 84 4 48 0 1 4",
    "1 0 4 4 49 0 9 4 12 0 2 4 32 0 4 4 2 0 2 4 1 0 3 4 56 0 1 4 1 0 2 4 3 0 1 4 1 0 3 4 58 0",
    "8 4 2 0 5 4 149 0 3 4 1 0 13 4 1 0 7 4 4 0 1 4 6 0 1 4 3 0 2 4 198 0 64 4 523 0 1 4 2 0",
    "2 4 26 0 5 4 49 0 6 4 4 0 6 4 96 0 48 4 3055 0 3 4 141 0 1 4 96 0 32 4 554 0 4 4 107 0",
    "2 4 30164 0 4 4 1 0 10 4 32 0 2 4 80 0 2 4 272 0 1 4 3 0 1 4 4 0 1 4 25 0 2 4 5 0 4 4",
    "16 0 50 3 1 1 81 0 10 4 18 0 18 4 13 0 1 4 38 0 8 4 25 0 11 4 46 0 3 4 48 0 1 4 2 0 4 4",
    "2 0 2 4 39 0 1 4 67 0 6 4 2 0 2 4 2 0 11 4 3 0 1 4 8 0 1 4 47 0 1 4 51 0 1 4 1 0 3 4 2 0",
    "2 4 5 0 2 4 1 0 1 4 42 0 2 4 8 0 11 4 228 0 1 4 2 0 1 4 4 0 3 4 20270 0 1 4 737 0 16 4",
    "16 0 16 4 207 0 2 4 248 0 3 4 513 0 131 4 96 0 1 4 149 0 10 4 1665 0 15 4 40 0 8 4 128 0",
    "5 3 1 2 1 0 1 2 1 0 2 2 2 0 1 1 5 2 4 3 1 1 5 3 1 2 3 3 1 2 2 0 1 2 6 4 4 3 1 2 144 0",
    "1 3 1 2 1 3 3 2 3 3 1 2 2 3 1 2 1 3 2 2 1 3 8 2 16 0 4 2 2 3 337 0 1 1 33 3 1 2 1 3 12 4",
    "57 0 5 4 317 0 2 4 21 0 1 2 2 3 1 0 10 3 9 0 33 3 6 4 48 0 3 3 1 2 17 3 1 0 11 4 3 3 1 2",
    "27 0 4 3 2 2 12 3 4 4 42 0 1 3 1 0 2 3 3 2 1 0 1 3 2 2 2 3 1 2 2 3 1 0 1 3 2 2 1 3 4 0",
    "1 2 1 3 21 1 33 0 1 4 54 0 15 4 41 0 1 4 2 0 2 4 10 0 3 4 49 0 4 4 2 0 2 4 7 0 11 4 51 0",
    "3 4 36 0 5 4 1 0 9 4 61 0 1 4 12 0 2 4 52 0 9 4 10 0 4 4 2 0 1 4 95 0 3 4 2 0 1 4 1 0",
    "2 4 6 0 1 4 2 0 63 4 95 0 1 4 3 0 13 4 16 0 2 4 57 0 2 4 3 0 1 4 37 0 26 4 59 0 7 4 12 0",
    "1 4 1 0 1 4 1 0 1 4 14 0 31 4 56 0 8 4 2 0 3 4 1 0 1 4 23 0 1 4 84 0 6 4 1 0 1 4 4 0 2 4",
    "1 0 2 4 238 0 6 4 4 0 2 4 1 0 2 4 27 0 36 4 51 0 8 4 2 0 1 4 1 0 2 4 106 0 1 4 1 0 1 4",
    "2 0 6 4 1 0 1 4 101 0 1 4 1 0 1 4 2 0 4 4 1 0 9 4 255 0 9 4 1 0 2 4 256 0 2 4 1 0 1 4",
    "4 0 1 4 144 0 8 4 4 0 1 4 32 0 10 4 40 0 6 4 2 0 4 4 8 0 9 4 1 0 6 4 2 0 3 4 46 0 13 4",
    "1 0 2 4 198 0 1 4 1 0 3 4 1 0 1 4 201 0 14 4 1 0 1 4 82 0 23 4 1 0 7 4 1 0 2 4 1 0 75 4",
    "49 0 21 4 1 0 9 4 64 0 3 4 2 0 1 4 1 0 1 4 347 0 2 4 11 0 2 4 52 0 8 4 2 0 1 4 1 0 1 4",
    "23 0 86 4 5248 0 17 4 6 0 25 4 11454 0 12 4 3 0 3 4 2496 0 5 4 59 0 7 4 1048 0 1 4 63 0",
    "4 4 81 0 12 4 19629 0 2 4 1 0 3936 4 768 0 80 4 535 0 3 4 9 0 16 4 2 0 7 4 30 0 4 4",
    "148 0 3 4 1979 0 55 4 4 0 50 4 8 0 1 4 14 0 1 4 22 0 1125 4 256 0 48 4 95 0 113 4 48 0",
    "7 4 375 0 18 4 44 0 4 4 508 0 4 4 254 0 2 4 243 0 1 4 2 0 1 4 7 0 2 4 5 0 9 4 466 0 48 4",
    "68 3 12 4 792241 0 196607 4"]

end SourceIndex.Host.Domain
