import DemurrageToken.Text.Basic
/-!
Canonical decompositions, as of Unicode 14. A character with a decomposition stands for one other
character or for two. The syllables of Hangul, whose decompositions follow from their numbers, are
not in the tables.
-/
namespace DemurrageToken.CodePoint

/-- Runs of characters that stand for one other character each: the first of them, and the others
in the same order. -/
def singleDecompositions : List (Nat × String) :=
  [(0x340, "\u0300\u0301"), (0x343, "\u0313"), (0x374, "ʹ"), (0x37E, ";"), (0x387, "·"),
    (0x1F71, "ά"), (0x1F73, "έ"), (0x1F75, "ή"), (0x1F77, "ί"), (0x1F79, "ό"), (0x1F7B, "ύ"),
    (0x1F7D, "ώ"), (0x1FBB, "Ά"), (0x1FBE, "ι"), (0x1FC9, "Έ"), (0x1FCB, "Ή"), (0x1FD3, "ΐ"),
    (0x1FDB, "Ί"), (0x1FE3, "ΰ"), (0x1FEB, "Ύ"), (0x1FEE, "΅`"), (0x1FF9, "Ό"), (0x1FFB, "Ώ"),
    (0x1FFD, "´"), (0x2000, "\u2002\u2003"), (0x2126, "Ω"), (0x212A, "KÅ"), (0x2329, "〈〉"),
    (0xF900,
      "豈更車賈滑串句龜龜契金喇奈懶癩羅蘿螺裸邏樂洛烙珞落酪駱亂卵欄爛蘭鸞嵐濫藍襤拉臘蠟廊朗浪狼郎來冷勞擄櫓爐盧老蘆虜路露魯鷺碌祿綠菉錄鹿論壟弄籠聾牢磊賂雷壘屢樓淚漏累縷陋勒肋凜" ++
      "凌稜綾菱陵讀拏樂諾丹寧怒率異北磻便復不泌數索參塞省葉說殺辰沈拾若掠略亮兩凉梁糧良諒量勵呂女廬旅濾礪閭驪麗黎力曆歷轢年憐戀撚漣煉璉秊練聯輦蓮連鍊列劣咽烈裂說廉念捻殮簾獵令囹" ++
      "寧嶺怜玲瑩羚聆鈴零靈領例禮醴隸惡了僚寮尿料樂燎療蓼遼龍暈阮劉杻柳流溜琉留硫紐類六戮陸倫崙淪輪律慄栗率隆利吏履易李梨泥理痢罹裏裡里離匿溺吝燐璘藺隣鱗麟林淋臨立笠粒狀炙識什茶" ++
      "刺切度拓糖宅洞暴輻行降見廓兀嗀"),
    (0xFA10, "塚"), (0xFA12, "晴"), (0xFA15, "凞猪益礼神祥福靖精羽"), (0xFA20, "蘒"), (0xFA22, "諸"),
    (0xFA25, "逸都"),
    (0xFA2A, "飯飼館鶴郞隷侮僧免勉勤卑喝嘆器塀墨層屮悔慨憎懲敏既暑梅海渚漢煮爫琢碑社祉祈祐祖祝禍禎穀突節練縉繁署者臭艹艹著褐視謁謹賓贈辶逸難響頻恵𤋮舘"),
    (0xFA70,
      "並况全侀充冀勇勺喝啕喙嗢塚墳奄奔婢嬨廒廙彩徭惘慎愈憎慠懲戴揄搜摒敖晴朗望杖歹殺流滛滋漢瀞煮瞧爵犯猪瑱甆画瘝瘟益盛直睊着磌窱節类絛練缾者荒華蝹襁覆視調諸請謁諾諭謹變贈輸遲醙" ++
      "鉶陼難靖韛響頋頻鬒龜𢡊𢡄𣏕㮝䀘䀹𥉉𥳐𧻓齃龎"),
    (0x2F800,
      "丽丸乁𠄢你侮侻倂偺備僧像㒞𠘺免兔兤具𠔜㒹內再𠕋冗冤仌冬况𩇟凵刃㓟刻剆割剷㔕勇勉勤勺包匆北卉卑博即卽卿卿卿𠨬灰及叟𠭣叫叱吆咞吸呈周咢哶唐啓啣善善喙喫喳嗂圖嘆圗噑噴切壮城埴堍" ++
      "型堲報墬𡓤売壷夆多夢奢𡚨𡛪姬娛娧姘婦㛮㛼嬈嬾嬾𡧈寃寘寧寳𡬘寿将当尢㞁屠屮峀岍𡷤嵃𡷦嵮嵫嵼巡巢㠯巽帨帽幩㡢𢆃㡼庰庳庶廊𪎒廾𢌱𢌱舁弢弢㣇𣊸𦇚形彫㣣徚忍志忹悁㤺㤜悔𢛔惇慈慌慎慌" ++
      "慺憎憲憤憯懞懲懶成戛扝抱拔捐𢬌挽拼捨掃揤𢯱搢揅掩㨮摩摾撝摷㩬敏敬𣀊旣書晉㬙暑㬈㫤冒冕最暜肭䏙朗望朡杞杓𣏃㭉柺枅桒梅𣑭梎栟椔㮝楂榣槪檨𣚣櫛㰘次𣢧歔㱎歲殟殺殻𣪍𡴋𣫺汎𣲼沿泍汧" ++
      "洖派海流浩浸涅𣴞洴港湮㴳滋滇𣻑淹潮𣽞𣾎濆瀹瀞瀛㶖灊災灷炭𠔥煅𤉣熜𤎫爨爵牐𤘈犀犕𤜵𤠔獺王㺬玥㺸㺸瑇瑜瑱璅瓊㼛甤𤰶甾𤲒異𢆟瘐𤾡𤾸𥁄㿼䀈直𥃳𥃲𥄙𥄳眞真真睊䀹瞋䁆䂖𥐝硎碌磌䃣𥘦祖" ++
      "𥚚𥛅福秫䄯穀穊穏𥥼𥪧𥪧竮䈂𥮫篆築䈧𥲀糒䊠糨糣紀𥾆絣䌁緇縂繅䌴𦈨𦉇䍙𦋙罺𦌾羕翺者𦓚𦔣聠𦖨聰𣍟䏕育脃䐋脾媵𦞧𦞵𣎓𣎜舁舄辞䑫芑芋芝劳花芳芽苦𦬼若茝荣莭茣莽菧著荓菊菌菜𦰶𦵫𦳕䔫蓱" ++
      "蓳蔖𧏊蕤𦼬䕝䕡𦾱𧃒䕫虐虜虧虩蚩蚈蜎蛢蝹蜨蝫螆䗗蟡蠁䗹衠衣𧙧裗裞䘵裺㒻𧢮𧥦䚾䛇誠諭變豕𧲨貫賁贛起𧼯𠠄跋趼跰𠣞軔輸𨗒𨗭邔郱鄑𨜮鄛鈸鋗鋘鉼鏹鐕𨯺開䦕閷𨵷䧦雃嶲霣𩅅𩈚䩮䩶韠𩐊䪲𩒖" ++
      "頋頋頩𩖶飢䬳餩馧駂駾䯎𩬰鬒鱀鳽䳎䳭鵧𪃎䳸𪄅𪈎𪊑麻䵖黹黾鼅鼏鼖鼻𪘀")]

/-- Runs of characters that stand for two others each: the first of them, and the pairs in the same
order. -/
def pairDecompositions : List (Nat × String) :=
  [(0xC0, "A\u0300A\u0301A\u0302A\u0303A\u0308A\u030a"),
    (0xC7, "C\u0327E\u0300E\u0301E\u0302E\u0308I\u0300I\u0301I\u0302I\u0308"),
    (0xD1, "N\u0303O\u0300O\u0301O\u0302O\u0303O\u0308"),
    (0xD9, "U\u0300U\u0301U\u0302U\u0308Y\u0301"),
    (0xE0, "a\u0300a\u0301a\u0302a\u0303a\u0308a\u030a"),
    (0xE7, "c\u0327e\u0300e\u0301e\u0302e\u0308i\u0300i\u0301i\u0302i\u0308"),
    (0xF1, "n\u0303o\u0300o\u0301o\u0302o\u0303o\u0308"),
    (0xF9, "u\u0300u\u0301u\u0302u\u0308y\u0301"),
    (0xFF, "y\u0308A\u0304a\u0304A\u0306a\u0306A\u0328a\u0328C\u0301c\u0301C\u0302c\u0302C\u0307" ++
      "c\u0307C\u030cc\u030cD\u030cd\u030c"),
    (0x112,
      "E\u0304e\u0304E\u0306e\u0306E\u0307e\u0307E\u0328e\u0328E\u030ce\u030cG\u0302g\u0302" ++
      "G\u0306g\u0306G\u0307g\u0307G\u0327g\u0327H\u0302h\u0302"),
    (0x128, "I\u0303i\u0303I\u0304i\u0304I\u0306i\u0306I\u0328i\u0328I\u0307"),
    (0x134, "J\u0302j\u0302K\u0327k\u0327"),
    (0x139, "L\u0301l\u0301L\u0327l\u0327L\u030cl\u030c"),
    (0x143, "N\u0301n\u0301N\u0327n\u0327N\u030cn\u030c"),
    (0x14C, "O\u0304o\u0304O\u0306o\u0306O\u030bo\u030b"),
    (0x154,
      "R\u0301r\u0301R\u0327r\u0327R\u030cr\u030cS\u0301s\u0301S\u0302s\u0302S\u0327s\u0327" ++
      "S\u030cs\u030cT\u0327t\u0327T\u030ct\u030c"),
    (0x168,
      "U\u0303u\u0303U\u0304u\u0304U\u0306u\u0306U\u030au\u030aU\u030bu\u030bU\u0328u\u0328" ++
      "W\u0302w\u0302Y\u0302y\u0302Y\u0308Z\u0301z\u0301Z\u0307z\u0307Z\u030cz\u030c"),
    (0x1A0, "O\u031bo\u031b"), (0x1AF, "U\u031bu\u031b"),
    (0x1CD,
      "A\u030ca\u030cI\u030ci\u030cO\u030co\u030cU\u030cu\u030cÜ\u0304ü\u0304Ü\u0301ü\u0301" ++
      "Ü\u030cü\u030cÜ\u0300ü\u0300"),
    (0x1DE, "Ä\u0304ä\u0304Ȧ\u0304ȧ\u0304Æ\u0304æ\u0304"),
    (0x1E6, "G\u030cg\u030cK\u030ck\u030cO\u0328o\u0328Ǫ\u0304ǫ\u0304Ʒ\u030cʒ\u030cj\u030c"),
    (0x1F4, "G\u0301g\u0301"),
    (0x1F8,
      "N\u0300n\u0300Å\u0301å\u0301Æ\u0301æ\u0301Ø\u0301ø\u0301A\u030fa\u030fA\u0311a\u0311" ++
      "E\u030fe\u030fE\u0311e\u0311I\u030fi\u030fI\u0311i\u0311O\u030fo\u030fO\u0311o\u0311" ++
      "R\u030fr\u030fR\u0311r\u0311U\u030fu\u030fU\u0311u\u0311S\u0326s\u0326T\u0326t\u0326"),
    (0x21E, "H\u030ch\u030c"),
    (0x226,
      "A\u0307a\u0307E\u0327e\u0327Ö\u0304ö\u0304Õ\u0304õ\u0304O\u0307o\u0307Ȯ\u0304ȯ\u0304" ++
      "Y\u0304y\u0304"),
    (0x344, "\u0308\u0301"), (0x385, "¨\u0301Α\u0301"), (0x388, "Ε\u0301Η\u0301Ι\u0301"),
    (0x38C, "Ο\u0301"), (0x38E, "Υ\u0301Ω\u0301ϊ\u0301"),
    (0x3AA, "Ι\u0308Υ\u0308α\u0301ε\u0301η\u0301ι\u0301ϋ\u0301"),
    (0x3CA, "ι\u0308υ\u0308ο\u0301υ\u0301ω\u0301"), (0x3D3, "ϒ\u0301ϒ\u0308"),
    (0x400, "Е\u0300Е\u0308"), (0x403, "Г\u0301"), (0x407, "І\u0308"),
    (0x40C, "К\u0301И\u0300У\u0306"), (0x419, "И\u0306"), (0x439, "и\u0306"),
    (0x450, "е\u0300е\u0308"), (0x453, "г\u0301"), (0x457, "і\u0308"),
    (0x45C, "к\u0301и\u0300у\u0306"), (0x476, "Ѵ\u030fѵ\u030f"), (0x4C1, "Ж\u0306ж\u0306"),
    (0x4D0, "А\u0306а\u0306А\u0308а\u0308"), (0x4D6, "Е\u0306е\u0306"),
    (0x4DA, "Ә\u0308ә\u0308Ж\u0308ж\u0308З\u0308з\u0308"),
    (0x4E2, "И\u0304и\u0304И\u0308и\u0308О\u0308о\u0308"),
    (0x4EA, "Ө\u0308ө\u0308Э\u0308э\u0308У\u0304у\u0304У\u0308у\u0308У\u030bу\u030bЧ\u0308ч\u0308"),
    (0x4F8, "Ы\u0308ы\u0308"),
    (0x622, "\u0627\u0653\u0627\u0654\u0648\u0654\u0627\u0655\u064a\u0654"),
    (0x6C0, "\u06d5\u0654"), (0x6C2, "\u06c1\u0654"), (0x6D3, "\u06d2\u0654"), (0x929, "न\u093c"),
    (0x931, "र\u093c"), (0x934, "ळ\u093c"),
    (0x958, "क\u093cख\u093cग\u093cज\u093cड\u093cढ\u093cफ\u093cय\u093c"),
    (0x9CB, "\u09c7\u09be\u09c7\u09d7"), (0x9DC, "ড\u09bcঢ\u09bc"), (0x9DF, "য\u09bc"),
    (0xA33, "ਲ\u0a3c"), (0xA36, "ਸ\u0a3c"), (0xA59, "ਖ\u0a3cਗ\u0a3cਜ\u0a3c"), (0xA5E, "ਫ\u0a3c"),
    (0xB48, "\u0b47\u0b56"), (0xB4B, "\u0b47\u0b3e\u0b47\u0b57"), (0xB5C, "ଡ\u0b3cଢ\u0b3c"),
    (0xB94, "ஒ\u0bd7"), (0xBCA, "\u0bc6\u0bbe\u0bc7\u0bbe\u0bc6\u0bd7"), (0xC48, "\u0c46\u0c56"),
    (0xCC0, "\u0cbf\u0cd5"), (0xCC7, "\u0cc6\u0cd5\u0cc6\u0cd6"),
    (0xCCA, "\u0cc6\u0cc2\u0cca\u0cd5"), (0xD4A, "\u0d46\u0d3e\u0d47\u0d3e\u0d46\u0d57"),
    (0xDDA, "\u0dd9\u0dca"), (0xDDC, "\u0dd9\u0dcf\u0ddc\u0dca\u0dd9\u0ddf"), (0xF43, "ག\u0fb7"),
    (0xF4D, "ཌ\u0fb7"), (0xF52, "ད\u0fb7"), (0xF57, "བ\u0fb7"), (0xF5C, "ཛ\u0fb7"),
    (0xF69, "ཀ\u0fb5"), (0xF73, "\u0f71\u0f72"), (0xF75, "\u0f71\u0f74\u0fb2\u0f80"),
    (0xF78, "\u0fb3\u0f80"), (0xF81, "\u0f71\u0f80"), (0xF93, "\u0f92\u0fb7"),
    (0xF9D, "\u0f9c\u0fb7"), (0xFA2, "\u0fa1\u0fb7"), (0xFA7, "\u0fa6\u0fb7"),
    (0xFAC, "\u0fab\u0fb7"), (0xFB9, "\u0f90\u0fb5"), (0x1026, "ဥ\u102e"), (0x1B06, "ᬅ\u1b35"),
    (0x1B08, "ᬇ\u1b35"), (0x1B0A, "ᬉ\u1b35"), (0x1B0C, "ᬋ\u1b35"), (0x1B0E, "ᬍ\u1b35"),
    (0x1B12, "ᬑ\u1b35"), (0x1B3B, "\u1b3a\u1b35"), (0x1B3D, "\u1b3c\u1b35"),
    (0x1B40, "\u1b3e\u1b35\u1b3f\u1b35"), (0x1B43, "\u1b42\u1b35"),
    (0x1E00,
      "A\u0325a\u0325B\u0307b\u0307B\u0323b\u0323B\u0331b\u0331Ç\u0301ç\u0301D\u0307d\u0307" ++
      "D\u0323d\u0323D\u0331d\u0331D\u0327d\u0327D\u032dd\u032dĒ\u0300ē\u0300Ē\u0301ē\u0301" ++
      "E\u032de\u032dE\u0330e\u0330Ȩ\u0306ȩ\u0306F\u0307f\u0307G\u0304g\u0304H\u0307h\u0307" ++
      "H\u0323h\u0323H\u0308h\u0308H\u0327h\u0327H\u032eh\u032eI\u0330i\u0330Ï\u0301ï\u0301" ++
      "K\u0301k\u0301K\u0323k\u0323K\u0331k\u0331L\u0323l\u0323Ḷ\u0304ḷ\u0304L\u0331l\u0331" ++
      "L\u032dl\u032dM\u0301m\u0301M\u0307m\u0307M\u0323m\u0323N\u0307n\u0307N\u0323n\u0323" ++
      "N\u0331n\u0331N\u032dn\u032dÕ\u0301õ\u0301Õ\u0308õ\u0308Ō\u0300ō\u0300Ō\u0301ō\u0301" ++
      "P\u0301p\u0301P\u0307p\u0307R\u0307r\u0307R\u0323r\u0323Ṛ\u0304ṛ\u0304R\u0331r\u0331" ++
      "S\u0307s\u0307S\u0323s\u0323Ś\u0307ś\u0307Š\u0307š\u0307Ṣ\u0307ṣ\u0307T\u0307t\u0307" ++
      "T\u0323t\u0323T\u0331t\u0331T\u032dt\u032dU\u0324u\u0324U\u0330u\u0330U\u032du\u032d" ++
      "Ũ\u0301ũ\u0301Ū\u0308ū\u0308V\u0303v\u0303V\u0323v\u0323W\u0300w\u0300W\u0301w\u0301" ++
      "W\u0308w\u0308W\u0307w\u0307W\u0323w\u0323X\u0307x\u0307X\u0308x\u0308Y\u0307y\u0307" ++
      "Z\u0302z\u0302Z\u0323z\u0323Z\u0331z\u0331h\u0331t\u0308w\u030ay\u030a"),
    (0x1E9B, "ſ\u0307"),
    (0x1EA0,
      "A\u0323a\u0323A\u0309a\u0309Â\u0301â\u0301Â\u0300â\u0300Â\u0309â\u0309Â\u0303â\u0303" ++
      "Ạ\u0302ạ\u0302Ă\u0301ă\u0301Ă\u0300ă\u0300Ă\u0309ă\u0309Ă\u0303ă\u0303Ạ\u0306ạ\u0306" ++
      "E\u0323e\u0323E\u0309e\u0309E\u0303e\u0303Ê\u0301ê\u0301Ê\u0300ê\u0300Ê\u0309ê\u0309" ++
      "Ê\u0303ê\u0303Ẹ\u0302ẹ\u0302I\u0309i\u0309I\u0323i\u0323O\u0323o\u0323O\u0309o\u0309" ++
      "Ô\u0301ô\u0301Ô\u0300ô\u0300Ô\u0309ô\u0309Ô\u0303ô\u0303Ọ\u0302ọ\u0302Ơ\u0301ơ\u0301" ++
      "Ơ\u0300ơ\u0300Ơ\u0309ơ\u0309Ơ\u0303ơ\u0303Ơ\u0323ơ\u0323U\u0323u\u0323U\u0309u\u0309" ++
      "Ư\u0301ư\u0301Ư\u0300ư\u0300Ư\u0309ư\u0309Ư\u0303ư\u0303Ư\u0323ư\u0323Y\u0300y\u0300" ++
      "Y\u0323y\u0323Y\u0309y\u0309Y\u0303y\u0303"),
    (0x1F00,
      "α\u0313α\u0314ἀ\u0300ἁ\u0300ἀ\u0301ἁ\u0301ἀ\u0342ἁ\u0342Α\u0313Α\u0314Ἀ\u0300Ἁ\u0300" ++
      "Ἀ\u0301Ἁ\u0301Ἀ\u0342Ἁ\u0342ε\u0313ε\u0314ἐ\u0300ἑ\u0300ἐ\u0301ἑ\u0301"),
    (0x1F18, "Ε\u0313Ε\u0314Ἐ\u0300Ἑ\u0300Ἐ\u0301Ἑ\u0301"),
    (0x1F20,
      "η\u0313η\u0314ἠ\u0300ἡ\u0300ἠ\u0301ἡ\u0301ἠ\u0342ἡ\u0342Η\u0313Η\u0314Ἠ\u0300Ἡ\u0300" ++
      "Ἠ\u0301Ἡ\u0301Ἠ\u0342Ἡ\u0342ι\u0313ι\u0314ἰ\u0300ἱ\u0300ἰ\u0301ἱ\u0301ἰ\u0342ἱ\u0342" ++
      "Ι\u0313Ι\u0314Ἰ\u0300Ἱ\u0300Ἰ\u0301Ἱ\u0301Ἰ\u0342Ἱ\u0342ο\u0313ο\u0314ὀ\u0300ὁ\u0300" ++
      "ὀ\u0301ὁ\u0301"),
    (0x1F48, "Ο\u0313Ο\u0314Ὀ\u0300Ὁ\u0300Ὀ\u0301Ὁ\u0301"),
    (0x1F50, "υ\u0313υ\u0314ὐ\u0300ὑ\u0300ὐ\u0301ὑ\u0301ὐ\u0342ὑ\u0342"), (0x1F59, "Υ\u0314"),
    (0x1F5B, "Ὑ\u0300"), (0x1F5D, "Ὑ\u0301"),
    (0x1F5F,
      "Ὑ\u0342ω\u0313ω\u0314ὠ\u0300ὡ\u0300ὠ\u0301ὡ\u0301ὠ\u0342ὡ\u0342Ω\u0313Ω\u0314Ὠ\u0300" ++
      "Ὡ\u0300Ὠ\u0301Ὡ\u0301Ὠ\u0342Ὡ\u0342α\u0300"),
    (0x1F72, "ε\u0300"), (0x1F74, "η\u0300"), (0x1F76, "ι\u0300"), (0x1F78, "ο\u0300"),
    (0x1F7A, "υ\u0300"), (0x1F7C, "ω\u0300"),
    (0x1F80,
      "ἀ\u0345ἁ\u0345ἂ\u0345ἃ\u0345ἄ\u0345ἅ\u0345ἆ\u0345ἇ\u0345Ἀ\u0345Ἁ\u0345Ἂ\u0345Ἃ\u0345" ++
      "Ἄ\u0345Ἅ\u0345Ἆ\u0345Ἇ\u0345ἠ\u0345ἡ\u0345ἢ\u0345ἣ\u0345ἤ\u0345ἥ\u0345ἦ\u0345ἧ\u0345" ++
      "Ἠ\u0345Ἡ\u0345Ἢ\u0345Ἣ\u0345Ἤ\u0345Ἥ\u0345Ἦ\u0345Ἧ\u0345ὠ\u0345ὡ\u0345ὢ\u0345ὣ\u0345" ++
      "ὤ\u0345ὥ\u0345ὦ\u0345ὧ\u0345Ὠ\u0345Ὡ\u0345Ὢ\u0345Ὣ\u0345Ὤ\u0345Ὥ\u0345Ὦ\u0345Ὧ\u0345" ++
      "α\u0306α\u0304ὰ\u0345α\u0345ά\u0345"),
    (0x1FB6, "α\u0342ᾶ\u0345Α\u0306Α\u0304Α\u0300"), (0x1FBC, "Α\u0345"),
    (0x1FC1, "¨\u0342ὴ\u0345η\u0345ή\u0345"), (0x1FC6, "η\u0342ῆ\u0345Ε\u0300"),
    (0x1FCA, "Η\u0300"), (0x1FCC, "Η\u0345᾿\u0300᾿\u0301᾿\u0342ι\u0306ι\u0304ϊ\u0300"),
    (0x1FD6, "ι\u0342ϊ\u0342Ι\u0306Ι\u0304Ι\u0300"),
    (0x1FDD, "῾\u0300῾\u0301῾\u0342υ\u0306υ\u0304ϋ\u0300"),
    (0x1FE4, "ρ\u0313ρ\u0314υ\u0342ϋ\u0342Υ\u0306Υ\u0304Υ\u0300"), (0x1FEC, "Ρ\u0314¨\u0300"),
    (0x1FF2, "ὼ\u0345ω\u0345ώ\u0345"), (0x1FF6, "ω\u0342ῶ\u0345Ο\u0300"), (0x1FFA, "Ω\u0300"),
    (0x1FFC, "Ω\u0345"), (0x219A, "←\u0338→\u0338"), (0x21AE, "↔\u0338"),
    (0x21CD, "⇐\u0338⇔\u0338⇒\u0338"), (0x2204, "∃\u0338"), (0x2209, "∈\u0338"),
    (0x220C, "∋\u0338"), (0x2224, "∣\u0338"), (0x2226, "∥\u0338"), (0x2241, "∼\u0338"),
    (0x2244, "≃\u0338"), (0x2247, "≅\u0338"), (0x2249, "≈\u0338"), (0x2260, "=\u0338"),
    (0x2262, "≡\u0338"), (0x226D, "≍\u0338<\u0338>\u0338≤\u0338≥\u0338"),
    (0x2274, "≲\u0338≳\u0338"), (0x2278, "≶\u0338≷\u0338"), (0x2280, "≺\u0338≻\u0338"),
    (0x2284, "⊂\u0338⊃\u0338"), (0x2288, "⊆\u0338⊇\u0338"),
    (0x22AC, "⊢\u0338⊨\u0338⊩\u0338⊫\u0338"), (0x22E0, "≼\u0338≽\u0338⊑\u0338⊒\u0338"),
    (0x22EA, "⊲\u0338⊳\u0338⊴\u0338⊵\u0338"), (0x2ADC, "⫝\u0338"), (0x304C, "か\u3099"),
    (0x304E, "き\u3099"), (0x3050, "く\u3099"), (0x3052, "け\u3099"), (0x3054, "こ\u3099"),
    (0x3056, "さ\u3099"), (0x3058, "し\u3099"), (0x305A, "す\u3099"), (0x305C, "せ\u3099"),
    (0x305E, "そ\u3099"), (0x3060, "た\u3099"), (0x3062, "ち\u3099"), (0x3065, "つ\u3099"),
    (0x3067, "て\u3099"), (0x3069, "と\u3099"), (0x3070, "は\u3099は\u309a"),
    (0x3073, "ひ\u3099ひ\u309a"), (0x3076, "ふ\u3099ふ\u309a"), (0x3079, "へ\u3099へ\u309a"),
    (0x307C, "ほ\u3099ほ\u309a"), (0x3094, "う\u3099"), (0x309E, "ゝ\u3099"), (0x30AC, "カ\u3099"),
    (0x30AE, "キ\u3099"), (0x30B0, "ク\u3099"), (0x30B2, "ケ\u3099"), (0x30B4, "コ\u3099"),
    (0x30B6, "サ\u3099"), (0x30B8, "シ\u3099"), (0x30BA, "ス\u3099"), (0x30BC, "セ\u3099"),
    (0x30BE, "ソ\u3099"), (0x30C0, "タ\u3099"), (0x30C2, "チ\u3099"), (0x30C5, "ツ\u3099"),
    (0x30C7, "テ\u3099"), (0x30C9, "ト\u3099"), (0x30D0, "ハ\u3099ハ\u309a"),
    (0x30D3, "ヒ\u3099ヒ\u309a"), (0x30D6, "フ\u3099フ\u309a"), (0x30D9, "ヘ\u3099ヘ\u309a"),
    (0x30DC, "ホ\u3099ホ\u309a"), (0x30F4, "ウ\u3099"), (0x30F7, "ワ\u3099ヰ\u3099ヱ\u3099ヲ\u3099"),
    (0x30FE, "ヽ\u3099"), (0xFB1D, "\u05d9\u05b4"), (0xFB1F, "\u05f2\u05b7"),
    (0xFB2A,
      "\u05e9\u05c1\u05e9\u05c2\ufb49\u05c1\ufb49\u05c2\u05d0\u05b7\u05d0\u05b8\u05d0\u05bc" ++
      "\u05d1\u05bc\u05d2\u05bc\u05d3\u05bc\u05d4\u05bc\u05d5\u05bc\u05d6\u05bc"),
    (0xFB38, "\u05d8\u05bc\u05d9\u05bc\u05da\u05bc\u05db\u05bc\u05dc\u05bc"),
    (0xFB3E, "\u05de\u05bc"), (0xFB40, "\u05e0\u05bc\u05e1\u05bc"),
    (0xFB43, "\u05e3\u05bc\u05e4\u05bc"),
    (0xFB46,
      "\u05e6\u05bc\u05e7\u05bc\u05e8\u05bc\u05e9\u05bc\u05ea\u05bc\u05d5\u05b9\u05d1\u05bf" ++
      "\u05db\u05bf\u05e4\u05bf"),
    (0x1109A, "𑂚"), (0x1109C, "𑂜"), (0x110AB, "𑂫"), (0x1112E, "𑄮𑄯"), (0x1134B, "𑍋𑍌"),
    (0x114BB, "𑒻𑒼"), (0x114BE, "𑒾"), (0x115BA, "𑖺𑖻"), (0x11938, "𑤸"),
    (0x1D15E, "𝅗𝅥𝅘𝅥𝅘𝅥𝅮𝅘𝅥𝅯𝅘𝅥𝅰𝅘𝅥𝅱𝅘𝅥𝅲"), (0x1D1BB, "𝆹𝅥𝆺𝅥𝆹𝅥𝅮𝆺𝅥𝅮𝆹𝅥𝅯𝆺𝅥𝅯")]

/-- The characters that stand for a pair but are never made from it, as closed ranges, ascending and
apart. -/
def uncomposedRanges : List (Nat × Nat) :=
  [(0x344, 0x344), (0x958, 0x95F), (0x9DC, 0x9DD), (0x9DF, 0x9DF), (0xA33, 0xA33), (0xA36, 0xA36),
    (0xA59, 0xA5B), (0xA5E, 0xA5E), (0xB5C, 0xB5D), (0xF43, 0xF43), (0xF4D, 0xF4D),
    (0xF52, 0xF52), (0xF57, 0xF57), (0xF5C, 0xF5C), (0xF69, 0xF69), (0xF73, 0xF73),
    (0xF75, 0xF76), (0xF78, 0xF78), (0xF81, 0xF81), (0xF93, 0xF93), (0xF9D, 0xF9D),
    (0xFA2, 0xFA2), (0xFA7, 0xFA7), (0xFAC, 0xFAC), (0xFB9, 0xFB9), (0x2ADC, 0x2ADC),
    (0xFB1D, 0xFB1D), (0xFB1F, 0xFB1F), (0xFB2A, 0xFB36), (0xFB38, 0xFB3C), (0xFB3E, 0xFB3E),
    (0xFB40, 0xFB41), (0xFB43, 0xFB44), (0xFB46, 0xFB4E), (0x1D15E, 0x1D164), (0x1D1BB, 0x1D1C0)]

end DemurrageToken.CodePoint
