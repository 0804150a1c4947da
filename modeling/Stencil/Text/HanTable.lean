/-!
# Readings of Chinese characters

The Mandarin reading of every character of the basic range, in Latin letters without marks of tone.
-/

namespace Stencil.Text

/-- Readings with the characters that have them. -/
def hanReadings : List (String × String) :=
  [
    ("a", "呵啊嗄锕阿"),
    ("ai",
      "伌僾叆哀哎唉啀嗌嗳嘊噯埃塧壒娭娾嫒嬡愛懓懝挨捱敱敳昹暧曖欸毐溰溾濭爱瑷璦癌皑皚皧瞹矮砹硋碍礙艾蔼" ++
      "薆藹譪譺躷銰鎄鑀锿閡隘霭靄靉餲馤騃鱫鴱"),
    ("an",
      "侒俺儑唵啽垵埯堓婩媕安岸峖庵按揞晻暗案桉氨洝犴玵痷盦盫罯胺腤荌菴萻葊蓭誝諳谙豻銨錌铵闇隌雸鞌鞍韽" ++
      "馣鮟鵪鶕鹌黯"),
    ("ang", "卬岇昂昻枊盎肮醠骯"),
    ("ao",
      "傲凹厫嗷嗸坳垇墺奡奥奧媪媼嫯岙岰嶅嶴廒慠懊扷抝拗摮擙敖柪梎滶澳熬爊獒獓璈磝翱翶翺聱芺蔜螯袄襖謷謸" ++
      "軪遨鏊鏖镺隞隩驁骜鰲鳌鷔鼇"),
    ("ba",
      "仈八叐叭吧哵坝坺垻墢壩夿妭岜峇巴巼弝扒把抜拔捌朳柭欛灞炦爸犮玐疤癹矲笆粑紦罢罷羓耙胈芭茇菝蚆覇詙" ++
      "豝跁跋軷釛釟鈀钯霸靶颰魃魞鮊鲃鲅鲌鼥"),
    ("bai", "佰庍拜拝挀捭掰摆擘擺敗柏栢猈瓸白百稗竡粨粺絔薭蛽襬贁败韛"),
    ("ban", "伴办半坂坢姅岅怑扮扳拌搬攽斑斒昄板柈湴版班瓣瓪瘢癍秚粄絆绊舨般蝂螁螌褩辦辬鈑鉡钣闆阪靽頒颁魬鳻"),
    ("bang", "傍垹塝帮幇幚幫捠搒梆棒棓榜浜牓玤磅稖綁縍绑膀艕蒡蚌蜯謗谤邦邫鎊镑鞤髈"),
    ("bao",
      "佨保儤勹勽包堡堢報媬嫑孢宝宲寚寳寶忁怉报抱暴曓枹煲爆珤窇笣緥胞苞菢葆蕔薄藵虣蚫袌褒褓襃豹賲趵鉋鑤" ++
      "铇闁雹靌靤飽饱駂骲髱鮑鲍鳵鴇鸔鸨齙龅"),
    ("bei",
      "俻倍偝偹備僃北卑呗唄备孛悖悲惫愂憊揹昁杯桮梖椑焙牬犕狈狽珼琲盃碑碚禆禙糒背苝蓓藣被褙誖貝贝軰輩辈" ++
      "邶郥鄁鉳鋇錃鐾钡陂鞁鞴骳鵯鹎"),
    ("ben", "倴坋坌奔奙捹撪本栟桳楍泍渀犇獖畚笨翉苯贲輽逩錛锛"),
    ("beng", "伻傰嘣埄埲塴奟崩嵭揼泵琣琫甏甭痭祊絣綳繃绷菶蠯蹦迸逬鏰镚閍鞛"),
    ("bi",
      "佊佖俾偪匂匕吡哔啚嗶坒堛壁夶奰妣妼婢嬖嬶屄币幣幤庇庳廦弊弻弼彃彼必怭怶愊愎敝斃朼枈柀柲梐楅比毕毖" ++
      "毙毴沘湢滗滭潷濞煏熚狴獘獙珌璧畀畢疕疪痹痺皕睤碧秕笓笔筆筚箄箅箆篦篳粃粊綼縪繴罼聛腷臂舭苾荜荸萆" ++
      "萞蓖蓽蔽薜蜌螕袐裨襅襞襣觱詖诐豍貏貱賁贔赑跸蹕躃躄逼避邲鄙鄨鄪鉍鎞鏎鐴铋閇閉閟闭陛鞸韠飶饆馝駜驆" ++
      "髀髲魓鮅鰏鲾鵖鷝鷩鼊鼻"),
    ("bian",
      "便匥匾卞变変峅弁徧忭惼扁抃揙昪汳汴炞煸牑猵玣甂砭碥稨窆笾箯籩糄編緶缏编艑苄萹藊蝙褊覍變貶贬辡辧辨" ++
      "辩辫辮辯边辺遍邉邊釆鍽閞鞭鯾鯿鳊鴘"),
    ("biao",
      "俵儦墂婊幖彪摽杓标標檦淲滮瀌灬熛爂猋瘭磦穮脿膘臕蔈藨表裱褾諘謤贆錶鏢鑣镖镳颩颮颷飆飇飈飊飑飙飚驃" ++
      "驫骉骠髟鰾鳔"),
    ("bie", "別别咇彆徶憋瘪癟莂虌蛂蟞襒蹩鱉鳖鼈龞"),
    ("bin", "傧儐宾彬摈擯斌梹椕槟檳殡殯氞汃滨濒濱濵瀕玢瑸璸砏繽缤膑臏虨豩豳賓賔邠鑌镔霦顮髌髕髩鬂鬓鬢"),
    ("bing",
      "丙並仌仒併倂偋傡兵冫冰垪寎并幷庰怲抦掤摒昞昺柄栤棅氷炳病眪禀秉稟窉竝苪蛃誁邴鈵鉼鋲陃靐鞆鞞餅餠饼" ++
      "鮩"),
    ("bo",
      "亳仢伯侼僠僰剝剥勃博卜哱啵嚗孹嶓帗帛愽懪拨挬搏撥播檗欂波浡渤煿牔犦犻狛猼玻瓝瓟癶癷盋砵碆礡礴秡箔" ++
      "箥簙簸糪紴缽肑胉脖膊舶艊苩菠萡葧蔔蘗袚袯袰袹襏襮譒豰跛踣蹳郣鈸鉑鉢鋍鎛鑮钵钹铂镈餑餺饽馎馛馞駁駮" ++
      "驋驳髆髉鮁鱍鵓鹁"),
    ("bu", "不佈勏卟吥咘哺喸埔埗埠峬布庯怖悑抪捕捗晡柨步歨歩瓿篰簿荹蔀补補誧踄轐逋部郶醭鈽钚钸餔餢鳪鵏"),
    ("ca", "嚓囃擦攃礤遪"),
    ("cai", "倸偲啋埰婇寀彩才採材棌毝溨犲猜睬綵縩纔菜蔡裁財财跴踩采"),
    ("can", "傪儏参參叄叅喰嬠嬱孱惨惭慘慙慚憯掺摻朁残殘湌澯灿燦爘璨穇篸粲薒蚕蝅蠶蠺謲飡餐驂骖黪黲"),
    ("cang", "仓仺伧倉傖嵢欌沧滄濸獊罉舱艙苍蒼藏螥賶鑶鶬鸧"),
    ("cao", "嘈嶆愺懆撡操曹曺槽漕糙肏艚艸艹草蓸螬褿襙鄵鏪騲"),
    ("ce", "侧側冊册厕厠墄廁恻惻憡拺敇测測畟笧策筞筴箣簎粣萗萴蓛"),
    ("cen", "岑嵾梣涔笒"),
    ("ceng", "噌层層嶒曽曾竲蹭驓"),
    ("cha", "侘偛叉嗏垞奼姹察岔嵖差扠挿插揷搽杈查槎檫汊猹疀碴秅紁肞臿艖茬茶衩詧詫诧蹅銟鍤鑔锸镲靫餷馇"),
    ("chai", "侪儕喍囆拆柴瘥祡芆茝虿蠆袃訍豺釵钗齜"),
    ("chan",
      "丳产僝儃儳冁刬剗剷劖啴嘽嚵囅壥婵嬋嵼巉幝幨廛忏懴懺搀摌摲攙斺旵梴棎欃毚浐湹滻潹潺澶瀍瀺灛煘燀獑產" ++
      "産硟磛禅禪簅緾繟纏纒缠羼艬蒇蕆蝉蟬蟾裧襜覘觇誗諂譂讇讒谄谗躔辴辿鄽酁鉆鋋鋓鏟鑱铲镡镵閳闡阐韂顫颤" ++
      "饞馋骣"),
    ("chang",
      "仧伥倀倡偿僘償兏厂厰唱嘗嚐场場塲娼嫦尝常廠徜怅悵惝敞昌昶晿暢椙氅淐焻猖玚琩瑒瑺瓺甞畅畼肠腸膓苌菖" ++
      "萇蟐裮誯鋹鋿錩鏛锠長镸长閶阊韔鬯鯧鱨鲳鲿鼚"),
    ("chao", "仦仯勦吵嘲巐巢巣弨怊抄晁朝樔欩漅潮炒焣焯煼牊眧窲罺耖觘訬謿超轈鄛鈔钞麨鼂鼌"),
    ("che", "伡俥偖勶唓坼屮彻徹扯掣撤撦澈烢爡瞮砗硨硩聅莗蛼車车迠頙"),
    ("chen",
      "儬儭嗔嚫塵墋夦宸尘忱愖抻捵揨敐晨曟榇樄櫬沈沉烥煁琛疢瘎瞋硶碜磣綝縝臣茞莀莐蔯薼螴衬襯訦諃諶謓讖谌" ++
      "谶賝贂趁趂趻踸軙辰迧郴醦鈂鍖陈陳霃鷐麎齓齔龀"),
    ("cheng",
      "丞乗乘侱偁僜呈城埕堘塍塖娍宬峸庱徎悜惩憆憕懲成承挰掁摚撐撑晟朾枨柽棖棦椉橕橙檉檙泟洆浾湞溗澂澄瀓" ++
      "爯牚珵珹琤畻睈瞠碀秤称程稱穪窚竀筬絾緽脀脭荿蛏蟶裎誠诚赪赬逞郕酲鋮鏳鏿铖阷靗頳饓騁騬骋鯎"),
    ("chi",
      "侈侙傺勅勑卶叱叺吃呎哧啻喫嗤噄坻垑墀妛媸尺岻弛彨彲彳恜恥慗憏懘抶持摛敕斥杘欼歭歯池湁漦灻炽烾熾瓻" ++
      "痓痴痸瘈瘛癡眵瞝硳竾笞筂箎篪粎絺翄翅翤翨耻胣胵腟茌荎蚇蚩蚳螭袲袳裭褫訵誺謘貾赤赿趍趩跮踟迟遅遟遫" ++
      "遲鉓鉹銐雴飭饎饬馳驰魑鴟鶒鷘鸱麶黐齒齝齿"),
    ("chong", "充冲嘃埫宠寵崇崈徸忡憃憧揰摏沖浺爞珫緟罿翀舂艟茺虫蝩蟲衝褈蹖銃铳隀"),
    ("chou",
      "丑丒仇侴俦偢儔吜嚋婤嬦帱幬怞惆愁懤抽搊杻杽栦椆殠燽犨犫畴疇瘳皗瞅矁稠筹篘籌紬絒綢绸臭臰菗薵裯讎讐" ++
      "踌躊遚酧酬醜醻雔雠魗"),
    ("chu",
      "亍俶傗储儊儲処出刍初厨嘼埱处媰岀幮廚怵憷拀搐摴敊斶杵柷椘楚楮榋樗橱橻檚櫉櫥欪歜滀滁濋犓珿琡璴畜矗" ++
      "础礎竌竐篨絀绌耡臅芻蒢蒭蓫蕏藸處蜍蟵褚触觸諔豖豠貙趎踀蹰躇躕鄐鉏鋤锄閦除雏雛鶵鸀黜齣齭齼"),
    ("chua", "欻歘"),
    ("chuai", "啜嘬揣搋膗膪踹"),
    ("chuan", "串伝传傳僢剶喘圌巛川暷椽歂氚汌猭玔瑏穿篅舛舡舩船荈賗踳輲遄釧钏鶨"),
    ("chuang", "傸凔刅创刱剏剙創噇幢床怆愴摐摤牀牎牕疮瘡磢窓窗窻闖闯"),
    ("chui", "倕吹垂埀捶搥棰椎槌炊箠腄菙錘鎚锤陲顀龡"),
    ("chun", "偆唇堾媋惷旾春暙杶椿橁櫄浱淳湻滣漘犉瑃睶箺純纯脣膥莼萅萶蒓蓴蝽蠢賰輴醇醕錞陙鯙鰆鶉鶞鹑"),
    ("chuo", "嚽娕娖婼惙戳擉歠涰磭綽繛绰腏趠踔輟辍辵辶逴酫鑡齪龊"),
    ("ci",
      "伺佌佽偨刺刾呲垐堲嬨庛慈朿柌栨次此泚濨玼珁瓷甆疵皉磁礠祠糍紪絘縒茈茦茨莿薋蛓螆蠀詞词賜赐赼趀跐辝" ++
      "辞辤辭雌飺餈骴髊鮆鴜鶿鷀鹚齹"),
    ("cong",
      "丛从匆叢囪囱婃孮従徖從忩怱悤悰慒憁暰枞棇樅樬樷欉淙漎漗潀潨灇焧熜燪爜琮瑽璁瞛篵緫繱聡聦聪聰苁茐葱" ++
      "蓯蔥藂蟌誴謥賨賩鍯鏦騘驄骢"),
    ("cou", "凑湊腠輳辏"),
    ("cu", "促噈徂憱殂猝瘄瘯簇粗縬脨蔟觕誎趗踧蹙蹴蹵酢醋顣麁麄麤鼀"),
    ("cuan", "巑撺攛櫕欑殩汆熶爨穳窜竄篡簒蹿躥鋑鑹镩"),
    ("cui", "乼伜倅催凗啐啛墔崔嶉忰悴慛摧榱槯毳淬漼濢焠獕璀疩瘁皠磪竁粋粹紣綷縗缞翆翠脃脆脺膬膵臎萃襊趡鏙顇"),
    ("cun", "侟刌吋存寸忖拵村澊皴竴籿踆邨"),
    ("cuo", "剉剒厝夎嵯嵳挫措搓撮斮棤歵瑳痤睉矬磋脞莝莡蒫蓌蔖虘蹉躦逪遳酂醝銼錯锉错鹺鹾"),
    ("da",
      "剳匒呾咑哒嗒噠垯墶大妲怛打搭撘汏沓炟燵畗畣瘩眔笚笪答繨羍耷荅荙薘蟽褡詚躂达迖逹達鎉鎝鐽阘靼鞑韃龖" ++
      "龘"),
    ("dai",
      "代傣叇呆呔垈埭岱帒带帯帶廗待怠懛戴曃柋歹殆瀻獃玳瑇甙簤紿緿绐艜袋襶貸贷蹛軑軚軩轪迨逮霴靆骀鮘鴏黛" ++
      "黱"),
    ("dan",
      "丹亶伔但僤儋刐勯匰单単啖啗啿單嘾噉嚪妉媅帎弹弾彈惮憚憺抌担掸撢撣擔旦暺柦殚殫氮沊泹淡澸澹狚玬瓭甔" ++
      "疍疸瘅癉癚眈砃禫窞箪簞紞繵耼耽聃聸胆腅膽萏蓞蛋蜑衴褝襌觛誕诞贉赕躭郸鄲霮頕饏馾駳髧鴠黕黮"),
    ("dang",
      "儅党凼噹圵垱壋婸宕嵣当愓挡擋攩档檔欓氹潒澢灙珰璗璫瓽當盪瞊砀碭礑筜簜簹艡荡菪蕩蘯蟷裆襠譡讜谠趤逿" ++
      "鐺铛闣雼黨"),
    ("dao",
      "倒刀刂到叨噵壔导導屶岛島嶋嶌嶹忉悼捣捯搗擣朷椡槝檤氘焘燾瓙盗盜祷禂禱稲稻箌纛翢翿舠菿衜衟蹈軇道釖" ++
      "陦隝隯魛鱽"),
    ("de", "嘚得徳德恴惪棏淂的脦鍀锝"),
    ("den", "扥扽"),
    ("deng", "凳噔墱嬁嶝戥朩櫈灯燈璒登瞪磴竳等簦艠覴豋蹬邓鄧鐙镫隥"),
    ("di",
      "仾低俤偙僀厎呧唙啇啲嘀嚁地坔坘埊埞堤墑墬奃娣媂嫡嶳帝底廸弟弤彽怟慸抵拞掋摕敌敵旳杕柢梊梑棣樀氐涤" ++
      "渧滌滴焍牴狄玓珶甋眱睇砥碲磾祶禘笛第篴籴糴締缔羝翟聜腣苖茋荻菂菧蒂蔋蔐蔕藡蝃螮袛覿觌觝詆諦诋谛豴" ++
      "趆踶蹢軧迪递逓遞遰邸釱鉪鍉鏑镝阺隄靮鞮頔馰骶髢鬄鯳鸐"),
    ("dia", "嗲"),
    ("dian",
      "佃傎典厧嚸坫垫墊壂奌奠婝婰嵮巅巓巔店惦扂掂攧敁敟椣槇槙橂橝殿淀滇澱点猠玷琔电甸瘨癜癫癲碘簟蒧蕇蜔" ++
      "跕踮蹎钿阽電靛顚顛颠驔點齻"),
    ("diao", "伄凋刁叼吊奝屌弔弴彫扚掉殦汈琱瘹瞗碉窎窵竨簓蓧藋虭蛁訋調调貂釣銱鋽鑃钓铞铫雕雿魡鮉鯛鲷鳭鵰鼦"),
    ("die",
      "叠哋喋垤堞峌嵽幉恎惵戜挕揲昳曡殜氎爹牃牒瓞畳疂疉疊眣眰碟絰绖耊耋胅臷艓苵蜨蝶褋褺詄諜谍趃跌蹀迭镻" ++
      "鰈鲽"),
    ("ding", "丁仃叮啶奵定嵿帄忊椗濎玎疔盯矴碇碠磸耵聢腚萣薡虰蝊訂订酊釘鋌錠鐤钉铤锭靪頂顁顶飣饤鼎鼑"),
    ("diu", "丟丢銩铥"),
    ("dong",
      "东侗倲働冬冻凍动動咚垌埬墥姛娻嬞岽峒崠崬徚恫懂戙挏昸東栋棟氡氭洞涷湩硐笗箽絧胨胴腖苳菄董蕫蝀諌迵" ++
      "霘駧鮗鯟鴤鶇鶫鸫鼕"),
    ("dou", "乧兜兠吺唗唞抖斗斣枓枡梪橷毭浢痘窦竇篼脰艔荳蔸蚪豆逗郖酘鈄閗闘阧陡餖饾鬥鬦鬪鬬鬭"),
    ("du",
      "凟剢匵厾嘟堵妒妬嬻帾度杜椟櫝殬殰毒涜渎渡瀆牍牘犊犢独獨琽瓄皾督睹碡秺笃篤簵肚芏荰蝳螙蠧蠹裻覩読讀" ++
      "讟读豄賭贕赌都醏錖鍍鑟镀闍阇靯韇韣韥騳髑黩黷"),
    ("duan", "偳剬塅媏断斷椴段毈煅瑖短碫端簖籪緞缎耑腶葮褍襨躖鍛鍴锻"),
    ("dui", "兊兌兑垖堆塠对対對嵟怼憝憞懟濧瀩痽碓磓祋綐薱譈鐓鐜镦队陮隊頧鴭"),
    ("dun", "伅吨噸囤墩墪庉惇撉撴敦楯橔沌潡炖燉犜獤盹盾砘碷礅蜳趸踲蹲蹾躉逇遁遯鈍钝頓顿驐"),
    ("duo",
      "亸凙刴剁剟剫咄哆哚喥嚉嚲垛垜埵堕墮墯多夛夺奪奲尮崜嶞悳惰憜挅挆掇敓敚敠敪朵朶枤柁柮桗椯毲炨畓痥綞" ++
      "缍舵裰趓跢跥跺踱躱躲軃鈬鍺鐸铎陊陏飿饳鮵鵽"),
    ("e",
      "俄偔僫匎卾厄吪呃呝咢咹噁噩囮垩堊堮妸妿姶娥娿婀屙屵岋峉峨峩崿廅恶悪惡愕戹扼掠搤搹擜枙櫮歞歺涐湂珴" ++
      "琧略痾皒睋砈砐砨硆磀礘腭苊莪萼蕚蚅蛾蝁覨訛詻誐諤譌讍讹谔豟貖軛軶轭迗遌遏鄂鈋鈪鍔鑩钶锇锷閼阏阨阸" ++
      "隲頋頞頟額顎颚额餓餩饿騀魤魥鰐鰪鱷鳄鵈鵝鵞鶚鹅鹗齃齶"),
    ("ei", "誒诶"),
    ("en", "奀峎恩摁煾蒽"),
    ("eng", "鞥"),
    ("er",
      "二佴侕儿児兒刵厼咡唲尒尓尔峏弍弐栭栮樲毦洏洱爾珥粫而耳聏胹荋薾衈袻誀貮貳贰趰輀轜迩邇鉺铒陑隭餌饵" ++
      "駬髵鮞鲕鴯鸸"),
    ("fa", "乏伐佱傠发垡姂彂栰橃沷法浌灋珐琺疺発發瞂砝筏罚罰罸茷蕟藅酦醱鍅閥阀髪髮"),
    ("fan",
      "凡凢凣勫反噃墦奿婏嬎嬏帆幡忛憣払旙旛杋柉梵棥樊橎氾汎泛渢滼瀪瀿烦煩燔犯璠畈番盕矾礬笲笵範籓籵緐繁" ++
      "繙羳翻膰舤舧范蕃薠藩蘩蠜襎訉販贩蹯軓軬轓返釩鐇鐢钒颿飜飯飰饭鱕鷭"),
    ("fang", "仿倣匚坊埅堏妨彷房放方旊昉昘枋汸淓牥瓬眆紡纺肪舫芳蚄訪访趽邡鈁錺钫防髣魴鰟鲂鴋鶭"),
    ("fei",
      "俷剕匪厞吠啡奜妃婓婔屝废廃廢悱扉斐昲暃曊朏杮棐榧櫠沸淝渄濷狒猆疿痱癈篚緋绯翡肥肺胇腓芾菲萉蕜蜚蜰" ++
      "蟦裶誹诽費费鐨镄陫霏靅非靟飛飝飞餥馡騑騛鯡鲱鼣"),
    ("fen",
      "份偾僨兝兺分吩哛坟墳奋奮妢岎帉幩弅忿愤憤昐朆朌枌梤棻棼橨氛汾濆瀵炃焚燌燓秎竕粉粪糞紛纷羒羵翂肦膹" ++
      "芬蒶蕡蚠蚡衯訜豮豶躮轒酚鈖鐼隫雰餴饙馚馩魵鱝鲼黂黺鼖鼢"),
    ("feng",
      "丰仹俸偑僼冯凤凨凬凮唪堸夆奉妦寷封峯峰崶捀摓枫桻楓檒沣沨浲湗溄漨灃烽焨煈犎猦琒甮疯瘋盽砜碸篈綘縫" ++
      "缝艂葑蘕蘴蜂蠭覂諷讽豐賵赗逢鄷酆鋒鎽鏠锋闏霻靊風飌风馮鳯鳳鴌麷"),
    ("fiao", "覅"),
    ("fo", "仏坲梻"),
    ("fou", "否妚殕紑缶缹缻裦雬鴀"),
    ("fu",
      "乀乶付伏伕佛俌俘俛俯偩傅冨冹凫刜副匐呋呒咈咐哹嘸圑坿垘垺复夫妇妋姇娐婦媍嬔孚孵富尃岪峊巿幅幞府弗" ++
      "弣彿復怤怫懯扶抚拂拊捬撨撫敷斧旉服枎柎柫栿桴棴椨椱榑氟泭洑浮涪滏澓炥烰焤父玞玸琈甫甶畉畐痡癁盙砆" ++
      "砩祓祔福禣秿稃稪竎符笰筟箙簠粰糐紨紱紼絥綍綒緮縛绂绋缚罘罦翇肤胕腐腑腹膚艀艴芙芣苻茀茯荂荴莩菔萯" ++
      "葍蕧虙蚥蚨蚹蛗蜅蜉蝜蝠蝮衭袝袱複褔襆覄覆訃詂諨讣豧負賦賻负赋赙赴趺跗踾輔輹輻辅辐邞郙郛鄜酜釜釡鈇" ++
      "鉘鉜鍑鍢阜阝附陚韍韨頫颫馥駙驸髴鬴鮄鮒鮲鰒鲋鳆鳧鳬鳺鴔鵩鶝麩麬麱麸黻黼"),
    ("ga", "呷嘎嘠噶尕尜尬旮玍錷钆魀"),
    ("gai", "丐乢侅匃匄垓姟峐忋戤摡改晐杚概槩槪溉漑瓂畡盖祴絠絯荄葢蓋該该豥賅賌赅郂鈣钙阣陔隑"),
    ("gan",
      "乹乾亁仠倝凎凲坩尲尴尶尷干幹忓感扞擀攼敢旰杆柑桿榦橄檊汵泔淦漧澉灨玕甘疳皯盰矸秆稈竿笴筸簳粓紺绀" ++
      "肝芉苷衦詌贑贛赣赶趕迀酐骭魐鰔鱤鳡鳱"),
    ("gang", "冈冮刚剛堈堽岗岡崗戅戆掆杠棡槓港焵牨犅疘矼筻綱纲缸罁罓罡肛釭鋼鎠钢"),
    ("gao",
      "勂叝吿告夰搞暠杲槀槁槔槹橰檺櫜滜煰皋皐睾祮祰禞稾稿筶篙糕縞缟羔羙膏臯菒藁藳誥诰郜鋯锆镐韟餻高髙鷎" ++
      "鷱鼛"),
    ("ge",
      "个仡佮個割匌各呄咯哥哿嗝嗰圪塥彁愅戈戓戨挌搁搿擱敋格槅櫊歌滆滒牫牱犵獦疙硌箇纥肐胳膈臵舸茖葛虼蛒" ++
      "袼裓觡諽謌輵轕鎶铬镉閣閤阁隔革鞈鞷韐韚騔骼鬲鮯鴐鴚鴿鸽"),
    ("gei", "給给"),
    ("gen", "亘亙哏揯根艮茛跟"),
    ("geng", "刯哽埂堩峺庚挭掶搄暅更梗椩浭焿畊絚綆緪縆绠羮羹耕耿莄菮賡赓郠骾鯁鲠鶊鹒"),
    ("gong", "供公共功匑厷唝塨宫宮工巩幊廾弓恭愩慐拱拲攻杛栱汞熕玜珙碽糼羾肱莻蚣觥觵貢贡躬躳輁鋛鞏髸龏龔龚"),
    ("gou",
      "佝冓勾坸垢够夠姤媾岣彀搆撀构枸構沟溝煹狗玽笱篝緱缑耇耈耉芶苟茩蚼袧褠覯觏訽詬诟豿購购遘鈎鉤钩雊鞲" ++
      "韝"),
    ("gu",
      "估傦僱凅古呱咕唂唃啒嘏固堌夃姑嫴孤尳峠崓崮愲扢故柧梏棝榖榾橭毂汩沽泒淈濲瀔牯牿痼皷皼盬瞽祻稒穀笟" ++
      "箍箛篐糓縎罛罟羖股脵臌苽菇菰蓇薣蛄蛊蛌蠱觚詁诂谷軱軲轂轱辜逧酤鈲鈷錮钴锢雇顧顾餶馉骨鮕鯝鲴鴣鶻鸪" ++
      "鹄鹘鼓鼔"),
    ("gua", "冎刮剐剮劀卦叧啩坬寡挂掛栝歄煱瓜絓緺罣罫聒胍褂詿诖趏踻銽颪颳騧鴰鸹"),
    ("guai", "乖叏夬怪恠拐掴摑枴柺箉"),
    ("guan",
      "丱倌关冠官悹悺惯慣掼摜棺樌毌泴涫潅灌爟琯瓘痯瘝癏盥矔礶祼窤筦管罆罐舘莞蒄覌観觀观貫贯輨遦錧鏆鑵関" ++
      "闗關雚館馆鰥鱞鱹鳏鳤鸛鹳"),
    ("guang", "侊俇僙光咣垙姯广広廣撗桄欟洸灮炗炚炛烡犷獷珖胱臦臩茪輄逛銧黆"),
    ("gui",
      "亀佹傀刽刿劊劌匦匭匱厬圭垝妫姽媯嫢嬀宄嶡巂帰庋庪廆归恑摫撌攰攱昋晷朹柜桂桧椝椢槶槻槼檜櫃櫷歸氿湀" ++
      "炔猤珪瑰璝瓌癐癸皈瞡瞶硅祪禬窐筀簂簋胿膭茥蓕蛫螝蟡袿襘規规觤詭诡貴贵跪軌轨邽郌閨闺陒鞼騩鬶鬹鬼鮭" ++
      "鱖鱥鲑鳜龜龟"),
    ("gun", "丨惃棍滚滾璭睔睴磙緄绲蓘蔉衮袞袬謴輥辊鮌鯀鲧"),
    ("guo",
      "呙咼啯嘓囯囶囻国圀國埚堝墎崞帼幗彉彍惈慖果椁槨淉漍濄猓瘑粿綶聝腘膕菓蔮虢蜾蝈蟈裹輠过過郭鈛錁鍋鐹" ++
      "锅餜馃馘"),
    ("ha", "丷哈奤蛤铪"),
    ("hai", "亥咍咳嗐嗨嚡塰妎孩害氦海烸胲还酼醢頦餀饚駭骇骸"),
    ("han",
      "丆佄傼兯函凾厈含咁哻唅喊圅垾娢嫨寒屽岾崡嵅悍憨憾捍撖撼旱晗晘晥暵梒歛汉汗浛浫涆涵漢澏瀚炶焊焓熯爳" ++
      "猂琀甝皔睅筨罕翰肣莟菡蔊蘫虷蚶蛿蜬蜭螒譀谽豃貋邗邯酣釬銲鋎鋡閈闬阚雗韓韩頇頷顄顸颔馠馯駻鬫魽鶾鼾"),
    ("hang", "垳夯斻杭沆珩笐筕絎绗航苀蚢貥迒頏颃魧"),
    ("hao",
      "傐儫号哠嗥嘷噑嚆嚎壕好峼恏悎昊昦晧暤暭曍椃毜毫浩淏滈澔濠灏灝獆獋獔皓皜皞皡皥秏竓籇耗聕茠蒿薃薅薧" ++
      "號蚝蠔諕譹豪貉郝鄗鎬顥颢鰝"),
    ("he",
      "何佫劾厒合咊和哬啝喝嗃嗬垎壑姀峆惒抲敆曷柇核楁欱毼河涸渮澕焃煂熆熇爀狢癋皬盇盉盍盒碋礉禾秴穒篕籺" ++
      "粭紇翮翯荷菏萂蚵螛蠚袔褐覈訶訸詥謞诃貈賀贺赫輅郃鉌鑉闔阂阖靍靎靏鞨頜颌饸魺鲄鶡鶮鶴鸖鹖鹤麧齕龁龢"),
    ("hei", "嘿潶黑黒"),
    ("hen", "佷很恨拫狠痕詪鞎"),
    ("heng", "亨哼啈噷堼姮恆恒悙桁横橫涥烆胻脝蘅衡鑅鴴鵆鸻"),
    ("hong",
      "仜叿吰吽呍哄嗊嚝垬妅娂宏宖峵弘彋揈撔晎汯泓洪浤渱渹潂澋澒灴烘焢玒硔硡竑竤粠紅紘紭綋红纮翃翝耾苰荭" ++
      "葒葓蕻薨虹訇訌讧谹谼谾軣輷轟轰鈜鉷銾鋐鍧閎閧闂闳霐霟鞃鬨魟鴻鸿黉黌"),
    ("hou", "侯候厚后吼喉垕堠帿後洉犼猴瘊睺矦篌糇翭翵葔豞逅郈鄇鍭餱骺鮜鯸鱟鲎鲘齁"),
    ("hu",
      "乎乕乥乯互俿冱冴匢匫呼唬唿喖嗀嘑嘝嚛囫垀壶壷壺婟媩嫭嫮寣岵帍幠弖弧忽怘怙恗惚戯戶户戸戽扈抇护搰摢" ++
      "斛昈昒曶枑楛楜槲槴歑汻沍沪泘浒淴湖滬滸滹瀫烀焀煳熩狐猢琥瑚瓠瓳祜笏箶簄粐糊絗綔縠胡膴芐苸萀葫蔛蔰" ++
      "虍虎虖虝蝴螜衚觳謼護軤轷鄠醐錿鍙鍸隺雐雽韄頀頶餬鬍魱鯱鰗鱯鳠鳸鵠鶘鶦鸌鹕鹱"),
    ("hua",
      "划劃化华哗嘩埖夻姡婲婳嫿嬅崋搳摦撶杹桦椛槬樺滑澅猾璍画畫畵硴磆糀繣舙花芲華蒊蕐螖觟話誮諣譁譮话釪" ++
      "釫鋘錵鏵铧驊骅鷨黊"),
    ("huai", "咶坏壊壞徊怀懐懷槐櫰淮瀤耲蘹蘾褢褱諙踝"),
    ("huan",
      "唤喚喛嚾圜奂奐嬛宦寏寰峘嵈幻患愌懽换換擐攌桓梙槵欢歓歡洹浣涣渙漶澣澴烉焕煥犿狟獾环瑍環瓛痪瘓睆瞣" ++
      "糫絙綄緩繯缓缳羦肒荁萈萑藧讙豢豲貆貛轘逭還郇酄鉮鍰鐶锾镮闤阛雈驩鬟鯇鰀鲩鴅鵍鹮"),
    ("huang",
      "偟兤凰喤堭塃墴奛媓宺崲巟幌徨怳恍惶愰慌晃晄曂朚楻榥櫎湟滉潢炾煌熀熿獚瑝璜癀皇皝皩磺穔篁篊簧縨肓艎" ++
      "荒葟蝗蟥衁詤諻謊谎趪遑鍠鎤鐄锽隍韹餭騜鰉鱑鳇鷬黃黄"),
    ("hui",
      "会佪僡儶匯卉咴哕喙嘒噅噕噦嚖囘回囬圚婎媈嬒孈寭屷幑廻廽彗彙彚徻徽恚恛恢恵悔惠慧憓懳拻挥揮撝晖晦暉" ++
      "暳會楎槥橞檓櫘殨毀毁毇汇泋洃洄浍湏滙潓澮濊瀈灰灳烠烣烩煇燬燴獩珲璤璯痐瘣睳瞺禈秽穢篲絵繢繪绘缋翙" ++
      "翚翬翽芔茴荟蔧蕙薈薉藱蘳虺蚘蛔蛕蜖蟪袆褘詯詼誨諱譓譭譿讳诙诲豗賄贿輝辉迴逥鏸鐬闠阓隓隳靧頮顪颒餯" ++
      "鮰鰴麾"),
    ("hun", "俒倱圂堚婚忶惛慁掍昏昬梡棔殙浑涽混渾溷焝琿睧睯繉荤葷觨諢诨轋閽阍餛馄魂鯶鼲"),
    ("huo",
      "伙佸俰剨劐吙咟嚄嚯嚿夥奯惑或捇掝攉旤曤楇檴沎活湱漷濩瀖火獲癨眓矆矐砉祸禍秮秳穫耠耯臛艧获蒦藿蠖謋" ++
      "豁貨货邩鈥鍃鑊钬锪镬閄霍靃騞"),
    ("ji",
      "丌丮乩亟亼亽伋伎佶偈偮僟兾冀几击刉刏剂剞剤劑勣卙即卽及叽吉咭哜唧喞嗘嘰嚌圾坖垍基塈塉墼妀妓姞姫姬" ++
      "嫉季寂寄屐岌峜嵆嵇嵴嶯己幾庴廭彐彑彶徛忌忣急悸惎愱懻戟戢技挤掎揤撃撠擊擠擮敧旡既旣暨暩曁朞机极枅" ++
      "梞棘楫極槉槣樭機橶檕檝檵櫅殛毄汲泲洎济済湒漃漈潗激濈濟瀱焏犄犱狤玑璣畸畿疾痵瘠癠癪皀皍矶磯祭禝禨" ++
      "积稘稩稷稽穄穊積穖穧笄笈筓箕箿簊籍紀紒級継緝績繋繼级纪继绩缉罽羁羇羈耤耭肌脊膌臮艥芨芰茍茤荠葪蒺" ++
      "蓟蔇蕀蕺薊薺藉蘎蘮蘻虀虮螏蟣裚褀襀襋覉覊覬觊觙觭計記誋諅譏譤计讥记诘谻賫賷赍趌跡跻跽踖蹐蹟躋躸輯" ++
      "轚辑迹郆鄿鈘銈銡錤鍓鏶鐖鑇鑙钑际際隮集雞雦雧霁霵霽鞿韲飢饑饥驥骥髻鬾魕魢鯚鰶鰿鱀鱭鱾鲚鲫鳮鵋鶏鶺" ++
      "鷄鷑鸄鸡鹡麂齌齎齏齑"),
    ("jia",
      "乫仮价伽佳假傢價加叚唊嘉圿埉夹夾婽嫁家岬幏徦忦恝戛戞扴抸拁斚斝架枷梜椵榎榢槚檟毠泇浃浹犌猳玾珈甲" ++
      "痂瘕稼笳糘耞胛腵茄荚莢葭蛱蛺袈袷裌豭貑賈贾跏跲迦郏郟鉀鉫鉿鋏鎵钾铗镓鞂頬頰颊餄駕驾鴶鵊麚"),
    ("jian",
      "件俭俴倹偂健僭儉兼冿减剑剣剪剱劍劎劒劔劗囏囝坚堅堿墹奸姦姧寋尖幵建弿彅徤惤戋戔戩戬拣挸捡揀揃搛撿" ++
      "擶旔暕枧柬栫梘检検椷椾楗榗樫橺檢櫼歼殱殲毽洊涧渐減湔湕溅漸澗濺瀐瀳瀸瀽煎熞熸牋牮犍猏玪珔瑊瑐监監" ++
      "睑睷瞷瞼硷碊碱磵礀礆礛笕笺筧简箋箭篯簡籛糋絸緘縑繝繭缄缣翦肩腱臶舰艦艰艱茧荐菅菺葌葥蒹蔪蕑蕳薦藆" ++
      "虃螹蠒袸裥襇襉襺見覵覸见詃諓諫謇謭譼譾谏谫豜豣賎賤贱趝趼践踐踺蹇轞釼鉴鋻鍳鍵鏩鐗鐧鐱鑑鑒鑬鑯鑳锏" ++
      "键間间鞬鞯韀韉餞餰饯馢鬋鰎鰹鲣鳒鳽鵳鶼鹣鹸鹻鹼麉"),
    ("jiang",
      "傋僵勥匞匠壃夅奖奨奬姜将將嵹弜弶彊摪摾杢桨槳橿櫤殭江洚浆滰漿犟獎畕畺疅疆礓糡糨絳繮绛缰翞耩膙茳葁" ++
      "蒋蔣薑螀螿袶講謽讲豇酱醤醬降韁顜鱂鳉"),
    ("jiao",
      "交佼侥僥僬儌剿劋叫呌嘂嘄嘦噍噭姣娇嬌嬓孂峤峧嶕嶠嶣徺徼恔憍憿挍挢捁搅摷撟撹攪敎教敫敽敿斠晈暞曒椒" ++
      "櫵浇湫湬滘漖潐澆灚烄焦煍燋燞狡獥珓璬皎皦皭矫矯礁穚窌窖簥絞繳纐绞缴胶脚腳膠膲臫艽芁茭茮蕉藠虠蛟蟜" ++
      "蟭角訆譑譥賋趭跤踋較轇轎轿较郊酵醮釂鉸鐎铰隦餃饺驕骄鮫鱎鲛鵁鵤鷍鷦鷮鹪"),
    ("jie",
      "丯介借倢偼傑刦刧刼劫劼卩卪吤喈喼嗟堦堺姐婕媎媘嫅孑尐屆届岊岕崨嵥巀幯庎徣悈戒截拮捷接掲揭擑昅杰桀" ++
      "桝椄楐楬楶榤檞櫭毑洁湝滐潔煯犗玠琾界畍疌疖疥痎癤皆睫砎碣秸稭竭節結絜结羯脻节芥莭菨蓵蚧蛶蜐蝍蝔蠘" ++
      "蠞蠽街衱衸袺褯解觧訐詰誡誱謯讦诫踕躤迼鉣鍻鎅阶階鞊颉飷骱魝魪鮚鲒鶛"),
    ("jin",
      "仅今伒侭僅僸儘兓凚劤劲勁卺厪唫噤嚍埐堇堻墐壗妗嫤嬧寖尽嶜巹巾廑惍搢斤晉晋暜枃槿歏殣津浕浸溍漌濅濜" ++
      "烬燼珒琎琻瑨瑾璡璶盡矜砛祲禁筋紟紧緊縉缙荕荩菫蓳藎衿襟覲觐觔謹谨賮贐赆近进進金釒釿錦钅锦靳饉馑鹶" ++
      "黅齽"),
    ("jing",
      "丼井京亰俓倞傹儆兢净凈刭剄坓坕坙境妌婙婛婧宑巠幜弪弳径徑惊憬憼敬旌旍景晶暻曔桱梷橸汫汬泾浄涇淨濪" ++
      "瀞燛燝猄獍璟璥痉痙睛秔稉穽竞竟竧竫競竸粳精経經经聙肼胫脛腈茎荆荊莖菁葏蟼誩警踁迳逕鏡镜阱靓靖静靚" ++
      "靜頚頸颈驚鯨鲸鵛鶁鶄麖麠鼱"),
    ("jiong", "侰僒冂冋冏囧坰埛扃泂浻澃炅炯烱煚煛熲窘絅綗蘏蘔褧迥逈颎駉駫"),
    ("jiu",
      "丩久乆九乣倃僦勼匓匛匶厩咎啾奺媨就廄廏廐慦捄揂揪揫摎救旧朻杦柩柾桕樛欍殧汣灸牞玖疚究糺糾紤纠臼舅" ++
      "舊舏萛赳酒镹阄韭韮鬏鬮鯦鳩鷲鸠鹫麔齨"),
    ("ju",
      "举乬侷俱倨倶僪具冣凥刟剧劇勮匊句咀啹埧埾壉姖娵婅婮寠局居屦屨岠崌巈巨巪弆怇怐怚惧愳懅懼抅拒拘拠挙" ++
      "挶据掬據擧昛桔梮椇椈椐榉榘橘檋櫸欅歫毩毱沮泃泦洰涺淗湨澽炬焗爠犋犑狊狙琚疽痀眗矩砠秬窭窶筥簴粔粷" ++
      "罝耟聚聥腒舉艍苣苴莒菊菹蒟蘜虡蚷蜛袓裾襷詎諊讵豦貗趄趜跔跙距跼踘踙踞踽蹫躆躹輂遽邭郹醵鉅鋦鋸鐻钜" ++
      "锔锯閰陱雎鞠鞫颶飓駏駒駶驧驹鮈鮔鴡鵙鵴鶋鶪鼳齟龃"),
    ("juan",
      "倦劵勌勬卷呟埍奆姢娟巻帣慻捐捲桊涓淃焆狷獧瓹眷睊睠絭絹縳绢罥羂脧臇菤蔨蠲裐鄄錈鎸鐫锩镌隽雋飬餋鵑" ++
      "鹃"),
    ("jue",
      "亅倔傕决刔劂勪匷厥噘噱嚼孒孓屩屫崛嶥弡彏憠憰戄抉挗捔掘撅撧攫斍桷橛橜欔欮殌氒決泬焳熦爑爝爴爵獗玃" ++
      "玦玨珏瑴疦瘚矍矡砄絕絶绝臄芵蕝蕨虳蚗蟨蟩覐覚覺觉觖觼訣譎诀谲貜赽趉趹蹶蹷蹻躩逫鈌鐍鐝钁镢駃鴂鴃鶌" ++
      "鷢龣"),
    ("jun",
      "俊儁军君呁均埈姰寯峻懏捃攈攟晙桾棞汮浚濬焌燇珺畯皲皸皹碅竣箘箟莙菌蚐蜠袀覠軍郡鈞銁銞鍕钧陖餕馂駿" ++
      "骏鮶鲪鵔鵘麇麏麕"),
    ("ka", "佧卡咔咖喀垰擖胩衉裃鉲"),
    ("kai", "凯凱剀剴勓嘅垲塏奒嵦开忾恺愒愷愾慨揩暟楷欬炌炏烗蒈輆鍇鎎鎧鐦铠锎锴開闓闿颽"),
    ("kan", "侃偘冚刊勘坎埳堪塪墈崁嵁惂戡栞槛檻欿歁看瞰矙砍磡竷莰衎輡轗闞顑龕龛"),
    ("kang", "亢伉匟囥嫝嵻康忼慷扛抗摃槺漮炕犺砊穅粇糠躿邟鈧鏮钪閌闶鱇"),
    ("kao", "丂尻拷攷栲洘烤燺犒稁考銬铐靠髛鮳鯌鲓"),
    ("ke",
      "克刻剋勀勊匼可嗑坷堁壳娔客尅岢嵑嵙嶱恪愙揢搕敤柯棵榼樖殼氪渇渴溘炣牁犐珂疴瞌砢碦磕礊礍礚科稞窠緙" ++
      "缂翗胢艐苛萪薖蝌課课趷軻轲醘鈳錒锞顆颏颗騍骒髁"),
    ("ken", "啃垦墾恳懇掯肎肯肻裉褃豤錹齦龈"),
    ("keng", "劥吭坑妔挳摼牼硁硜硻誙銵鍞鏗铿阬"),
    ("kong", "倥埪孔崆恐悾控涳硿空箜躻錓鞚鵼"),
    ("kou", "冦剾劶口叩宼寇彄扣抠摳敂滱眍瞉瞘窛筘簆芤蔲蔻釦鷇"),
    ("ku", "俈刳哭喾嚳圐堀崫库庫廤扝枯桍焅狜瘔矻秙窟絝绔胐苦袴裤褲趶跍郀酷骷鮬"),
    ("kua", "侉咵垮夸姱挎胯舿誇跨銙骻"),
    ("kuai", "侩儈凷哙噲圦块塊墤巜廥快擓旝狯獪筷糩脍膾蒯郐鄶鱠鲙"),
    ("kuan", "宽寛寬欵款歀窽窾臗鑧髋髖"),
    ("kuang",
      "儣况劻匡匩卝哐圹壙夼岲忹恇懬懭抂旷昿曠框況洭爌狂眖眶矌矿砿硄礦穬筐筺絋絖纊纩誆誑诓诳貺贶躀軖軦軭" ++
      "邝邼鄺鉱鑛鵟黋"),
    ("kui",
      "亏刲匮喟喹嘳夔奎媿嬇尯岿巋巙悝愦愧憒戣揆晆暌楏楑樻櫆欳溃潰煃犪盔睽瞆窥窺篑簣籄聧聩聭聵腃葵蒉蕢藈" ++
      "蘬蘷虁虧蝰謉跬蹞躨逵鄈鍨鍷鐀鑎闚隗頄頍頯顝餽饋馈馗騤骙魁"),
    ("kun",
      "困坤堃堒壸壼婫尡崐崑悃捆昆晜梱涃潉焜熴猑琨瑻睏硱祵稇稛綑菎蜫裈裍裩褌貇醌錕锟閫閸阃騉髠髡髨鯤鲲鵾" ++
      "鶤鹍齫"),
    ("kuo", "廓懖扩拡括挄擴桰濶筈萿葀蛞闊阔霩鞟鞹韕頢髺鬠"),
    ("la", "剌啦喇嚹垃拉揦揧搚攋旯柆楋溂爉瓎瘌砬磖翋腊臈臘菈藞蜡蝋蝲蠟辢辣邋鑞镴鞡鬎鯻"),
    ("lai", "來俫倈唻婡崃崍庲徕徠来梾棶櫴涞淶濑瀨瀬猍琜癞癩睐睞筙箂籁籟莱萊藾襰賚賴赉赖逨郲錸铼頼顂騋鯠鵣鶆麳"),
    ("lan",
      "儖兰厱嚂囒囕壈婪嬾孄孏岚嵐幱惏懒懢懶拦揽擥攔攬斓斕栏榄欄欖欗浨滥漤澜濫瀾灆灠灡烂燗燣燷爁爛爤爦璼" ++
      "瓓礷篮籃籣糷繿纜缆罱葻蓝藍蘭褴襕襤襴襽覧覽览譋讕谰躝醂鑭钄镧闌阑韊顲"),
    ("lang", "勆唥啷埌塱嫏崀廊斏朖朗朤桹榔樃欴浪烺狼琅瑯硠稂筤艆莨蒗蓈蓢蜋螂誏躴郎郒郞鋃鎯锒閬阆駺"),
    ("lao",
      "佬僗劳労勞咾哰唠嘮姥嫪崂嶗恅憥憦捞撈朥栳橑橯浶涝潦澇烙牢狫珯痨癆硓磱窂簩粩老耂耢耮肋荖蛯蟧躼軂轑" ++
      "酪醪銠鐒铑铹顟髝鮱"),
    ("le", "乐了仂叻忇扐楽樂氻泐玏砳竻簕艻阞韷餎饹鰳鳓"),
    ("lei",
      "傫儡儽勒厽嘞垒塁壘壨嫘擂攂樏檑櫐櫑欙泪洡涙淚灅瓃畾癗磊磥礌礧礨禷类累絫縲纇纍纝缧罍羸耒腂蔂蕌蕾藟" ++
      "蘱蘲蘽虆蠝誄讄诔轠酹銇錑鐳鑘鑸镭雷靁頛頪類颣鱩鸓鼺"),
    ("leng", "倰冷堎塄崚愣棱楞睖碐稜薐踜輘"),
    ("li",
      "丽例俐俚俪傈儮儷兣凓刕利剓剺劙力励勵历厉厘厤厯厲吏呖哩唎唳喱嚟嚦囄囇坜塛壢娌娳婯嫠孋孷屴岦峛峢峲" ++
      "巁廲悡悧慄戾搮攊攡攦攭斄暦曆曞朸李杝枥栃栎栗栛梨梩梸棃棙樆檪櫔櫟櫪欐欚歴歷沥沴浬涖溧漓澧濿瀝灕爄" ++
      "爏犁犂犡狸猁珕理琍瑮璃瓅瓈瓑瓥疠疬痢癘癧皪盠盭睝矋砅砺砾磿礪礫礰礼禮禲离秝穲立笠筣篥篱籬粒粚粝粴" ++
      "糎糲綟縭纚缡罹脷艃苈苙茘荔荲莅莉菞蒚蒞蓠蔾藜藶蘺蚸蛎蛠蜊蜧蝷蟍蟸蠇蠡蠣蠫裏裡褵觻詈謧讈豊貍赲跞躒" ++
      "轢轣轹逦邌邐郦酈醨醴里釐鉝鋫鋰錅鎘鏫鑗锂隶隷隸離雳靂靋騹驪骊鬁鯉鯏鯬鱧鱱鱳鱺鲡鲤鳢鳨鴗鵹鷅鸝鹂麗" ++
      "麜黎黧"),
    ("lia", "俩倆"),
    ("lian",
      "亷僆劆匲匳嗹噒堜奁奩媡嫾嬚帘廉怜恋慩憐戀摙敛斂梿楝槤櫣殓殮浰涟湅溓漣潋澰濂濓瀲炼煉熑燫琏瑓璉磏簾" ++
      "籢籨練縺纞练羷翴联聨聫聮聯脸臁臉莲萰蓮蔹薕蘝蘞螊蠊裢裣褳襝覝謰蹥连連鄻錬鍊鎌鏈鐮链镰鬑鰊鰱鲢"),
    ("liang", "両两亮俍兩凉哴唡啢喨墚悢掚晾梁椋樑涼湸煷簗粮粱糧綡緉脼良蜽裲諒谅踉輌輛輬辆辌量鍄魉魎"),
    ("liao",
      "僚叾嘹嫽寥寮尞尥尦屪嵺嶚嶛廖廫憀憭撂撩敹料暸曢漻炓燎爎爒獠璙疗療瞭窷簝繚缭聊膋膫蓼藔蟟豂賿蹘蹽辽" ++
      "遼鄝釕鐐钌镣镽飉髎鷯鹩"),
    ("lie", "儠冽列劣劽咧哷埒埓姴巤挒挘捩擸栵毟洌浖烈烮煭犣猎猟獵睙聗脟茢蛚裂趔躐迾颲鬛鬣鮤鱲鴷"),
    ("lin",
      "临亃僯冧凛凜厸吝啉壣崊嶙廩廪恡悋懍懔拎撛斴晽暽林橉檁檩淋潾澟瀶焛燐獜琳璘甐疄痳癛癝瞵矝碄磷箖粦粼" ++
      "繗翷膦臨菻蔺藺賃赁蹸躏躙躪轔轥辚遴邻鄰鏻閵隣霖驎鱗鳞麐麟"),
    ("ling",
      "令伶凌刢另呤囹坽夌姈婈孁岭岺嶺彾掕昤朎柃棂櫺欞泠淩澪瀮灵炩燯爧狑玲琌瓴皊砱祾秢竛笭紷綾绫羚翎聆舲" ++
      "苓菱蓤蔆蕶蘦蛉衑袊裬詅跉軨酃醽鈴錂铃閝阾陵零霊霗霛霝靈領领駖魿鯪鲮鴒鸰鹷麢齡齢龄龗"),
    ("liu",
      "六刘劉嚠囖塯媹嬼嵧廇懰旈旒柳栁桞桺榴橊橮沠流浏溜澑瀏熘熮珋琉瑠瑬璢畂畄留畱疁瘤癅硫磂磟綹绺罶羀翏" ++
      "蒥蓅藰蟉裗蹓遛鉚鋶鎏鎦鏐鐂锍镏镠雡霤飀飂飅飗飹餾馏駠駵騮驑骝鬸鰡鶹鷚鹠鹨麍"),
    ("long",
      "儱咙哢嚨垄垅壟壠屸嶐巃巄徿拢挵攏昽曨朧栊梇槞櫳泷湰滝漋瀧爖珑瓏癃眬矓砻礱礲窿竉竜笼篢篭簼籠聋聾胧" ++
      "茏蕯蘢蠪蠬襱豅贚躘鏧鑨陇隆隴霳靇驡鸗龍龒龓龙"),
    ("lou", "偻僂剅喽嘍塿娄婁屚嵝嶁廔慺搂摟楼樓溇漊漏熡甊瘘瘺瘻瞜篓簍耧耬艛蒌蔞蝼螻謱軁遱鏤镂陋鞻髅髏"),
    ("lu",
      "侓侣侶僇儢剹勎勠勴卢卤吕呂噜嚕嚧圥坴垆垏塶塷壚娽寽屡屢履峍嵂庐廘廬彔录律慮戮挔捋捛掳摝撸擄擼攎旅" ++
      "曥枦栌梠椂榈樐樚橹櫓櫖櫚櫨氀氇氌氯泸淕淥渌滤滷漉潞澛濾瀂瀘炉焒熝爈爐獹率玈琭璐璷瓐甪盝盧睩矑硉硵" ++
      "碌磠祣祿禄稆稑穋穞穭箓箻簏簬簶籙籚粶絽綠緑縷繂纑绿缕罏胪膂膐膔膟膢臚舮舻艣艪艫芦菉葎蓾蔍蕗藘蘆虂" ++
      "虏虑虜螰蠦褛褸觮賂赂趢路踛蹗轆轤轳辂辘逯郘醁鈩鋁錄録錴鏀鏕鏴鐪鑢鑥鑪铝镥閭闾陆陸露顱颅馿騄騼驢驴" ++
      "髗魯魲鯥鱸鲁鲈鵦鵱鷜鷺鸕鸬鹭鹵鹿麓黸"),
    ("luan", "乱亂卵圝圞奱娈孌孪孿峦巒挛攣曫栾欒滦灓灤癴癵羉脔臠虊釠銮鑾鵉鸞鸾"),
    ("lue", "圙擽畧稤鋝鋢锊"),
    ("lun", "仑伦侖倫囵圇埨婨崘崙惀抡掄棆沦淪溣碖磮稐綸纶耣腀菕蜦論论踚輪轮錀陯鯩"),
    ("luo",
      "倮儸剆啰嗠囉峈摞攞曪椤欏泺洛洜漯濼犖猡玀珞瘰癳硦笿箩籮絡纙络罖罗羅脶腡臝荦萝落蓏蘿螺蠃裸覙覶覼躶" ++
      "逻邏鉻鏍鑼锣镙雒頱饠駱騾驘骆骡鮥鴼鵅鸁"),
    ("m", "呣"),
    ("ma", "亇傌吗唛嗎嘛嘜妈媽嫲嬤嬷孖杩榪溤犘犸獁玛瑪痲睰码碼礣祃禡罵蔴蚂螞蟆蟇遤鎷閁馬駡马骂鬕鰢鷌麻"),
    ("mai", "买佅劢勱卖嘪埋売脈脉荬蕒薶衇買賣迈邁霡霢霾鷶麥麦"),
    ("man",
      "僈墁姏嫚屘幔悗慢慲摱曼槾樠満满滿漫澷熳獌睌瞒瞞矕縵缦蔄蔓蘰蛮螨蟎蠻襔謾谩鄤鏋鏝镘鞔顢颟饅馒鬗鬘鰻" ++
      "鳗"),
    ("mang", "吂哤壾娏尨庬忙恾杗杧氓汒浝漭牤牻狵痝盲硥硭笀芒茫茻莽莾蛖蟒蠎邙釯鋩铓駹"),
    ("mao",
      "乮兞冃冇冐冒卯堥夘媢嫹峁帽愗懋戼旄昴暓枆柕楙毛毷氂泖渵牦犛猫瑁皃眊瞀矛笷罞耄芼茂茅茆萺蓩蝐蝥蟊袤" ++
      "覒貌貓貿贸軞鄚鄮酕錨铆锚髦髳鶜"),
    ("me", "么嚒嚜濹癦麼"),
    ("mei",
      "凂呅坆堳塺妹娒媄媒媚媺嬍寐嵄嵋徾抺挴攗旀昧枚栂梅楣楳槑毎每沒没沬浼渼湄湈煝煤燘猸玫珻瑂痗眉眛睂睸" ++
      "矀祙禖穈篃美脄脢腜苺莓葿蘪蝞袂跊躾郿酶鋂鎂鎇镁镅霉韎鬽魅鶥鹛黣黴"),
    ("men", "亹们們悶懑懣扪捫暪椚焖燜玧璊菛虋鍆钔門閅门闷"),
    ("meng",
      "儚冡勐夢夣孟幪懜懞懵掹擝曚朦梦橗檬氋溕濛猛獴瓾甍甿盟瞢矇矒礞艋艨莔萌萠蒙蕄蘉虻蜢蝱蠓鄳鄸錳锰霥霿" ++
      "靀顭饛鯍鯭鸏鹲鼆"),
    ("mi",
      "侎冖冞冪咪嘧塓孊宓宻密峚幂幎幦弥弭彌戂擟攠敉榓樒櫁汨沕沵泌洣淧淿渳滵漞濔濗瀰灖熐爢猕獼瓕眫眯瞇祕" ++
      "祢禰秘簚米糜糸縻罙羃羋脒芈葞蒾蔝蔤藌蘼蜜覓覔覛觅詸謎謐谜谧迷醚醾醿釄銤镾靡鸍麊麋麛鼏"),
    ("mian", "丏偭免冕勉勔喕娩婂媔嬵宀愐棉檰櫋汅沔渑湎澠眄眠矈矊矏糆絻綿緜緬绵缅腼臱芇葂蝒面靣鮸麪麫麵麺黽黾"),
    ("miao", "喵妙媌庙庿廟描杪淼渺玅眇瞄秒竗篎緢緲缈苗藐邈鱙鶓鹋"),
    ("mie", "乜吀咩哶孭幭懱搣櫗滅灭烕篾蔑薎蠛衊覕鑖鱴鴓"),
    ("min",
      "僶冺刡勄垊姄岷崏忞怋悯惽愍慜憫抿捪敃敏敯旻旼暋民泯湣潣珉琘瑉痻皿盿砇碈笢笽簢緍緡缗罠苠蠠鈱錉鍲閔" ++
      "閩闵闽鰵鳘鴖"),
    ("ming", "佲冥凕名命姳嫇慏掵明暝朙椧榠洺溟猽眀眳瞑茗蓂螟覭詺鄍酩銘铭鳴鸣"),
    ("miu", "謬谬"),
    ("mo",
      "劘劰唜嗼嚤嚩嚰圽塻墨妺嫫嫼寞尛帓帞庅怽懡抹摩摸摹擵昩暯末枺模橅歾歿殁沫湐漠瀎爅獏瘼皌眜眽眿瞐瞙砞" ++
      "磨礳秣粖糢絈纆耱膜茉莈莫蓦藦蘑蛨蟔謨謩谟貃貊貘銆鏌镆陌靺饃饝馍驀髍魔魩魹麽麿默黙"),
    ("mou", "侔劺哞恈某洠牟眸瞴繆缪蛑謀谋踎鉾鍪鴾麰"),
    ("mu",
      "亩仫凩募坶墓墲姆峔幕幙慔慕拇暮木朰楘母毣毪氁沐炑牡牧牳狇畆畒畝畞畮目睦砪穆縸胟艒苜莯蚞踇鉧鉬钼雮" ++
      "霂鞪"),
    ("n", "嗯"),
    ("na", "乸哪嗱妠娜孻拏拿挐捺摨熋笝納纳肭腉蒳衲袦豽貀軜那鈉鎿钠镎雫靹魶"),
    ("nai", "乃倷奈奶妳嬭廼柰氖渿疓耏耐艿萘螚褦迺釢錼鼐"),
    ("nan", "侽南喃囔囡娚婻戁揇暔枏枬柟楠湳男畘腩莮萳蝻諵赧遖难難"),
    ("nang", "乪儾嚢囊擃攮曩欜灢蠰譨饢馕鬞齉"),
    ("nao", "匘呶垴堖夒婥嫐孬峱嶩巎怓恼悩惱憹抐挠撓淖猱獶獿瑙疒眲硇碙碯脑脳腦臑蛲蟯訥詉譊讷鐃铙閙闹鬧"),
    ("ne", "吶呐呢"),
    ("nei", "內内娞氝脮腇錗餒馁鮾鯘"),
    ("nen", "嫩嫰恁"),
    ("neng", "能"),
    ("ni",
      "伱伲你倪儗儞匿坭埿堄妮婗嫟嬺孴尼屔屰怩惄愵抳拟擬旎昵晲暱柅棿檷氼泥淣溺狔猊眤睨秜籾縌聣聻胒腝腻膩" ++
      "臡苨薿蚭蜺袮觬誽貎跜輗迡逆郳鈮铌隬霓馜鯓鯢鲵麑齯"),
    ("nian", "卄哖唸埝姩嬢孃年廿念拈捻撚撵攆涊淰焾碾秊秥簐艌蔫跈蹍蹨躎輦辇辗酿醸釀鮎鯰鲇鲶鵇黏鼰"),
    ("niang", "娘"),
    ("niao", "嫋嬝嬲尿樢脲茑蔦袅裊褭鳥鸟"),
    ("nie",
      "啮喦嗫噛嚙囁囓圼孼孽嵲嶭巕帇惗捏揑摰敜枿槷櫱涅湼痆篞籋糱糵聂聶臬臲苶菍蘖蠥讘踂踗蹑躡錜鎳鑈鑷钀镊" ++
      "镍闑陧隉顳颞齧"),
    ("nin", "囜您拰脌"),
    ("ning", "佞侫儜凝咛嚀嬣宁寍寕寗寜寧拧擰柠橣檸泞澝濘狞獰甯矃聍聹苧薴鑏鬡鸋"),
    ("niu", "妞忸扭汼炄牛牜狃紐纽莥衂鈕钮靵"),
    ("nong", "侬儂农哝噥弄挊檂欁浓濃燶癑禯秾穠繷脓膿蕽襛農辳醲齈"),
    ("nou", "啂槈檽獳羺耨譳鎒鐞"),
    ("nu", "伮傉努女奴孥弩怒恧搙朒沑砮笯籹胬衄釹钕駑驽"),
    ("nuan", "奻暖渜煖煗餪"),
    ("nue", "疟瘧硸虐"),
    ("nun", "黁"),
    ("nuo", "傩儺喏愞懦懧挪掿搦搻梛榒橠稬穤糑糥糯諾诺蹃逽郍锘"),
    ("o", "哦喔噢筽"),
    ("ou", "偶吘呕嘔塸怄慪櫙欧歐殴毆沤漚熰瓯甌耦腢膒蕅藕藲謳讴鏂鴎鷗鸥齵"),
    ("pa", "啪妑帊帕怕掱杷潖爬琶皅筢舥葩袙趴"),
    ("pai", "俳哌廹徘拍排棑派湃牌犤猅簰簲蒎輫鎃"),
    ("pan", "冸判叛媻幋拚搫攀槃沜泮洀溿潘瀊炍爿牉畔畨盘盤盼眅砙磐磻縏聁蒰蟠袢襻詊跘蹒蹣鋬鎜鑻鞶頖鵥"),
    ("pang", "乓厐厖嗙嫎庞徬旁沗滂炐耪肨胖胮膖舽螃覫逄雱霶鳑龎龐"),
    ("pao", "刨匏咆垉奅庖抛拋泡炮炰爮狍疱皰砲礟礮脬萢袍褜跑軳鞄麃麅麭"),
    ("pei", "伂佩俖呸培姵嶏帔怌斾旆柸毰沛浿珮笩肧胚蓜衃裴裵賠赔轡辔配醅锫阫陪霈馷駍"),
    ("pen", "呠喯喷噴歕湓瓫盆翸葐"),
    ("peng",
      "倗剻匉嘭堋塳弸彭怦恲憉抨挷捧掽朋梈棚椖椪槰樥淎漰澎烹熢皏砰硑硼碰磞稝竼篣篷纄膨芃莑蓬蟚蟛踫軯輣錋" ++
      "鑝閛韸韼騯髼鬅鬔鵬鹏"),
    ("pi",
      "丕仳伓伾僻劈匹啤噼噽嚊嚭圮坯埤壀媲嫓屁岯崥庀悂憵批披抷揊擗旇朇枇榌毗毘毞淠渒潎澼炋焷狉狓琵甓疈疋" ++
      "疲痞癖皮睥砒磇礔礕秛秠稫篺紕纰罴羆翍耚肶脴脾腗膍芘苉蚍蚽蚾蜱螷諀譬豼豾貔辟邳郫釽鈈鈚鈹鉟銔銢錍铍" ++
      "闢阰陴霹駓髬魮魾鮍鲏鴄鵧鷿鸊鼙"),
    ("pian", "偏囨媥楄楩片犏篇翩胼腁覑諚諞谝貵賆跰蹁鍂駢騈騗騙骈骗骿魸鶣"),
    ("piao", "僄剽勡嘌嫖彯徱慓旚殍漂犥瓢皫瞟票竂篻縹缥翲薸螵醥闝顠飃飄飘魒"),
    ("pie", "丿嫳撆撇暼氕瞥苤鐅"),
    ("pin", "品嚬姘娦嫔嬪拼榀汖牝獱玭琕矉礗穦聘薲蠙貧贫頻顰频颦馪驞"),
    ("ping",
      "乒俜凭凴呯坪塀娉屏屛岼帡帲幈平慿憑枰檘泙洴涄淜焩玶瓶甁甹砯竮箳簈缾聠胓艵苹荓萍蓱蘋蚲蛢評评軿輧郱" ++
      "頩鮃鲆"),
    ("po", "叵嘙坡婆尀岥岶敀昢桲櫇泊泼洦溌潑炇烞珀皤破砶笸粕蒪蔢謈迫鄱醗釙鉕鏺钋钷頗颇駊魄"),
    ("pou", "剖咅哣娝婄廍抔抙捊掊犃箁裒錇"),
    ("pu",
      "仆僕匍噗圃圤墣巬巭扑撲擈攴普曝朴樸檏氆浦溥潽濮瀑烳獛璞瞨穙纀脯舖舗莆菐菩葡蒱蒲襥諩譜谱贌蹼酺鋪鏷" ++
      "鐠铺镤镨陠駇鯆"),
    ("qi",
      "七乞亓亝企俟倛僛其凄剘启呇呮咠唘唭啓啔啟嘁噐器圻埼夡奇契妻娸婍屺岂岐岓崎帺弃忔忯悽愭慼慽憇憩懠戚" ++
      "掑摖攲斉斊旂旗晵暣期杞柒栔栖桤桼棄棊棋棨棲榿槭檱櫀欫欺歧气気氣汔汽沏泣淇淒渏湆湇漆濝炁猉玂玘琦琪" ++
      "璂甈畁畦疧盀盵矵砌碁碕碛碶磜磧磩祁祇祈祺禥竒簯簱籏粸綥綦綨綮綺緀緕纃绮缼罊耆肵脐臍艩芑芞芪萁萋萕" ++
      "葺蕲藄蘄蚑蚔蚚蛣蛴蜝蜞螧蟿蠐褄訖諆諬諿讫豈起跂踑蹊軝迄迉邔郪釮錡鏚锜闙霋頎颀騎騏骐骑鬐鬿魌鯕鰭鲯" ++
      "鳍鵸鶀鶈麒麡鼜齊齐"),
    ("qia", "冾圶帢恰愘拤掐殎洽硈葜跒酠鞐髂"),
    ("qian",
      "仟仱佥俔倩傔僉儙兛凵刋前千嗛圱圲堑塹墘壍奷婜媊孅孯岍岒嵌嵰忴悓悭愆慊慳扦扲拑拪掔掮揵搴撁攐攑攓杄" ++
      "棈椠榩槏槧橬檶櫏欠欦歉歬汘汧浅淺潛潜濳灊牵牽瓩皘竏签箝箞篏篟簽籖籤粁綪縴繾缱羬肷脥膁臤芊芡茜茾蒨" ++
      "蔳蕁虔蚈蜸褰諐謙譴谦谴谸軡輤迁遣遷釺鈆鈐鉗鉛銭錢鎆鏲鑓钎钤钱钳铅阡雃靬韆顅騚騝騫骞鬜鬝鰜鰬鵮鹐黔" ++
      "黚"),
    ("qiang",
      "丬呛唴嗆嗴墏墙墻嫱嬙嶈廧強强戕戗戧抢搶斨枪椌槍樯檣溬漒炝熗牄牆猐獇玱瑲篬繈繦羌羗羟羥羫羻腔艢蔃蔷" ++
      "薔蘠蜣襁謒跄蹌蹡錆鎗鏘鏹锖锵镪"),
    ("qiao",
      "乔侨俏僑僺劁喬嘺墝墽嫶峭嵪巧帩幧悄愀憔撬撽敲桥槗樵橇橋殻毃燆犞癄瞧硗硚磽礄窍竅繑缲翘翹荍荞菬蕎藮" ++
      "誚譙诮谯趫趬跷踍蹺躈郻鄡鄥釥鍫鍬鐈鐰锹陗鞒鞘鞽韒頝顦骹髚髜"),
    ("qie", "且倿切匧妾媫怯悏惬愜挈朅洯淁癿穕窃竊笡箧篋籡緁聺苆藒蛪踥郄鍥鐑锲鯜"),
    ("qin",
      "亲侵勤吢吣唚嗪噙坅埁媇嫀寑寝寢寴嵚嶔庈慬懃懄抋捦揿搇撳擒斳昑梫檎欽沁溱澿瀙珡琴琹瘽禽秦笉綅耹芩芹" ++
      "菣菦菳藽蚙螓螼蠄衾親誛赾鈙鋟钦锓雂靲顉駸骎鬵鮼鳹鵭"),
    ("qing",
      "倾傾凊剠勍卿圊埥夝寈庆庼廎情慶掅擎擏晴暒棾樈檠檾櫦殑殸氢氫氰淸清漀狅甠硘碃磘磬箐罄苘葝蜻請謦请輕" ++
      "轻郬鑋靑青靘頃顷鲭黥"),
    ("qiong", "儝匔卭宆惸憌桏橩焪焭煢熍琼璚瓊瓗睘瞏穷穹窮竆笻筇舼芎茕藑藭蛩蛬赹跫邛銎"),
    ("qiu",
      "丘丠俅叴唒囚坵媝崷巯巰恘扏搝梂楸殏毬求汓泅浗渞湭煪犰玌球璆皳盚秋秌穐篍糗紌絿緧肍莍萩蓲蘒虬虯蚯蛷" ++
      "蝤蝵蟗蠤裘觓觩訄訅賕赇趥逎逑遒邱酋醔釓釚釻銶鞦鞧鮂鯄鰌鰍鰽鳅鶖鹙鼽龝"),
    ("qu",
      "伹佉佢刞劬匤区區厺去取呿唟坥娶屈岖岨岴嶇忂憈戵抾敺斪曲朐欋氍浀淭渠灈璖璩癯瞿磲祛竘竬筁籧粬紶絇翑" ++
      "耝胊胠臞菃葋蕖蘧蛆蛐蝺螶蟝蠷蠼衐衢袪覰覷覻觑詓詘誳诎趋趣趨躣躯軀軥迲鑺镼閴闃阒阹駆駈驅驱髷魼鰸鱋" ++
      "鴝鸜鸲麮麯麴麹黢鼁鼩齲龋"),
    ("quan",
      "佺全券劝勧勸啳圈圏埢姾婘孉峑巏弮恮悛惓拳搼权棬椦楾権權汱泉洤湶烇牶牷犈犬犭瑔畎痊硂筌絟綣縓绻荃葲" ++
      "虇蜷蠸觠詮诠跧踡輇辁醛銓鐉铨闎韏顴颧駩騡鬈鰁鳈齤"),
    ("que", "却卻埆塙墧寉崅悫愨慤搉榷灍燩琷瘸皵硞确碏確碻礐礭缺蒛趞闋闕阕阙雀鵲鹊"),
    ("qun", "囷夋宭峮帬羣群裙裠逡"),
    ("ran", "冄冉呥嘫姌媣染橪然燃珃繎肰苒蒅蚦蚺衻袇袡髥髯"),
    ("rang", "儴勷嚷壌壤懹攘瀼爙獽瓤禳穣穰纕蘘譲讓让躟鬤"),
    ("rao", "娆嬈扰擾桡橈繞绕荛蕘襓遶隢饒饶"),
    ("re", "惹热熱"),
    ("ren",
      "人亻仁仞仭任刃刄壬妊姙屻岃忈忍忎扨朲杒栠栣梕棯牣祍秂秹稔紉紝絍綛纫纴肕腍芢荏荵葚衽袵訒認认讱躵軔" ++
      "軠轫鈓銋靭靱韌韧飪餁饪魜鵀"),
    ("reng", "仍扔礽芿辸陾"),
    ("ri", "囸日釰鈤馹驲"),
    ("rong",
      "傇冗坈媶嫆嬫宂容嵘嵤嶸巆戎搈搑曧栄榕榮榵毧氄溶瀜烿熔爃狨瑢穁穃絨縙绒羢肜茙茸荣蓉蝾融螎蠑褣軵鎔镕" ++
      "駥髶鴧"),
    ("rou", "厹媃宍揉柔楺渘煣瑈瓇禸粈糅肉腬葇蝚蹂輮鍒鞣韖騥鰇鶔"),
    ("ru",
      "乳侞儒入嗕嚅如媷嬬孺嶿帤扖擩曘杁桇汝洳渪溽濡燸筎縟缛肗茹蒘蓐蕠薷蝡蠕袽褥襦辱込邚鄏醹銣铷顬颥鱬鳰" ++
      "鴑鴽"),
    ("ruan", "偄堧壖媆撋朊瑌瓀碝礝緛耎軟輭软阮"),
    ("rui", "叡壡婑枘桵橤汭瑞甤睿緌繠芮蕊蕋蕤蘂蘃蚋蜹銳鋭锐"),
    ("run", "橍润潤瞤膶閏閠闰"),
    ("ruo", "偌叒嵶弱挼捼楉渃焫爇箬篛若蒻鄀鰙鰯鶸"),
    ("sa", "仨卅挱挲摋撒櫒泧洒潵灑脎萨薩虄訯躠鈒隡靸颯飒馺"),
    ("sai", "僿嗮嘥噻塞愢揌毢毸簺腮賽赛顋鰓鳃"),
    ("san", "三仐伞俕傘厁叁壭帴弎悷散橵毵毶毿犙糁糂糝糣糤繖鏒鏾閐霰饊馓鬖"),
    ("sang", "丧喪嗓搡桑桒槡磉褬鎟顙颡"),
    ("sao", "埽嫂慅扫掃掻搔氉溞瘙矂繅缫臊螦騒騷骚髞鰠鱢鳋"),
    ("se", "啬嗇懎擌栜歮歰洓涩渋澀澁濇濏瀒琗瑟璱瘷穑穡穯繬色譅轖銫鏼铯閪雭飋"),
    ("sen", "森椮槮襂"),
    ("seng", "僧鬙"),
    ("sha", "乷倽傻儍刹剎厦唦唼啑啥喢帹廈杀桬榝樧歃殺毮沙煞猀痧砂硰箑粆紗繌纱翜翣莎萐蔱裟鎩铩閯霎魦鯊鯋鲨"),
    ("shai", "晒曬筛篩簁簛繺酾釃閷"),
    ("shan",
      "傓僐删刪剡剼善嘇圸埏墠墡姍姗嬗山幓彡扇挻掞搧擅敾晱杉杣柵樿檆歚汕潬潸澘灗煔煽熌狦珊疝痁睒磰笘縿繕" ++
      "缮羴羶脠膳膻舢芟苫蟮蟺衫覢訕謆譱讪贍赡赸跚軕邖鄯釤銏鐥钐閃閊闪陕陝饍騸骟鯅鱓鱔鳝"),
    ("shang", "丄上仩伤傷商垧墒尙尚恦慯扄晌殇殤滳漡熵緔绱蔏螪裳觞觴謪賞贘赏鑜鞝鬺"),
    ("shao", "劭勺卲哨娋少弰捎旓柖梢潲烧焼燒玿睄稍竰筲紹綤绍艄芍苕莦蕱蛸袑輎邵韶颵髾鮹"),
    ("she", "佘厍厙奢射弽慑慴懾捨摂摄摵攝檨欇歙涉涻渉滠灄猞畬畲社舌舍舎蔎虵蛇蛥蠂設设賒賖赊赦輋韘騇麝"),
    ("shen",
      "伸侁侺兟呻哂堔妽姺娠婶嬸审宷審屾峷弞愼慎扟敒昚曋曑柛棽椹榊氠涁深渖渗滲瀋燊珅甚甡甧申瘆瘮眒眘瞫矤" ++
      "矧砷神祳穼籶籸紳绅罧肾胂脤腎莘葠蓡蔘薓蜃蜄裑覾訠訷詵諗讅诜谂谉身邥鋠頣頥駪魫鯵鰰鰺鲹鵢"),
    ("sheng",
      "偗剩剰勝升呏圣墭声嵊憴斘昇晠曻栍榺橳殅泩渻湦焺牲狌珄琞生甥盛省眚竔笙繩绳聖聲胜苼蕂譝貹賸鉎阩陞陹" ++
      "鵿鼪"),
    ("shi",
      "世丗乨乭亊事什仕似佦使侍兘冟势勢匙十卋叓史呞呩嗜噬埘塒士失奭始姼媞嬕实実室宩寔實尸屍屎峕崼嵵市师" ++
      "師式弑弒徥忕恀恃戺拭拾揓施时旹是昰時枾柹柿栻榁榯氏浉湜湤湿溡溮溼澨濕炻烒煶狮獅瑡眂眎眡睗矢石示礻" ++
      "祏竍笶筮篒簭籂絁舐舓莳葹蒒蒔蓍虱蚀蝕蝨螫褷襫襹視视觢試詩誓諟諡謚識识试诗谥豉豕貰贳軾轼辻适逝遈適" ++
      "遾邿釈释釋釶鈟鈰鉂鉃鉇鉈鉐鉽銴鍦铈食飠飾餙餝饣饰駛驶鮖鯴鰘鰣鰤鲥鲺鳲鳾鶳鸤鼫鼭"),
    ("shou", "兽収受售垨壽夀守寿手扌授收涭狩獣獸痩瘦綬绶艏鏉首"),
    ("shu",
      "书侸倏倐儵凁叔咰塾墅姝婌孰尌尗属屬庶庻怷恕戍抒捒掓摅攄数數暏暑曙書朮术束杸枢树梳樞樹橾殊殳毹沭淑" ++
      "漱潄潻澍濖瀭焂熟瑹璹疎疏癙秫竖竪糬紓絉綀纾署腧舒荗菽蒁蔬薥薯藷虪蜀蠴術裋襡襩豎贖赎跾踈軗輸输述鄃" ++
      "鉥錰鏣钃陎隃鮛鱪鱰鵨鶐黍鼠鼡"),
    ("shua", "刷唰耍誜"),
    ("shuai", "卛帅帥摔甩蟀衰"),
    ("shuan", "拴栓涮腨閂闩"),
    ("shuang", "双塽孀孇慡樉欆漺灀爽礵縔艭鏯雙霜騻驦骦鷞鸘鹴"),
    ("shui", "帨水氵氺涗涚睡瞓祱稅税脽裞誰谁閖"),
    ("shun", "吮橓瞚瞬舜蕣順顺鬊"),
    ("shuo", "哾妁搠朔槊欶烁爍獡矟硕碩箾蒴說説说鎙鑠铄"),
    ("si",
      "丝亖佀価俬儩兕凘厮厶司咝嗣嘶噝四姒娰媤孠寺巳廝思恖撕斯杫柶楒榹死汜泀泗泤洍涘澌瀃燍牭磃祀禗禠禩私" ++
      "竢笥籭糹絲緦纟缌罳耜肂肆蕬蕼虒蛳蜤螄蟖蟴覗貄釲鈶鈻鉰銯鋖鐁锶颸飔飤飼饲駟騦驷鷥鸶鼶"),
    ("song", "倯傱凇娀宋崧嵩嵷庺忪怂悚愯慫憽松枀枩柗梥楤檧淞濍硹竦耸聳菘蜙訟誦讼诵送鍶鎹頌颂餸駷鬆"),
    ("sou", "傁叜叟嗖嗽嗾廀廋捜搜摉摗擞擻櫢溲獀瘶瞍籔膄艘蒐蓃薮藪螋鄋醙鎪锼颼颾飕餿馊騪"),
    ("su",
      "俗傃僳嗉囌塐塑夙嫊宿愫愬憟梀榡樎樕橚櫯殐泝洬涑溯溸潚潥玊珟璛甦碿稣穌窣簌粛粟素縤肃肅膆苏莤蔌藗蘇" ++
      "蘓觫訴謖诉谡趚蹜速遡遬酥鋉餗驌骕鯂鱐鷫鹔"),
    ("suan", "匴狻痠祘笇筭算蒜酸"),
    ("sui",
      "亗倠哸埣夊嬘岁嵗攵旞檅檖歲歳浽滖澻濉瀡煫熣燧璲瓍眭睟睢砕碎祟禭穂穗穟綏繀繐繸绥膸芕荽荾葰虽襚誶譢" ++
      "谇賥遀遂邃鐆鐩隋随隧隨雖鞖韢髄髓"),
    ("sun", "孙孫损損搎榫槂狲猻笋筍箰簨荪蓀蕵薞鎨隼飧飱鶽"),
    ("suo", "乺傞唆唢嗍嗦嗩娑惢所摍暛桫梭溑溹琐琑瑣璅睃簑簔索縮缩羧莏蓑蜶褨趖逤鎈鎍鎖鎻鏁锁髿鮻"),
    ("ta",
      "亣他侤咜嚃嚺塌塔墖她它崉拓挞搨撻榙榻橽毾涾溚溻澾濌牠狧獭獺祂禢褟誻譶趿跶踏蹋蹹躢遝遢錔铊闒闥闧闼" ++
      "鞜鞳鮙鰨鳎"),
    ("tai", "儓冭台囼坮太夳嬯孡忲态態抬擡旲枱檯汰泰溙炱炲燤箈籉粏肽胎臺舦苔菭薹跆邰酞鈦钛颱駘鮐鲐"),
    ("tan",
      "倓傝僋叹嗿嘆坍坛坦埮墰墵壇壜婒忐怹惔憛憳憻抩探摊擹攤昙曇榃檀歎毯湠滩潭灘炭燂璮痑痰瘫癱碳磹罈罎舑" ++
      "舕菼藫袒襢覃談譚譠谈谭貚貪賧贪郯醈醓醰鉭錟钽锬顃餤"),
    ("tang",
      "伖倘偒傏傥儻劏唐啺嘡坣堂塘帑戃搪摥曭棠榶樘橖汤淌湯溏漟烫煻燙爣瑭矘磄禟篖糃糖糛羰耥膅膛蓎薚蝪螗螳" ++
      "赯趟踼蹚躺鄌醣鎕鎲鏜鐋钂铴镋镗闛隚鞺餳餹饄饧鶶鼞"),
    ("tao",
      "匋咷啕夲套嫍幍弢慆掏搯桃梼槄檮洮涛淘滔濤瑫祹絛綯縚縧绦绹萄蜪裪討詜謟讨轁迯逃醄鋾錭陶鞀鞉鞱韜韬飸" ++
      "饀饕駣騊鼗"),
    ("te", "忑忒慝特蚮螣蟘貣鋱铽"),
    ("teng", "儯幐滕漛熥疼痋籐籘縢腾膯藤虅誊謄邆霯駦騰驣鰧鼟"),
    ("ti",
      "体倜偍剃剔厗啼嗁嚏嚔屉屜崹嵜徲悌悐惕惖惿戻挮掦提揥擿替朑梯楴歒殢洟涕漽瑅瓋碮禵稊笹籊綈緹绨缇罤苐" ++
      "荑蕛薙蝭裼褅褆謕趧趯踢蹄蹏躰軆迏逖逷遆醍銻鍗锑題题騠骵體髰鬀鮧鮷鯷鳀鴺鵜鶗鶙鷈鷉鷤鹈"),
    ("tian",
      "倎兲唺塡填天婖屇忝恬悿掭搷晪殄沺淟添湉琠璳甛甜田畋畑畠痶盷睓睼碵磌窴緂胋腆舔舚菾覥觍賟酟鈿錪鍩闐" ++
      "阗靔靝靦餂鴫鷆鷏黇"),
    ("tiao", "佻嬥宨岧岹庣恌挑斢旫晀朓条條樤眺祒祧窕窱笤粜糶絩聎脁芀萔蓚蓨蜩螩覜誂趒跳迢鋚鎥鞗髫鯈鰷鲦齠龆"),
    ("tie", "僣呫帖怗聑萜蛈貼贴銕鋨鐡鐵铁飻餮驖鴩"),
    ("ting",
      "亭侹停厅厛听圢娗婷嵉庁庭廰廳廷挺桯梃楟榳汀涏渟烃烴烶珽町甼筳綎耓聤聴聼聽脡艇艼莛葶蜓蝏誔諪邒閮霆" ++
      "鞓頲颋鼮"),
    ("tong",
      "仝佟僮勭同哃嗵囲峂峝庝彤恸慟憅捅晍曈朣桐桶樋橦氃浵潼炵烔燑犝狪獞痌痛眮瞳砼秱童筒筩粡統綂统膧茼蓪" ++
      "蚒衕詷赨通酮鉖鉵銅铜餇鮦鲖"),
    ("tou", "亠偷偸头妵婾媮投敨紏綉緰蘣透鋀鍮钭頭飳骰黈"),
    ("tu",
      "兎兔凃凸吐唋図图圕圖圗土圡堍堗塗宊屠峹嵞嶀庩廜徒怢悇捈捸揬梌汢涂涋湥潳痜瘏禿秃稌突筡腯荼莵菟葖蒤" ++
      "跿迌途酴釷鈯鋵鍎钍馟駼鵌鵚鵵鶟鷋鷵鼵"),
    ("tuan", "剸团団團彖慱抟摶槫檲湍湪漙煓猯疃篿糰褖貒鏄鷒鷻"),
    ("tui", "侻俀僓娧尵弚推煺穨腿蓷藬蘈蛻蜕褪蹆蹪退隤頹頺頽颓駾骽魋"),
    ("tun", "吞呑啍噋坉屯忳旽暾朜氽涒焞畽臀臋芚豘豚軘霕飩饨魨鲀黗"),
    ("tuo",
      "乇仛佗侂咃唾坨堶妥媠嫷岮庹彵托扡拕拖挩捝杔柝椭楕槖橐橢毤毻汑沰沱沲涶狏砣砤碢箨籜紽脫脱莌萚蘀袉袥" ++
      "託讬跅跎迱酡陀陁飥饦馱駄駝駞騨驒驝驮驼鬌魠鮀鰖鴕鵎鸵鼉鼍鼧"),
    ("wa", "佤劸咓哇嗗嗢娃娲媧屲挖搲攨洼溛漥瓦瓲畖穵窊窪聉腽膃蛙袜襪邷韈韤鼃"),
    ("wai", "喎外夞崴歪竵顡"),
    ("wan",
      "万丸倇刓剜卍卐唍埦塆壪妧婉婠完宛岏帵弯彎忨惋抏挽捖捥晚晩晼杤梚椀汍湾潫澫灣烷玩琓琬畹皖盌睕碗笂紈" ++
      "綩綰纨绾翫脕脘腕芄菀萖萬薍蜿蟃豌貦贃贎踠輐輓邜鋄鋔錽鎫頑顽"),
    ("wang", "亡亾仼兦妄尣尩尪尫彺往徃徍忘惘旺暀望朢枉棢汪瀇焹王盳網网罒罔莣菵蚟蛧蝄誷輞辋迋魍"),
    ("wei",
      "为伟伪位偉偎偽僞儰卫危厃叞味唯喂喡喴囗围圍圩墛壝委威娓媁媙媦寪尉尾屗峗峞崣嵔嵬嶶巍帏帷幃徫微惟愄" ++
      "愇慰懀捤揋揻撱斖暐未桅梶椲椳楲欈沩洈洧浘涠渨渭湋溈溦潍潙潿濰濻瀢炜為烓煀煒煟煨熭燰爲犚犩猥猬玮琟" ++
      "瑋璏畏痏痿癓硊硙碨磈磑維緭緯縅纬维罻胃腲艉芛苇苿荱菋萎葦葨葳蒍蓶蔚蔿薇薳藯蘤蘶蜲蜼蝛蝟螱衛衞褽覣" ++
      "覹詴諉謂讆讏诿谓踓躗躛軎轊违逶違鄬醀鍏鍡鏏闈闱隇隈霨霺韋韑韙韡韦韪頠颹餧餵饖骩骪骫魏鮇鮠鮪鰃鰄鲔" ++
      "鳂鳚"),
    ("wen",
      "刎匁吻呚呡問塭妏彣忟抆揾搵文昷桽榅殟汶渂温溫炆玟珳琝瑥璺瘒瘟稳穏穩紊紋纹聞肳脗芠莬蕰蚉蚊螡蟁豱輼" ++
      "轀辒鈫鎾閺閿闅闦问闻阌雯鞰顐馼魰鰛鰮鳁鳼鴍鼤"),
    ("weng", "勜嗡塕奣嵡暡滃瓮甕瞈罋翁聬蓊蕹螉鎓鶲鹟齆"),
    ("wo", "仴倭偓卧唩婐媉幄我挝捰捾握撾擭斡枂楃沃涡涴涹渥渦濣焥猧瓁瞃硪窝窩肟腛臒臥莴萵蜗蝸踒雘齷龌"),
    ("wu",
      "乄乌五仵伆伍侮俉倵儛兀剭务務勿午卼吳吴吾呉呜唔啎嗚圬坞塢奦妩娪娬婺嫵寤屋屼岉嵍嵨巫庑廡弙忢忤怃悞" ++
      "悟悮憮戊扤捂摀敄无旿晤杇杌梧橆歍武毋汙汚污洖洿浯溩潕烏焐無熃熓物牾玝珷珸瑦璑甒痦矹碔祦禑窏窹箼粅" ++
      "舞芜芴茣莁蕪蘁蜈螐蟱誈誣誤譕诬误躌迕逜遻邬郚鄔鋈錻鎢钨铻阢隖雺雾霚霧靰騖骛鯃鰞鴮鵐鵡鶩鷡鹀鹉鹜鼯" ++
      "鼿齀"),
    ("xi",
      "习係俙傒僖兮凞匸卌卥厀吸呬咥唏唽喜喺嘻噏嚱囍墍壐夕奚媳嬆嬉屃屖屣屭嵠嶍嶲巇希席徆徙徯忚忥怬怸恄恓" ++
      "息悉悕惁惜慀憘憙戏戱戲扱扸捿昔晞晰晳暿曦析枲桸椞椺榽槢樨橀橲檄欯欷歖氥汐洗浠淅渓溪滊漇漝潝潟澙烯" ++
      "焁焈焟焬煕熂熄熈熙熹熺熻燨爔牺犀犔犠犧狶玺琋璽瘜皙盻睎瞦矖矽硒磎磶礂禊禧稀稧穸窸粞糦系細綌緆縘縰" ++
      "繥繫细绤羲習翕翖肸肹膝舃舄舾莃菥葈葸蒠蒵蓆蓰蕮薂虩蜥螅螇蟋蟢蠵衋袭襲西覀覡覤觋觹觽觿諰謑謵譆谿豀" ++
      "豨豯貕赥赩趇趘蹝躧郋郗郤鄎酅醯釳釸鈢鉨鉩錫鎴鏭鑴铣锡闟阋隙隟隰隵雟霫霼飁餏餼饩饻騱騽驨鬩鯑鰼鱚鳛" ++
      "鵗鸂黖鼷"),
    ("xia",
      "丅下乤侠俠傄匣吓嚇圷夏夓峡峽懗敮暇柙梺溊炠烚煆煵狎狭狹珨瑕疜疨睱瞎硖硤碬磍祫筪縀縖罅翈舝舺蕸虲虾" ++
      "蝦谺赮轄辖遐鍜鎋鎼鏬閕閜陜陿霞颬騢魻鰕鶷黠"),
    ("xian",
      "仙仚伣伭佡僊僩僲僴先冼县咞咸哯唌啣嘕垷壏奾妶姭娊娨娴娹婱嫌嫺嫻嬐宪尟尠屳岘峴崄嶮幰廯弦忺憪憲憸挦" ++
      "掀搟撊撏攇攕显晛暹杴枮橌櫶毨氙涀涎澖瀗灦烍燅燹狝猃献獫獮獻玁现珗現甉痫癇癎県睍瞯硍礥祆禒秈稴筅箲" ++
      "籼粯糮絃絤綫線縣繊纎纖纤线缐羡羨胘腺臔臽舷苋苮莧莶薟藓藖蘚蚬蚿蛝蜆衔衘褼襳訮誢誸諴譣豏賢贒贤赻跣" ++
      "跹蹮躚輱酰醎銑銛銜鋧錎鍁鍌鑦铦锨閑閒闲限陥险陷険險韅韯韱顕顯餡馅馦鮮鱻鲜鶱鷳鷴鷼鹇鹹麙麲鼸"),
    ("xiang",
      "乡享亯佭像勨厢向响啌嚮塂姠嶑巷庠廂忀想晑曏栙楿橡欀湘珦瓖瓨相祥稥箱絴緗缃缿翔膷芗萫葙薌蚃蟓蠁衖襄" ++
      "襐詳详象跭郷鄉鄊鄕銄銗鐌鑲镶闀響項项飨餉饗饟饷香驤骧鮝鯗鱌鱜鱶鲞麘"),
    ("xiao",
      "侾俲傚効呺咲哓哮啸嘋嘐嘨嘯嘵嚣嚻囂婋孝宯宵小崤庨彇恷憢揱效敩斅斆晓暁曉枭枵校梟櫹歊歗殽毊洨消涍淆" ++
      "滧潇瀟灱灲焇熽猇獢痚痟皛皢硝硣穘窙笅笑筊筱筿箫篠簘簫綃绡翛肖膮萧萷蕭藃虈虓蟂蟏蟰蠨訤詨誟誵謏踃逍" ++
      "郩銷销霄鞩驍骁髇髐魈鴞鴵鸮"),
    ("xie",
      "些亵伳偕偞偰僁写冩劦勰协協卨卸嗋噧垥塮夑奊娎媟寫屑屓屟屧峫嶰廨徢恊愶懈拹挟挾揳携撷擕擷攜斜旪暬械" ++
      "楔榍榭歇泄泻洩渫澥瀉瀣灺炧烲焎熁燮燲爕猲獬瑎祄禼糏紲絏絬綊緤緳繲纈绁缬缷翓胁脅脇脋膎薢薤藛蝎蝢蟹" ++
      "蠍蠏衺褉褻襭諧謝讗谐谢躞邂邪鞋鞢鞵韰頡駴齂齘齛齥龤"),
    ("xin", "伈伩信俽噺囟妡嬜孞廞心忄忻惞新昕杺枔欣歆炘焮煡盺脪舋芯薪衅襑訢訫軐辛邤釁鈊鋅鐔鑫锌阠顖馨馫馸"),
    ("xing",
      "侀倖兴刑哘型垶姓娙婞嬹幸形性悻惺擤星曐杏洐涬滎煋猩瑆皨睲硎箵篂緈腥臖興荇荥莕蛵行裄觪觲謃邢郉醒鈃" ++
      "鉶銒鋞鍟钘铏陉陘騂骍鮏鯹"),
    ("xiong", "兄兇凶匈哅夐忷恟敻汹洶焸焽熊胷胸訩詗詾讻诇賯雄"),
    ("xiu",
      "休俢修咻嗅岫峀庥朽樇溴滫烋烌珛琇璓秀糔綇繍繡绣羞脙脩臹苬螑袖褎褏貅銝銹鎀鏅鏥鏽锈飍饈馐髤髹鮴鱃鵂" ++
      "鸺齅"),
    ("xu",
      "伵侐俆偦冔勖勗卹叙吁呴喣嘘噓垿墟壻姁婿媭嬃幁序徐怴恤慉戌揟敍敘旭旴昫晇暊朂栩楈槒欨欰歔殈汿沀洫湑" ++
      "溆漵潊烅烼煦獝珝珬疞盢盨盱瞁瞲稰稸窢糈絮続緒緖縃繻續绪续聓聟胥芧蒣蓄蓿蕦藇藚虗虚虛蝑裇訏許訹詡諝" ++
      "譃许诩谞賉鄦酗醑銊鑐需須頊须顼驉鬚魆魖魣鱮"),
    ("xuan",
      "儇吅咺喧塇媗嫙宣弲怰悬愃愋懁懸揎旋昍昡晅暄暶梋楥楦檈泫渲漩炫烜煊玄玹琁琄瑄璇璿痃癣癬眩眴睻矎碹禤" ++
      "箮絢縇縼繏绚翧翾萱萲蓒蔙蕿藼蘐蜁蝖蠉衒袨諠諼譞讂谖贙軒轩选選鉉鋗鍹鏇铉镟鞙顈颴駽鰚"),
    ("xue", "乴削吷坹壆学學岤峃嶨斈桖樰泶澩瀥燢狘疶穴膤艝茓蒆薛血袕觷謔谑趐踅轌辥辪雤雪靴鞾鱈鳕鷽鸴"),
    ("xun",
      "伨侚偱勋勛勲勳卂噀噚嚑坃埙塤壎壦奞寻尋峋巡巺巽廵徇循恂愻揗攳旬曛杊栒桪槆樳殉殾毥汛洵浔潃潠潯灥焄" ++
      "熏燖燻爋狥獯珣璕畃矄稄窨紃纁臐荀荨蔒蕈薫薰蘍蟳訊訓訙詢训讯询賐迅迿逊遜鄩醺鑂顨馴駨驯鱏鱘鲟鵕"),
    ("ya",
      "丫乛亚亜亞伢俹劜厊压厑厓吖呀哑唖啞圔圠圧垭埡堐壓娅婭孲岈崕崖庌庘押挜掗揠枒桠椏氩氬涯漄牙犽猚猰玡" ++
      "琊瑘痖瘂睚砑稏窫笌聐芽蕥蚜衙襾訝讶軋轧迓錏鐚铔雅鴉鴨鵶鸦鸭齖齾"),
    ("yan",
      "严乵俨偃偐偣傿儼兖兗剦匽厌厣厭厳厴咽唁啱喭噞嚥嚴堰塩墕壛壧夵奄妍妟姲姸娫娮嫣嬊嬮嬿孍宴岩崦嵃嵒嵓" ++
      "嶖巌巖巗巘巚延弇彥彦恹愝懕懨戭扊抁掩揅揜敥昖晏暥曕曣曮棪椻椼楌樮檐檿櫩欕沇沿淊淹渰渷湮湺溎滟演漹" ++
      "灎灔灧灩炎烟烻焉焑焔焰焱煙熖燄燕爓牪狿猒珚琂琰甗盐眼研砚硏硯硽碞礹筵篶簷綖縯罨胭腌臙艳艶艷芫莚菸" ++
      "萒葕蔅虤蜒蝘衍裺褗覎觃觾言訁詽諺讌讞讠谚谳豓豔贋贗赝躽軅遃郔郾鄢酀酓酽醃醶醼釅閆閹閻闫阉阎隁隒雁" ++
      "顏顔顩颜餍饜騐験騴驗驠验鬳魇魘鰋鳫鴈鴳鶠鷃鷰鹽麣黡黤黫黬黭黶鼴鼹齞齴龑"),
    ("yang",
      "仰佒佯傟养劷咉坱垟央奍姎岟崵崸徉怏恙慃懩扬抰揚攁敭旸昜暘杨柍样楊楧様樣殃氜氧氱泱洋漾瀁炀炴烊煬珜" ++
      "疡痒瘍癢眏眻礢禓秧紻羊羏羕羪胦蛘蝆詇諹軮輰鉠鍚鐊钖阦阳陽雵霷鞅颺飏養駚鰑鴦鴹鸉鸯"),
    ("yao",
      "仸倄偠傜吆咬喓嗂垚堯夭妖姚婹媱宎尧尭岆峣崾嶢嶤幺徭愮抭揺搖摇暚曜杳枖柼楆榚榣殀溔烑熎燿爻狕猺獟珧" ++
      "瑤瑶眑矅祅穾窅窈窑窔窯窰筄繇纅耀肴腰舀艞苭药葯葽蓔薬藥蘨袎要覞訞詏謠謡讑谣軺轺遙遥邀邎銚鎐鑰钥闄" ++
      "靿顤颻飖餆餚騕鰩鳐鴁鴢鷂鷕鹞鼼齩"),
    ("ye",
      "业也亪亱倻僷冶叶吔啘嘢噎嚈埜堨墷壄夜嶪嶫抴捓掖揶擛擨擪擫晔暍曄曅曗曳曵枼枽椰楪業歋殗液漜潱澲烨燁" ++
      "爗爷爺皣瞱瞸礏耶腋葉蠮謁谒邺鄓鄴野釾鋣鍱鎁鎑鐷铘靥靨頁页餣饁馌驜鵺鸈"),
    ("yi",
      "一乁乂义乊乙亄亦亿以仪伇伊伿佁佚佾侇依俋倚偯儀億兿冝凒刈劓劮勚勩匇匜医吚呓呭呹咦咿唈噫囈圛圯坄垼" ++
      "埶埸墿壱壹夁夷奕姨媐嫕嫛嬄嬑嬟宐宜宧寱寲屹峄峓崺嶧嶬嶷已巸帟帠幆庡廙异弈弋弌弬彛彜彝彞役忆怈怡怿" ++
      "恞悒悘悥意憶懌懿扅扆抑拸挹捙掜揖撎攺敡敼斁旑旖易晹暆曀曎杙枍枻柂栘栧栺桋棭椅椬椸榏槸檍檥檹欥欭欹" ++
      "歝殔殪殹毅毉沂沶泆洂洢浂浥浳湙溢漪潩澺瀷炈焲熠熤熪熼燚燡燱狋猗獈玴珆瑿瓵畩異疑疫痍痬瘗瘞瘱癔益眙" ++
      "睪瞖矣硛礒祎禕秇移稦穓竩笖箷簃籎縊繄繶繹绎缢羛羠義羿翊翌翳翼耛耴肄肊肔胰膉臆舣艗艤艺芅苅苡苢萓萟" ++
      "蓺薏藙藝蘙虉蚁蛜蛡蛦蜴螔螘螠蟻衣衤衪衵袘袣裔裛裿褹襼觺訑訲訳詍詑詒詣誃誼謻譩譯議讉讛议译诒诣谊豙" ++
      "豛豷貤貽賹贀贻跇跠踦軼輢轙轶辷迆迤迻逘逸遗遺邑郼酏醫醳醷釔釴鈠鉯銥鎰鏔鐿钇铱镒镱陭隿霬靾頉頤顊顗" ++
      "颐飴饐饴駅驛驿骮鮨鯣鳦鶂鶃鶍鷁鷊鷖鷧鷾鸃鹝鹢鹥黓黟黳齮齸"),
    ("yin",
      "乑乚侌冘凐印吟吲喑噖噾嚚囙因圁垔垠垽堙堷夤姻婣婬寅尹峾崟崯嶾廕廴引愔慇慭憖憗懚摿斦朄栶檃檭檼櫽歅" ++
      "殥殷氤泿洇洕淫淾湚溵滛濥濦烎犾狺猌珢璌瘖瘾癊癮碒磤禋秵筃粌絪緸胤苂茚茵荫荶蒑蔩蔭蘟蚓螾蟫裀訔訚訡" ++
      "誾諲讔赺趛輑鄞酳鈏鈝銀銦铟银闉阥阴陰陻隂隐隠隱霒霠霪靷鞇音韾飮飲饮駰骃鮣鷣齗龂"),
    ("ying",
      "偀僌啨営嘤噟嚶塋婴媖媵嫈嬰嬴孆孾巊应廮影応愥應摬撄攍攖攚映暎朠桜梬楹樱櫻櫿浧渶溁溋滢潁潆濙濚濴瀅" ++
      "瀛瀠瀯瀴灐灜煐熒營珱瑛瑩璄璎瓔甇甖瘿癭盁盈矨硬碤礯穎籝籯緓縄縈纓绬缨罂罃罌膡膺英茔荧莹莺萤营萦萾" ++
      "蓥藀蘡蛍蝇蝧蝿螢蠅蠳褮覮謍譍譻賏贏赢軈迎郢鍈鎣鐛鑍锳霙鞕韺頴颍颕颖鱦鴬鶑鶧鶯鷪鷹鸎鸚鹦鹰"),
    ("yo", "哟唷喲"),
    ("yong",
      "佣俑傛傭勇勈咏喁嗈噰埇塎墉壅嫞嵱庸廱彮怺恿悀惥愑愹慂慵拥揘擁柡栐槦永泳涌湧滽澭灉牅用甬痈癕癰砽硧" ++
      "禜臃苚蛹詠踊踴邕郺鄘醟鏞镛雍雝顒颙饔鯒鰫鱅鲬鳙鷛"),
    ("you",
      "丣亴优佑侑偤優卣又友右呦哊唀嚘囿姷孧宥尢尤峟峳幼幽庮忧怣怮悠憂懮攸斿有柚栯梄楢槱櫌櫾沋油泑浟游湵" ++
      "滺瀀牖牗牰犹狖猶猷由疣祐禉秞糿纋羐羑耰聈肬脜苃莜莠莸蒏蕕蚰蚴蜏蝣訧誘诱貁輏輶迶逌逰遊邮郵鄾酉酭釉" ++
      "鈾銪铀铕駀魷鮋鱿鲉麀黝鼬"),
    ("yu",
      "与乻予于亐伃伛余俁俞俣俼偊傴儥兪匬唹喅喐喩喻噊噳圄圉圫域堉堣堬妤妪娛娯娱媀嫗嬩宇寓寙屿峪峿崳嵎嵛" ++
      "嶎嶼庽庾彧御忬悆惐愈愉愚慾懙戫扜扵挧揄敔斔斞於旕旟昱杅桙棛棜棫楀楡楰榆櫲欎欝欤欲歈歟歶毓毺浴淢淤" ++
      "淯渔渝湡滪漁潏澚澞澦灪焴煜燏燠爩牏狱狳獄玉玗玙琙瑀瑜璵畭瘀瘉瘐癒盂盓睮矞砡硢硲礇礖礜祤禦禹禺秗稢" ++
      "稶穥穻窬窳竽箊篽籅籞籲紆緎繘纡罭羭羽聿肀育腴臾舁舆與艅艈芋芌茟茰荢萭萮萸蒮蓣蓹蕍蕷薁蘌蘛虞虶蜟蜮" ++
      "蝓螸衧裕褕覦觎誉語諛諭謣譽语谀谕豫貐踰軉輍輿轝迂迃逳逾遇遹邘郁鄅酑醧鈺銉鋊鋙錥鍝鐭钰閾阈陓隅雓雨" ++
      "雩霱預頨预飫餘饇饫馀馭騟驈驭骬髃鬰鬱鬻魊魚鮽鯲鰅鱊鱼鳿鴥鴪鵒鷠鷸鸆鸒鹆鹬麌齬龉龥"),
    ("yuan",
      "傆元円冤剈原厡厵员員噮囦园圆圎園圓垣垸塬夗妴媛媴嫄嬽寃怨悁惌愿掾援杬棩榞榬橼櫞沅淵渁渆渊渕湲源溒" ++
      "灁爰猨猿獂瑗盶眢禐笎箢緣縁缘羱肙苑茒葾蒝蒬薗蚖蜎蜵蝝蝯螈衏袁裫裷褑褤謜貟贠轅辕远逺遠邍邧酛鈨鋺鎱" ++
      "院願駌騵魭鳶鴛鵷鶢鶰鸢鸳鹓黿鼋鼘鼝"),
    ("yue",
      "刖妜嬳岄岳嶽彟彠恱悅悦戉抈捳曰曱月樾瀹爚玥矱礿禴箹篗籆籥籰粤粵約约蘥蚎蚏越跀跃躍軏鈅鉞钺閱閲阅鸑" ++
      "鸙黦龠"),
    ("yun",
      "云傊允勻匀喗囩夽奫妘孕恽惲愠愪慍抎抣昀晕暈枟榲橒殒殞氲氳沄涢溳澐煴熅熉熨狁畇眃磒秐筠筼篔紜緷緼縕" ++
      "縜繧纭缊耘耺腪芸荺蒀蒕蒷蕓蕴薀藴蘊蝹褞賱贇赟运運郓郧鄆鄖酝醖醞鈗鋆阭陨隕雲霣韗韞韫韵韻頵餫饂馧馻" ++
      "齳"),
    ("za", "偺匝咂咋喒囋囐嶻帀拶杂沞砸磼紥紮臜臢襍迊鉔雑雜雥韴魳"),
    ("zai", "侢傤儎再哉在宰崽扗栽洅渽災灾烖甾睵縡菑賳載载酨"),
    ("zan", "儧儹兂咱噆寁揝撍攅攒攢昝暂暫桚沯濽灒瓉瓒瓚礸禶簪簮糌襸讃讚賛贊赞趱趲蹔鄼酇錾鏨鐕鐟饡"),
    ("zang", "匨塟奘弉牂羘脏臓臟臧葬蔵賍賘贓贜赃銺駔驵髒"),
    ("zao", "傮凿唕唣喿噪慥早枣栆梍棗澡灶燥璪皁皂竃竈簉糟繰艁薻藻蚤譟趮蹧躁造遭醩鑿"),
    ("ze", "仄伬则則唶啧嘖夨嫧崱帻幘庂択择捑擇昃昗樍汄沢泎泽溭澤皟瞔矠礋笮箦簀舴荝蔶蠌襗諎謮責賾责赜迮鸅齚齰"),
    ("zei", "戝蠈賊贼鯽鰂鱡鲗"),
    ("zen", "囎怎譖譛谮"),
    ("zeng", "増增憎橧熷璔甑矰磳繒缯罾譄贈赠鄫鋥锃鱛"),
    ("zha",
      "乍偧劄厏吒咤哳喳奓宱扎抯拃挓揸搩搾摣札柞柤査栅楂榨樝渣溠灹炸煠牐甴痄皶皻眨砟箚耫苲蚱蚻觰詐譇譗诈" ++
      "踷醡鍘铡閘闸霅鮓鮺鲊鲝齄齇"),
    ("zhai", "债債夈宅寨捚摘斋斎榸檡瘵砦窄粂鉙齋"),
    ("zhan",
      "佔偡占噡嫸展崭嶃嶄嶘嶦惉战戦戰搌斩斬旃旜栈栴桟棧椫榐橏毡氈氊沾湛琖盏盞瞻站粘綻绽菚薝蘸虥虦蛅覱詀" ++
      "詹譧譫讝谵趈輚輾轏邅醆閚霑颭飐飦饘驏驙魙鱣鳣鸇鹯黵"),
    ("zhang",
      "丈仉仗傽墇嫜嶂帐帳幛幥张張彰慞扙掌暲杖樟涨涱漲漳獐璋痮瘬瘴瞕礃章粀粻胀脹蔁蟑賬账遧鄣鏱鐣障餦騿鱆" ++
      "麞"),
    ("zhao", "佋兆召啁垗妱巶找招旐昭曌枛棹櫂沼炤照燳爪爫狣瑵皽盄瞾窼笊罀罩羄肁肇肈詔诏赵趙釗鉊鍣钊駋鮡"),
    ("zhe",
      "乽厇哲啠啫喆嗻嚞埑嫬悊折摺晢晣柘樜歽浙淛潪着矺砓磔禇籷粍者著蔗虴蛰蜇蟄蟅袩褶襵詟謫謺讁讋谪赭輒輙" ++
      "轍辄辙这這遮銸锗馲鮿鷓鹧"),
    ("zhen",
      "侦侲偵圳塦嫃寊屒帪弫抮挋振揕搸敶斟昣朕枕栕栚桢桭楨榛樼殝浈潧澵獉珍珎瑧瑱甄甽畛疹眕眞真眹砧碪祯禎" ++
      "禛稹箴籈紖紾絼縥纼缜聄胗臻萙葴蒖蓁薽袗裖診誫诊貞賑贞赈軫轃轸遉酖酙針鉁鋴錱鍼鎭鎮针镇阵陣震靕駗鬒" ++
      "鱵鴆鸩黰"),
    ("zheng",
      "争佂凧埩塣姃媜峥崝崢帧幀征徰徴徵怔愸抍拯挣掙掟揁撜政整晸正氶炡烝爭狰猙症癥眐睁睜筝箏篜糽聇蒸証諍" ++
      "證证诤踭郑鄭鉦錚钲铮鬇鯖鴊"),
    ("zhi",
      "之乿侄俧倁値值偫傂儨凪制劕劧卮厔只吱咫嗭址坁坧垁埴執墆墌夂妷姪娡嬂寘峙崻巵帋帙帜幟庢庤廌彘徏徔徝" ++
      "志忮怾恉慹憄懥懫戠执扺扻抧挃指挚掷搘搱摭摯擲擳支旘旨晊智枝枳柣栀栉桎梔梽植椥楖榰樴櫍櫛止殖汁汥汦" ++
      "沚治泜洔洷淔淽滍滞滯漐潌瀄炙熫犆狾猘瓆瓡畤疐疷疻痔痣直知砋礩祉祑祗祬禃禔秓秖秩秪秲秷稙稚稺穉窒筫" ++
      "紙紩絷綕緻縶織纸织置翐聀职職肢胑胝脂膣膱至致臸芖芝芷藢蘵蛭蜘螲蟙衹衼袟袠製褁襧覟觗觯觶訨誌謢豑豒" ++
      "豸貭質贄质贽趾跖跱踬踯蹠躑躓軄軹軽輊轵轾迣郅酯釞鉄銍鋕鑕铚锧阤阯陟隻雉馶馽駤騭騺驇骘鯯鳷鴙鴲鵄鷙" ++
      "鸷黹鼅"),
    ("zhong",
      "中仲伀众偅冢刣喠堹塚塜妐妕媑尰幒彸忠柊歱汷泈炂煄狆瘇盅眾祌种種穜筗籦終终肿腫舯茽蔠蚛螤螽衆衳衶衷" ++
      "諥踵蹱迚重鈡銿鍾鐘钟锺鼨"),
    ("zhou",
      "伷侜僽冑周呪咒咮喌噣妯宙州帚徟掫昼晝晭洲淍炿烐珘甃疛皱皺盩睭矪箒籀籒籕粙粥紂縐纣绉肘胄舟荮菷葤詋" ++
      "詶謅譸诌诪賙赒軸輈輖轴辀週郮酎銂霌駎駲騆驟骤鯞鵃鸼"),
    ("zhu",
      "丶主伫佇住侏劚助劯嘱囑坾墸壴孎宔嵀拄斸曯朱杼柱株槠樦橥櫧櫫欘殶泏注洙渚潴濐瀦灟炢炷烛煑煮燭爥猪珠" ++
      "疰瘃眝瞩矚砫硃祝祩秼窋竚竹竺笁笜筑筯箸築篫紵紸絑纻罜羜翥舳苎茱茿莇蛀蛛蝫蠋蠩蠾袾註詝誅諸诛诸豬貯" ++
      "贮跓跦躅軴迬逐邾鉒銖鋳鑄铢铸陼霔馵駐駯驻鮢鯺鱁鴸麆麈鼄"),
    ("zhua", "抓檛簻膼髽"),
    ("zhuai", "拽跩"),
    ("zhuan", "专僎叀啭囀堟塼嫥孨専專撰灷瑑瑼甎砖磗磚竱篆篹籑腞膞蒃蟤襈諯譔賺赚転轉转鄟顓颛饌馔鱄"),
    ("zhuang", "壮壯壵妆妝娤庄庒戇撞桩梉樁湷漴焋状狀粧糚荘莊装裝"),
    ("zhui", "坠墜娷惴桘沝甀畷硾礈笍綴縋缀缒膇諈譵贅赘轛追醊錐錣鑆锥隹餟騅骓鵻"),
    ("zhun", "准凖埻宒準稕窀綧肫衠訰諄谆迍"),
    ("zhuo",
      "丵倬劅卓叕啄啅圴妰娺彴拙捉撯擆擢斀斫斱斲斵晫桌梲棁棳椓槕櫡汋浊浞涿濁濯灂灼炪烵犳琸硺禚穛穱窡窧篧" ++
      "籗籱罬茁蠗蠿諁諑謶诼酌鋜鐯鐲镯鵫鷟"),
    ("zi",
      "乲仔倳兹剚吇呰咨啙嗞姉姊姕姿子字孜孳孶崰嵫恣杍栥梓椔榟橴淄渍湽滋滓漬澬牸玆璾眥眦矷禌秄秭秶稵笫籽" ++
      "粢紎紫緇缁耔胏胔胾自芓茊茡茲葘蓻虸觜訾訿諮谘貲資赀资趑趦輜輺辎鄑釨鈭錙鍿鎡锱镃頾頿髭鯔鰦鲻鶅鼒齍" ++
      "龇"),
    ("zong",
      "倊倧偬傯堫宗嵏嵕嵸总惣惾愡捴揔搃摠昮朡棕椶潈熧猔猣疭瘲碂磫稯粽糉糭綜緃総緵縂縦縱總纵综翪腙葼蓗蝬" ++
      "豵踨踪蹤錝鍐鏓鑁騌騣骔鬃鬉鬷鯮鯼"),
    ("zou", "奏揍棷棸楱箃緅菆諏诹走赱邹郰鄒鄹陬騶驺鯐鯫鲰黀齱齺"),
    ("zu", "俎傶卆卒哫崒崪族爼珇祖租箤組组葅蒩詛诅足踤踿鎺鏃镞阻靻"),
    ("zuan", "攥籫繤纂纉纘缵躜鑚鑽钻"),
    ("zui", "厜嗺嘴噿嶊嶵晬最朘枠栬槜樶檇檌璻祽稡穝絊纗罪蕞蟕辠酔酻醉鋷錊"),
    ("zun", "僔噂墫壿尊嶟捘撙樽繜罇譐遵銌鐏鱒鳟鶎鷷"),
    ("zuo", "佐作侳做咗唑唨坐岝岞左座怍捽昨椊琢祚秨稓筰糳繓胙莋葃葄蓙袏鈼阼飵")
  ]

end Stencil.Text
