import TemplateCheck.Text

/-!
The script that a character belongs to.

As with categories, the table lists runs of code points from zero on: how many, and the four letters
of their script.
-/
namespace TemplateCheck.Text.Script

def readRuns : Nat → Text → List (Nat × Text)
  | count, a :: b :: c :: d :: rest =>
    if a.isDigit then readRuns (10 * count + (a.toNat - '0'.toNat)) (b :: c :: d :: rest)
    else (count, [a, b, c, d]) :: readRuns 0 rest
  | _, _ => []

def table : List String :=
  ["65zyyy26latn6zyyy26latn47zyyy1latn15zyyy1latn5zyyy23latn1zyyy31latn1zyyy449latn39zyyy5latn",
   "5zyyy2bopo20zyyy112zinh4grek1zyyy3grek2zzzz4grek1zyyy1grek4zzzz1grek1zyyy1grek1zyyy3grek",
   "1zzzz1grek1zzzz20grek1zzzz63grek14copt16grek133cyrl2zinh169cyrl1zzzz38armn2zzzz50armn2zzzz",
   "3armn1zzzz55hebr8zzzz27hebr4zzzz6hebr11zzzz5arab1zyyy6arab1zyyy14arab1zyyy3arab1zyyy32arab",
   "1zyyy10arab11zinh26arab1zinh108arab1zyyy34arab14syrc1zzzz60syrc2zzzz3syrc48arab50thaa14zzzz",
   "59nkoo2zzzz3nkoo46samr2zzzz15samr1zzzz28mand2zzzz1mand1zzzz11syrc5zzzz31arab1zzzz2arab6zzzz",
   "74arab1zyyy29arab81deva4zinh15deva2zyyy26deva4beng1zzzz8beng2zzzz2beng2zzzz22beng1zzzz7beng",
   "1zzzz1beng3zzzz4beng2zzzz9beng2zzzz2beng2zzzz4beng8zzzz1beng4zzzz2beng1zzzz5beng2zzzz25beng",
   "2zzzz3guru1zzzz6guru4zzzz2guru2zzzz22guru1zzzz7guru1zzzz2guru1zzzz2guru1zzzz2guru2zzzz1guru",
   "1zzzz5guru4zzzz2guru2zzzz3guru3zzzz1guru7zzzz4guru1zzzz1guru7zzzz17guru10zzzz3gujr1zzzz9gujr",
   "1zzzz3gujr1zzzz22gujr1zzzz7gujr1zzzz2gujr1zzzz5gujr2zzzz10gujr1zzzz3gujr1zzzz3gujr2zzzz1gujr",
   "15zzzz4gujr2zzzz12gujr7zzzz7gujr1zzzz3orya1zzzz8orya2zzzz2orya2zzzz22orya1zzzz7orya1zzzz",
   "2orya1zzzz5orya2zzzz9orya2zzzz2orya2zzzz3orya7zzzz3orya4zzzz2orya1zzzz5orya2zzzz18orya10zzzz",
   "2taml1zzzz6taml3zzzz3taml1zzzz4taml3zzzz2taml1zzzz1taml1zzzz2taml3zzzz2taml3zzzz3taml3zzzz",
   "12taml4zzzz5taml3zzzz3taml1zzzz4taml2zzzz1taml6zzzz1taml14zzzz21taml5zzzz13telu1zzzz3telu",
   "1zzzz23telu1zzzz16telu2zzzz9telu1zzzz3telu1zzzz4telu7zzzz2telu1zzzz3telu2zzzz1telu2zzzz4telu",
   "2zzzz10telu7zzzz9telu13knda1zzzz3knda1zzzz23knda1zzzz10knda1zzzz5knda2zzzz9knda1zzzz3knda",
   "1zzzz4knda7zzzz2knda6zzzz2knda1zzzz4knda2zzzz10knda1zzzz3knda12zzzz13mlym1zzzz3mlym1zzzz",
   "51mlym1zzzz3mlym1zzzz6mlym4zzzz16mlym2zzzz26mlym1zzzz3sinh1zzzz18sinh3zzzz24sinh1zzzz9sinh",
   "1zzzz1sinh2zzzz7sinh3zzzz1sinh4zzzz6sinh1zzzz1sinh1zzzz8sinh6zzzz10sinh2zzzz3sinh12zzzz",
   "58thai4zzzz1zyyy28thai37zzzz2laoo1zzzz1laoo1zzzz5laoo1zzzz24laoo1zzzz1laoo1zzzz23laoo2zzzz",
   "5laoo1zzzz1laoo1zzzz7laoo1zzzz10laoo2zzzz4laoo32zzzz72tibt1zzzz36tibt4zzzz39tibt1zzzz36tibt",
   "1zzzz15tibt1zzzz7tibt4zyyy2tibt37zzzz160mymr38geor1zzzz1geor5zzzz1geor2zzzz43geor1zyyy4geor",
   "256hang73ethi1zzzz4ethi2zzzz7ethi1zzzz1ethi1zzzz4ethi2zzzz41ethi1zzzz4ethi2zzzz33ethi1zzzz",
   "4ethi2zzzz7ethi1zzzz1ethi1zzzz4ethi2zzzz15ethi1zzzz57ethi1zzzz4ethi2zzzz67ethi2zzzz32ethi",
   "3zzzz26ethi6zzzz86cher2zzzz6cher2zzzz640cans29ogam3zzzz75runr3zyyy11runr7zzzz22tglg9zzzz",
   "1tglg21hano2zyyy9zzzz20buhd12zzzz13tagb1zzzz3tagb1zzzz2tagb12zzzz94khmr2zzzz10khmr6zzzz",
   "10khmr6zzzz2mong2zyyy1mong1zyyy20mong6zzzz89mong7zzzz43mong5zzzz70cans10zzzz31limb1zzzz",
   "12limb4zzzz12limb4zzzz1limb3zzzz12limb30tale2zzzz5tale11zzzz44talu4zzzz26talu6zzzz11talu",
   "3zzzz2talu32khmr28bugi2zzzz2bugi63lana1zzzz29lana2zzzz11lana6zzzz10lana6zzzz14lana2zzzz",
   "31zinh49zzzz77bali3zzzz47bali1zzzz64sund52batk8zzzz4batk56lepc3zzzz15lepc3zzzz3lepc48olck",
   "9cyrl7zzzz43geor2zzzz3geor8sund8zzzz3zinh1zyyy13zinh1zyyy7zinh4zyyy1zinh6zyyy1zinh3zyyy2zinh",
   "1zyyy5zzzz38latn5grek1cyrl49latn5grek4latn5grek13latn1cyrl70latn1grek64zinh256latn22grek",
   "2zzzz6grek2zzzz38grek2zzzz6grek2zzzz8grek1zzzz1grek1zzzz1grek1zzzz1grek1zzzz31grek2zzzz",
   "53grek1zzzz15grek1zzzz14grek2zzzz6grek1zzzz19grek2zzzz3grek1zzzz9grek1zzzz12zyyy2zinh87zyyy",
   "1zzzz11zyyy1latn2zzzz11zyyy1latn15zyyy1zzzz13latn3zzzz33zyyy15zzzz33zinh15zzzz38zyyy1grek",
   "3zyyy2latn6zyyy1latn27zyyy1latn17zyyy41latn3zyyy4zzzz663zyyy25zzzz11zyyy21zzzz928zyyy256brai",
   "628zyyy2zzzz32zyyy1zzzz105zyyy96glag32latn116copt5zzzz7copt38geor1zzzz1geor5zzzz1geor2zzzz",
   "56tfng7zzzz2tfng14zzzz1tfng23ethi9zzzz7ethi1zzzz7ethi1zzzz7ethi1zzzz7ethi1zzzz7ethi1zzzz",
   "7ethi1zzzz7ethi1zzzz7ethi1zzzz32cyrl94zyyy34zzzz26hani1zzzz89hani12zzzz214hani26zzzz12zyyy",
   "4zzzz5zyyy1hani1zyyy1hani25zyyy9hani4zinh2hang8zyyy4hani4zyyy1zzzz86hira2zzzz2zinh2zyyy3hira",
   "1zyyy90kana2zyyy3kana5zzzz43bopo1zzzz94hang1zzzz16zyyy32bopo36zyyy12zzzz16kana31hang1zzzz",
   "64zyyy31hang81zyyy47kana1zyyy88kana168zyyy6592hani64zyyy20992hani1165yiii3zzzz55yiii9zzzz",
   "48lisu300vaii20zzzz96cyrl88bamu8zzzz34zyyy102latn3zyyy64latn5zzzz2latn1zzzz1latn1zzzz5latn",
   "24zzzz14latn45sylo3zzzz10zyyy6zzzz56phag8zzzz70saur8zzzz12saur6zzzz32deva46kali1zyyy1kali",
   "36rjng11zzzz1rjng29hang3zzzz78java1zzzz1zyyy10java4zzzz2java31mymr1zzzz55cham9zzzz14cham",
   "2zzzz10cham2zzzz4cham32mymr67tavt24zzzz5tavt23mtei10zzzz6ethi2zzzz6ethi2zzzz6ethi9zzzz7ethi",
   "1zzzz7ethi1zzzz43latn1zyyy9latn1grek4latn2zyyy4zzzz80cher46mtei2zzzz10mtei6zzzz11172hang",
   "12zzzz23hang4zzzz49hang8452zzzz366hani2zzzz106hani38zzzz7latn12zzzz5armn5zzzz26hebr1zzzz",
   "5hebr1zzzz1hebr1zzzz2hebr1zzzz2hebr1zzzz10hebr115arab16zzzz363arab2zyyy80arab2zzzz54arab",
   "7zzzz1arab32zzzz16arab16zinh10zyyy6zzzz14zinh2cyrl35zyyy1zzzz19zyyy1zzzz4zyyy4zzzz5arab1zzzz",
   "135arab2zzzz1zyyy1zzzz32zyyy26latn6zyyy26latn11zyyy10kana1zyyy45kana2zyyy31hang3zzzz6hang",
   "2zzzz6hang2zzzz6hang2zzzz3hang3zzzz7zyyy1zzzz7zyyy10zzzz5zyyy2zzzz12linb1zzzz26linb1zzzz",
   "19linb1zzzz2linb1zzzz15linb2zzzz14linb34zzzz123linb5zzzz3zyyy4zzzz45zyyy3zzzz9zyyy79grek",
   "1zzzz13zyyy3zzzz1grek47zzzz45zyyy1zinh130zzzz29lyci3zzzz49cari15zzzz1zinh27zyyy4zzzz36ital",
   "9zzzz3ital27goth5zzzz43perm5zzzz30ugar1zzzz1ugar36xpeo4zzzz14xpeo42zzzz80dsrt48shaw30osma",
   "2zzzz10osma6zzzz36osge4zzzz36osge4zzzz40elba8zzzz52aghb11zzzz1aghb11vith1zzzz15vith1zzzz",
   "7vith1zzzz2vith1zzzz11vith1zzzz15vith1zzzz7vith1zzzz2vith67zzzz311lina9zzzz22lina10zzzz8lina",
   "24zzzz6latn1zzzz42latn1zzzz9latn69zzzz6cprt2zzzz1cprt1zzzz44cprt1zzzz2cprt3zzzz1cprt2zzzz",
   "1cprt22armi1zzzz9armi32palm31nbat8zzzz9nbat48zzzz19hatr1zzzz2hatr5zzzz5hatr28phnx3zzzz1phnx",
   "26lydi5zzzz1lydi64zzzz32mero24merc4zzzz20merc2zzzz46merc4khar1zzzz2khar5zzzz8khar1zzzz3khar",
   "1zzzz29khar2zzzz3khar4zzzz10khar7zzzz9khar7zzzz32sarb32narb32zzzz39mani4zzzz12mani9zzzz",
   "54avst3zzzz7avst22prti2zzzz8prti19phli5zzzz8phli18phlp7zzzz4phlp12zzzz7phlp80zzzz73orkh",
   "55zzzz51hung13zzzz51hung7zzzz6hung40rohg8zzzz10rohg294zzzz31arab1zzzz42yezi1zzzz3yezi2zzzz",
   "2yezi75zzzz3arab40sogo8zzzz42sogd22zzzz26ougr38zzzz28chrs20zzzz23elym9zzzz78brah4zzzz36brah",
   "9zzzz1brah67kthi10zzzz1kthi2zzzz25sora7zzzz10sora6zzzz53cakm1zzzz18cakm8zzzz39mahj9zzzz",
   "96shrd1zzzz20sinh11zzzz18khoj1zzzz47khoj62zzzz7mult1zzzz1mult1zzzz4mult1zzzz15mult1zzzz",
   "11mult6zzzz59sind5zzzz10sind6zzzz4gran1zzzz8gran2zzzz2gran2zzzz22gran1zzzz7gran1zzzz2gran",
   "1zzzz5gran1zzzz1zinh9gran2zzzz2gran2zzzz3gran2zzzz1gran6zzzz1gran5zzzz7gran2zzzz7gran3zzzz",
   "5gran139zzzz92newa1zzzz5newa30zzzz72tirh8zzzz10tirh166zzzz54sidd2zzzz38sidd34zzzz69modi",
   "11zzzz10modi6zzzz13mong19zzzz58takr6zzzz10takr54zzzz27ahom2zzzz15ahom4zzzz23ahom185zzzz",
   "60dogr100zzzz83wara12zzzz1wara7diak2zzzz1diak2zzzz8diak1zzzz2diak1zzzz30diak1zzzz2diak2zzzz",
   "12diak9zzzz10diak70zzzz8nand2zzzz46nand2zzzz11nand27zzzz72zanb8zzzz83soyo13zzzz16cans57pauc",
   "7zzzz10deva246zzzz9bhks1zzzz45bhks1zzzz14bhks10zzzz29bhks3zzzz32marc2zzzz22marc1zzzz14marc",
   "73zzzz7gonm1zzzz2gonm1zzzz44gonm3zzzz1gonm1zzzz2gonm1zzzz9gonm8zzzz10gonm6zzzz6gong1zzzz",
   "2gong1zzzz37gong1zzzz2gong1zzzz6gong7zzzz10gong310zzzz25maka7zzzz17kawi1zzzz41kawi3zzzz",
   "28kawi86zzzz1lisu15zzzz50taml13zzzz1taml922xsux102zzzz111xsux1zzzz5xsux11zzzz196xsux2636zzzz",
   "99cpmn13zzzz1110egyp4010zzzz583hluw8633zzzz569bamu7zzzz31mroo1zzzz10mroo4zzzz2mroo79tnsa",
   "1zzzz10tnsa6zzzz30bass2zzzz6bass10zzzz70hmng10zzzz10hmng1zzzz7hmng1zzzz21hmng5zzzz19hmng",
   "688zzzz91medf101zzzz75plrd4zzzz57plrd7zzzz17plrd64zzzz1tang1nshu2hani1kits11zzzz2hani14zzzz",
   "6136tang8zzzz768tang470kits42zzzz9tang8935zzzz4kana1zzzz7kana1zzzz2kana1zzzz1kana287hira",
   "3kana15zzzz1hira29zzzz3hira2zzzz1kana14zzzz4kana8zzzz396nshu2308zzzz107dupl5zzzz13dupl3zzzz",
   "9dupl7zzzz10dupl2zzzz4dupl4zyyy4700zzzz46zinh2zzzz23zinh9zzzz116zyyy60zzzz246zyyy10zzzz",
   "39zyyy2zzzz62zyyy3zinh17zyyy8zinh2zyyy7zinh30zyyy4zinh61zyyy21zzzz70grek122zzzz20zyyy12zzzz",
   "20zyyy12zzzz87zyyy9zzzz25zyyy135zzzz85zyyy1zzzz71zyyy1zzzz2zyyy2zzzz1zyyy2zzzz2zyyy2zzzz",
   "4zyyy1zzzz12zyyy1zzzz1zyyy1zzzz7zyyy1zzzz65zyyy1zzzz4zyyy2zzzz8zyyy1zzzz7zyyy1zzzz28zyyy",
   "1zzzz4zyyy1zzzz5zyyy1zzzz1zyyy3zzzz7zyyy1zzzz340zyyy2zzzz292zyyy2zzzz50zyyy652sgnw15zzzz",
   "5sgnw1zzzz15sgnw1104zzzz31latn6zzzz6latn213zzzz7glag1zzzz17glag2zzzz7glag1zzzz2glag1zzzz",
   "5glag5zzzz62cyrl33zzzz1cyrl112zzzz45hmnp3zzzz14hmnp2zzzz10hmnp4zzzz2hmnp320zzzz31toto17zzzz",
   "58wcho5zzzz1wcho464zzzz42nagm742zzzz7ethi1zzzz4ethi1zzzz2ethi1zzzz15ethi1zzzz197mend2zzzz",
   "16mend41zzzz76adlm4zzzz10adlm4zzzz2adlm785zzzz68zyyy76zzzz61zyyy194zzzz4arab1zzzz27arab1zzzz",
   "2arab1zzzz1arab2zzzz1arab1zzzz10arab1zzzz4arab1zzzz1arab1zzzz1arab6zzzz1arab4zzzz1arab1zzzz",
   "1arab1zzzz1arab1zzzz3arab1zzzz2arab1zzzz1arab2zzzz1arab1zzzz1arab1zzzz1arab1zzzz1arab1zzzz",
   "1arab1zzzz2arab1zzzz1arab2zzzz4arab1zzzz7arab1zzzz4arab1zzzz4arab1zzzz1arab1zzzz10arab1zzzz",
   "17arab5zzzz3arab1zzzz5arab1zzzz17arab52zzzz2arab270zzzz44zyyy4zzzz100zyyy12zzzz15zyyy2zzzz",
   "15zyyy1zzzz15zyyy1zzzz37zyyy10zzzz174zyyy56zzzz26zyyy1hira2zyyy13zzzz44zyyy4zzzz9zyyy7zzzz",
   "2zyyy14zzzz6zyyy154zzzz984zyyy4zzzz17zyyy3zzzz13zyyy3zzzz119zyyy4zzzz95zyyy6zzzz12zyyy4zzzz",
   "1zyyy15zzzz12zyyy4zzzz56zyyy8zzzz10zyyy6zzzz40zyyy8zzzz30zyyy2zzzz2zyyy78zzzz340zyyy12zzzz",
   "14zyyy2zzzz13zyyy3zzzz9zyyy7zzzz46zyyy1zzzz7zyyy8zzzz14zyyy4zzzz9zyyy7zzzz9zyyy7zzzz147zyyy",
   "1zzzz55zyyy37zzzz10zyyy1030zzzz42720hani32zzzz4154hani6zzzz222hani2zzzz5762hani14zzzz",
   "7473hani3103zzzz542hani1506zzzz4939hani5zzzz4192hani711761zzzz1zyyy30zzzz96zyyy128zzzz",
   "240zinh196112zzzz"]

def runs : List (Nat × Text) := table.flatMap fun line => readRuns 0 line.toList

def inRuns : List (Nat × Text) → Nat → Text
  | [], _ => []
  | (count, script) :: rest, offset =>
    if offset < count then script else inRuns rest (offset - count)

def names : List (String × String) :=
  [("adlm", "adlam"), ("aghb", "caucasianalbanian"), ("ahom", "ahom"), ("arab", "arabic"),
   ("armi", "imperialaramaic"), ("armn", "armenian"), ("avst", "avestan"), ("bali", "balinese"),
   ("bamu", "bamum"), ("bass", "bassavah"), ("batk", "batak"), ("beng", "bengali"),
   ("bhks", "bhaiksuki"), ("bopo", "bopomofo"), ("brah", "brahmi"), ("brai", "braille"),
   ("bugi", "buginese"), ("buhd", "buhid"), ("cakm", "chakma"), ("cans", "canadianaboriginal"),
   ("cari", "carian"), ("cham", "cham"), ("cher", "cherokee"), ("chrs", "chorasmian"),
   ("copt", "coptic"), ("copt", "qaac"), ("cpmn", "cyprominoan"), ("cprt", "cypriot"),
   ("cyrl", "cyrillic"), ("deva", "devanagari"), ("diak", "divesakuru"), ("dogr", "dogra"),
   ("dsrt", "deseret"), ("dupl", "duployan"), ("egyp", "egyptianhieroglyphs"),
   ("elba", "elbasan"), ("elym", "elymaic"), ("ethi", "ethiopic"), ("geor", "georgian"),
   ("glag", "glagolitic"), ("gong", "gunjalagondi"), ("gonm", "masaramgondi"),
   ("goth", "gothic"), ("gran", "grantha"), ("grek", "greek"), ("gujr", "gujarati"),
   ("guru", "gurmukhi"), ("hang", "hangul"), ("hani", "han"), ("hano", "hanunoo"),
   ("hatr", "hatran"), ("hebr", "hebrew"), ("hira", "hiragana"),
   ("hluw", "anatolianhieroglyphs"), ("hmng", "pahawhhmong"), ("hmnp", "nyiakengpuachuehmong"),
   ("hung", "oldhungarian"), ("ital", "olditalic"), ("java", "javanese"), ("kali", "kayahli"),
   ("kana", "katakana"), ("kawi", "kawi"), ("khar", "kharoshthi"), ("khmr", "khmer"),
   ("khoj", "khojki"), ("kits", "khitansmallscript"), ("knda", "kannada"), ("kthi", "kaithi"),
   ("lana", "taitham"), ("laoo", "lao"), ("latn", "latin"), ("lepc", "lepcha"),
   ("limb", "limbu"), ("lina", "lineara"), ("linb", "linearb"), ("lisu", "lisu"),
   ("lyci", "lycian"), ("lydi", "lydian"), ("mahj", "mahajani"), ("maka", "makasar"),
   ("mand", "mandaic"), ("mani", "manichaean"), ("marc", "marchen"), ("medf", "medefaidrin"),
   ("mend", "mendekikakui"), ("merc", "meroiticcursive"), ("mero", "meroitichieroglyphs"),
   ("mlym", "malayalam"), ("modi", "modi"), ("mong", "mongolian"), ("mroo", "mro"),
   ("mtei", "meeteimayek"), ("mult", "multani"), ("mymr", "myanmar"), ("nagm", "nagmundari"),
   ("nand", "nandinagari"), ("narb", "oldnortharabian"), ("nbat", "nabataean"),
   ("newa", "newa"), ("nkoo", "nko"), ("nshu", "nushu"), ("ogam", "ogham"), ("olck", "olchiki"),
   ("orkh", "oldturkic"), ("orya", "oriya"), ("osge", "osage"), ("osma", "osmanya"),
   ("ougr", "olduyghur"), ("palm", "palmyrene"), ("pauc", "paucinhau"), ("perm", "oldpermic"),
   ("phag", "phagspa"), ("phli", "inscriptionalpahlavi"), ("phlp", "psalterpahlavi"),
   ("phnx", "phoenician"), ("plrd", "miao"), ("prti", "inscriptionalparthian"),
   ("rjng", "rejang"), ("rohg", "hanifirohingya"), ("runr", "runic"), ("samr", "samaritan"),
   ("sarb", "oldsoutharabian"), ("saur", "saurashtra"), ("sgnw", "signwriting"),
   ("shaw", "shavian"), ("shrd", "sharada"), ("sidd", "siddham"), ("sind", "khudawadi"),
   ("sinh", "sinhala"), ("sogd", "sogdian"), ("sogo", "oldsogdian"), ("sora", "sorasompeng"),
   ("soyo", "soyombo"), ("sund", "sundanese"), ("sylo", "sylotinagri"), ("syrc", "syriac"),
   ("tagb", "tagbanwa"), ("takr", "takri"), ("tale", "taile"), ("talu", "newtailue"),
   ("taml", "tamil"), ("tang", "tangut"), ("tavt", "taiviet"), ("telu", "telugu"),
   ("tfng", "tifinagh"), ("tglg", "tagalog"), ("thaa", "thaana"), ("thai", "thai"),
   ("tibt", "tibetan"), ("tirh", "tirhuta"), ("tnsa", "tangsa"), ("toto", "toto"),
   ("ugar", "ugaritic"), ("vaii", "vai"), ("vith", "vithkuqi"), ("wara", "warangciti"),
   ("wcho", "wancho"), ("xpeo", "oldpersian"), ("xsux", "cuneiform"), ("yezi", "yezidi"),
   ("yiii", "yi"), ("zanb", "zanabazarsquare"), ("zinh", "inherited"), ("zinh", "qaai"),
   ("zyyy", "common")]

def named? (name : Text) : Option Text :=
  (names.find? fun (short, long) => short.toList == name || long.toList == name).map
    fun (short, _) => short.toList

end TemplateCheck.Text.Script

namespace TemplateCheck.Text

def script (c : Char) : Text := Script.inRuns Script.runs c.toNat

end TemplateCheck.Text
