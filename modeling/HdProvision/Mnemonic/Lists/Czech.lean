/-!
# The Czech word list

2048 words in their order, decomposed for compatibility, with one space between
two words of a line.
-/

set_option autoImplicit false

namespace HdProvision.Mnemonic.Lists

/-- The words in Czech. -/
def czech : List String :=
  ["abdikace abeceda adresa agrese akce aktovka alej alkohol amputace ananas andulka anekdota",
    "anketa antika anulovat archa arogance asfalt asistent aspirace astma astronom atlas atletika",
    "atol autobus azyl babka bachor bacil baculka badatel bageta bagr bahno bakterie balada",
    "baletka balkon balonek balvan balza bambus bankomat barbar baret barman baroko barva baterka",
    "batoh bavlna bazalka bazilika bazuka bedna beran beseda bestie beton bezinka bezmoc beztak",
    "bicykl bidlo biftek bikiny bilance biograf biolog bitva bizon blahobyt blatouch blecha",
    "bledule blesk blikat blizna blokovat bloudit blud bobek bobr bodlina bodnout bohatost bojkot",
    "bojovat bokorys bolest borec borovice bota boubel bouchat bouda boule bourat boxer bradavka",
    "brambora branka bratr brepta briketa brko brloh bronz broskev brunetka brusinka brzda brzy",
    "bublina bubnovat buchta buditel budka budova bufet bujarost bukvice buldok bulva bunda bunkr",
    "burza butik buvol buzola bydlet bylina bytovka bzukot capart carevna cedr cedule cejch cejn",
    "cela celer celkem celnice cenina cennost cenovka centrum cenzor cestopis cetka chalupa",
    "chapadlo charita chata chechtat chemie chichot chirurg chlad chleba chlubit chmel chmura",
    "chobot chochol chodba cholera chomout chopit choroba chov chrapot chrlit chrt chrup chtivost",
    "chudina chutnat chvat chvilka chvost chyba chystat chytit cibule cigareta cihelna cihla",
    "cinkot cirkus cisterna citace citrus cizinec cizost clona cokoliv couvat ctitel ctnost",
    "cudnost cuketa cukr cupot cvaknout cval cvik cvrkot cyklista daleko dareba datel datum dcera",
    "debata dechovka decibel deficit deflace dekl dekret demokrat deprese derby deska detektiv",
    "dikobraz diktovat dioda diplom disk displej divadlo divoch dlaha dlouho dluhopis dnes dobro",
    "dobytek docent dochutit dodnes dohled dohoda dohra dojem dojnice doklad dokola doktor",
    "dokument dolar doleva dolina doma dominant domluvit domov donutit dopad dopis doplnit doposud",
    "doprovod dopustit dorazit dorost dort dosah doslov dostatek dosud dosyta dotaz dotek dotknout",
    "doufat doutnat dovozce dozadu doznat dozorce drahota drak dramatik dravec draze drdol",
    "drobnost drogerie drozd drsnost drtit drzost duben duchovno dudek duha duhovka dusit dusno",
    "dutost dvojice dvorec dynamit ekolog ekonomie elektron elipsa email emise emoce empatie",
    "epizoda epocha epopej epos esej esence eskorta eskymo etiketa euforie evoluce exekuce exkurze",
    "expedice exploze export extrakt facka fajfka fakulta fanatik fantazie farmacie favorit fazole",
    "federace fejeton fenka fialka figurant filozof filtr finance finta fixace fjord flanel flirt",
    "flotila fond fosfor fotbal fotka foton frakce freska fronta fukar funkce fyzika galeje garant",
    "genetika geolog gilotina glazura glejt golem golfista gotika graf gramofon granule grep gril",
    "grog groteska guma hadice hadr hala halenka hanba hanopis harfa harpuna havran hebkost hejkal",
    "hejno hejtman hektar helma hematom herec herna heslo hezky historik hladovka hlasivky hlava",
    "hledat hlen hlodavec hloh hloupost hltat hlubina hluchota hmat hmota hmyz hnis hnojivo hnout",
    "hoblina hoboj hoch hodiny hodlat hodnota hodovat hojnost hokej holinka holka holub homole",
    "honitba honorace horal horda horizont horko horlivec hormon hornina horoskop horstvo hospoda",
    "hostina hotovost houba houf houpat houska hovor hradba hranice hravost hrazda hrbolek hrdina",
    "hrdlo hrdost hrnek hrobka hromada hrot hrouda hrozen hrstka hrubost hryzat hubenost hubnout",
    "hudba hukot humr husita hustota hvozd hybnost hydrant hygiena hymna hysterik idylka ihned",
    "ikona iluze imunita infekce inflace inkaso inovace inspekce internet invalida investor",
    "inzerce ironie jablko jachta jahoda jakmile jakost jalovec jantar jarmark jaro jasan jasno",
    "jatka javor jazyk jedinec jedle jednatel jehlan jekot jelen jelito jemnost jenom jepice",
    "jeseter jevit jezdec jezero jinak jindy jinoch jiskra jistota jitrnice jizva jmenovat jogurt",
    "jurta kabaret kabel kabinet kachna kadet kadidlo kahan kajak kajuta kakao kaktus kalamita",
    "kalhoty kalibr kalnost kamera kamkoliv kamna kanibal kanoe kantor kapalina kapela kapitola",
    "kapka kaple kapota kapr kapusta kapybara karamel karotka karton kasa katalog katedra kauce",
    "kauza kavalec kazajka kazeta kazivost kdekoliv kdesi kedluben kemp keramika kino klacek",
    "kladivo klam klapot klasika klaun klec klenba klepat klesnout klid klima klisna klobouk",
    "klokan klopa kloub klubovna klusat kluzkost kmen kmitat kmotr kniha knot koalice koberec",
    "kobka kobliha kobyla kocour kohout kojenec kokos koktejl kolaps koleda kolize kolo komando",
    "kometa komik komnata komora kompas komunita konat koncept kondice konec konfese kongres",
    "konina konkurs kontakt konzerva kopanec kopie kopnout koprovka korbel korektor kormidlo",
    "koroptev korpus koruna koryto korzet kosatec kostka kotel kotleta kotoul koukat koupelna",
    "kousek kouzlo kovboj koza kozoroh krabice krach krajina kralovat krasopis kravata kredit",
    "krejcar kresba kreveta kriket kritik krize krkavec krmelec krmivo krocan krok kronika kropit",
    "kroupa krovka krtek kruhadlo krupice krutost krvinka krychle krypta krystal kryt kudlanka",
    "kufr kujnost kukla kulajda kulich kulka kulomet kultura kuna kupodivu kurt kurzor kutil",
    "kvalita kvasinka kvestor kynolog kyselina kytara kytice kytka kytovec kyvadlo labrador",
    "lachtan ladnost laik lakomec lamela lampa lanovka lasice laso lastura latinka lavina lebka",
    "leckdy leden lednice ledovka ledvina legenda legie legrace lehce lehkost lehnout lektvar",
    "lenochod lentilka lepenka lepidlo letadlo letec letmo letokruh levhart levitace levobok libra",
    "lichotka lidojed lidskost lihovina lijavec lilek limetka linie linka linoleum listopad litina",
    "litovat lobista lodivod logika logoped lokalita loket lomcovat lopata lopuch lord losos lotr",
    "loudal louh louka louskat lovec lstivost lucerna lucifer lump lusk lustrace lvice lyra lyrika",
    "lysina madam madlo magistr mahagon majetek majitel majorita makak makovice makrela malba",
    "malina malovat malvice maminka mandle manko marnost masakr maskot masopust matice matrika",
    "maturita mazanec mazivo mazlit mazurka mdloba mechanik meditace medovina melasa meloun",
    "mentolka metla metoda metr mezera migrace mihnout mihule mikina mikrofon milenec milimetr",
    "milost mimika mincovna minibar minomet minulost miska mistr mixovat mladost mlha mlhovina",
    "mlok mlsat mluvit mnich mnohem mobil mocnost modelka modlitba mohyla mokro molekula momentka",
    "monarcha monokl monstrum montovat monzun mosaz moskyt most motivace motorka motyka moucha",
    "moudrost mozaika mozek mozol mramor mravenec mrkev mrtvola mrzet mrzutost mstitel mudrc",
    "muflon mulat mumie munice muset mutace muzeum muzikant myslivec mzda nabourat nachytat nadace",
    "nadbytek nadhoz nadobro nadpis nahlas nahnat nahodile nahradit naivita najednou najisto",
    "najmout naklonit nakonec nakrmit nalevo namazat namluvit nanometr naoko naopak naostro",
    "napadat napevno naplnit napnout naposled naprosto narodit naruby narychlo nasadit nasekat",
    "naslepo nastat natolik navenek navrch navzdory nazvat nebe nechat necky nedaleko nedbat neduh",
    "negace nehet nehoda nejen nejprve neklid nelibost nemilost nemoc neochota neonka nepokoj",
    "nerost nerv nesmysl nesoulad netvor neuron nevina nezvykle nicota nijak nikam nikdy nikl",
    "nikterak nitro nocleh nohavice nominace nora norek nositel nosnost nouze noviny novota nozdra",
    "nuda nudle nuget nutit nutnost nutrie nymfa obal obarvit obava obdiv obec obehnat obejmout",
    "obezita obhajoba obilnice objasnit objekt obklopit oblast oblek obliba obloha obluda obnos",
    "obohatit obojek obout obrazec obrna obruba obrys obsah obsluha obstarat obuv obvaz obvinit",
    "obvod obvykle obyvatel obzor ocas ocel ocenit ochladit ochota ochrana ocitnout odboj odbyt",
    "odchod odcizit odebrat odeslat odevzdat odezva odhadce odhodit odjet odjinud odkaz odkoupit",
    "odliv odluka odmlka odolnost odpad odpis odplout odpor odpustit odpykat odrazka odsoudit",
    "odstup odsun odtok odtud odvaha odveta odvolat odvracet odznak ofina ofsajd ohlas ohnisko",
    "ohrada ohrozit ohryzek okap okenice oklika okno okouzlit okovy okrasa okres okrsek okruh",
    "okupant okurka okusit olejnina olizovat omak omeleta omezit omladina omlouvat omluva omyl",
    "onehdy opakovat opasek operace opice opilost opisovat opora opozice opravdu oproti orbital",
    "orchestr orgie orlice orloj ortel osada oschnout osika osivo oslava oslepit oslnit oslovit",
    "osnova osoba osolit ospalec osten ostraha ostuda ostych osvojit oteplit otisk otop otrhat",
    "otrlost otrok otruby otvor ovanout ovar oves ovlivnit ovoce oxid ozdoba pachatel pacient",
    "padouch pahorek pakt palanda palec palivo paluba pamflet pamlsek panenka panika panna panovat",
    "panstvo pantofle paprika parketa parodie parta paruka paryba paseka pasivita pastelka patent",
    "patrona pavouk pazneht pazourek pecka pedagog pejsek peklo peloton penalta pendrek penze",
    "periskop pero pestrost petarda petice petrolej pevnina pexeso pianista piha pijavice pikle",
    "piknik pilina pilnost pilulka pinzeta pipeta pisatel pistole pitevna pivnice pivovar placenta",
    "plakat plamen planeta plastika platit plavidlo plaz plech plemeno plenta ples pletivo plevel",
    "plivat plnit plno plocha plodina plomba plout pluk plyn pobavit pobyt pochod pocit poctivec",
    "podat podcenit podepsat podhled podivit podklad podmanit podnik podoba podpora podraz",
    "podstata podvod podzim poezie pohanka pohnutka pohovor pohroma pohyb pointa pojistka pojmout",
    "pokazit pokles pokoj pokrok pokuta pokyn poledne polibek polknout poloha polynom pomalu",
    "pominout pomlka pomoc pomsta pomyslet ponechat ponorka ponurost popadat popel popisek poplach",
    "poprosit popsat popud poradce porce porod porucha poryv posadit posed posila poskok poslanec",
    "posoudit pospolu postava posudek posyp potah potkan potlesk potomek potrava potupa potvora",
    "poukaz pouto pouzdro povaha povidla povlak povoz povrch povstat povyk povzdech pozdrav",
    "pozemek poznatek pozor pozvat pracovat prahory praktika prales praotec praporek prase pravda",
    "princip prkno probudit procento prodej profese prohra projekt prolomit promile pronikat",
    "propad prorok prosba proton proutek provaz prskavka prsten prudkost prut prvek prvohory",
    "psanec psovod pstruh ptactvo puberta puch pudl pukavec puklina pukrle pult pumpa punc pupen",
    "pusa pusinka pustina putovat putyka pyramida pysk pytel racek rachot radiace radnice radon",
    "raft ragby raketa rakovina rameno rampouch rande rarach rarita rasovna rastr ratolest razance",
    "razidlo reagovat reakce recept redaktor referent reflex rejnok reklama rekord rekrut rektor",
    "reputace revize revma revolver rezerva riskovat riziko robotika rodokmen rohovka rokle rokoko",
    "romaneto ropovod ropucha rorejs rosol rostlina rotmistr rotoped rotunda roubenka roucho roup",
    "roura rovina rovnice rozbor rozchod rozdat rozeznat rozhodce rozinka rozjezd rozkaz rozloha",
    "rozmar rozpad rozruch rozsah roztok rozum rozvod rubrika ruchadlo rukavice rukopis ryba",
    "rybolov rychlost rydlo rypadlo rytina ryzost sadista sahat sako samec samizdat samota sanitka",
    "sardinka sasanka satelit sazba sazenice sbor schovat sebranka secese sedadlo sediment sedlo",
    "sehnat sejmout sekera sekta sekunda sekvoje semeno seno servis sesadit seshora seskok seslat",
    "sestra sesuv sesypat setba setina setkat setnout setrvat sever seznam shoda shrnout sifon",
    "silnice sirka sirotek sirup situace skafandr skalisko skanzen skaut skeptik skica skladba",
    "sklenice sklo skluz skoba skokan skoro skripta skrz skupina skvost skvrna slabika sladidlo",
    "slanina slast slavnost sledovat slepec sleva slezina slib slina sliznice slon sloupek slovo",
    "sluch sluha slunce slupka slza smaragd smetana smilstvo smlouva smog smrad smrk smrtka smutek",
    "smysl snad snaha snob sobota socha sodovka sokol sopka sotva souboj soucit soudce souhlas",
    "soulad soumrak souprava soused soutok souviset spalovna spasitel spis splav spodek spojenec",
    "spolu sponzor spornost spousta sprcha spustit sranda sraz srdce srna srnec srovnat srpen srst",
    "srub stanice starosta statika stavba stehno stezka stodola stolek stopa storno stoupat strach",
    "stres strhnout strom struna studna stupnice stvol styk subjekt subtropy suchar sudost sukno",
    "sundat sunout surikata surovina svah svalstvo svetr svatba svazek svisle svitek svoboda",
    "svodidlo svorka svrab sykavka sykot synek synovec sypat sypkost syrovost sysel sytost",
    "tabletka tabule tahoun tajemno tajfun tajga tajit tajnost taktika tamhle tampon tancovat",
    "tanec tanker tapeta tavenina tazatel technika tehdy tekutina telefon temnota tendence tenista",
    "tenor teplota tepna teprve terapie termoska textil ticho tiskopis titulek tkadlec tkanina",
    "tlapka tleskat tlukot tlupa tmel toaleta topinka topol torzo touha toulec tradice traktor",
    "tramp trasa traverza trefit trest trezor trhavina trhlina trochu trojice troska trouba trpce",
    "trpitel trpkost trubec truchlit truhlice trus trvat tudy tuhnout tuhost tundra turista turnaj",
    "tuzemsko tvaroh tvorba tvrdost tvrz tygr tykev ubohost uboze ubrat ubrousek ubrus ubytovna",
    "ucho uctivost udivit uhradit ujednat ujistit ujmout ukazatel uklidnit uklonit ukotvit ukrojit",
    "ulice ulita ulovit umyvadlo unavit uniforma uniknout upadnout uplatnit uplynout upoutat",
    "upravit uran urazit usednout usilovat usmrtit usnadnit usnout usoudit ustlat ustrnout",
    "utahovat utkat utlumit utonout utopenec utrousit uvalit uvolnit uvozovka uzdravit uzel",
    "uzenina uzlina uznat vagon valcha valoun vana vandal vanilka varan varhany varovat vcelku",
    "vchod vdova vedro vegetace vejce velbloud veletrh velitel velmoc velryba venkov veranda verze",
    "veselka veskrze vesnice vespodu vesta veterina veverka vibrace vichr videohra vidina vidle",
    "vila vinice viset vitalita vize vizitka vjezd vklad vkus vlajka vlak vlasec vlevo vlhkost",
    "vliv vlnovka vloupat vnucovat vnuk voda vodivost vodoznak vodstvo vojensky vojna vojsko",
    "volant volba volit volno voskovka vozidlo vozovna vpravo vrabec vracet vrah vrata vrba",
    "vrcholek vrhat vrstva vrtule vsadit vstoupit vstup vtip vybavit vybrat vychovat vydat vydra",
    "vyfotit vyhledat vyhnout vyhodit vyhradit vyhubit vyjasnit vyjet vyjmout vyklopit vykonat",
    "vylekat vymazat vymezit vymizet vymyslet vynechat vynikat vynutit vypadat vyplatit vypravit",
    "vypustit vyrazit vyrovnat vyrvat vyslovit vysoko vystavit vysunout vysypat vytasit vytesat",
    "vytratit vyvinout vyvolat vyvrhel vyzdobit vyznat vzadu vzbudit vzchopit vzdor vzduch",
    "vzdychat vzestup vzhledem vzkaz vzlykat vznik vzorek vzpoura vztah vztek xylofon zabrat",
    "zabydlet zachovat zadarmo zadusit zafoukat zahltit zahodit zahrada zahynout zajatec zajet",
    "zajistit zaklepat zakoupit zalepit zamezit zamotat zamyslet zanechat zanikat zaplatit zapojit",
    "zapsat zarazit zastavit zasunout zatajit zatemnit zatknout zaujmout zavalit zavelet zavinit",
    "zavolat zavrtat zazvonit zbavit zbrusu zbudovat zbytek zdaleka zdarma zdatnost zdivo zdobit",
    "zdroj zdvih zdymadlo zelenina zeman zemina zeptat zezadu zezdola zhatit zhltnout zhluboka",
    "zhotovit zhruba zima zimnice zjemnit zklamat zkoumat zkratka zkumavka zlato zlehka zloba zlom",
    "zlost zlozvyk zmapovat zmar zmatek zmije zmizet zmocnit zmodrat zmrzlina zmutovat znak",
    "znalost znamenat znovu zobrazit zotavit zoubek zoufale zplodit zpomalit zprava zprostit",
    "zprudka zprvu zrada zranit zrcadlo zrnitost zrno zrovna zrychlit zrzavost zticha ztratit",
    "zubovina zubr zvednout zvenku zvesela zvon zvrat zvukovod zvyk"]

end HdProvision.Mnemonic.Lists
