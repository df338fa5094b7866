/-! The words that names of characters are made of. -/

namespace DataLayer.Text

/-- The names of one word, in small letters. -/
def shortNames : List String := [
    "abacus accordion ack acknowledge admetos adult airplane aktieselskab alembic alert alm",
    "ambulance ampersand amphora anchor angle ankh ant apc apollon apostrophe aquarius arc",
    "aries assertion asterisk asterism astraea aubergine automobile avocado axe baby backspace",
    "bacon badger bagel balloon banana banjo bank baseball basket bat bath bathtub battery",
    "beans beaver because bed beetle bel bell between bicycle bicyclist bikini billiards bird",
    "bison blossom blowfish blueberries boar bom bomb bone book bookmark books boomerang",
    "bouquet bowling bowtie boy bph brain bread breast-feeding breve brick briefcase briefs",
    "broccoli broom bs bubbles bucket bug bullet bullhorn bullseye burrito bus butter butterfly",
    "cactus caduceus calendar camera camping can cancel cancer candle candy canoe capitulum",
    "capricorn caret caron carrot castle cat cch cedilla ceres cgj chains chair cherries",
    "chestnut chicken child chipmunk chiron chopsticks church cinema cityscape clipboard cloud",
    "coat cockroach coconut coffin coin colon comet comma compass complement compression",
    "conjunction cookie cooking coral counterbore countersink cow cr crab cricket crocodile",
    "croissant crown crutch csi cucumber cupcake cupido custard customs cyclone cylindricity",
    "dagger dancer dango dc1 dc2 dc3 dc4 dcs deer del delete desert diaeresis divides dle",
    "document dodo dog dolphin door doughnut dragon dress droplet duck dumpling dvd eagle ear",
    "earth egg elephant elevator elf enq enquiry envelope eol eom eot epa esa esc escape",
    "estimates etb etx excess eye eyeglasses eyes factory fairy falafel family feather fencer",
    "ferry ff fire firecracker fireworks fish fisheye flamingo flatbread flatness fleur-de-lis",
    "flower fly fog foggy folder fondue foot footprints forces forking fountain frown fs fsi",
    "fuse fvs1 fvs2 fvs3 fvs4 garlic gear gemini genie ghost girl gloves goat goggles golfer",
    "gorilla grapes gs guardsman guitar hades haircut hamburger hammer hamsa handbag handball",
    "handshake headphone headstone hedgehog helicopter herb hibiscus hippopotamus hocho hole",
    "homothetic honeybee hook hop horse hospital hotel hourglass house ht htj hts hut hygiea",
    "hyphen hyphen-minus hypodiastole imp increment ind index infinity integral intercalate",
    "interrobang intersection jack-o-lantern jar jeans join joystick juggling juno jupiter",
    "kaaba kangaroo key keyboard kimono kiss kite kiwifruit knot koala kronos label ladder",
    "ledger leg lemon leo leopard lf libra lightning lips lipstick lizard llama lobster lock",
    "lollipop lotus lozenge lre lri lrm lro luggage lungs macron mage magnet mammoth man mango",
    "maximize melon memo mercury merperson metro microbe microphone microscope minibus minidisc",
    "minimize miny mirror mmsp models monkey monorail mosque mosquito motorway mountain mouse",
    "mouth moyai multimap multiset mushroom mvs mw nabla nak nand nbh nbsp necktie nel neptune",
    "nessus neuter newspaper ninja nl nnbsp nonforking nor nose note notebook nul null octopus",
    "oden ogonek olive onion ophiuchus opposition orangutan osc otter overlap overline owl ox",
    "oyster package pad page pager pages pagoda pallas pancakes paperclip parachute paragraphos",
    "parrot pdf pdi peach peacock peanuts pear pedestrian pencil penguin pentagram",
    "perpendicular perspective pholus pick pie pig pill pinata pineapple pisces pistol",
    "pitchfork placard pld plu plunger pluto pm poodle popcorn poseidon postbox potato pouch",
    "precedes pretzel prime prince princess printer projective proportion proserpina pu1 pu2",
    "purse pushpin quincunx rabbit raccoon radio rain rainbow ram rat ratio razor receipt",
    "response restroom rhinoceros ri ribbon rifle ring rle rli rlm rlo rock rocket rooster rose",
    "rosette rowboat rs rule-delayed runner sagittarius sailboat saltire sandwich sari",
    "satellite saturn sauropod saxophone scales scarf school sci scooter scorpion scorpius",
    "screen screwdriver scroll scruple seal seat sector sedna seedling segment selfie semicolon",
    "semisextile sesquiquadrate sextile sgc shamrock shark sheep shield ship shortcake shorts",
    "shower shrimp shrug shy si single-shift-2 single-shift-3 skateboard skier skull skunk sled",
    "slope sloth smile snail snake snowboarder snowflake snowman so socks softball soh solidus",
    "sos sp spa space spaghetti sparkle sparkles speaker speedboat spider sponge spoon squid",
    "ss2 ss3 ssa st stadium station stethoscope stopwatch straightness strawberry sts stupa stx",
    "sub substitute succeeds sun sunflower sunrise superhero supervillain surfer sushi swan",
    "swimmer symmetry syn synagogue syringe t-rex t-shirt tab taco tamale tangerine taurus taxi",
    "teapot telescope television tent therefore thermodynamic thermometer thunderstorm ticket",
    "tiger tilde tiny toilet tomato tongue toolbox tooth toothbrush trackball tractor train",
    "tram transpluto tricolon troll trolleybus trophy true trumpet tulip turkey turtle umbrella",
    "undertie union uranus us vampire versicle vesta videocassette violin virgo volcano",
    "volleyball vs1 vs10 vs100 vs101 vs102 vs103 vs104 vs105 vs106 vs107 vs108 vs109 vs11 vs110",
    "vs111 vs112 vs113 vs114 vs115 vs116 vs117 vs118 vs119 vs12 vs120 vs121 vs122 vs123 vs124",
    "vs125 vs126 vs127 vs128 vs129 vs13 vs130 vs131 vs132 vs133 vs134 vs135 vs136 vs137 vs138",
    "vs139 vs14 vs140 vs141 vs142 vs143 vs144 vs145 vs146 vs147 vs148 vs149 vs15 vs150 vs151",
    "vs152 vs153 vs154 vs155 vs156 vs157 vs158 vs159 vs16 vs160 vs161 vs162 vs163 vs164 vs165",
    "vs166 vs167 vs168 vs169 vs17 vs170 vs171 vs172 vs173 vs174 vs175 vs176 vs177 vs178 vs179",
    "vs18 vs180 vs181 vs182 vs183 vs184 vs185 vs186 vs187 vs188 vs189 vs19 vs190 vs191 vs192",
    "vs193 vs194 vs195 vs196 vs197 vs198 vs199 vs2 vs20 vs200 vs201 vs202 vs203 vs204 vs205",
    "vs206 vs207 vs208 vs209 vs21 vs210 vs211 vs212 vs213 vs214 vs215 vs216 vs217 vs218 vs219",
    "vs22 vs220 vs221 vs222 vs223 vs224 vs225 vs226 vs227 vs228 vs229 vs23 vs230 vs231 vs232",
    "vs233 vs234 vs235 vs236 vs237 vs238 vs239 vs24 vs240 vs241 vs242 vs243 vs244 vs245 vs246",
    "vs247 vs248 vs249 vs25 vs250 vs251 vs252 vs253 vs254 vs255 vs256 vs26 vs27 vs28 vs29 vs3",
    "vs30 vs31 vs32 vs33 vs34 vs35 vs36 vs37 vs38 vs39 vs4 vs40 vs41 vs42 vs43 vs44 vs45 vs46",
    "vs47 vs48 vs49 vs5 vs50 vs51 vs52 vs53 vs54 vs55 vs56 vs57 vs58 vs59 vs6 vs60 vs61 vs62",
    "vs63 vs64 vs65 vs66 vs67 vs68 vs69 vs7 vs70 vs71 vs72 vs73 vs74 vs75 vs76 vs77 vs78 vs79",
    "vs8 vs80 vs81 vs82 vs83 vs84 vs85 vs86 vs87 vs88 vs89 vs9 vs90 vs91 vs92 vs93 vs94 vs95",
    "vs96 vs97 vs98 vs99 vt vts vulcanus waffle wastebasket watch watermelon wedding whale",
    "wheel window wj woman wood worm wrench wrestlers x-ray xor yo-yo zeus zombie zwj zwnbsp",
    "zwnj zwsp"]

/-- The first words of the names of several words, in small letters. -/
def nameStarts : List String := [
    "ac account activate acute addressed adhesive adi adlam admission aegean aerial afghani",
    "ahom airplane alarm alchemical alef alien all almost alternate alternative amalgamation",
    "american anatolian anatomical and anger angle angry angstrom anguished antenna",
    "anticlockwise apl application approaches approximately arabic arabic-indic armenian arrow",
    "arrowhead-shaped articulated artist ascending ascia asterisk astonished astronomical",
    "asymptotically athletic atom austral auto automated avestan baby back back-tilted",
    "backslanted bactrian badminton baggage baguette balinese ball ballet balloon-spoked ballot",
    "bamum banknote bar barber basketball bassa batak beach beamed bear bearded beating beer",
    "bell bellhop bengali bent bento benzene bet beverage bhaiksuki big billed biohazard",
    "birthday bitcoin biting black black-feathered black-letter blank block blue bold bookmark",
    "bopomofo bottle bottom bouquet bow bowl bowtie box boxing boys brahmi braille break bride",
    "bridge broken brown bubble buginese buhid building bullet bullhorn bus bust busts byte",
    "byzantine cada call camera canadian cancel cancellation canned car card care caret carian",
    "carousel carp carpentry carriage cat caucasian caution cedi celtic cent centre centreline",
    "chakma cham character chart check checker cheering cheese chequered cherokee cherry chi",
    "children chocolate chorasmian christmas circle circled circulation circumflex circus",
    "cityscape cjk clamshell clapper clapping classical clear clinking clock clockwise close",
    "closed cloud clown cocktail collision colon combining commercial composition confetti",
    "confounded confused congruent conical construction contains continuous contour control",
    "convenience cooked coptic copyleft copyright cornish corresponds couch counting couple cow",
    "credit crescent cricket cross crossed crossing cruzeiro crying crystal cube cuneiform cup",
    "curling curly currency curry curved cut cypriot cypro-minoan cyrillic dagger dalet dark",
    "dash dashed data deaf deciduous decimal decrease degree delivery delta dentistry",
    "department derelict descending deseret desert desktop devanagari device diameter diamond",
    "die diesel difference digit digram dimension dingbat direct disabled disappointed",
    "discontinuous disguised ditto dives diving division divorce diya dizzy dna do document",
    "does dog dogra dollar domino dong dot dotted double double-ended double-line double-struck",
    "doubled dove down down-pointing downward downwards drachma drafting dragon drive dromedary",
    "drooling drop drum duployan e-mail ear earth east editorial egyptian eight eighth eject",
    "elbasan electric electrical element elymaic em emoji emphasis empty en end enter envelope",
    "equal equals equiangular equivalent erase eris error-barred estimated ethiopic euler euro",
    "euro-currency european evergreen exclamation expressionless extended extraterrestrial",
    "extremely face facsimile fallen falling farsi father fax fearful female feminine ferris",
    "field figure file film finite fire firework first fish fishing fisted five flag flat",
    "flexed floppy floral flower flushed flying for fork forked form fortune four four-per-em",
    "fourth fox fraction frame freezing french fried frog front-facing front-tilted frowning",
    "fuel full fullwidth function funeral game gear gem geometric geometrically georgian german",
    "geta gimel giraffe girls glagolitic glass gleich globe glowing goal gothic graduation",
    "grantha grave greater-than greek green grimacing grinning group growing guarani guide",
    "gujarati gunjala gurmukhi hair halfwidth hammer hamster hand hangul hangzhou hanifi",
    "hanunoo happy hard hatching hatran headstone hear-no-evil heart heavy hebrew hellschreiber",
    "helm helmet hentaigana hermitian hexagram high high-heeled high-speed hiking hindu",
    "hiragana historic hollow honey horizontal horse hot hourglass house hryvnia hugging",
    "hundred hushed hyphen hyphenation hysteresis i ice identical identification ideographic",
    "image imperial inbox incoming incomplete increase increases index indian indic infinity",
    "information inhibit input inscriptional insertion integral interior interlinear",
    "interlocked intersection inverse inverted invisible izakaya japanese javanese jigsaw",
    "kaithi kangxi kannada katakana katakana-hiragana kayah kelvin keyboard keycap kharoshthi",
    "khitan khmer khojki khudawadi kip kiss kissing kneeling korean l lab lacrosse lady",
    "language lao large larger lari last latin leaf leafy left left-facing left-handed",
    "left-pointing left-shaded left-side left-to-right leftwards lepcha less-than level",
    "ligature light lightning limbu limited line linear link linked lion lira lisu livre lock",
    "locking-shift logical long lotion loudly love low lower lozenge lycian lydian lying magic",
    "mahajani mahjong makasar malayalam male maltese man manat mandaic manichaean mans",
    "mantelpiece manual map maple marchen marriage martial masaram masculine mask masu mate",
    "mathematical mayan measured meat mechanical medefaidrin medieval medium meetei melting",
    "mende menorah mens meroitic message metrical miao micr micro middle midline military milky",
    "mill minus minus-or-plus mirror mobile modern modi modifier modulo money money-mouth",
    "mongolian monkey monogram monostable mood moon mother motor motorized mount mountain mouse",
    "movie mro much multani multiple multiplication multiset music musical myanmar n-ary",
    "nabataean nail naira name nandinagari narrow national nauseated nazar negated negative",
    "neither neptune nerd nest nesting neutral new newa newline next night nko no no-break",
    "nominal nomisma non-breaking non-potable nordic normal north northeast-pointing not",
    "notched note notebook number numero nushu nut nyiakeng object oblique observer ocr",
    "octagonal office ogham ohm oil ok ol old older om on oncoming one one-piece open",
    "open-circuit-output open-outlined operating optical option or orange original oriya ornate",
    "orthodox osage osmanya ottoman ounce outbox outlined overheated overlapping padding page",
    "pahawh palm palms palmyrene panda paragraph paragraphus parallel parenthesized part",
    "partial partially-recycled partnership party passed passenger passive-pull-down-output",
    "passive-pull-up-output passport pau paw peace pen pensive people per percent performing",
    "permanent perpendicular persevering person personal peseta peso petri phags-pa phaistos",
    "philippine phoenician pickup pig pilcrow pile pinched pinching pine pinwheel pitchfork",
    "place planck playground playing plus plus-minus pluto pocket police pop portable position",
    "postal pot potable potted poultry pound pouring pouting power prayer precedes pregnant",
    "prescription presentation previous print printer privacy private probing prohibited",
    "property proportional psalter public punctuation punctus purple put quadrant quadruple",
    "quarter quaternion question questioned quotation rabbit racing radical radio radioactive",
    "railway raised record recreational recycled recycling red reference regional registered",
    "rejang relieved reminder replacement restricted return reverse reversed revolving rial",
    "ribbon rice right right-facing right-handed right-pointing right-shaded right-side",
    "right-to-left righthand rightwards ring ringed ringing rising roasted robot roll rolled-up",
    "roller rolling roman rotated round rounded ruble rugby rumi runic running rupee russian s",
    "safety sake salt saluting samaritan sans-serif satellite saurashtra school script second",
    "section see-no-evil segmented semidirect separated serious service sesame set sewing",
    "shadowed shallow sharada shaved shavian shift shinto shocked shooting shopping short",
    "shorthand shouldered shuffle siddham sideways sign signwriting silhouette similar sine",
    "single sinhala six six-per-em sixteen ski skull slanted slavonic sleeping sleepy sleuth",
    "slice slightly sloping slot small smaller smash smiling smirking smoking sneezing snow",
    "snowman soccer soft software-function sogdian solid solidus som soon sora sound south",
    "soyombo sparkling speak-no-evil speaker speaking speech spesmilo spherical spider spiral",
    "splashing spool sports spouting square squared squat staff stamped standing star start",
    "statue steam steaming stenographic stick stock straight stress strictly string studio",
    "stuffed subscript subset succeeds summation sun sundanese sunrise sunset superscript",
    "superset surface suspension swash swung syloti symbol synchronous syriac table tag tagalog",
    "tagbanwa tai takeout takri tally tamil tanabata tangsa tangut tape teacup tear-off",
    "teardrop-barbed teardrop-spoked teddy telephone telugu tenge tennis test tetragram thaana",
    "thai there thin thinking third thong thought three three-d three-em three-per-em thumbs",
    "thunder tibetan tie tifinagh tiger tight tilde timer times tiny tired tirhuta tironian",
    "tokyo top tortoise total toto trade tram transversal triangle triangle-headed triangular",
    "trident trigram triple tropical true tugrik tumbler turkish turned twelve twisted two",
    "two-em ugaritic umbrella unamused uncertainty undo unicorn union unit united universal",
    "unmarried up up-pointing upper upside-down upwards vai variation vector vedic vertical",
    "very vibration victory video vietnamese viewdata vithkuqi voided volume vulgar wancho",
    "waning warang warning water wave waving wavy waxing weary wedge-tailed weierstrass weight",
    "west wheel wheelchair white white-feathered wide-headed wiggly wilted wind wine winking",
    "wired wolf woman womans womens won word world worried wrapped wreath writing x xiangqi",
    "yawning yellow yen yezidi yi yin z zanabazar zebra zero zipper-mouth znamenny"]

end DataLayer.Text
