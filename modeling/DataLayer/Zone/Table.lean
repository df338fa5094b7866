/-! The time zones: what their clocks showed before the first change, every change, and the rule
for the years after the last one.

A change is written as the time since the change before it, in quarters of an hour to base
thirty-six, with the seconds left over after a point, and then the letter of the new offset. The
first change is counted from ten thousand million seconds before 1970. -/

namespace DataLayer.Zone

/-- A day of the year named by month, week and weekday (the fifth week being the last, and Sunday
being zero), and the second of that day at which clocks change. -/
structure YearDay where
  month : Nat
  week : Nat
  weekday : Nat
  second : Int

/-- The rule of the years after the last change. -/
structure YearRule where
  standard : Int
  summer : Int
  start : YearDay
  finish : YearDay

/-- One zone under all of its names. -/
structure Entry where
  names : List String
  offsets : List Int
  changes : List String := []
  rule : Option YearRule := none

/-- Zones of Africa. -/
def africa : List Entry := [
  { names := [
      "Africa/Abidjan", "Africa/Accra", "Africa/Bamako", "Africa/Banjul", "Africa/Conakry",
      "Africa/Dakar", "Africa/Freetown", "Africa/Lome", "Africa/Nouakchott", "Africa/Ouagadougou",
      "Africa/Timbuktu", "Atlantic/Reykjavik", "Atlantic/St_Helena", "Iceland"],
    offsets := [-968, 0],
    changes := ["5ek4o.4oB"] },
  { names := [
      "Africa/Addis_Ababa", "Africa/Asmara", "Africa/Asmera", "Africa/Dar_es_Salaam",
      "Africa/Djibouti", "Africa/Kampala", "Africa/Mogadishu", "Africa/Nairobi",
      "Indian/Antananarivo", "Indian/Comoro", "Indian/Mayotte"],
    offsets := [8836, 9000, 10800, 9900],
    changes := ["5bsv1.7cBf5mn.kgC14ymB5942D46ynC"] },
  { names := ["Africa/Algiers"],
    offsets := [732, 561, 0, 3600, 7200],
    changes := [
      "4yxja.7gBf0o0.4rC3yfw.flD82oCcw0DelcCbc0DfmoCatcDg5cC9s0Dio0CaioD7c0Cdp1cD51gC79kD3318E",
      "dx8Dd1gEcd4DslcC6zxgD5eykC61c0DbeoC47pgDnuoEdhgDtjsCdhgDe04Cdh8D"] },
  { names := [
      "Africa/Bangui", "Africa/Brazzaville", "Africa/Douala", "Africa/Kinshasa", "Africa/Lagos",
      "Africa/Libreville", "Africa/Luanda", "Africa/Malabo", "Africa/Niamey", "Africa/Porto-Novo"],
    offsets := [815, 0, 1800, 3600],
    changes := ["59o7a.55B296o.mnA44vz.2dC499a.mnD"] },
  { names := ["Africa/Bissau"],
    offsets := [-3740, -3600, 0],
    changes := ["5ek4r.2sB1bcioC"] },
  { names := [
      "Africa/Blantyre", "Africa/Bujumbura", "Africa/Gaborone", "Africa/Harare", "Africa/Kigali",
      "Africa/Lubumbashi", "Africa/Lusaka", "Africa/Maputo"],
    offsets := [7818, 7200],
    changes := ["5cb0e.amB"] },
  { names := ["Africa/Cairo", "Egypt"],
    offsets := [7509, 7200, 10800],
    changes := [
      "563r2.j7Btwg0.8lC5rwBeisCbekBelgCfh8Bbk4CfukBb9gCfukBcasCeqkB8npgCanwBfpgCbbwBfpkCb9gB",
      "fukCb9gBfrwCb9gBfrwCb9gBfrwCb9gBfukCb9gBfrwCb9gBfrwCbc4Bfp8Cbc4BfrwCbc4Bfp8Cbc4Bfp8Cbc4B",
      "fp8Cbc4BfrwCbc4Bfp8Cbc4Bfp8Cbc4Bfp8Cbc4BfrwCbc4Bfp8Cbc4Bfp8Cbc4Bfp8Cbc4BfrwCbc4Bfp8Cbc4B",
      "lzwC51gBl18C604BfrwCbc4Bfp8Cbc4Bfp8Cbc4Bfp8Cbc4BfrwCbc4Bg2kCaysBfp8Cbc4Bfp8Cbc4BfrwCbc4B",
      "fp8Cbc4Bfp8Cbc4Bfh4CbekBfk4CbekBfk4CbekBfk4CbekBg2sCbekBfk4CbekBfk4CbekBfk4CbekBfk4CbekB",
      "g2sCbekBfk4CbekBfk4CavwBg2sC9ukBh44C9bwBhmsC8t8Bio4C7mkB284C1jwB2q04C33wB2lgC458B6gasC"],
    rule := some ⟨7200, 10800, ⟨4, 5, 5, 0⟩, ⟨10, 5, 4, 86400⟩⟩ },
  { names := ["Africa/Casablanca"],
    offsets := [-1820, 0, 3600],
    changes := [
      "5fxbd.3cBjg59.ogC518B79gC4b18B3fesCad8Bch04C8ukB522sC53wB191gC6t8Bk84Cb3wBi84C4qkB47xgC",
      "1cl8Bgug4C6t8Bk84C5zwBitgC798BhmsC8t8Bk8cC62oB2aoC31cBfk0C56oB2ioC5s0BbeoC6o0B2lcC6aoB",
      "beoC5pcB2lcC79cBbeoC56oB2lcC8aoBaw0C45cB340C8tcBaw0C3moB2lcCnuoB2lcCnc0B340Cnc0B2lcCnc0B",
      "340Cnc0B2lcCnuoB2lcCnc0B340Cnc0B2lcCdh8B"] },
  { names := ["Africa/Ceuta"],
    offsets := [-1276, 0, 3600, 7200],
    changes := [
      "56akn.2sBd198CbekB45hgCco4B15h8Ccg4BdzwCcysBeioCcyoBt1tcC8ukB522sC53wB191gC6t8Bk84Cb3wB",
      "i84C4qkB47xgC1j44DdhcCdhcDdhcCdhcDdhcCdhcDdhcCdhcDe00CdhcDdhcCdhcDdhcCdhcDdhcCdhcDdhcC",
      "dhcDdhcCe00D"],
    rule := some ⟨3600, 7200, ⟨3, 5, 0, 7200⟩, ⟨10, 5, 0, 10800⟩⟩ },
  { names := ["Africa/El_Aaiun"],
    offsets := [-3168, -3600, 0, 3600],
    changes := [
      "5v3e2.fsBvs00.c0C198D6t8Ck84Db3wCi84D4qkCmeysD6t8Ck84D5zwCitgD798ChmsD8t8Ck8cD62oC2aoD",
      "31cCfk0D56oC2ioD5s0CbeoD6o0C2lcD6aoCbeoD5pcC2lcD79cCbeoD56oC2lcD8aoCaw0D45cC340D8tcCaw0D",
      "3moC2lcDnuoC2lcDnc0C340Dnc0C2lcDnc0C340Dnc0C2lcDnuoC2lcDnc0C340Dnc0C2lcDdh8C"] },
  { names := ["Africa/Johannesburg", "Africa/Maseru", "Africa/Mbabane"],
    offsets := [6720, 5400, 7200, 10800],
    changes := ["4zlwf.g4B8b41.boCtq86Ddh8CdhgDdh8C"] },
  { names := ["Africa/Juba"],
    offsets := [7588, 7200, 10800],
    changes := [
      "5su72.h0Btk2o.asCcd8BelgCcfwBeo4CcfwBeisCcikBeg4Ccl8BedgCcnwBeasCct8Be5gCcvwBelgCcfwB",
      "eisCcikBeg4CcnwBeasCcqkBe84Cct8Be5gCcvwBelgCcikBeg4Ccl8BaplgCftfwB"] },
  { names := ["Africa/Khartoum"],
    offsets := [7808, 7200, 10800],
    changes := [
      "5su72.awBtk2o.gwCcd8BelgCcfwBeo4CcfwBeisCcikBeg4Ccl8BedgCcnwBeasCct8Be5gCcvwBelgCcfwB",
      "eisCcikBeg4CcnwBeasCcqkBe84Cct8Be5gCcvwBelgCcikBeg4Ccl8BaplgCddfwB"] },
  { names := ["Africa/Monrovia"],
    offsets := [-2588, -2670, 0],
    changes := ["5jxwp.ooB13q00.2aC"] },
  { names := ["Africa/Ndjamena"],
    offsets := [3612, 3600, 7200],
    changes := ["5ek4j.2gB1exxc.cCat8B"] },
  { names := ["Africa/Sao_Tome"],
    offsets := [1616, -2205, 0, 3600],
    changes := ["4tin9.7wBl1hd.jwC27nxgDr1cC"] },
  { names := ["Africa/Tripoli", "Libya"],
    offsets := [3164, 3600, 7200],
    changes := [
      "5kkkj.ewBnvxj.cwC5ucB1bxoC67oB1b6sC6vwB296sChaakB6o4CdjwBdhgCdjwBdk4CdjwBdusCd6kBdpgC",
      "dh8Bdc4CdjwBdk4CdjwBdhgCdjwBfxgC4tekBds4Cbq5gBaaoC"] },
  { names := ["Africa/Tunis"],
    offsets := [2444, 561, 3600, 7200],
    changes := [
      "4rj8k.9wBmeyq.2bCl47s.flDg2oC7c0D17k0CbesDhmwCaw0D1ekClgDbzwCdhgDdx0Cd1oDcd0CnrhgDaw0C",
      "g80Dbc0C79k0D8lcCdhcDdhcCg80Db9cCaylcDb9gCd44Dg2oCaw0Dg2oCbeoDfk0C"] },
  { names := ["Africa/Windhoek"],
    offsets := [4104, 5400, 7200, 10800, 3600],
    changes := [
      "4zlwi.dsB8b3y.e0Ctq86Ddh8C12bukEcdoCfjwEbesCg2kEaw4Cg2kEbesCfjwEbesCfjwEbesCfjwEbesCfjwE",
      "besCg2kEaw4Cg2kEbesCfjwEbesCfjwEbesCfjwEbesCfjwEbesCg2kEbesCfjwEbesCfjwEbesCfjwEbesCfjwE",
      "besCg2kEaw4Cg2kEbesCfjwEbesCfjwEbesCfjwEbesC"] }]

/-- Zones of America. -/
def america : List Entry := [
  { names := ["America/Adak", "America/Atka", "US/Aleutian"],
    offsets := [44002, -42398, -39600, -36000, -32400],
    changes := [
      "4hca1.4tBoofx.pCv61g.maD2qfwChps4Ddh8CdhgDdh8CdhgDdzwCdhgDdh8CdhgDdh8C56sDlrwC8tgDi58C",
      "dhgDdzwCcysDdzwCdhgDdh8CdhgDdh8CdhgDdh8CdhgDdh8CdhgDdzwCcysDrh8Edh8DdhgEdh8DdhgEdh8DbxgE",
      "f18DbxgEfjwDbesEfjwDbesEfjwDbxgEf18DbxgEf18DbxgEfjwDbesEfjwDbesEfjwDbxgEf18DbxgEf18DbxgE",
      "f18DbxgEfjwDbesEfjwDbesEfjwDbxgEf18DbxgEf18DbxgEfjwDbesEfjwDbesEfjwD9usE"],
    rule := some ⟨-36000, -32400, ⟨3, 2, 0, 7200⟩, ⟨11, 1, 0, 7200⟩⟩ },
  { names := ["America/Anchorage", "US/Alaska"],
    offsets := [50424, -35976, -36000, -32400, -28800],
    changes := [
      "4hca1.4tBoofp.mbCv61k.oD2qfwChps4Ddh8CdhgDdh8CdhgDdzwCdhgDdh8CdhgDdh8C56sDlrwC8tgDi58C",
      "dhgDdzwCcysDdzwCdhgDdh8CdhgDdh8CdhgDdh8CdhgDdh8CdhgDdzwCcysDrh8Edh8DdhgEdh8DdhgEdh8DbxgE",
      "f18DbxgEfjwDbesEfjwDbesEfjwDbxgEf18DbxgEf18DbxgEfjwDbesEfjwDbesEfjwDbxgEf18DbxgEf18DbxgE",
      "f18DbxgEfjwDbesEfjwDbesEfjwDbxgEf18DbxgEf18DbxgEfjwDbesEfjwDbesEfjwD9usE"],
    rule := some ⟨-32400, -28800, ⟨3, 2, 0, 7200⟩, ⟨11, 1, 0, 7200⟩⟩ },
  { names := [
      "America/Anguilla", "America/Antigua", "America/Aruba", "America/Blanc-Sablon",
      "America/Curacao", "America/Dominica", "America/Grenada", "America/Guadeloupe",
      "America/Kralendijk", "America/Lower_Princes", "America/Marigot", "America/Montserrat",
      "America/Port_of_Spain", "America/Puerto_Rico", "America/St_Barthelemy", "America/St_Kitts",
      "America/St_Lucia", "America/St_Thomas", "America/St_Vincent", "America/Tortola",
      "America/Virgin"],
    offsets := [-15865, -14400, -10800],
    changes := ["54yx4.ihBwdym.9bC2kasB"] },
  { names := ["America/Araguaina"],
    offsets := [-11568, -10800, -7200],
    changes := [
      "5g2ab.o4Bdcbv.3oCddcBdpgCdbwBciysCa2oBgyoC8ykBi2sC918Bi2sC6nwB83hgC658Bow4C4dcBi5cC6o0B",
      "i5cC8vwBi5gC8ykBda5gC9ukBglgC8akBiqsC7rwBio4C7rwBj6sC8t8B49hgC8t8BhmsC9ukBh6sCat8BglgC",
      "9ukBglgCavwBglgC9ukBhmsC9bwBj6sC7rwB79usC8t8B"] },
  { names := ["America/Argentina/Buenos_Aires", "America/Buenos_Aires"],
    offsets := [-14028, -15408, -14400, -10800, -7200],
    changes := [
      "51np2.hgBj5up.dcC7yda.m0D8ykCelgDa7wCi5gD8vwCi5gD8vwCi5gD8vwCi5gD8ykCi5gD8vwCi5gD8vwC",
      "i5gD8vwCi5gD8ykC91gDpukC91gD1cikC5k4D1sakCfusDcrx8C5k4D5p8Cgw4Da58Cgw4Da58Cgw4DcikCdhgD",
      "dzwCdhgDdh8CdhgD38d8E798Dayo4E6ykDglgEad8Dh44E9ukDh44E9ukDh44Ead8Db4tgE5p8Dg2sEavwD"] },
  { names := [
      "America/Argentina/Catamarca", "America/Argentina/ComodRivadavia", "America/Catamarca"],
    offsets := [-15788, -15408, -14400, -10800, -7200],
    changes := [
      "51np4.gcBj5un.egC7yda.m0D8ykCelgDa7wCi5gD8vwCi5gD8vwCi5gD8vwCi5gD8ykCi5gD8vwCi5gD8vwC",
      "i5gD8vwCi5gD8ykC91gDpukC91gD1cikC5k4D1sakCfusDcrx8C5k4D5p8Cgw4Da58Cgw4Da58Cgw4DcikCdhgD",
      "dzwCdhgDdh8CdhgD38d8E798Dayo4E6ykDglgEad8Dh44E9ukCh48E9ugDh44Ead8D8g04C1esD2nekE5p8D"] },
  { names := ["America/Argentina/Cordoba", "America/Cordoba", "America/Rosario"],
    offsets := [-15408, -14400, -10800, -7200],
    changes := [
      "5ktjs.5sB7yda.m0C8ykBelgCa7wBi5gC8vwBi5gC8vwBi5gC8vwBi5gC8ykBi5gC8vwBi5gC8vwBi5gC8vwB",
      "i5gC8ykB91gCpukB91gC1cikB5k4C1sakBfusCcrx8B5k4C5p8Bgw4Ca58Bgw4Ca58Bgw4CcikBdhgCdzwBdhgC",
      "dh8BdhgC38d8D798Cayo4D6ykCglgDad8Ch44D9ukBh48D9ugCh44Dad8Cb4tgD5p8Cg2sDavwC"] },
  { names := ["America/Argentina/Jujuy", "America/Jujuy"],
    offsets := [-15672, -15408, -14400, -10800, -7200],
    changes := [
      "51np4.d4Bj5un.hoC7yda.m0D8ykCelgDa7wCi5gD8vwCi5gD8vwCi5gD8vwCi5gD8ykCi5gD8vwCi5gD8vwC",
      "i5gD8vwCi5gD8ykC91gDpukC91gD1cikC5k4D1sakCfusDcrx8C5k4D5p8Cgw4Da58Cgw4Da58Cgw4DcikCdhgD",
      "dzwCdhgDdh8CdhgD38d8E798Dayo4E6ykDglgEad8ChmwDad8Cf1gEavsDh44Ead8Db4tgE5p8D"] },
  { names := ["America/Argentina/La_Rioja"],
    offsets := [-16044, -15408, -14400, -10800, -7200],
    changes := [
      "51np4.ngBj5un.7cC7yda.m0D8ykCelgDa7wCi5gD8vwCi5gD8vwCi5gD8vwCi5gD8ykCi5gD8vwCi5gD8vwC",
      "i5gD8vwCi5gD8ykC91gDpukC91gD1cikC5k4D1sakCfusDcrx8C5k4D5p8Cgw4Da58Cgw4Da58Cgw4DcikCdhgD",
      "dzwCdhgDdh8CdhgD38d8E798Dayo4E6ykDglgEad8Dh44E9p8C4ywDcakE9ukDh44Ead8D8g04C1esD2nekE5p8D"] },
  { names := ["America/Argentina/Mendoza", "America/Mendoza"],
    offsets := [-16516, -15408, -14400, -10800, -7200],
    changes := [
      "51np5.bkBj5um.j8C7yda.m0D8ykCelgDa7wCi5gD8vwCi5gD8vwCi5gD8vwCi5gD8ykCi5gD8vwCi5gD8vwC",
      "i5gD8vwCi5gD8ykC91gDpukC91gD1cikC5k4D1sakCfusDcrx8C5k4D5p8Cgw4Da58Cgw4Da58Cgw4DcikCdhgD",
      "dzwCdhgDdh8CdhgD38d8E798Dayo4E6ykDglgEad8Cgo8Da58Cgw4Da7wCh44Ead4D8fc4C9c4D2g58E5p8D"] },
  { names := ["America/Argentina/Rio_Gallegos"],
    offsets := [-16612, -15408, -14400, -10800, -7200],
    changes := [
      "51np5.e8Bj5um.gkC7yda.m0D8ykCelgDa7wCi5gD8vwCi5gD8vwCi5gD8vwCi5gD8ykCi5gD8vwCi5gD8vwC",
      "i5gD8vwCi5gD8ykC91gDpukC91gD1cikC5k4D1sakCfusDcrx8C5k4D5p8Cgw4Da58Cgw4Da58Cgw4DcikCdhgD",
      "dzwCdhgDdh8CdhgD38d8E798Dayo4E6ykDglgEad8Dh44E9ukDh44E9ukDh44Ead8D8g04C1esD2nekE5p8D"] },
  { names := ["America/Argentina/Salta"],
    offsets := [-15700, -15408, -14400, -10800, -7200],
    changes := [
      "51np4.dwBj5un.gwC7yda.m0D8ykCelgDa7wCi5gD8vwCi5gD8vwCi5gD8vwCi5gD8ykCi5gD8vwCi5gD8vwC",
      "i5gD8vwCi5gD8ykC91gDpukC91gD1cikC5k4D1sakCfusDcrx8C5k4D5p8Cgw4Da58Cgw4Da58Cgw4DcikCdhgD",
      "dzwCdhgDdh8CdhgD38d8E798Dayo4E6ykDglgEad8Dh44E9ukCh48E9ugDh44Ead8Db4tgE5p8D"] },
  { names := ["America/Argentina/San_Juan"],
    offsets := [-16444, -15408, -14400, -10800, -7200],
    changes := [
      "51np5.9kBj5um.l8C7yda.m0D8ykCelgDa7wCi5gD8vwCi5gD8vwCi5gD8vwCi5gD8ykCi5gD8vwCi5gD8vwC",
      "i5gD8vwCi5gD8ykC91gDpukC91gD1cikC5k4D1sakCfusDcrx8C5k4D5p8Cgw4Da58Cgw4Da58Cgw4DcikCdhgD",
      "dzwCdhgDdh8CdhgD38d8E798Dayo4E6ykDglgEad8Dh44E9p8C4ywDcakE9ukDh44Ead8D8fxgC42sD2kt8E5p8D"] },
  { names := ["America/Argentina/San_Luis"],
    offsets := [-15924, -15408, -14400, -10800, -7200],
    changes := [
      "51np4.k4Bj5un.aoC7yda.m0D8ykCelgDa7wCi5gD8vwCi5gD8vwCi5gD8vwCi5gD8ykCi5gD8vwCi5gD8vwC",
      "i5gD8vwCi5gD8ykC91gDpukC91gD1cikC5k4D1sakCfusDcrx8C5k4D5p8Cgw4Da58Cgw4Da58Cgw4DcikCdhgD",
      "dzwCdhgDdh8CdhgD38d8E798Dayo4E6ykDglgEb3wCfxkDa58C6tgD9rp8C42sD2kt8E1mkD3k4Cg2sDavwCg2sD"] },
  { names := ["America/Argentina/Tucuman"],
    offsets := [-15652, -15408, -14400, -10800, -7200],
    changes := [
      "51np4.ckBj5un.i8C7yda.m0D8ykCelgDa7wCi5gD8vwCi5gD8vwCi5gD8vwCi5gD8ykCi5gD8vwCi5gD8vwC",
      "i5gD8vwCi5gD8ykC91gDpukC91gD1cikC5k4D1sakCfusDcrx8C5k4D5p8Cgw4Da58Cgw4Da58Cgw4DcikCdhgD",
      "dzwCdhgDdh8CdhgD38d8E798Dayo4E6ykDglgEad8Dh44E9ukCh48E9ugDh44Ead8D8g04Cw4D2nx8E5p8Dg2sE",
      "avwD"] },
  { names := ["America/Argentina/Ushuaia"],
    offsets := [-16392, -15408, -14400, -10800, -7200],
    changes := [
      "51np5.84Bj5um.moC7yda.m0D8ykCelgDa7wCi5gD8vwCi5gD8vwCi5gD8vwCi5gD8ykCi5gD8vwCi5gD8vwC",
      "i5gD8vwCi5gD8ykC91gDpukC91gD1cikC5k4D1sakCfusDcrx8C5k4D5p8Cgw4Da58Cgw4Da58Cgw4DcikCdhgD",
      "dzwCdhgDdh8CdhgD38d8E798Dayo4E6ykDglgEad8Dh44E9ukDh44E9ukDh44Ead8D8fusC1k4D2nekE5p8D"] },
  { names := ["America/Asuncion"],
    offsets := [-13840, -14400, -10800],
    changes := [
      "5tf3q.c8Buso0.fkC14ikB14lgCb98BfusCb6kBfusCb6kBfusCdh8Bdk4CdjwBdk4Cdh8Bdk4Cdh8Bdk4Cdh8B",
      "dk4CdjwBdk4Cdh8Bdk4Cdh8Bdk4Cdh8Bdk4CdjwBdk4Cdh8Bf44Cbx8Bdk4Cdh8BdxgCavwBg5gCd3wBdmsCb18B",
      "g04CaykBg2sCb98Bg84Cad8BglgCavwBg2sCbekBfk4CbekBfk4CbekBg2sCdh8Baw4Cg2kBbesCfjwBeisCavwB",
      "g2sCavwBg2sCavwBglgCad8BglgCad8BglgCcykBcysCdzwBcysCdzwBdhgCcfwBeisCcfwBeisCcfwBeisCcykB",
      "e04CcykBe04CcykBeisCcfwBeisCcfwBeisCcykBe04CcykBe04CcykBe04CcykBeisC"] },
  { names := [
      "America/Atikokan", "America/Cayman", "America/Coral_Harbour", "America/Panama", "EST"],
    offsets := [-19088, -19176, -18000],
    changes := ["4y118.80Bdr6o.2gC"] },
  { names := ["America/Bahia"],
    offsets := [-9244, -10800, -7200],
    changes := [
      "5g2a9.9kBdcbx.i8CddcBdpgCdbwBciysCa2oBgyoC8ykBi2sC918Bi2sC6nwB83hgC658Bow4C4dcBi5cC6o0B",
      "i5cC8vwBi5gC8ykBda5gC9ukBglgC8akBiqsC7rwBio4C7rwBj6sC8t8Bio4C8t8Bi5gC8akBj6sC798Bj6sC",
      "9bwBhmsC9bwBhmsC8t8BhmsC9ukBh6sCat8BglgC9ukBglgCavwBglgC9ukBhmsC9bwBj6sC7rwB6idgC9ukB"] },
  { names := ["America/Bahia_Banderas"],
    offsets := [-25260, -25200, -21600, -18000],
    changes := [
      "5m2qr.2sB4340C2kvwBcasCbekBdk4C7k7wB14jscCf18BbxgCf18BbxgCf18BbxgCfjwBbesCfjwBe04CavwB",
      "e04Cf18BbxgCf18BbxgCfjwBbesCfjwBbesCfjwBbesCfjwBbxgCf18BbxgCf18BbxgDfjsCbesDfjwCbesDfjwC",
      "bxgDf18CbxgDf18CbxgDf18CbxgDfjwCbesDfjwCbesDfjwCbxgDf18CbxgDf18CbxgDfjwCbesDfjwC"] },
  { names := ["America/Barbados"],
    offsets := [-14309, -14400, -10800, -12600],
    changes := ["5eat3.9Bn11g.2jC9xgBi2kC9c4Bg58Dbc4Bom5cC8akBeisCcfwBeisCcfwBf1gCbp8B"] },
  { names := ["America/Belem"],
    offsets := [-11636, -10800, -7200],
    changes := [
      "5g2ac.10Bdcbv.1sCddcBdpgCdbwBciysCa2oBgyoC8ykBi2sC918Bi2sC6nwB83hgC658Bow4C4dcBi5cC6o0B",
      "i5cC8vwBi5gC8ykBda5gC9ukBglgC8akBiqsC7rwB"] },
  { names := ["America/Belize"],
    offsets := [-21168, -21600, -19800, -18000],
    changes := [
      "5eqvy.fsB4w80.c0C9byBhmqC9umBh42C9umBh42C9umBhmqC9byBhmqC9byBhmqC9umBh42C9umBh42C9umB",
      "h42C9umBhmqC9byBhmqC9byBhmqC9umBh42C9umBh42C9umBhmqC9byBhmqC9byBhmqC9byBhmqC9umBh42C9umB",
      "h42C9umBhmqC9byBhmqC9byBhmqC9umB9uqD2lukB1cqsC9umBh42C9umBh42C9umBhmqC9byBhmqC9byBhmqC",
      "9umBh42C9umBh42C9umBh42C9umBhmqC9byBhmqC9byBhmqC9umBh42C9umBh42C9umBhmqC9byBhmqC9byBhmqC",
      "9byBhmqC9umBh42C9umBh42C9umBhmqC9byB4dc2D4vwB6nk4D458B"] },
  { names := ["America/Boa_Vista"],
    offsets := [-14560, -14400, -10800],
    changes := [
      "5g2af.78Bdcbv.kkCddcBdpgCdbwBciysCa2oBgyoC8ykBi2sC918Bi2sC6nwB83hgC658Bow4C4dcBi5cC6o0B",
      "i5cC8vwBi5gC8ykBda5gC9ukBglgC8akBiqsC7rwB8r9gCavwBglgCikB"] },
  { names := ["America/Bogota"],
    offsets := [-17776, -18000, -14400],
    changes := ["5gqfu.lkB1m79c.68CkqkB"] },
  { names := ["America/Boise"],
    offsets := [-27889, -28800, -25200, -21600],
    changes := [
      "4tfg7.2sBpto8CfjwBbesCfjwB2nxgCe36kD2qfwCg7usDdh8CdhgDdh8CdhgDdh8CdhgDdh8CdhgDdzwCdhgD",
      "dh8CdhgDdh8C79gDjp8C8tgDi58CdhgDdzwCcysDdzwCdhgDdh8CdhgDdh8CdhgDdh8CdhgDdh8CdhgDdzwCcysD",
      "dzwCdhgDdh8CdhgDdh8CdhgDdh8CbxgDf18CbxgDfjwCbesDfjwCbesDfjwCbxgDf18CbxgDf18CbxgDfjwCbesD",
      "fjwCbesDfjwCbxgDf18CbxgDf18CbxgDf18CbxgDfjwCbesDfjwCbesDfjwCbxgDf18CbxgDf18CbxgDfjwCbesD",
      "fjwCbesDfjwC9usD"],
    rule := some ⟨-25200, -21600, ⟨3, 2, 0, 7200⟩, ⟨11, 1, 0, 7200⟩⟩ },
  { names := ["America/Cambridge_Bay"],
    offsets := [0, -25200, -21600, -18000],
    changes := [
      "5kkkn.2sBgm6cC2qfwBjz6sCdh8BdhgCdh8BdhgCdh8BdhgCdh8BdhgCdzwBcysCdzwBdhgCdh8BdhgCdh8BdhgC",
      "dh8BdhgCdh8BdhgCdzwBcysCdzwBdhgCdh8BdhgCdh8BdhgCdh8BbxgCf18BbxgCfjwBbesCfjwBbesCfjwBbxgC",
      "f18BbxgCf18BbxgCfjwBbesCfjwBbesCfjwBbxgCf18BbxgCf18BbxgCf18BbxgCqykDg2cCqgcBbxgCf18BbxgC",
      "f18BbxgCfjwBbesCfjwBbesCfjwB9usC"],
    rule := some ⟨-25200, -21600, ⟨3, 2, 0, 7200⟩, ⟨11, 1, 0, 7200⟩⟩ },
  { names := ["America/Campo_Grande"],
    offsets := [-13108, -14400, -10800],
    changes := [
      "5g2ad.gwBdcbx.awCddcBdpgCdbwBciysCa2oBgyoC8ykBi2sC918Bi2sC6nwB83hgC658Bow4C4dcBi5cC6o0B",
      "i5cC8vwBi5gC8ykBda5gC9ukBglgC8akBiqsC7rwBio4C7rwBj6sC8t8Bio4C8t8Bi5gC8akBj6sC798Bj6sC",
      "9bwBhmsC9bwBhmsC8t8BhmsC9ukBh6sCat8BglgC9ukBglgCavwBglgC9ukBhmsC9bwBj6sC7rwBi5gC8t8Bjc4C",
      "858BhmsC9bwBj6sC8akBh44C9bwBi5gC8t8Bi5gC9bwBhmsC9bwBhmsC9ukBhmsC8t8Bi5gC8t8Bi5gC9bwBhmsC",
      "9bwBhmsC9bwBhmsC9bwBj6sC7rwB"] },
  { names := ["America/Cancun"],
    offsets := [-20824, -21600, -18000, -14400],
    changes := [
      "5m2qn.2sB192w8Crp0B9yocCf18BbxgCqykD8t8C684BbxgCfjwBbesCfjwBe04CavwBe04Cf18BbxgCf18BbxgC",
      "fjwBbesCfjwBbesCfjwBbesCfjwBbxgCf18BbxgCf18BbxgCfjwBbesCfjwBbesCfjwBbxgCf18BbxgCf18B79gC"] },
  { names := ["America/Caracas"],
    offsets := [-16064, -16060, -16200, -14400],
    changes := ["4y114.o0Bgm7z.owC13qw0.3wDw9myC6b40D"] },
  { names := ["America/Cayenne"],
    offsets := [-12560, -14400, -10800],
    changes := ["5e6id.1oB169xe.14C"] },
  { names := ["America/Chicago", "US/Central"],
    offsets := [-21036, -21600, -18000],
    changes := [
      "4tffz.2sBpto8CfjwBbesCfjwBh44Cad8Baw4Cg2kBdhgCavwBg2sCbekBfk4CbekBfk4CbekBfk4CbekBfk4C",
      "bekBg2sCbekBfk4CbekBfk4CbekBfk4CbekBfk4CbekBg2sCavwBg2sCbekBfk4CbekBbesCj6kBbxgCbekBfk4C",
      "bekBg2sCavwBg2sCbekBfk4CbekB9xgC2qfwBfk4CbekBfk4CbekBfk4CbekBfk4CbekBg2sCavwBg2sCbekB",
      "fk4CbekBfk4CbekBfk4CbekBfk4CdzwBdhgCdh8BdhgCdh8BdhgCdh8BdhgCdh8BdhgCdzwBdhgCdh8BdhgCdh8B",
      "dhgCdh8BdhgCdh8BdhgCdzwBcysCdzwBdhgCdh8BdhgCdh8BdhgCdh8BdhgCdh8BdhgCdzwBdhgCdh8BdhgCdh8B",
      "56sClrwB8tgCi58BdhgCdzwBcysCdzwBdhgCdh8BdhgCdh8BdhgCdh8BdhgCdh8BdhgCdzwBcysCdzwBdhgCdh8B",
      "dhgCdh8BdhgCdh8BbxgCf18BbxgCfjwBbesCfjwBbesCfjwBbxgCf18BbxgCf18BbxgCfjwBbesCfjwBbesCfjwB",
      "bxgCf18BbxgCf18BbxgCf18BbxgCfjwBbesCfjwBbesCfjwBbxgCf18BbxgCf18BbxgCfjwBbesCfjwBbesCfjwB",
      "9usC"],
    rule := some ⟨-21600, -18000, ⟨3, 2, 0, 7200⟩, ⟨11, 1, 0, 7200⟩⟩ },
  { names := ["America/Chihuahua"],
    offsets := [-25460, -25200, -21600, -18000],
    changes := [
      "5m2qr.2sB4340C2kvwBcasCbekBdk4C1c404Df18CbxgDf18CqysBbxgCfjwBbesCfjwBe04CavwBe04Cf18B",
      "bxgCf18BbxgCfjwBbesCfjwBbesCfjwBbesCfjwBbxgCf18BbxgCf18BbxgCfjwBbesCfjwBbesCfjwBbxgCf18B",
      "bxgCf18BbxgCf18BbxgCfjwBbesCfjwBbesCfjwBbxgCf18BbxgCf18BbxgCfjwBbesC"] },
  { names := ["America/Ciudad_Juarez"],
    offsets := [-25556, -25200, -21600, -18000],
    changes := [
      "5m2qr.2sB4340C2kvwBcasCbekBdk4C1c404Df18CbxgDf18CqysBbxgCfjwBbesCfjwBe04CavwBe04Cf18B",
      "bxgCf18BbxgCfjwBbesCfjwBbesCfjwBbesCfjwBbxgCf18BbxgCf18BadgChmkB9c4ChmkB9c4ChmkB9c4ChmkB",
      "9c4ChmkB9c4ChmkB9usChmkB9c4ChmkB9c4ChmkB9c4ChmkB9c4ChmkB9usChmkB9c4CjecB7kcC"],
    rule := some ⟨-25200, -21600, ⟨3, 2, 0, 7200⟩, ⟨11, 1, 0, 7200⟩⟩ },
  { names := ["America/Costa_Rica"],
    offsets := [-20173, -21600, -18000],
    changes := ["5lcql.d5B17o81.enC798BjpgC798B7zpgCc2kBew4C47wB"] },
  { names := ["America/Coyhaique"],
    offsets := [-17296, -16965, -18000, -14400, -10800],
    changes := [
      "4y116.88Bf1pb.ftC4v41.3rB1nby.l9Dlrx.3rB651e.l9Dfrx.3rCbc4Dfp8Cbc4Dfp8Cbc4Dfp8Cbc4DfrwC",
      "bc4D7bp8C4isD3i7wC3s0Dg4g0EavwDhmsE9bwDeisEbekDfk4EbekDg2sEavwDf1gEbx8Dg2sEavwDg2sEbekD",
      "fk4EbekDfk4EbekDg2sEavwDg2sEavwDg2sEbekDfk4EbekDfk4EbekDfk4EbekDg2sEavwDg2sEavwDg2sEdh8D",
      "dhgEbekDfk4EbekDg2sEavwDe04EcykDg2sEbekDfk4EbekDfk4EbekDfk4EbekDg2sEavwDg2sEcfwDeisEbekD",
      "eisEdzwDe04EbekDg2sEavwDg2sEavwDg2sEavwDg2sEbekDfk4EbekDfk4EbekDg2sEavwDg2sEcfwDeisEbekD",
      "fk4EcykDe04EfjwD7s4EinwD9c4EhmkD9usEh3wD9usE19mkD6qsEk7wD6qsEk7wD6qsEhmkDbesEfjwDbesE",
      "fjwDbesEfjwDbxgEf18DbesEg2kDbesE"] },
  { names := ["America/Creston", "America/Phoenix", "MST", "US/Arizona"],
    offsets := [-26898, -25200, -21600],
    changes := ["4tfg3.2sBpto8CfjwBbesCfjwBgr44C1f6c.1oB6qsCdjwBgytn.ncCdh8B"] },
  { names := ["America/Cuiaba"],
    offsets := [-13460, -14400, -10800],
    changes := [
      "5g2ae.1oBdcbx.14CddcBdpgCdbwBciysCa2oBgyoC8ykBi2sC918Bi2sC6nwB83hgC658Bow4C4dcBi5cC6o0B",
      "i5cC8vwBi5gC8ykBda5gC9ukBglgC8akBiqsC7rwBio4C7rwBj6sC8t8Bio4C8t8Bi5gC8akBj6sC798Bj6sC",
      "9bwBhmsC9bwBhmsC8t8BhmsC9ukBh6sCat8BglgC9ukBglgCavwBglgC9ukBhmsC9bwBj6sC7rwB1aasC858B",
      "hmsC9bwBj6sC8akBh44C9bwBi5gC8t8Bi5gC9bwBhmsC9bwBhmsC9ukBhmsC8t8Bi5gC8t8Bi5gC9bwBhmsC9bwB",
      "hmsC9bwBhmsC9bwBj6sC7rwB"] },
  { names := ["America/Danmarkshavn"],
    offsets := [-4480, -10800, -7200, 0],
    changes := [
      "5hzu4.28B1bv73.kCcy8BdhcCdhcBdhcCdhcBdhcCdhcBdhcCe00BdhcCdhcBdhcCdhcBdhcCdhcBdhcCdhcB",
      "dhcCdhcBdhcCe00BdhcCdhcBdhcCdhcBdhcCdhcBdhcCdhcBdhcCdhcB7c8D"] },
  { names := ["America/Dawson"],
    offsets := [-33460, -32400, -28800, -25200],
    changes := [
      "560oc.78Bd9hi.kkCeikBfk4CbucBgqocC2qfwBepekDe00B6080C4vs4Ddh8CdhgDdh8CdhgDdzwCcysDdzwC",
      "dhgDdh8CdhgDdh8CdhgDdh8CbxgDf18CbxgDfjwCbesDfjwCbesDfjwCbxgDf18CbxgDf18CbxgDfjwCbesDfjwC",
      "besDfjwCbxgDf18CbxgDf18CbxgDf18CbxgDfjwCbesDfjwCbesDfjwCbxgDf18CbxgDf18CbxgDfjwCbesDfjwC",
      "besDfjwC9usDhmkC9c4DhmkC9c4DhmkC9usDhmkC9c4DhmkC9c4DhmkC9c4DhmkC9c4DhmkC9c4DhmkC9usDhmkC",
      "9c4DhmkC9c4DhmkC9c4DhmkC9c4D"] },
  { names := ["America/Dawson_Creek"],
    offsets := [-28856, -28800, -25200],
    changes := [
      "4tio7.4cBprhj.ngCeikBhi2sC2qfwB16isCbekBfk4CbekBfk4CbekBg2sCavwBg2sCbekBfk4CbekBfk4CbekB",
      "fk4CbekBfk4CbekBg2sCbekBfk4CbekBfk4CbekBfk4CbekBfk4CbekBg2sCavwBg2sCdh8BdhgCdh8BdhgCdh8B",
      "dhgCdzwBcysCdzwBdhgCdh8BdhgCdh8BdhgCdh8BdhgCdh8BdhgCdzwBdhgC"] },
  { names := ["America/Denver", "America/Shiprock", "Navajo", "US/Mountain"],
    offsets := [-25196, -25200, -21600],
    changes := [
      "4tfg3.2sBpto8CfjwBbesCfjwBbesCg2kBaw4C458BfklgC2qfwBepesCdzwBcysCdzwBdhgCdh8BdhgCdh8B",
      "dhgCdh8BdhgCdh8BdhgCdzwBdhgCdh8BdhgCdh8B56sClrwB8tgCi58BdhgCdzwBcysCdzwBdhgCdh8BdhgCdh8B",
      "dhgCdh8BdhgCdh8BdhgCdzwBcysCdzwBdhgCdh8BdhgCdh8BdhgCdh8BbxgCf18BbxgCfjwBbesCfjwBbesCfjwB",
      "bxgCf18BbxgCf18BbxgCfjwBbesCfjwBbesCfjwBbxgCf18BbxgCf18BbxgCf18BbxgCfjwBbesCfjwBbesCfjwB",
      "bxgCf18BbxgCf18BbxgCfjwBbesCfjwBbesCfjwB9usC"],
    rule := some ⟨-25200, -21600, ⟨3, 2, 0, 7200⟩, ⟨11, 1, 0, 7200⟩⟩ },
  { names := ["America/Detroit", "US/Michigan"],
    offsets := [-19931, -21600, -18000, -14400],
    changes := [
      "59at9.6fB7sg9.ldCk3h8D2qfwC1xhgDbekCe2ak.1oDa5f.ncCdhgDdh8C3dusDdh8C56sDlrwCdhgDdh8CdhgD",
      "dzwCcysDdzwCdhgDdh8CdhgDdh8CdhgDdh8CdhgDdh8CdhgDdzwCcysDdzwCdhgDdh8CdhgDdh8CdhgDdh8CbxgD",
      "f18CbxgDfjwCbesDfjwCbesDfjwCbxgDf18CbxgDf18CbxgDfjwCbesDfjwCbesDfjwCbxgDf18CbxgDf18CbxgD",
      "f18CbxgDfjwCbesDfjwCbesDfjwCbxgDf18CbxgDf18CbxgDfjwCbesDfjwCbesDfjwC9usD"],
    rule := some ⟨-18000, -14400, ⟨3, 2, 0, 7200⟩, ⟨11, 1, 0, 7200⟩⟩ },
  { names := ["America/Edmonton", "America/Yellowknife", "Canada/Mountain"],
    offsets := [-27232, -25200, -21600],
    changes := [
      "5ajut.98B8qat.ikCeikBcg4C398BoqsCdzwBcysCbekBg2sCavwBg2sCbekBdstgC2qfwB16isCbekBih9gC",
      "dh8BdhgCdh8BdhgCdh8BdhgCdh8BdhgCdzwBcysCdzwBdhgCdh8BdhgCdh8BdhgCdh8BdhgCdh8BdhgCdzwBcysC",
      "dzwBdhgCdh8BdhgCdh8BdhgCdh8BbxgCf18BbxgCfjwBbesCfjwBbesCfjwBbxgCf18BbxgCf18BbxgCfjwBbesC",
      "fjwBbesCfjwBbxgCf18BbxgCf18BbxgCf18BbxgCfjwBbesCfjwBbesCfjwBbxgCf18BbxgCf18BbxgCfjwBbesC",
      "fjwBbesCfjwB9usChmkB9c4ChmkB9c4ChmkB9usChmkB9c4ChmkB9c4ChmkB9c4ChmkB9c4ChmkB9c4ChmkB9usC",
      "hmkB9c4ChmkB9c4ChmkB9c4ChmkB9c4ChmkB9usChmkB9c4ChmkB9c4ChmkB9c4ChmkB9c4ChmkB9c4C"] },
  { names := ["America/Eirunepe"],
    offsets := [-16768, -18000, -14400],
    changes := [
      "5g2ah.ikBdcbx.98CddcBdpgCdbwBciysCa2oBgyoC8ykBi2sC918Bi2sC6nwB83hgC658Bow4C4dcBi5cC6o0B",
      "i5cC8vwBi5gC8ykBda5gC9ukBglgC8akBiqsC7rwB4a04C9bwBas04C41jwB"] },
  { names := ["America/El_Salvador"],
    offsets := [-21408, -21600, -18000],
    changes := ["5lbpa.mgB1duo0.5cCavwBg2sCavwB"] },
  { names := ["America/Ensenada", "America/Santa_Isabel", "America/Tijuana", "Mexico/BajaNorte"],
    offsets := [-28084, -25200, -28800],
    changes := [
      "5m2qr.2sB1i2oC2l1gB2kvwCa5gBdh8C7xusB2od8C1slgBl18CyysBat8Cg30BbekCfk4BbekCfk0BbeoCfk0B",
      "beoCfk0BbeoCg2oBbeoCfk0BbeoCfk0BbeoCfk0BbeoCfk0BbeoCg2oBaw0Cg2oBdhcCdhcBdhcCdhcBdhcCdhcB",
      "e00CcyoBe00CdhgBdh8CdhgBdh8CdhgBdh8CdhgBdh8CdhgBdzwCdhgBdh8CdhgBdh8C56sBlrwC8tgBi58CdhgB",
      "dzwCcysBdzwCdhgBdh8CdhgBdh8CdhgBdh8CdhgBdh8CdhgBdzwCcysBdzwCdhgBdh8CdhgBdh8CdhgBdh8CbxgB",
      "f18CbxgBfjwCbesBfjwCbesBfjwCbxgBf18CbxgBf18CbxgBfjwCbesBfjwCbesBfjwCbxgBf18CbxgBf18CbxgB",
      "f18CbxgBfjwCbesBfjwCbesBfjwCbxgBf18CbxgBf18CbxgBfjwCbesBfjwCbesBfjwCbesBfjwCbxgBf18CbxgB",
      "f18CadgB"],
    rule := some ⟨-28800, -25200, ⟨3, 2, 0, 7200⟩, ⟨11, 1, 0, 7200⟩⟩ },
  { names := ["America/Fort_Nelson"],
    offsets := [-29447, -28800, -25200],
    changes := [
      "4tio7.krBprhj.71CeikBhi2sC2qfwB16isCbekBfk4CbekBfk4CbekBg2sCavwBg2sCbekBfk4CbekBfk4CbekB",
      "fk4CbekBfk4CbekBg2sCbekBfk4CbekBfk4CbekBfk4CbekBfk4CbekBg2sCavwBg2sCdh8BdhgCdh8BdhgCdh8B",
      "dhgCdzwBcysCdzwBdhgCdh8BdhgCdh8BdhgCdh8BdhgCdh8BdhgCdzwBdhgCdh8BdhgCdh8BdhgCdh8BdhgCdh8B",
      "dhgCdzwBcysCdzwBdhgCdh8BdhgCdh8BdhgCdh8BdhgCdh8BdhgCdzwBcysCdzwBdhgCdh8BdhgCdh8BdhgCdh8B",
      "bxgCf18BbxgCfjwBbesCfjwBbesCfjwBbxgCf18BbxgCf18BbxgCfjwBbesCfjwBbesCfjwBbxgCf18BbxgCf18B",
      "bxgCf18BbxgCfjwBbesCfjwBbesCfjwBbxgCf18BbxgCf18BbxgCfjwBbesCfjwBbesCfjwB9usChmkB9c4ChmkB",
      "9c4ChmkB9usChmkB9c4ChmkB9c4ChmkB9c4ChmkB9c4ChmkB9c4C"] },
  { names := [
      "America/Fort_Wayne", "America/Indiana/Indianapolis", "America/Indianapolis",
      "US/East-Indiana"],
    offsets := [-20678, -21600, -18000, -14400],
    changes := [
      "4tffz.2sBpto8CfjwBbesCfjwBg9xgC798B9xgC2qfwBfk4CbekBfk4CbekBfk4CbekBfk4CbekBg2sCavwBg2sC",
      "bekBfk4CbekBfk4CbekBfk4CbekBfk4C1tukBfk4C89mkDdh8CdhgDdh8CqmqsDfjwC9usD"],
    rule := some ⟨-18000, -14400, ⟨3, 2, 0, 7200⟩, ⟨11, 1, 0, 7200⟩⟩ },
  { names := ["America/Fortaleza"],
    offsets := [-9240, -10800, -7200],
    changes := [
      "5g2a9.9gBdcbx.icCddcBdpgCdbwBciysCa2oBgyoC8ykBi2sC918Bi2sC6nwB83hgC658Bow4C4dcBi5cC6o0B",
      "i5cC8vwBi5gC8ykBda5gC9ukBglgC8akBiqsC7rwBio4C7rwBj6sC8t8B78tgCavwBglgC118Bqg4C9bwB"] },
  { names := ["America/Glace_Bay"],
    offsets := [-14388, -14400, -10800],
    changes := [
      "57duf.2gBbwaw.cCeikBhi2sC2qfwB5otgCbekBdyysCdh8BdhgCdh8BdhgCdh8BdhgCdh8BdhgCdzwBcysCdzwB",
      "dhgCdh8BdhgCdh8BdhgCdh8BdhgCdh8BdhgCdzwBcysCdzwBdhgCdh8BdhgCdh8BdhgCdh8BbxgCf18BbxgCfjwB",
      "besCfjwBbesCfjwBbxgCf18BbxgCf18BbxgCfjwBbesCfjwBbesCfjwBbxgCf18BbxgCf18BbxgCf18BbxgCfjwB",
      "besCfjwBbesCfjwBbxgCf18BbxgCf18BbxgCfjwBbesCfjwBbesCfjwB9usC"],
    rule := some ⟨-14400, -10800, ⟨3, 2, 0, 7200⟩, ⟨11, 1, 0, 7200⟩⟩ },
  { names := ["America/Godthab", "America/Nuuk"],
    offsets := [-12416, -10800, -7200, -3600],
    changes := [
      "5hzuc.moB1bv6u.54Ccy8BdhcCdhcBdhcCdhcBdhcCdhcBdhcCe00BdhcCdhcBdhcCdhcBdhcCdhcBdhcCdhcB",
      "dhcCdhcBdhcCe00BdhcCdhcBdhcCdhcBdhcCdhcBdhcCdhcBdhcCdhcBe00Cfk0BbeoCfk0BbeoCfk0BbeoCg2oB",
      "aw0Cg2oBaw0Cg2oBbeoCfk0BbeoCfk0BbeoCg2oBaw0Cg2oBaw0Cg2oBaw0Cg2oBbeoCfk0BbeoCfk0BbeoCg2oB",
      "aw0Cg2oBaw0Cg2oBbeoCfk0BbeoCfk0BbeoCfk0BbeoCg2oBaw0Cg2oBaw0Cg2oBbeoCfk0BbeoCfk0BbeoCg2oB",
      "aw0Cg2oBaw0CrhcD"],
    rule := some ⟨-7200, -3600, ⟨3, 5, 0, -3600⟩, ⟨10, 5, 0, 0⟩⟩ },
  { names := ["America/Goose_Bay"],
    offsets := [-14500, -12652, -9052, -12600, -9000, -14400, -10800, -7200],
    changes := [
      "4tinr.5kBprhh.noCeikBccakDu7z.nkEavwDg2sEavwDg2sEavwDglgEad8DglgEavwDg2sEavwDg2sE2jpgD",
      "glgEavwDg2sEavwDg2sEavwDg2sEavwDglgEavwDf1gEbekDfk4EbekDfk4EbekDfk4EbekDfk4EbekDg2sEbekD",
      "fk4EbekDfk4EbekDfk4EbekDfk4EdzwDdhgEdh8DdhgEdh8DdhgEdh8DdhgEdh8DdhgEdzwDa04F2yqGdzwFdhgG",
      "dh8FdhgGdh8FdhgGdh8FdhgGdh8FdhgGdzwFdhgGdh8FdhgGdh8FdhgGdh8FdhgGdh8FdhgGdzwFcysGdzwFdhgG",
      "dh8FdhgGdh8FdhgGdh8FdhgGdh8FdhgGdzwFcysGdzwFdhgGdh8FdhgGdh8FdhgGdh8Fbx8.1oGf18FbxgHfjsF",
      "bewGfjwFbesGfjwFbxgGf18FbxgGf18FbxgGfjwFbesGfjwFbesGfjwFbxgGf18FbxgGf18FbxgGf18FbxgGfjwF",
      "besGfjwFbesGfjwFbxgGf18FbxgGf18FbxgGfjwFbesGfjwFbesGfjwF9usGhmkF9c4GhmkF9c4GhmkF9usGhmkF",
      "9c4Ghmr.ncF"],
    rule := some ⟨-14400, -10800, ⟨3, 2, 0, 7200⟩, ⟨11, 1, 0, 7200⟩⟩ },
  { names := ["America/Grand_Turk"],
    offsets := [-17072, -18430, -18000, -14400],
    changes := [
      "4y116.20Bglep.cqC1ej6v.d2Ddh8CdhgDdh8CdhgDdh8CdhgDdzwCcysDdzwCdhgDdh8CdhgDdh8CdhgDdh8C",
      "bxgDf18CbxgDfjwCbesDfjwCbesDfjwCbxgDf18CbxgDf18CbxgDfjwCbesDfjwCbesDfjwCbxgDf18CbxgDf18C",
      "bxgDf18CbxgDfjwCbesDfjwCbesDfjwCbxgDf18CbxgDf18CbxgDfjwCbesDfjwCbesDfjwC9usDhmkC9c4DhmkC",
      "9c4DhmkC9usDhmkC9c4DhmkC9c4DhmkC9c4DhmkC9c4DhmkC9c4D2r18C"],
    rule := some ⟨-18000, -14400, ⟨3, 2, 0, 7200⟩, ⟨11, 1, 0, 7200⟩⟩ },
  { names := ["America/Guatemala"],
    offsets := [-21724, -21600, -18000],
    changes := ["5jn1b.68B15fun.lkC6qkB6xusC96kB5mw4CcfwBb084CbekB"] },
  { names := ["America/Guayaquil"],
    offsets := [-19160, -18840, -18000, -14400],
    changes := ["4y118.a0But6n.g4C1aiyn.1oD53wC"] },
  { names := ["America/Guyana"],
    offsets := [-13959, -14400, -13500, -10800],
    changes := ["5e8t2.fjB2ow0.c9C19enzDciqpB"] },
  { names := ["America/Halifax", "Canada/Atlantic"],
    offsets := [-15264, -14400, -10800],
    changes := [
      "57dug.1sBad9b.10CdjwB15hoCeikB15h8C8akBiisC918Bhk4C9h8Bi04C8ykBi04C9x8Bh1gCaykBh1gC8vwB",
      "h1gCaykBh1gC8t8Bi5gC8fwBiisC9ekBhk4CafwBg04CaykBg04Cbh8Bh1gC8t8Bj6sC8vwBi5gC7rwBh1gCaykB",
      "g04CaykBi2sC8vwBgisCaykBg04CaykB9v0C2qfwBfk4CbekBfk4CbekBfk4CbekBfk4CbekB171gCbekBfk4C",
      "bekBfk4CbekBfk4CbekB171gCbekBfk4CbekBfk4CbekBfk4CbekB1y04Cdh8BdhgCdh8BdhgCdh8BdhgCdzwB",
      "cysCdzwBdhgCdh8BdhgCdh8BdhgCdh8BdhgCdh8BdhgCdzwBdhgCdh8BdhgCdh8BdhgCdh8BdhgCdh8BdhgCdzwB",
      "cysCdzwBdhgCdh8BdhgCdh8BdhgCdh8BdhgCdh8BdhgCdzwBcysCdzwBdhgCdh8BdhgCdh8BdhgCdh8BbxgCf18B",
      "bxgCfjwBbesCfjwBbesCfjwBbxgCf18BbxgCf18BbxgCfjwBbesCfjwBbesCfjwBbxgCf18BbxgCf18BbxgCf18B",
      "bxgCfjwBbesCfjwBbesCfjwBbxgCf18BbxgCf18BbxgCfjwBbesCfjwBbesCfjwB9usC"],
    rule := some ⟨-14400, -10800, ⟨3, 2, 0, 7200⟩, ⟨11, 1, 0, 7200⟩⟩ },
  { names := ["America/Havana", "Cuba"],
    offsets := [-19768, -19776, -18000, -14400],
    changes := [
      "4y119.1wBqpo0.8C269a.oD918C8r1gD6qkCk84D798Ck84D6qkC225gD6qkCk84D6qkCe39gD8ykChusD9bwC",
      "dxgDbh8Cg2sDavwCh44Ddh8CdhgDdh8CdhgDdzwCdhgDbx8Cf1gDbzwCeysDc2kCew4Ddh8CdhgDdzwCcysDdzwC",
      "e04DbekCbxgDfjwCbesDfjwCfk4DbekCfk4DbekCfk4DbekCfk4Dbx8Cf1gDbx8CbesDfjwCbesDfjwCbxgDf18C",
      "bxgDf18CcysDeikCcysDe00CcyoDe00CcyoDe00CcyoDe00CcyoDe00CdhcDdhcCdhcDe00Ccg0Dfk0CbeoDg2oC",
      "beoDfk0CbeoDfk0CbxcDf1cCbxcDf1cCbeoD1y00C9uoDh40CadcDglcC9uoDh40CadcDh40CadcDhmoCadcD",
      "g2oC9c0DhmoC9c0DhmoC9c0DhmoC9uoDhmoC9c0DhmoC9c0DhmoC9c0DhmoC9c0DhmoC9uoDhmoC9c0DhmoC9c0D",
      "hmoC9c0DhmoC9c0DhmoC9c0D"] },
  { names := ["America/Hermosillo"],
    offsets := [-26632, -25200, -21600],
    changes := ["5m2qr.2sB4340C2kvwBcasCbekBdk4C7k7wB14jscCf18BbxgCf18BbxgCf18B"] },
  { names := ["America/Indiana/Knox", "America/Knox_IN", "US/Indiana-Starke"],
    offsets := [-20790, -21600, -18000],
    changes := [
      "4tffz.2sBpto8CfjwBbesCfjwBgr44C2qfwB16isCbekBfk4CbekBfk4CbekBg2sCavwBg2sCbekBfk4CbekB",
      "fk4CbekBfk4CbekBfk4CdzwBdhgCdh8BdhgCbekBfk4CbekBfk4Cdh8BdhgCdzwBdhgCdh8BdhgC14fwB2mw4C",
      "dh8BdhgCdh8BdhgCdh8BdhgCdh8BdhgCdzwBdhgCdh8BdhgCdh8B56sClrwB8tgCi58BdhgCdzwBcysCdzwBdhgC",
      "dh8BdhgCdh8BdhgCdh8BdhgCdh8BdhgCdzwBcysCdzwBdhgCdh8BdhgCdh8BdhgCdh8BbxgCf18BbxgCfjwBbesC",
      "fjwBbesCfjwBbxgCbp18B9usC"],
    rule := some ⟨-21600, -18000, ⟨3, 2, 0, 7200⟩, ⟨11, 1, 0, 7200⟩⟩ },
  { names := ["America/Indiana/Marengo"],
    offsets := [-20723, -21600, -18000, -14400],
    changes := [
      "4tffz.2sBpto8CfjwBbesCfjwBgr44C2qfwB46w4CbekB1xhgCbekBfk4CbekBg2sCbekBfk4CbekBfk4CbekB",
      "fk4CbekBfk4CbekBg2sC607wDdh8CdhgDdh8CdhgDdzwCdhgDdh8CdhgDdh8Czs4Di58CmvesDfjwC9usD"],
    rule := some ⟨-18000, -14400, ⟨3, 2, 0, 7200⟩, ⟨11, 1, 0, 7200⟩⟩ },
  { names := ["America/Indiana/Petersburg"],
    offsets := [-20947, -21600, -18000, -14400],
    changes := [
      "4tffz.2sBpto8CfjwBbesCfjwBgr44C2qfwB7798Caw4Bg2sCbekBfk4CbekBfk4CbekBfk4CbekBfk4CbekB",
      "g2sCdh8BdhgCdh8BdhgCdh8BdhgCdh8BdhgC14ykBdhgCdh8BdhgCdh8BdhgCdh8BdhgCdh8BdhgCdzwBdhgC",
      "dh8BdhgCdh8B56sClrwB8tgCi58BdhgCdzwBcysCm6ikB9usCqykD"],
    rule := some ⟨-18000, -14400, ⟨3, 2, 0, 7200⟩, ⟨11, 1, 0, 7200⟩⟩ },
  { names := ["America/Indiana/Tell_City"],
    offsets := [-20823, -21600, -18000, -14400],
    changes := [
      "4tffz.2sBpto8CfjwBbesCfjwBgr44C2qfwB7798Caw4Bg2sCbekBfk4CbekBfk4CbekBfk4CbekBfk4CbekB",
      "g2sCdh8BdhgCdh8BdhgCdh8BdhgC2mvwBdhgCdh8BdhgDdh4CdhgDdh8Cr2asB9usC"],
    rule := some ⟨-21600, -18000, ⟨3, 2, 0, 7200⟩, ⟨11, 1, 0, 7200⟩⟩ },
  { names := ["America/Indiana/Vevay"],
    offsets := [-20416, -21600, -18000, -14400],
    changes := [
      "4tffz.2sBpto8CfjwBbesCfjwBgr44C2qfwB6fs4Cb9zwDdh8CdhgDdh8CdhgDdzwCdhgDdh8Cp4asDfjwC9usD"],
    rule := some ⟨-18000, -14400, ⟨3, 2, 0, 7200⟩, ⟨11, 1, 0, 7200⟩⟩ },
  { names := ["America/Indiana/Vincennes"],
    offsets := [-21007, -21600, -18000, -14400],
    changes := [
      "4tffz.2sBpto8CfjwBbesCfjwBgr44C2qfwBfk4CbekB4xusCbekBfk4CbekBg2kCaw4Bg2sCbekBfk4CbekB",
      "fk4CbekBfk4CbekBfk4CdzwBdhgCavwBg2sCdh8BdhgCdh8BdhgC3rbwDdh8CdhgDdh8Cr2asB9usCqykD"],
    rule := some ⟨-18000, -14400, ⟨3, 2, 0, 7200⟩, ⟨11, 1, 0, 7200⟩⟩ },
  { names := ["America/Indiana/Winamac"],
    offsets := [-20785, -21600, -18000, -14400],
    changes := [
      "4tffz.2sBpto8CfjwBbesCfjwBgr44C2qfwBfk4CbekBfk4CbekBfk4CbekBfk4CbekBg2sCavwBg2sCbekBfk4C",
      "bekBfk4CbekBfk4CbekBfk4CdzwBdhgCdh8BdhgCbekBfk4CbekBfk4CbekBfk4CbekBg2sC607wDdh8CdhgD",
      "dh8Cr2asB9usDhmgC"],
    rule := some ⟨-18000, -14400, ⟨3, 2, 0, 7200⟩, ⟨11, 1, 0, 7200⟩⟩ },
  { names := ["America/Inuvik"],
    offsets := [0, -28800, -25200, -21600],
    changes := [
      "69dgn.2sBeix4Cdh8BdhgCdh8BdhgCdh8BdhgCdh8BdhgCdzwBcysCdzwBdhgCdh8BdhgDdh4CdhgDdh8CdhgD",
      "dh8CdhgDdzwCcysDdzwCdhgDdh8CdhgDdh8CdhgDdh8CbxgDf18CbxgDfjwCbesDfjwCbesDfjwCbxgDf18CbxgD",
      "f18CbxgDfjwCbesDfjwCbesDfjwCbxgDf18CbxgDf18CbxgDf18CbxgDfjwCbesDfjwCbesDfjwCbxgDf18CbxgD",
      "f18CbxgDfjwCbesDfjwCbesDfjwC9usDhmkC9c4DhmkC9c4DhmkC9usDhmkC9c4DhmkC9c4DhmkC9c4DhmkC9c4D",
      "hmkC9c4DhmkC9usDhmkC9c4DhmkC9c4DhmkC9c4DhmkC9c4DhmkC9usDhmkC9c4DhmkC9c4DhmkC9c4DhmkC9c4D",
      "hmkC9c4D"] },
  { names := ["America/Iqaluit", "America/Pangnirtung"],
    offsets := [0, -14400, -18000, -21600],
    changes := [
      "61jjb.2sB2dncCjz6sBdh8CdhgBdh8CdhgBdh8CdhgBdh8CdhgBdzwCcysBdzwCdhgBdh8CdhgBdh8CdhgBdh8C",
      "dhgBdh8CdhgBdzwCcysBdzwCdhgBdh8CdhgBdh8CdhgBdh8CbxgBf18CbxgBfjwCbesBfjwCbesBfjwCbxgBf18C",
      "bxgBf18CbxgBfjwCbesBfjwCbesBfjwCbxgBf18CbxgBf18CbxgBf18CbxgBfjwDbewCqykBfjwCbxgBf18CbxgB",
      "f18CbxgBfjwCbesBfjwCbesBfjwC9usB"],
    rule := some ⟨-18000, -14400, ⟨3, 2, 0, 7200⟩, ⟨11, 1, 0, 7200⟩⟩ },
  { names := ["America/Jamaica", "Jamaica"],
    offsets := [-18430, -18000, -14400],
    changes := [
      "5emfv.eqB1ajk7.d2ClrwB8tgCi58BdhgCdzwBcysCdzwBdhgCdh8BdhgCdh8BdhgCdh8BdhgCdh8BdhgCdzwB",
      "cysCdzwB"] },
  { names := ["America/Juneau"],
    offsets := [54139, -32261, -28800, -25200, -32400],
    changes := [
      "4hca1.4tBoofl.j4Cv61g.3vD2qfwChps4Ddh8CdhgDdh8CdhgDdzwCdhgDdh8CdhgDdh8C56sDlrwC8tgDi58C",
      "dhgDdzwCcysDdzwCdhgDdh8CdhgDdh8C14g4Ddh8CdhgDdzwCcysDdzwEdhkCdh8EdhgCdh8EdhgCdh8EbxgC",
      "f18EbxgCfjwEbesCfjwEbesCfjwEbxgCf18EbxgCf18EbxgCfjwEbesCfjwEbesCfjwEbxgCf18EbxgCf18EbxgC",
      "f18EbxgCfjwEbesCfjwEbesCfjwEbxgCf18EbxgCf18EbxgCfjwEbesCfjwEbesCfjwE9usC"],
    rule := some ⟨-32400, -28800, ⟨3, 2, 0, 7200⟩, ⟨11, 1, 0, 7200⟩⟩ },
  { names := ["America/Kentucky/Louisville", "America/Louisville"],
    offsets := [-20582, -21600, -18000, -14400],
    changes := [
      "4tffz.2sBpto8CfjwBbesCfjwB14ysC93wBerpgCbekB9xgC2qfwBfjw.1oC2lf.ncB2xs4CavwBg2sCbekBfk4C",
      "bekBfk4CbekBfk4CbekBfk4CbekBg2sCdh8BdhgCdh8BdhgCdh8BdhgCdh8BdhgCdzwBdhgC5998Ddh8CdhgD",
      "dh8CdhgDdh8CdhgDdzwCdhgDdh8CdhgDdh8Czs4Di58CdhgDdzwCcysDdzwCdhgDdh8CdhgDdh8CdhgDdh8CdhgD",
      "dh8CdhgDdzwCcysDdzwCdhgDdh8CdhgDdh8CdhgDdh8CbxgDf18CbxgDfjwCbesDfjwCbesDfjwCbxgDf18CbxgD",
      "f18CbxgDfjwCbesDfjwCbesDfjwCbxgDf18CbxgDf18CbxgDf18CbxgDfjwCbesDfjwCbesDfjwCbxgDf18CbxgD",
      "f18CbxgDfjwCbesDfjwCbesDfjwC9usD"],
    rule := some ⟨-18000, -14400, ⟨3, 2, 0, 7200⟩, ⟨11, 1, 0, 7200⟩⟩ },
  { names := ["America/Kentucky/Monticello"],
    offsets := [-20364, -21600, -18000, -14400],
    changes := [
      "4tffz.2sBpto8CfjwBbesCfjwBgr44C2qfwBgytgCdh8BdhgCdh8BdhgCdh8BdhgCdzwBdhgCdh8BdhgCdh8B",
      "56sClrwB8tgCi58BdhgCdzwBcysCdzwBdhgCdh8BdhgCdh8BdhgCdh8BdhgCdh8BdhgCdzwBcysCdzwBdhgCdh8B",
      "dhgCdh8BdhgCdh8BbxgCf18BbxgCfjwBbesCfjwBbesCfjwBbxgCf18BbxgCf18BbxgCfjwBbesCfjwBbesCfjwB",
      "bxgCf18BbxgCf18BbxgCf18BbxgCfjwBbesCqykDfjwCbxgDf18CbxgDf18CbxgDfjwCbesDfjwCbesDfjwC9usD"],
    rule := some ⟨-18000, -14400, ⟨3, 2, 0, 7200⟩, ⟨11, 1, 0, 7200⟩⟩ },
  { names := ["America/La_Paz"],
    offsets := [-16356, -12756, -14400],
    changes := ["5tfh5.74Bbp8C"] },
  { names := ["America/Lima"],
    offsets := [-18492, -18516, -18000, -14400],
    changes := [
      "4y117.ggBdydc.oCm47z.aoD6nwCd44Ddh8CdhgDdh8Cyeg4D6nwCkdgD6nwC22isD6nwC2tk4D6nwC"] },
  { names := ["America/Los_Angeles", "US/Pacific"],
    offsets := [-28378, -28800, -25200],
    changes := [
      "4tfg7.2sBpto8CfjwBbesCfjwBgr44C2qfwB1udg.1oClp7.ncBzuoCaw0Bg2oCbeoBfk0CbeoBfk0CbeoBfk0C",
      "beoBfk0CbeoBg2oCbeoBfk0CbeoBfk0CbeoBfk0CbeoBfk0CbeoBg2oCaw0Bg2oCdhcBdhcCdhcBdhcCdhcBdhcC",
      "e00BcyoCe00BdhgCdh8BdhgCdh8BdhgCdh8BdhgCdh8BdhgCdzwBdhgCdh8BdhgCdh8B56sClrwB8tgCi58BdhgC",
      "dzwBcysCdzwBdhgCdh8BdhgCdh8BdhgCdh8BdhgCdh8BdhgCdzwBcysCdzwBdhgCdh8BdhgCdh8BdhgCdh8BbxgC",
      "f18BbxgCfjwBbesCfjwBbesCfjwBbxgCf18BbxgCf18BbxgCfjwBbesCfjwBbesCfjwBbxgCf18BbxgCf18BbxgC",
      "f18BbxgCfjwBbesCfjwBbesCfjwBbxgCf18BbxgCf18BbxgCfjwBbesCfjwBbesCfjwB9usC"],
    rule := some ⟨-28800, -25200, ⟨3, 2, 0, 7200⟩, ⟨11, 1, 0, 7200⟩⟩ },
  { names := ["America/Maceio"],
    offsets := [-8572, -10800, -7200],
    changes := [
      "5g2a8.fwBdcby.bwCddcBdpgCdbwBciysCa2oBgyoC8ykBi2sC918Bi2sC6nwB83hgC658Bow4C4dcBi5cC6o0B",
      "i5cC8vwBi5gC8ykBda5gC9ukBglgC8akBiqsC7rwBio4C7rwBj6sC8t8B49hgC8t8B2qisCavwBglgC118Bqg4C",
      "9bwB"] },
  { names := ["America/Managua"],
    offsets := [-20708, -20712, -21600, -18000],
    changes := [
      "4y11a.30Bxf6o.4Ct79c.ooD1cl8C32g4D7bwCjmsD7bwC8nskDjrgC7c4D307wC67s4DcykCfkcDbegC"] },
  { names := ["America/Manaus", "Brazil/West"],
    offsets := [-14404, -14400, -10800],
    changes := [
      "5g2af.2wBdcbv.owCddcBdpgCdbwBciysCa2oBgyoC8ykBi2sC918Bi2sC6nwB83hgC658Bow4C4dcBi5cC6o0B",
      "i5cC8vwBi5gC8ykBda5gC9ukBglgC8akBiqsC7rwB4a04C9bwB"] },
  { names := ["America/Martinique"],
    offsets := [-14660, -14400, -10800],
    changes := ["5e1zr.a0B1ft1b.hsCcykB"] },
  { names := ["America/Matamoros"],
    offsets := [-23400, -21600, -18000],
    changes := [
      "5m2qn.2sB1dsiwCfjwB5l6sCf18BbxgCf18BbxgCf18BbxgCfjwBbesCfjwBe04CavwBe04Cf18BbxgCf18BbxgC",
      "fjwBbesCfjwBbesCfjwBbesCfjwBbxgCf18BbxgCf18BadgC"],
    rule := some ⟨-21600, -18000, ⟨3, 2, 0, 7200⟩, ⟨11, 1, 0, 7200⟩⟩ },
  { names := ["America/Mazatlan", "Mexico/BajaSur"],
    offsets := [-25540, -25200, -21600],
    changes := [
      "5m2qr.2sB4340C2kvwBcasCbekBdk4C7k7wB14jscCf18BbxgCf18BbxgCf18BbxgCfjwBbesCfjwBe04CavwB",
      "e04Cf18BbxgCf18BbxgCfjwBbesCfjwBbesCfjwBbesCfjwBbxgCf18BbxgCf18BbxgCfjwBbesCfjwBbesCfjwB",
      "bxgCf18BbxgCf18BbxgCf18BbxgCfjwBbesCfjwBbesCfjwBbxgCf18BbxgCf18BbxgCfjwBbesCfjwB"] },
  { names := ["America/Menominee"],
    offsets := [-21027, -21600, -18000],
    changes := [
      "4ut2m.bvBog1k.fxCfjwBbesCfjwBgr44C2qfwBfk4CbekBepesCdzwB1vesC3dukB56sClrwB8tgCi58BdhgC",
      "dzwBcysCdzwBdhgCdh8BdhgCdh8BdhgCdh8BdhgCdh8BdhgCdzwBcysCdzwBdhgCdh8BdhgCdh8BdhgCdh8BbxgC",
      "f18BbxgCfjwBbesCfjwBbesCfjwBbxgCf18BbxgCf18BbxgCfjwBbesCfjwBbesCfjwBbxgCf18BbxgCf18BbxgC",
      "f18BbxgCfjwBbesCfjwBbesCfjwBbxgCf18BbxgCf18BbxgCfjwBbesCfjwBbesCfjwB9usC"],
    rule := some ⟨-21600, -18000, ⟨3, 2, 0, 7200⟩, ⟨11, 1, 0, 7200⟩⟩ },
  { names := ["America/Merida"],
    offsets := [-21508, -21600, -18000],
    changes := [
      "5m2qn.2sB192w8Cn18Ba3c4Cf18BbxgCf18BbxgCf18BbxgCfjwBbesCfjwBe04CavwBe04Cf18BbxgCf18BbxgC",
      "fjwBbesCfjwBbesCfjwBbesCfjwBbxgCf18BbxgCf18BbxgCfjwBbesCfjwBbesCfjwBbxgCf18BbxgCf18BbxgC",
      "f18BbxgCfjwBbesCfjwBbesCfjwBbxgCf18BbxgCf18BbxgCfjwBbesCfjwB"] },
  { names := ["America/Metlakatla"],
    offsets := [54822, -31578, -28800, -25200, -32400],
    changes := [
      "4hca1.4tBoofl.5Cv61g.muD2qfwChps4Ddh8CdhgDdh8CdhgDdzwCdhgDdh8CdhgDdh8C56sDlrwC8tgDi58C",
      "dhgDdzwCcysDdzwCdhgDdh8CdhgDdh8CdhgDdh8CdhgDdh8CdhgDdzwCcysDdzwCo1xgE9usChmkE9c4ChmkE",
      "9c4CnbwE3msC"],
    rule := some ⟨-32400, -28800, ⟨3, 2, 0, 7200⟩, ⟨11, 1, 0, 7200⟩⟩ },
  { names := ["America/Mexico_City", "Mexico/General"],
    offsets := [-23796, -25200, -21600, -18000],
    changes := [
      "5m2qr.2sB4340C2kvwBcasCbekBdk4C5598Dad8C13hgD8d8C219gDa58C4cisDcfwCyc5oDf18CbxgDf18CbxgD",
      "f18CbxgDfjwCbesDfjwCe04DavwCe04Df18CbxgDf18CbxgDfjwCbesDfjwCbesDfjwCbesDfjwCbxgDf18CbxgD",
      "f18CbxgDfjwCbesDfjwCbesDfjwCbxgDf18CbxgDf18CbxgDf18CbxgDfjwCbesDfjwCbesDfjwCbxgDf18CbxgD",
      "f18CbxgDfjwCbesDfjwC"] },
  { names := ["America/Miquelon"],
    offsets := [-13480, -14400, -10800, -7200],
    changes := [
      "5e5bq.28B1frk1.kC57esDf18CbxgDfjwCbesDfjwCbesDfjwCbxgDf18CbxgDf18CbxgDfjwCbesDfjwCbesD",
      "fjwCbxgDf18CbxgDf18CbxgDf18CbxgDfjwCbesDfjwCbesDfjwCbxgDf18CbxgDf18CbxgDfjwCbesDfjwCbesD",
      "fjwC9usD"],
    rule := some ⟨-10800, -7200, ⟨3, 2, 0, 7200⟩, ⟨11, 1, 0, 7200⟩⟩ },
  { names := ["America/Moncton"],
    offsets := [-15548, -18000, -14400, -10800],
    changes := [
      "4tgyg.9oBdww2.i4CbwasDeikCazmoD6qkCk84D6qkCk84D6qkCk84D6qkCk84D6qkCk84D6qkCjmsD8t8ChpgD",
      "998Cgo4Dat8Ca08D2qfwCfk4DbekCfk4DbekCfk4DbekCfk4DbekCg2sDavwCg2sDbekCfk4DbekCfk4DbekC",
      "fk4DbekCfk4DbekCg2sDbekCfk4Ddh8CdhgDdh8CdhgDdh8CdhgDdzwCdhgDdh8CdhgDdh8CdhgDdh8CdhgDdh8C",
      "dhgDdzwCcysDdzwCdhgDdh8CdhgDdh8CdhgDdh8CdhgDdh8CdhgDdzwCdhgDdh8C14g4Ddh8CdhgDdh8CdhgD",
      "dzwCcysDdzwCdhgDdh8CdhgDdh8CdhgDdh8CdhgDdh8CdhgDdzwCcysDdzwCdhgDdh8CdhgDdh8CdhgDdh8CbxgD",
      "f18CbxgDfjwCbesDfjwCbesDfjwCbxgDf18CbxgDf18Cbx8.1oDfjwCbesDfjwCbesDfjwCbxgDf18CbxgDf18C",
      "bxgDf18CbxgDfjwCbesDfjwCbesDfjwCbxgDf18CbxgDf18CbxgDfjwCbesDfjwCbesDfjwC9uz.ncD"],
    rule := some ⟨-14400, -10800, ⟨3, 2, 0, 7200⟩, ⟨11, 1, 0, 7200⟩⟩ },
  { names := ["America/Monterrey"],
    offsets := [-24076, -25200, -21600, -18000],
    changes := [
      "5m2qn.2sB4344C2kvwBcasCbekBdk4C1639gDfjwC5l6sDf18CbxgDf18CbxgDf18CbxgDfjwCbesDfjwCe04D",
      "avwCe04Df18CbxgDf18CbxgDfjwCbesDfjwCbesDfjwCbesDfjwCbxgDf18CbxgDf18CbxgDfjwCbesDfjwCbesD",
      "fjwCbxgDf18CbxgDf18CbxgDf18CbxgDfjwCbesDfjwCbesDfjwCbxgDf18CbxgDf18CbxgDfjwCbesDfjwC"] },
  { names := ["America/Montevideo"],
    offsets := [-13491, -14400, -10800, -12600, -9000, -7200, -5400],
    changes := [
      "5ktjq.2jB2kg1.9CdjwDdk2CdhaDdk2CdhaD5p1eCbemDfk2CbemDfk2CbemDfk2CbemDg2qCavyDg2qCavyD",
      "e02CdhaDfk2CbemD96qC111aE6nyCc65eEcymC4o2F3mkC3tesFcykC205gEdxaC11s2F3p8C1easF67wC14g4G",
      "456EcysC8aqF798C1ao4F5p8Ck84F6qkCl9gF5p8C45gFnukC5tk4F5mkCl9gF67wChmsF8t8ChmsF9ukChmsF",
      "9bwCh44F9ukC8oo4Fe04CeisFbekCf1gFbx8Cfk4FbekCfk4FbekCfk4Fbx8Cf1gFbx8Cf1gFbx8Cfk4FbekC",
      "fk4FbekCfk4FbekC"] },
  { names := [
      "America/Montreal", "America/Nassau", "America/Nipigon", "America/Thunder_Bay",
      "America/Toronto", "Canada/Eastern"],
    offsets := [-19052, -18000, -14400],
    changes := [
      "51sak.70Bhhuu.ksCeikBbh6CfhaBe0cCavoBh4cC93wBhusC9bwBhmsC9bwBh44Cad8BglgCad8BglgCad8B",
      "glgCavwBg2sCbekBfk4CbekBfk4CbekBfk4CbekBg2sCavwBg2sCbekBfk4CbekBfk4CbekBfk4CbekBfk4CbekB",
      "fk4CbekBg2sCavwBg2sC42qkBfk4CbekBfk4CbekBfk4CbekBfk4Cg2kBbesCfjwBbesCbekBfk4CbekBfk4C",
      "bekBfk4CbekBfk4CbekBg2sCbekBfk4Cdh8BdhgCdh8BdhgCdh8BdhgCdzwBdhgCdh8BdhgCdh8BdhgCdh8BdhgC",
      "dh8BdhgCdzwBcysCdzwBdhgCdh8BdhgCdh8BdhgCdh8BdhgCdh8BdhgCdzwBdhgCdh8BdhgCdh8BdhgCdh8BdhgC",
      "dh8BdhgCdzwBcysCdzwBdhgCdh8BdhgCdh8BdhgCdh8BdhgCdh8BdhgCdzwBcysCdzwBdhgCdh8BdhgCdh8BdhgC",
      "dh8BbxgCf18BbxgCfjwBbesCfjwBbesCfjwBbxgCf18BbxgCf18BbxgCfjwBbesCfjwBbesCfjwBbxgCf18BbxgC",
      "f18BbxgCf18BbxgCfjwBbesCfjwBbesCfjwBbxgCf18BbxgCf18BbxgCfjwBbesCfjwBbesCfjwB9usC"],
    rule := some ⟨-18000, -14400, ⟨3, 2, 0, 7200⟩, ⟨11, 1, 0, 7200⟩⟩ },
  { names := ["America/New_York", "US/Eastern"],
    offsets := [-17762, -18000, -14400],
    changes := [
      "4tffv.2sBpto8CfjwBbesCfjwBbesCg2kBcysCbekBg2sCavwBg2sCbekBfk4CbekBfk4CbekBfk4CbekBfk4C",
      "bekBg2sCbekBfk4CbekBfk4CbekBfk4CbekBfk4CbekBg2sCavwBg2sCbekBfk4CbekBfk4CbekBfk4CbekBfk4C",
      "bekBg2sCavwBg2sCbekBfk4CbekB9xgC2qfwBfk4CbekBfk4CbekBfk4CbekBfk4CbekBg2sCavwBg2sCbekB",
      "fk4CbekBfk4CbekBfk4CbekBfk4CdzwBdhgCdh8BdhgCdh8BdhgCdh8BdhgCdh8BdhgCdzwBdhgCdh8BdhgCdh8B",
      "dhgCdh8BdhgCdh8BdhgCdzwBcysCdzwBdhgCdh8BdhgCdh8BdhgCdh8BdhgCdh8BdhgCdzwBdhgCdh8BdhgCdh8B",
      "56sClrwB8tgCi58BdhgCdzwBcysCdzwBdhgCdh8BdhgCdh8BdhgCdh8BdhgCdh8BdhgCdzwBcysCdzwBdhgCdh8B",
      "dhgCdh8BdhgCdh8BbxgCf18BbxgCfjwBbesCfjwBbesCfjwBbxgCf18BbxgCf18BbxgCfjwBbesCfjwBbesCfjwB",
      "bxgCf18BbxgCf18BbxgCf18BbxgCfjwBbesCfjwBbesCfjwBbxgCf18BbxgCf18BbxgCfjwBbesCfjwBbesCfjwB",
      "9usC"],
    rule := some ⟨-18000, -14400, ⟨3, 2, 0, 7200⟩, ⟨11, 1, 0, 7200⟩⟩ },
  { names := ["America/Nome"],
    offsets := [46702, -39698, -39600, -36000, -32400, -28800],
    changes := [
      "4hca1.4tBoofu.pCv61j.maD2qfwChps4Ddh8CdhgDdh8CdhgDdzwCdhgDdh8CdhgDdh8C56sDlrwC8tgDi58C",
      "dhgDdzwCcysDdzwCdhgDdh8CdhgDdh8CdhgDdh8CdhgDdh8CdhgDdzwCcysDdzwEdh8Fdh8EdhgFdh8EdhgFdh8E",
      "bxgFf18EbxgFfjwEbesFfjwEbesFfjwEbxgFf18EbxgFf18EbxgFfjwEbesFfjwEbesFfjwEbxgFf18EbxgFf18E",
      "bxgFf18EbxgFfjwEbesFfjwEbesFfjwEbxgFf18EbxgFf18EbxgFfjwEbesFfjwEbesFfjwE9usF"],
    rule := some ⟨-32400, -28800, ⟨3, 2, 0, 7200⟩, ⟨11, 1, 0, 7200⟩⟩ },
  { names := ["America/Noronha", "Brazil/DeNoronha"],
    offsets := [-7780, -7200, -3600],
    changes := [
      "5g2a7.iwBdcbv.8wCddcBdpgCdbwBciysCa2oBgyoC8ykBi2sC918Bi2sC6nwB83hgC658Bow4C4dcBi5cC6o0B",
      "i5cC8vwBi5gC8ykBda5gC9ukBglgC8akBiqsC7rwBio4C7rwBj6sC8t8B78tgCavwBglgCikBqysC9bwB"] },
  { names := ["America/North_Dakota/Beulah"],
    offsets := [-24427, -25200, -21600, -18000],
    changes := [
      "4tfg3.2sBpto8CfjwBbesCfjwBgr44C2qfwBg7usCdh8BdhgCdh8BdhgCdh8BdhgCdh8BdhgCdzwBdhgCdh8B",
      "dhgCdh8B56sClrwB8tgCi58BdhgCdzwBcysCdzwBdhgCdh8BdhgCdh8BdhgCdh8BdhgCdh8BdhgCdzwBcysCdzwB",
      "dhgCdh8BdhgCdh8BdhgCdh8BbxgCf18BbxgCfjwBbesCfjwBbesCfjwBbxgCf18BbxgCf18BbxgCfjwBbesCfjwB",
      "besCfjwBbxgCf18BbxgCf18BbxgCf18BbxgCfjwBbesCfjwBbesCfjwBbxgCf18BbxgCf18BbxgCfjwBbesCfjwB",
      "besCfjwB9usChmkB9c4ChmkB9c4ChmkB9usCqykD"],
    rule := some ⟨-21600, -18000, ⟨3, 2, 0, 7200⟩, ⟨11, 1, 0, 7200⟩⟩ },
  { names := ["America/North_Dakota/Center"],
    offsets := [-24312, -25200, -21600, -18000],
    changes := [
      "4tfg3.2sBpto8CfjwBbesCfjwBgr44C2qfwBg7usCdh8BdhgCdh8BdhgCdh8BdhgCdh8BdhgCdzwBdhgCdh8B",
      "dhgCdh8B56sClrwB8tgCi58BdhgCdzwBcysCdzwBdhgCdh8BdhgCdh8BdhgCdh8BdhgCdh8BdhgCdzwBcysCdzwB",
      "dhgCdh8BdhgCdh8BdhgCdh8BbxgCf18BbxgCfjwBbesCfjwBbesCfjwBbxgCf18BbxgCqykDfjwCbesDfjwCbesD",
      "fjwCbxgDf18CbxgDf18CbxgDf18CbxgDfjwCbesDfjwCbesDfjwCbxgDf18CbxgDf18CbxgDfjwCbesDfjwCbesD",
      "fjwC9usD"],
    rule := some ⟨-21600, -18000, ⟨3, 2, 0, 7200⟩, ⟨11, 1, 0, 7200⟩⟩ },
  { names := ["America/North_Dakota/New_Salem"],
    offsets := [-24339, -25200, -21600, -18000],
    changes := [
      "4tfg3.2sBpto8CfjwBbesCfjwBgr44C2qfwBg7usCdh8BdhgCdh8BdhgCdh8BdhgCdh8BdhgCdzwBdhgCdh8B",
      "dhgCdh8B56sClrwB8tgCi58BdhgCdzwBcysCdzwBdhgCdh8BdhgCdh8BdhgCdh8BdhgCdh8BdhgCdzwBcysCdzwB",
      "dhgCdh8BdhgCdh8BdhgCdh8BbxgCf18BbxgCfjwBbesCfjwBbesCfjwBbxgCf18BbxgCf18BbxgCfjwBbesCfjwB",
      "besCfjwBbxgCf18BbxgCf18BbxgCf18BbxgCfjwBbesCfjwBbesCfjwBbxgCf18BbxgCqykDfjwCbesDfjwCbesD",
      "fjwC9usD"],
    rule := some ⟨-21600, -18000, ⟨3, 2, 0, 7200⟩, ⟨11, 1, 0, 7200⟩⟩ },
  { names := ["America/Ojinaga"],
    offsets := [-25060, -25200, -21600, -18000],
    changes := [
      "5m2qr.2sB4340C2kvwBcasCbekBdk4C1c404Df18CbxgDf18CqysBbxgCfjwBbesCfjwBe04CavwBe04Cf18B",
      "bxgCf18BbxgCfjwBbesCfjwBbesCfjwBbesCfjwBbxgCf18BbxgCf18BadgChmkB9c4ChmkB9c4ChmkB9c4ChmkB",
      "9c4ChmkB9c4ChmkB9usChmkB9c4ChmkB9c4ChmkB9c4ChmkB9c4ChmkB9usChmkB9c4CqykD"],
    rule := some ⟨-21600, -18000, ⟨3, 2, 0, 7200⟩, ⟨11, 1, 0, 7200⟩⟩ },
  { names := ["America/Paramaribo"],
    offsets := [-13240, -13252, -13236, -12600, -10800],
    changes := ["5dt3p.kkBi1c0.cC82tb.okDtb6n.7cE"] },
  { names := ["America/Port-au-Prince"],
    offsets := [-17360, -17340, -18000, -14400],
    changes := [
      "4y116.a0Bkc6n.ogC1dtao.icDcykCdhgDdh8CdhgDdh8CdhgDdh8CdhgDdh8CbxkDfk0CbeoDfk0CbeoDfk0C",
      "bxcDf1cCbxcDf1cCbxcDfk0CbeoDfk0CbeoDfk0CbxcDf1cCbxcDf1cC5l6kDfjwCbesDfjwC4170DhmkC9c4D",
      "hmkC9c4DhmkC9c4DhmkC10tgD"],
    rule := some ⟨-18000, -14400, ⟨3, 2, 0, 7200⟩, ⟨11, 1, 0, 7200⟩⟩ },
  { names := ["America/Porto_Acre", "America/Rio_Branco", "Brazil/Acre"],
    offsets := [-16272, -18000, -14400],
    changes := [
      "5g2ah.4sBdcbx.n0CddcBdpgCdbwBciysCa2oBgyoC8ykBi2sC918Bi2sC6nwB83hgC658Bow4C4dcBi5cC6o0B",
      "i5cC8vwBi5gC8ykBda5gC9ukBglgC8akBiqsC7rwBfbc4C41jwB"] },
  { names := ["America/Porto_Velho"],
    offsets := [-15336, -14400, -10800],
    changes := [
      "5g2ag.3sBdcbu.o0CddcBdpgCdbwBciysCa2oBgyoC8ykBi2sC918Bi2sC6nwB83hgC658Bow4C4dcBi5cC6o0B",
      "i5cC8vwBi5gC8ykBda5gC9ukBglgC8akBiqsC7rwB"] },
  { names := ["America/Punta_Arenas"],
    offsets := [-17020, -16965, -18000, -14400, -10800],
    changes := [
      "4y116.kBf1pb.nhC4v41.3rB1nby.l9Dlrx.3rB651e.l9Dfrx.3rCbc4Dfp8Cbc4Dfp8Cbc4Dfp8Cbc4DfrwC",
      "bc4D7bp8C4isD3i7wC3s0Dg4g0EavwDhmsE9bwDeisEbekDfk4EbekDg2sEavwDf1gEbx8Dg2sEavwDg2sEbekD",
      "fk4EbekDfk4EbekDg2sEavwDg2sEavwDg2sEbekDfk4EbekDfk4EbekDfk4EbekDg2sEavwDg2sEavwDg2sEdh8D",
      "dhgEbekDfk4EbekDg2sEavwDe04EcykDg2sEbekDfk4EbekDfk4EbekDfk4EbekDg2sEavwDg2sEcfwDeisEbekD",
      "eisEdzwDe04EbekDg2sEavwDg2sEavwDg2sEavwDg2sEbekDfk4EbekDfk4EbekDg2sEavwDg2sEcfwDeisEbekD",
      "fk4EcykDe04EfjwD7s4EinwD9c4EhmkD9usEh3wD9usE19mkD6qsE"] },
  { names := ["America/Rainy_River", "America/Winnipeg", "Canada/Central"],
    offsets := [-23316, -21600, -18000],
    changes := [
      "4w6dd.gBlmda.2cCavwB16j0CeikBdxxgC9ukB3aasC2qfwBglgCbekBeisCbekBfk4CbekBfk4CbekBg5gCb98B",
      "fmsCbekBfk4CbekBfk4CbekBfk4CbekBfk4CbekBg2sCbekBfk4CbekBfk4CbekBfk4Cdh8BdhgCbekB1y04C",
      "avwB1y04Ce00BdhcCdhcBdhcCdhcBdhcCdhcBdhcCdhcBdhcCe00BdhcCdhcBdhcCdhcBdhcCdhcBdhcCdhcB",
      "dhcCe00BcyoCe00BdhcCdhcBdhcCdhcBdhcCdhcBdhcCdhcBdhcCe00BcyoCe00BdhcCdhcBdhcCdhcBdhcCdhcB",
      "bxcCf1cBbxcCfk0BbeoCfk0BbeoCfk0BbxcCf1cBbxcCf1cBbxcCfk0BbeoCfk0BbeoCfk0BbxcCf1cBbxcCf1cB",
      "bxcCf1cBbxcCfk0BbeoCfk0BbeoCfk0BbxcCf1cBbxcCf1cBbxcCfk0BbeoCfk0BbeoCfjwB9usChmkB9c4ChmkB",
      "9c4ChmkB9usChmkB9c4ChmkB9c4ChmkB9c4ChmkB9c4ChmkB9c4ChmkB9usChmkB9c4ChmkB9c4ChmkB9c4ChmkB",
      "9c4ChmkB9usChmkB9c4ChmkB9c4ChmkB9c4ChmkB9c4ChmkB9c4C"] },
  { names := ["America/Rankin_Inlet"],
    offsets := [0, -21600, -18000],
    changes := [
      "6cdon.2sBbiowCdh8BdhgCdh8BdhgCdh8BdhgCdh8BdhgCdzwBcysCdzwBdhgCdh8BdhgCdh8BdhgCdh8BdhgC",
      "dh8BdhgCdzwBcysCdzwBdhgCdh8BdhgCdh8BdhgCdh8BbxgCf18BbxgCfjwBbesCfjwBbesCfjwBbxgCf18BbxgC",
      "f18BbxgCfjwBbesCfjwBbesCfjwBbxgCf18BbxgCf18BbxgCf18BbxgCfjwBbesC16ikBbxgCf18BbxgCf18B",
      "bxgCfjwBbesCfjwBbesCfjwB9usC"],
    rule := some ⟨-21600, -18000, ⟨3, 2, 0, 7200⟩, ⟨11, 1, 0, 7200⟩⟩ },
  { names := ["America/Recife"],
    offsets := [-8376, -10800, -7200],
    changes := [
      "5g2a8.agBdcby.hcCddcBdpgCdbwBciysCa2oBgyoC8ykBi2sC918Bi2sC6nwB83hgC658Bow4C4dcBi5cC6o0B",
      "i5cC8vwBi5gC8ykBda5gC9ukBglgC8akBiqsC7rwBio4C7rwBj6sC8t8B78tgCavwBglgCikBqysC9bwB"] },
  { names := ["America/Regina", "Canada/Saskatchewan"],
    offsets := [-25116, -25200, -21600],
    changes := [
      "59stf.gB9hc8.2cCeikB8nmkCbekBfk4CbekBfk4CbekBg2sCavwBg2sCbekB1vxgCdh8BdhgCcykBe04Cdh8B",
      "e04Cdh8BdhgCdh8B8wcC2qfwBeisCdh8BeisCbekBfk4CbekBfk4CbekBg2sCavwBg2sCbekBfk4CbekBfk4C",
      "bekBfk4CbekBfk4CbekBg2sCbekBfk4CbekB16isCdh8BdhgC"] },
  { names := ["America/Resolute"],
    offsets := [0, -21600, -18000],
    changes := [
      "65d0n.2sBijcwCdh8BdhgCdh8BdhgCdh8BdhgCdh8BdhgCdzwBcysCdzwBdhgCdh8BdhgCdh8BdhgCdh8BdhgC",
      "dh8BdhgCdzwBcysCdzwBdhgCdh8BdhgCdh8BdhgCdh8BbxgCf18BbxgCfjwBbesCfjwBbesCfjwBbxgCf18BbxgC",
      "f18BbxgCfjwBbesCfjwBbesCfjwBbxgCf18BbxgCf18BbxgCf18BbxgCfjwBbesC16ikBbxgCf18BbxgCf18B",
      "bxgCfjwBbesCfjwBbesC1718B"],
    rule := some ⟨-21600, -18000, ⟨3, 2, 0, 7200⟩, ⟨11, 1, 0, 7200⟩⟩ },
  { names := ["America/Santarem"],
    offsets := [-13128, -14400, -10800],
    changes := [
      "5g2ad.hgBdcbx.acCddcBdpgCdbwBciysCa2oBgyoC8ykBi2sC918Bi2sC6nwB83hgC658Bow4C4dcBi5cC6o0B",
      "i5cC8vwBi5gC8ykBda5gC9ukBglgC8akBiqsC7rwBfbc4C"] },
  { names := ["America/Santiago", "Chile/Continental"],
    offsets := [-16965, -18000, -14400, -10800],
    changes := [
      "5d2qh.o1B4v41.3rA1nby.l9Clrx.3rA651e.l9Cfrx.3rBbc4Cfp8Bbc4Cfp8Bbc4Cfp8Bbc4CfrwBbc4C7bp8B",
      "4isC2yykD3bwCfxgB3s0Cg4g0DavwChmsD9bwCeisDbekCfk4DbekCg2sDavwCf1gDbx8Cg2sDavwCg2sDbekC",
      "fk4DbekCfk4DbekCg2sDavwCg2sDavwCg2sDbekCfk4DbekCfk4DbekCfk4DbekCg2sDavwCg2sDavwCg2sDdh8C",
      "dhgDbekCfk4DbekCg2sDavwCe04DcykCg2sDbekCfk4DbekCfk4DbekCfk4DbekCg2sDavwCg2sDcfwCeisDbekC",
      "eisDdzwCe04DbekCg2sDavwCg2sDavwCg2sDavwCg2sDbekCfk4DbekCfk4DbekCg2sDavwCg2sDcfwCeisDbekC",
      "fk4DcykCe04DfjwC7s4DinwC9c4DhmkC9usDh3wC9usD19mkC6qsDk7wC6qsDk7wC6qsDhmkCbesDfjwCbesD",
      "fjwCbesDfjwCbxgDf18C"],
    rule := some ⟨-14400, -10800, ⟨9, 1, 6, 86400⟩, ⟨4, 1, 6, 86400⟩⟩ },
  { names := ["America/Santo_Domingo"],
    offsets := [-16776, -16800, -18000, -14400, -16200],
    changes := [
      "4y115.isBwi1c.oCp8hd.8cD8ykC1zxgE8qmCi82E6fyCl1eE62mCkw2E67yCkqqE6amCko2DjjmsC2lcD"] },
  { names := ["America/Sao_Paulo", "Brazil/East"],
    offsets := [-11188, -10800, -7200],
    changes := [
      "5g2ab.dkBdcbv.e8CddcBdpgCdbwBciysCa2oBgyoC8ykBi2sC918Bi2sC6nwB8004C9mkBow4C4dcBi5cC6o0B",
      "i5cC8vwBi5gC8ykBda5gC9ukBglgC8akBiqsC7rwBio4C7rwBj6sC8t8Bio4C8t8Bi5gC8akBj6sC798Bj6sC",
      "9bwBhmsC9bwBhmsC8t8BhmsC9ukBh6sCat8BglgC9ukBglgCavwBglgC9ukBhmsC9bwBj6sC7rwBi5gC8t8Bjc4C",
      "858BhmsC9bwBj6sC8akBh44C9bwBi5gC8t8Bi5gC9bwBhmsC9bwBhmsC9ukBhmsC8t8Bi5gC8t8Bi5gC9bwBhmsC",
      "9bwBhmsC9bwBhmsC9bwBj6sC7rwB"] },
  { names := ["America/Scoresbysund"],
    offsets := [-5272, -7200, -3600, 0],
    changes := [
      "5hzu4.o8B1bv6y.3kCcyoBdh4Ddh8CdhcDdhcCdhcDdhcCdhcDe00CdhcDdhcCdhcDdhcCdhcDdhcCdhcDdhcC",
      "dhcDdhcCdhcDe00CdhcDdhcCdhcDdhcCdhcDdhcCdhcDdhcCdhcDdhcCe00Dfk0CbeoDfk0CbeoDfk0CbeoDg2oC",
      "aw0Dg2oCaw0Dg2oCbeoDfk0CbeoDfk0CbeoDg2oCaw0Dg2oCaw0Dg2oCaw0Dg2oCbeoDfk0CbeoDfk0CbeoDg2oC",
      "aw0Dg2oCaw0Dg2oCbeoDfk0CbeoDfk0CbeoDfk0CbeoDg2oCaw0Dg2oCaw0Dg2oCbeoDfk0CbeoDfk0CbeoDg2oC",
      "aw0Dg2oCaw0Dg2oCqyoB"],
    rule := some ⟨-7200, -3600, ⟨3, 5, 0, -3600⟩, ⟨10, 5, 0, 0⟩⟩ },
  { names := ["America/Sitka"],
    offsets := [53927, -32473, -28800, -25200, -32400],
    changes := [
      "4hca1.4tBoofmCv61f.mzD2qfwChps4Ddh8CdhgDdh8CdhgDdzwCdhgDdh8CdhgDdh8C56sDlrwC8tgDi58CdhgD",
      "dzwCcysDdzwCdhgDdh8CdhgDdh8CdhgDdh8CdhgDdh8CdhgDdzwCcysDdzwEdhkCdh8EdhgCdh8EdhgCdh8EbxgC",
      "f18EbxgCfjwEbesCfjwEbesCfjwEbxgCf18EbxgCf18EbxgCfjwEbesCfjwEbesCfjwEbxgCf18EbxgCf18EbxgC",
      "f18EbxgCfjwEbesCfjwEbesCfjwEbxgCf18EbxgCf18EbxgCfjwEbesCfjwEbesCfjwE9usC"],
    rule := some ⟨-32400, -28800, ⟨3, 2, 0, 7200⟩, ⟨11, 1, 0, 7200⟩⟩ },
  { names := ["America/St_Johns", "Canada/Newfoundland"],
    offsets := [-12652, -9052, -12600, -9000, -5400],
    changes := [
      "5iinx.48BbzwAfhgBeikAe54B7bwAjk4Bdh8AdhgBdh8Ae04BcykAe04BcykAe04BcykAe04BcykAe04Bdh8A",
      "dhgBdh8Ae04BcykAe04BcykAe04BcykAe04BcykAe04Bdh8Ae04BcykAe04BcykAb9kC2qj.nkDcykCeiwDavwC",
      "g2sDavwCg2sDavwCglgDad8CglgDavwCg2sDavwCg2sD2jpgCglgDavwCg2sDavwCg2sDavwCg2sDavwCglgD",
      "avwCf1gDbekCfk4DbekCfk4DbekCfk4DbekCfk4DbekCg2sDbekCfk4DbekCfk4DbekCfk4DbekCfk4DdzwCdhgD",
      "dh8CdhgDdh8CdhgDdh8CdhgDdh8CdhgDdzwCcysDdzwCdhgDdh8CdhgDdh8CdhgDdh8CdhgDdh8CdhgDdzwCdhgD",
      "dh8CdhgDdh8CdhgDdh8CdhgDdh8CdhgDdzwCcysDdzwCdhgDdh8CdhgDdh8CdhgDdh8CdhgDdh8CdhgDdzwCcysD",
      "dzwCdhgDdh8CdhgDdh8CdhgDdh8Cbx8.1oDf18CbxgEfjsCbewDfjwCbesDfjwCbxgDf18CbxgDf18CbxgDfjwC",
      "besDfjwCbesDfjwCbxgDf18CbxgDf18CbxgDf18CbxgDfjwCbesDfjwCbesDfjwCbxgDf18CbxgDf18CbxgDfjwC",
      "besDfjwCbesDfjwC9usDhmkC9c4DhmkC9c4DhmkC9usDhmkC9c4Dhmr.ncC"],
    rule := some ⟨-12600, -9000, ⟨3, 2, 0, 7200⟩, ⟨11, 1, 0, 7200⟩⟩ },
  { names := ["America/Swift_Current"],
    offsets := [-25880, -25200, -21600],
    changes := [
      "59stf.loB9hc7.64CeikBhi2sC2qfwBfk4CcfwBeisCbekBfk4CbekBfk4CbekB5pc4Cdh8B14g4Cdh8BdhgC",
      "bekBg2sCavwB7yqsC"] },
  { names := ["America/Tegucigalpa"],
    offsets := [-20932, -21600, -18000],
    changes := ["5lida.98B1do00.ikCavwBg2sCavwBd8isC6t8B"] },
  { names := ["America/Thule"],
    offsets := [-16508, -14400, -10800],
    changes := [
      "5hzuh.bcB1k4at.ggCdh8BdhgCdh8Be04CfjwBbesCfjwBbesCfjwBbxgCf18BbxgCf18BbxgCf18BbxgCfjwB",
      "besCfjwBbesCfjwBbxgCf18BbxgCf18BbxgCfjwBbesCfjwBbesCfjwB9usC"],
    rule := some ⟨-14400, -10800, ⟨3, 2, 0, 7200⟩, ⟨11, 1, 0, 7200⟩⟩ },
  { names := ["America/Vancouver", "Canada/Pacific"],
    offsets := [-29548, -28800, -25200],
    changes := [
      "4tio7.nkBprhj.48CeikBhi2sC2qfwBfk4CbekBfk4CbekBfk4CbekBfk4CbekBg2sCavwBg2sCbekBfk4CbekB",
      "fk4CbekBfk4CbekBfk4CbekBg2sCbekBfk4CbekBfk4CbekBfk4CbekBfk4CbekBg2sCavwBg2sCdh8BdhgCdh8B",
      "dhgCdh8BdhgCdzwBcysCdzwBdhgCdh8BdhgCdh8BdhgCdh8BdhgCdh8BdhgCdzwBdhgCdh8BdhgCdh8BdhgCdh8B",
      "dhgCdh8BdhgCdzwBcysCdzwBdhgCdh8BdhgCdh8BdhgCdh8BdhgCdh8BdhgCdzwBcysCdzwBdhgCdh8BdhgCdh8B",
      "dhgCdh8BbxgCf18BbxgCfjwBbesCfjwBbesCfjwBbxgCf18BbxgCf18BbxgCfjwBbesCfjwBbesCfjwBbxgCf18B",
      "bxgCf18BbxgCf18BbxgCfjwBbesCfjwBbesCfjwBbxgCf18BbxgCf18BbxgCfjwBbesCfjwBbesCfjwB9usChmkB",
      "9c4ChmkB9c4ChmkB9usChmkB9c4ChmkB9c4ChmkB9c4ChmkB9c4ChmkB9c4ChmkB9usChmkB9c4ChmkB9c4ChmkB",
      "9c4ChmkB9c4ChmkB9usChmkB9c4ChmkB9c4ChmkB9c4ChmkB9c4ChmkB9c4C"] },
  { names := ["America/Whitehorse", "Canada/Yukon"],
    offsets := [-32412, -32400, -28800, -25200],
    changes := [
      "560ob.34Bd9hj.ooCeikBfk4CbucBgqocC2qfwBepekDe00B8tcCan6sDdh8CdhgDdh8CdhgDdzwCcysDdzwC",
      "dhgDdh8CdhgDdh8CdhgDdh8CbxgDf18CbxgDfjwCbesDfjwCbesDfjwCbxgDf18CbxgDf18CbxgDfjwCbesDfjwC",
      "besDfjwCbxgDf18CbxgDf18CbxgDf18CbxgDfjwCbesDfjwCbesDfjwCbxgDf18CbxgDf18CbxgDfjwCbesDfjwC",
      "besDfjwC9usDhmkC9c4DhmkC9c4DhmkC9usDhmkC9c4DhmkC9c4DhmkC9c4DhmkC9c4DhmkC9c4DhmkC9usDhmkC",
      "9c4DhmkC9c4DhmkC9c4DhmkC9c4D"] },
  { names := ["America/Yakutat"],
    offsets := [52865, -33535, -32400, -28800],
    changes := [
      "4hca1.4tBoofn.4iCv61i.ihD2qfwChps4Ddh8CdhgDdh8CdhgDdzwCdhgDdh8CdhgDdh8C56sDlrwC8tgDi58C",
      "dhgDdzwCcysDdzwCdhgDdh8CdhgDdh8CdhgDdh8CdhgDdh8CdhgDdzwCcysDdzwCdhgDdh8CdhgDdh8CdhgDdh8C",
      "bxgDf18CbxgDfjwCbesDfjwCbesDfjwCbxgDf18CbxgDf18CbxgDfjwCbesDfjwCbesDfjwCbxgDf18CbxgDf18C",
      "bxgDf18CbxgDfjwCbesDfjwCbesDfjwCbxgDf18CbxgDf18CbxgDfjwCbesDfjwCbesDfjwC9usD"],
    rule := some ⟨-32400, -28800, ⟨3, 2, 0, 7200⟩, ⟨11, 1, 0, 7200⟩⟩ }]

/-- Zones of Antarctica. -/
def antarctica : List Entry := [
  { names := ["Antarctica/Casey"],
    offsets := [0, 28800, 39600],
    changes := [
      "6lecn.2sBunooCa7oB18loC8nwB3i7wC11esBfkcCbwwBewcCbjoBfk0.1oCbwz.ncBf1o.1oCbwz.ncBf1o.1oC",
      "bpb.ncB"] },
  { names := ["Antarctica/Davis"],
    offsets := [0, 25200, 18000],
    changes := ["6cekn.2sB5v0kA3724Bule4Cao4B1858C8o4B"] },
  { names := [
      "Antarctica/DumontDUrville", "Pacific/Chuuk", "Pacific/Port_Moresby", "Pacific/Truk",
      "Pacific/Yap"],
    offsets := [35320, 35312, 36000],
    changes := ["4qie7.loBb9uo.8C"] },
  { names := ["Antarctica/Macquarie"],
    offsets := [0, 36000, 39600],
    changes := [
      "55f0n.2sBcplsCcyoB1il4Als6gBeo1sCdhcBfk0C9uoBh40C9uoBh40CadcBh40C8tcBi5cC9c0BhmoC9c0B",
      "hmoC9c0BhmoC9uoBhmoC9c0BhmoC9c0BhmoC9c0BhmoC9c0BhmoC9c0BhmoCbeoBg2oCaw0Bg2oC9c0BhmoC9c0B",
      "hmoC9c0Bh40Caw0BglcCaw0BglcCadcBglcCadcBglcCbeoBe00CcyoBe00CcyoBe00CcyoBe00CcyoBe00CdhcB",
      "e00CcyoBe00CcyoBe00CcyoBe00CcyoBbeoCfk0BeioCcyoBe00CcyoBe00CcyoBe00CcyoBe00CdhcBdhcCcyoB",
      "eioCdhcBdhcCdhcBdhcC14g0B"],
    rule := some ⟨36000, 39600, ⟨10, 1, 0, 7200⟩, ⟨4, 1, 0, 10800⟩⟩ },
  { names := ["Antarctica/Mawson"],
    offsets := [0, 21600, 18000],
    changes := ["6a7on.2sB15ucwC"] },
  { names := ["Antarctica/McMurdo", "Antarctica/South_Pole", "NZ", "Pacific/Auckland"],
    offsets := [41944, 41400, 45000, 43200, 46800],
    changes := [
      "4i4e0.coB18cg8.f4C8t8BglgDbemBfk2DbemBfk2DbemBfk2DbxaBf1eDbxaBf1eDf1aBbeqDfjyBbeqDfjyB",
      "beqDfjyBbeqDfjyBbeqDg2mBaw2Dg2mBbeqDpmfyE8aoDi5cE9uoDhmoE9c0DhmoE9c0DhmoE9c0DhmoE9c0D",
      "hmoE9c0DhmoE9uoDhmoE9c0DhmoE9c0DhmoE9c0DhmoE9c0DhmoE9c0DhmoE9uoDhmoE9c0Dg2oEbxcDf1cEbxcD",
      "f1cEbxcDf1cEcg0DeioEcg0DeioEcg0DeioEcg0Df1cEbxcDf1cEbxcDf1cEcg0DeioEcg0DeioEcg0Df1cEbxcD",
      "f1cEbxcDf1cEcg0DeioEcg0DeioEcg0DeioEcg0DeioE"],
    rule := some ⟨43200, 46800, ⟨9, 5, 0, 7200⟩, ⟨4, 1, 0, 10800⟩⟩ },
  { names := ["Antarctica/Palmer"],
    offsets := [0, -10800, -14400, -7200],
    changes := [
      "6ie4n.2sB4doCgw4Ba58Cgw4BcikCdhgBdzwCdhgBdh8CdhgB38d8D798B60g4Cc04BbekCfk4BbekCg2sBavwC",
      "g2sBavwCg2sBdh8CdhgBbekCfk4BbekCg2sBavwCe04BcykCg2sBbekCfk4BbekCfk4BbekCfk4BbekCg2sBavwC",
      "g2sBcfwCeisBbekCeisBdzwCe04BbekCg2sBavwCg2sBavwCg2sBavwCg2sBbekCfk4BbekCfk4BbekCg2sBavwC",
      "g2sBcfwCeisBbekCfk4BcykCe04BfjwC7s4BinwC9c4BhmkC9usBh3wC9usB19mkC6qsB"] },
  { names := ["Antarctica/Rothera"],
    offsets := [0, -10800],
    changes := ["6rchz.2sB"] },
  { names := ["Antarctica/Syowa", "Asia/Aden", "Asia/Kuwait", "Asia/Riyadh"],
    offsets := [11212, 10800],
    changes := ["650ey.gcB"] },
  { names := ["Antarctica/Troll"],
    offsets := [0, 7200],
    changes := ["7cmnf.2sBg2oA"],
    rule := some ⟨0, 7200, ⟨3, 5, 0, 3600⟩, ⟨10, 5, 0, 10800⟩⟩ },
  { names := ["Antarctica/Vostok"],
    offsets := [0, 25200, 18000],
    changes := ["6d3jb.2sBr5gkAk8sBlw24C"] }]

/-- Zones of Asia. -/
def asia : List Entry := [
  { names := ["Asia/Almaty"],
    offsets := [18468, 18000, 21600, 25200],
    changes := [
      "5ntte.esB4m00.d0C125ukDdjwCdhgDdjwCdhgDdjwCdk4DdhkCdhcDdhcCdhcDdhcCdhcDdhcCdhcDdhcCdhcD",
      "dhcCdhcDe00CqysB8aoC56kDdhcCdhcDdhcCdhcDdhcCdhcDdhcCe00Dfk0CbeoDfk0CbeoDfk0CbeoDg2oCaw0D",
      "g2oCaw0Dg2oCbeoDfk0CbeoDfk0CbeoDg2oCej14B"] },
  { names := ["Asia/Amman"],
    offsets := [8624, 7200, 10800],
    changes := [
      "5su71.d8Bvvxd.ekC8nwBfpgCbbwBfpgCbbwBfs4CdmkBdesCbbwBfmsCbbwB4vxgCdjwBdpgCdh8BdhgCdh8B",
      "dhgCdzwBfs4Cb6kBf1gCbx8BedgCc2kBeisCcykBdhgCdh8BdhgCcfwBf1gCbxcBf1cCcg0BeioCcg0BeioCcg0B",
      "l6oC6aoBdxcCdk0BdeoCdk0BdhcCdhcBdhcCfk0BbeoCf1cBcg0CdhcBdhcCfk0BbeoCfk0BbeoCg2oBaw0Cg2oB",
      "aw0Cg2oBbeoCfk0BbeoC1anwB79gCg2oBaw0Cg2oBbeoCfk0BbeoCfk0BbeoCfk0BbeoCfk0BbeoCg2oBaw0C",
      "g2oB8tcC"] },
  { names := ["Asia/Anadyr"],
    offsets := [42596, 43200, 46800, 50400, 39600],
    changes := [
      "5ntsn.jkB4lzz.88C125ukDdjwCr1gBdhgCdjwBdk4CdhkBdhcCdhcBdhcCdhcBdhcCdhcBdhcCdhcBdhcCdhcB",
      "dhcCe00BqysE8aoB56kCdhcBdhcCdhcBdhcCdhcBdhcCdhcBe00Cfk0BbeoCfk0BbeoCfk0BbeoCg2oBaw0Cg2oB",
      "aw0Cg2oBbeoCfk0BbeoCfk0BbeoCg2oBaw0Cg2oBaw0Cg2oBaw0Cg2oBbeoCfk0BbeoCfk0BrhgEaw0B"] },
  { names := ["Asia/Aqtau"],
    offsets := [12064, 14400, 18000, 21600],
    changes := [
      "5nttl.hoB4lzx.a4C12jekDr18CdhgDdjwCdk4DdhkCdhcDdhcCdhcDdhcCdhcDdhcCdhcDdhcCdhcDdhcCdhcD",
      "e00CqysB8aoC56kDdhcCdhcDdhcCdhcDdhcBdhgCdhcBe00Cfk0BbeoCfk0BbeoCfk0BbeoCg2oBaw0Cg2oBaw0C",
      "g2oBbeoCfk0BbeoCfk0BbeoC"] },
  { names := ["Asia/Aqtobe"],
    offsets := [13720, 14400, 18000, 21600],
    changes := [
      "5nttj.loB4lzz.64C125ukD14l8CdhgDdjwCdk4DdhkCdhcDdhcCdhcDdhcCdhcDdhcCdhcDdhcCdhcDdhcCdhcD",
      "e00CqysB8aoC56kDdhcCdhcDdhcCdhcDdhcCdhcDdhcCe00Dfk0CbeoDfk0CbeoDfk0CbeoDg2oCaw0Dg2oCaw0D",
      "g2oCbeoDfk0CbeoDfk0CbeoDg2oC"] },
  { names := ["Asia/Ashgabat", "Asia/Ashkhabad"],
    offsets := [14012, 14400, 18000, 21600],
    changes := [
      "5nttj.dkB4lzz.e8C125ukDdjwCdhgDdjwCdhgDdjwCdk4DdhkCdhcDdhcCdhcDdhcCdhcDdhcCdhcDdhcCdhcD",
      "dhcCdhcDe00CqysB8aoC"] },
  { names := ["Asia/Atyrau"],
    offsets := [12464, 10800, 18000, 21600, 14400],
    changes := [
      "5nttl.6kB4m01.l8C12jegDr18CdhgDdjwCdk4DdhkCdhcDdhcCdhcDdhcCdhcDdhcCdhcDdhcCdhcDdhcCdhcD",
      "e00CqysE8aoC56kDdhcCdhcDdhcCdhcDdhcCdhcDdhcCe00Dfk0CbeoDfk0CbeoDfk0CrhgEaw0Cg2oEaw0Cg2oE",
      "beoCfk0EbeoCfk0EbeoC"] },
  { names := ["Asia/Baghdad"],
    offsets := [10660, 10656, 10800, 14400],
    changes := [
      "4y10b.6oBl1hc.4C1ccfz.l0DbbwCdesDdmkCdk4DdjwCdhgDdesCdhcDdhcCdhcDdhcCdhcDdhcCdhcDdhcC",
      "dhcDe00Cdk8Ddk0Cdk0Ddk0CdhcDdk0CdhcDdk0CdhcDdk0Cdk0Ddk0CdhcDdk0CdhcDdk0CdhcDdk0Cdk0Ddk0C",
      "dhcDdk0CdhcDdk0CdhcDdk0Cdk0Ddk0CdhcDdk0CdhcDdk0CdhcDdk0C"] },
  { names := ["Asia/Bahrain", "Asia/Qatar"],
    offsets := [12368, 14400, 10800],
    changes := ["5kkk9.98B13e59.ikC"] },
  { names := ["Asia/Baku"],
    offsets := [11964, 10800, 14400, 18000],
    changes := [
      "5nttl.kgBoo81.7cCi3mkDdjwCdhgDdjwCdhgDdjwCdk4DdhkCdhcDdhcCdhcDdhcCdhcDdhcCdhcDdhcCdhcD",
      "dhcCdhcDe00CqysBdhcC30dkDfk0CbekDfk0CbeoDfk0CbeoDg2oCaw0Dg2oCaw0Dg2oCbeoDfk0CbeoDfk0C",
      "beoDg2oCaw0Dg2oCaw0Dg2oCaw0Dg2oCbeoDfk0CbeoDfk0CbeoDg2oCaw0Dg2oCaw0Dg2oCbeoDfk0CbeoDfk0C",
      "beoDfk0C"] },
  { names := ["Asia/Bangkok", "Asia/Phnom_Penh", "Asia/Vientiane", "Indian/Christmas"],
    offsets := [24124, 25200],
    changes := ["5krak.7oB"] },
  { names := ["Asia/Barnaul"],
    offsets := [20100, 21600, 25200, 28800],
    changes := [
      "5kixc.jgB7wvy.8cC125ukDdjwCdhgDdjwCdhgDdjwCdk4DdhkCdhcDdhcCdhcDdhcCdhcDdhcCdhcDdhcCdhcD",
      "dhcCdhcDe00CqysB8aoC56kDdhcCdhcDdhcCdhcDdhcCdhcD4noC8tsBe00Cfk0BbeoCfk0BbeoCfk0BbeoCg2oB",
      "aw0Cg2oBaw0Cg2oBbeoCfk0BbeoCfk0BbeoCg2oBaw0Cg2oBaw0Cg2oBaw0Cg2oBbeoCfk0BbeoCfk0BbeoCg2oB",
      "aw0C2oykB12dgC"] },
  { names := ["Asia/Beirut"],
    offsets := [8520, 7200, 10800],
    changes := [
      "4qif1.g4Bu8ld.boCfmkBbusCdjwBcw4CeikBeisCavwBp9pgCbbwBfpgCbbwBfpgCbbwBfs4CbbwBfpgCbbwB",
      "825gC7h8BfpgCbbwBfpgCbbwBfpgCbbwBfs4CbbwBfpgCbbwBfmsCbbwB4744CcfwBelgCcfwBelgCcfwBelgC",
      "cfwBgysCa58Bf9gCbrwBelgCcfwBelgCcfwBeo4CbjwBcysCdh8BdhgCdh8BdhgCdh8Be04Cdh8BdhgCdh8BdhgC",
      "dh8BdhgC"],
    rule := some ⟨7200, 10800, ⟨3, 5, 0, 0⟩, ⟨10, 5, 0, 0⟩⟩ },
  { names := ["Asia/Bishkek"],
    offsets := [17904, 18000, 21600, 25200],
    changes := [
      "5nttf.5gB4lzz.mcC125ukDdjwCdhgDdjwCdhgDdjwCdk4DdhkCdhcDdhcCdhcDdhcCdhcDdhcCdhcDdhcCdhcD",
      "dhcCdhcDe00CotcBgnwCcfwBeisCcfwBeisCcfwBeisCcfwBeisCcykBdhqCfjwBbesCfjwBbesCg2kBaw4Cg2kB",
      "aw4Cg2kBbesCfjwBbesCfjwBbesCg2kBaw4C"] },
  { names := ["Asia/Brunei", "Asia/Kuching"],
    offsets := [26480, 27000, 28800, 30000, 32400],
    changes := [
      "5p7ah.h8B551b.akC211aD6qm.goCkdd.8cD6qm.goCkap.8cD6qm.goCkap.8cD6qm.goCkap.8cD6qm.goC",
      "kdd.8cD6qm.goCkap.8cD6qm.goC4qp.8cE2ol8C"] },
  { names := ["Asia/Calcutta", "Asia/Kolkata"],
    offsets := [21208, 21200, 19270, 19800, 23400],
    changes := ["47c6n.doBbnpc.8Cr1xe.3mDqv6n.aaEgqkD82sE2cfwD"] },
  { names := ["Asia/Chita"],
    offsets := [27232, 28800, 32400, 36000],
    changes := [
      "5kjag.lcB7wim.6gC125ukDdjwCdhgDdjwCdhgDdjwCdk4DdhkCdhcDdhcCdhcDdhcCdhcDdhcCdhcDdhcCdhcD",
      "dhcCdhcDe00CqysB8aoC56kDdhcCdhcDdhcCdhcDdhcCdhcDdhcCe00Dfk0CbeoDfk0CbeoDfk0CbeoDg2oCaw0D",
      "g2oCaw0Dg2oCbeoDfk0CbeoDfk0CbeoDg2oCaw0Dg2oCaw0Dg2oCaw0Dg2oCbeoDfk0CbeoDfk0CbeoDg2oCaw0D",
      "2oykB12dkC"] },
  { names := ["Asia/Choibalsan", "Asia/Ulaanbaatar", "Asia/Ulan_Bator"],
    offsets := [25652, 25200, 28800, 32400],
    changes := [
      "59qh6.f8B1ifc0.ckC3xx8DdjwCdk4Ddh8CdhgDdh8CdhgDdh8CdhgDdh8CdhgDdh8CdhgDdh8CdhgDdzwCdhgD",
      "dh8CdhgDdh8CdhgDdh8CdhgDdh8CdhgDdh8Ce04Ddh8CdhgDdh8CdhgDdh8C1xxoDbekCdhgDdh8CdhgDdh8C",
      "dhgDdh8CdhgDdh8CdhgDdzwC6dpgDdh0CdhoDdh0C"] },
  { names := ["Asia/Chongqing", "Asia/Chungking", "Asia/Harbin", "Asia/Shanghai", "PRC"],
    offsets := [29143, 28800, 32400],
    changes := [
      "56ajq.i9Bdqio.9jCcnwBfj6sC9x8Bbc4Ch6kB6o4C2p18Biw4CaakBeisCet8BdhgCbbwBfpgC1zwBrr9oC9ukB",
      "fk4CbekBg2sCavwBg2sCbekBfk4CbekBfk4CbekB"] },
  { names := ["Asia/Colombo"],
    offsets := [19164, 19172, 19800, 21600, 23400],
    changes := ["4qiep.kgBjjen.osCr2an.7kDhpaE2ciuC1216kEbemD745eC"] },
  { names := ["Asia/Dacca", "Asia/Dhaka"],
    offsets := [21700, 21200, 23400, 19800, 21600, 25200],
    changes := ["4y0zzB12w00.dwCgql.dwD82sC6tmkE17dpaFeg0E"] },
  { names := ["Asia/Damascus"],
    offsets := [8712, 7200, 10800],
    changes := [
      "5kkkd.asB809.h0CcfwBeisCcfwBeisCcfwBeisCcykBsz9gCbh8BfpgCb98BfusCbbwBfpgCb98Bf9gCbukB",
      "fpgCbbwBfs4CbbwBfpgCbbwBfpgCbbwBfpgCbbwBfs4CbbwBfpgCbbwBfpgCbbwBfpgCbbwBfs4CbbwBfpgC93wB",
      "hxgC93wB3gisCcykBe5gCcykB119gChekBalgCi2kBa2sCh18Bb6sCdmkBdhgCdh8BdjwCdjwBe2sCd18Bd1gC",
      "djwBdxgCdjwBdhgCdjwBdk4CdjwBdesCdmkBdc4Cdp8BdhgCdjwBdk4CdjwBdhgCdjwBdhgCdjwBdhgCdjwBdk4C",
      "djwBdhgCdjwBdhgCcvwBe04Cg2kBbesCfmkBatgCg2kBbesCfjwBbesCfjwBbesCfjwBbesCfjwBbesCg2kBaw4C",
      "g2kBaw4Cg2kBbesCfjwBbesCfjwBbesCfjwBbesCg2kBaw4Cg2kBaw4C"] },
  { names := ["Asia/Dili"],
    offsets := [30140, 28800, 32400],
    changes := ["5ek3r.2sBmnjwCpp40BibhgC"] },
  { names := ["Asia/Dubai", "Asia/Muscat", "Indian/Mahe", "Indian/Reunion"],
    offsets := [13272, 14400],
    changes := ["5kkk8.94B"] },
  { names := ["Asia/Dushanbe"],
    offsets := [16512, 18000, 21600, 25200],
    changes := [
      "5nttg.j4B4lzy.8oC125ukDdjwCdhgDdjwCdhgDdjwCdk4DdhkCdhcDdhcCdhcDdhcCdhcDdhcCdhcDdhcCdhcD",
      "dhcCdhcDe00CphgB"] },
  { names := ["Asia/Famagusta"],
    offsets := [8148, 7200, 10800],
    changes := [
      "5lz5q.1gB1451d.1cCdh8Bg04Cb18Bcw4CcykBe04CdjwBdesCdh8Be04CcykBdhgCdh8BdhgCdh8BdhgCdh8B",
      "dhgCdzwBdhgCdh8BdhgCdh8BdhgCdh8BdhgCdh8BdhgCdh8BdhgCdzwBdhgCdh8BdhgCdh8BdhgCdh8BdhgCdh8B",
      "dhgCdh8Be04Cdh8BdhgCdh8BdhgCfkcBbeoCg2oBaw0Cg2oBaw0Cg2oBbeoCfk0BbeoCfk0BbeoCg2oBaw0Cg2oB",
      "aw0Cg2oBaw0Cg2oBbeoCfk0BbeoCfk0BbeoCg2oBaw0Cg2oBaw0Cg2oBbeoCfk0BbeoCfk0BbeoCfk0BbeoC",
      "171cB"],
    rule := some ⟨7200, 10800, ⟨3, 5, 0, 10800⟩, ⟨10, 5, 0, 14400⟩⟩ },
  { names := ["Asia/Gaza"],
    offsets := [8272, 7200, 10800],
    changes := [
      "563r1.n0Btt6x.4sC91cB3hcC1gw0Bb6oCfuoBb9cCfuoBcaoCeqoBcaoCeqoB7wnsCanwBfpgCbbwBfpkCb9gB",
      "fukCb9gBfrwCb9gBfrwCb9gBfrwCb9gBfukCb9gBfrwCb9gBfrwCbc4Bfp8C2l4B5bs4C798Be04C9ukB3p9gC",
      "340B2qioC8aoBh40Cad8Bj6sC8akBgasCb6kBfk4CavwBhmsC9bwBf1gCbekBfk4Cbx8Bfk4Cbx8BfesCbjwB",
      "fesCb18BfxgCbjwBfxgCcg0BeioCcg0BeioCcg0Bfk0Cdh8Be04Cdh8BdhgCdh8BdhgCdh8BdhgCdh8BdhgCcg0B",
      "eioCcqsBd98CcvwBe5gCc84Bel8CbekBfk4CbxcBf40.1oCa57.ncBh9g.1oC917.ncBhxgCcyoBe00Cdh8BdhgC",
      "fjwBbhgCfhcBbhgCg2kBaw4Cg2kBaw4Cg2kBbc0CfmkBbesCfk0BbeoCg00Bb1cCg04BdhgCdh8BcysCdzwBcg4C",
      "eikBbesCfjwBbesCg2kBaw4Cg2kBaw4Cg2kBbesCfjwBbesCfjwBbesCg2kBaw4Cg2kBaw4Cg2kBaw4Cg2kBbesC",
      "f18BbxgCeikBcg4Cdh8BdhgCcykBe04Cbx8B3msCikBbesCavwB344C1jwBbesCad8B344C22kBbesC9bwB3msC",
      "2l8BbesC8t8B344C458Baw4C8akB344C4nwBaw4C798B3msC56kBbesC67wB344C67wBbesC56kB3msC6qkBbesC",
      "4nwB344C8akBaw4C458B344C8t8Baw4C33wB3msC9bwBbesC22kB344Cad8BbesC118B3msCavwBbesCikB3msC",
      "bekBeisCcykBdhgCdh8Bcg4CeikBbxgCf18BbesCfjwBbesCg2kBaw4Cg2kBaw4Cg2kBaw4Cg2kBbesCfjwBbesC",
      "fjwBbesCg2kBaw4Cg2kBaw4CfjwBbxgCeikBcg4CdzwBcysCcykBe04CcfwB344CikBaw4Cbx8B344C118Baw4C",
      "avwB3msC1jwBbesC9ukB344C2l8BbesC8t8B3msC33wBbesC8akB3msC458Baw4C7rwB344C56kBaw4C6qkB3msC",
      "5p8BbesC5p8B344C6qkBbesC56kB344C798BbesC458B3msC7rwBbesC3mkB344C9bwBaw4C2l8B3msC9ukBaw4C",
      "22kB3msCad8BbesC118B344CbekB"],
    rule := some ⟨7200, 10800, ⟨3, 4, 4, 180000⟩, ⟨10, 4, 4, 180000⟩⟩ },
  { names := ["Asia/Hebron"],
    offsets := [8423, 7200, 10800],
    changes := [
      "563r1.itBtt6x.8zC91cB3hcC1gw0Bb6oCfuoBb9cCfuoBcaoCeqoBcaoCeqoB7wnsCanwBfpgCbbwBfpkCb9gB",
      "fukCb9gBfrwCb9gBfrwCb9gBfrwCb9gBfukCb9gBfrwCb9gBfrwCbc4Bfp8C2l4B5bs4C798Be04C9ukB3p9gC",
      "340B2qioC8aoBh40Cad8Bj6sC8akBgasCb6kBfk4CavwBhmsC9bwBf1gCbekBfk4Cbx8Bfk4Cbx8BfesCbjwB",
      "fesCb18BfxgCbjwBfxgCcg0BeioCcg0BeioCcg0Bfk0Cdh8Be04Cdh8BdhgCdh8BdhgCdh8BdhgCdh8BdhgCcg0B",
      "eioCcqsBd98CcvwBe5gCc84Bel8CbmkBfc4CbxcBf1cCa7wBh9g.1oC917.ncB25gC2akBdhgCcyoBe00Cdh8B",
      "dhgCfjwBbhgCfhcBbhgCg2kBaw4Cg2kBaw4Cg2kBbc0CfmkBbesCfk0BbeoCg00Bb1cCg04BdhgCdh8BcysCdzwB",
      "cg4CeikBbesCfjwBbesCg2kBaw4Cg2kBaw4Cg2kBbesCfjwBbesCfjwBbesCg2kBaw4Cg2kBaw4Cg2kBaw4Cg2kB",
      "besCf18BbxgCeikBcg4Cdh8BdhgCcykBe04Cbx8B3msCikBbesCavwB344C1jwBbesCad8B344C22kBbesC9bwB",
      "3msC2l8BbesC8t8B344C458Baw4C8akB344C4nwBaw4C798B3msC56kBbesC67wB344C67wBbesC56kB3msC6qkB",
      "besC4nwB344C8akBaw4C458B344C8t8Baw4C33wB3msC9bwBbesC22kB344Cad8BbesC118B3msCavwBbesCikB",
      "3msCbekBeisCcykBdhgCdh8Bcg4CeikBbxgCf18BbesCfjwBbesCg2kBaw4Cg2kBaw4Cg2kBaw4Cg2kBbesCfjwB",
      "besCfjwBbesCg2kBaw4Cg2kBaw4CfjwBbxgCeikBcg4CdzwBcysCcykBe04CcfwB344CikBaw4Cbx8B344C118B",
      "aw4CavwB3msC1jwBbesC9ukB344C2l8BbesC8t8B3msC33wBbesC8akB3msC458Baw4C7rwB344C56kBaw4C6qkB",
      "3msC5p8BbesC5p8B344C6qkBbesC56kB344C798BbesC458B3msC7rwBbesC3mkB344C9bwBaw4C2l8B3msC9ukB",
      "aw4C22kB3msCad8BbesC118B344CbekB"],
    rule := some ⟨7200, 10800, ⟨3, 4, 4, 180000⟩, ⟨10, 4, 4, 180000⟩⟩ },
  { names := ["Asia/Ho_Chi_Minh", "Asia/Saigon"],
    offsets := [25590, 25200, 28800, 32400],
    changes := ["5e1yi.gyBnsvw.auC1njwDco0B16o8C676oB3dukCblxcB"] },
  { names := ["Asia/Hong_Kong", "Hongkong"],
    offsets := [27402, 28800, 32400, 30600],
    changes := [
      "5963v.2sBriw8C800D6aaC2xhiBbekCglqB9uoCh40BbeoCdhcBbeoCfk0BbeoCfk0BbeoCfk0BbxcCfk0BbeoC",
      "fjwBadgCgl8BadgCh3wB9usCh3wBadgCgl8BadgCgl8BadgCgl8BadgCh3wB9usCh3wB9usCh3wBadgCgl8BadgC",
      "gl8Bcg4Cdh8BdhgCdh8BdhgCdzwBdhgCdh8BdhgCdh8BdhgCdh8BdhgCdh8BdhgCdzwBdhgCdh8B56sClrwBdhgC",
      "dh8BdhgCdh8B1xhgCbx8B"] },
  { names := ["Asia/Hovd"],
    offsets := [21996, 21600, 25200, 28800],
    changes := [
      "59qha.gsB1ifc0.b0C3xx8DdjwCdk4Ddh8CdhgDdh8CdhgDdh8CdhgDdh8CdhgDdh8CdhgDdh8CdhgDdzwCdhgD",
      "dh8CdhgDdh8CdhgDdh8CdhgDdh8CdhgDdh8Ce04Ddh8CdhgDdh8CdhgDdh8C1xxoDbekCdhgDdh8CdhgDdh8C",
      "dhgDdh8CdhgDdh8CdhgDdzwC6dpgDdh0CdhoDdh0C"] },
  { names := ["Asia/Irkutsk"],
    offsets := [25025, 25200, 28800, 32400],
    changes := [
      "5kmbv.7nB7thb.k5C125ukDdjwCdhgDdjwCdhgDdjwCdk4DdhkCdhcDdhcCdhcDdhcCdhcDdhcCdhcDdhcCdhcD",
      "dhcCdhcDe00CqysB8aoC56kDdhcCdhcDdhcCdhcDdhcCdhcDdhcCe00Dfk0CbeoDfk0CbeoDfk0CbeoDg2oCaw0D",
      "g2oCaw0Dg2oCbeoDfk0CbeoDfk0CbeoDg2oCaw0Dg2oCaw0Dg2oCaw0Dg2oCbeoDfk0CbeoDfk0CbeoDg2oCaw0D",
      "2oykC"] },
  { names := ["Asia/Istanbul", "Europe/Istanbul", "Turkey"],
    offsets := [6952, 7016, 7200, 10800, 14400],
    changes := [
      "4qif3.9oBn3un.n8C471b.jwDbbwC2mdgDfmkCbusDdjwCcw4DeikC176sDafwCfpgDbbwCb31gD76kC45gDlrwC",
      "e84D2n98ChhgD918Cew4DcfwCeisDcfwCe04DcykCeisDcykCeisDcfwC83esDyykCeo4DaakC6ilkDbeoCaw4D",
      "g2kCaasDgnwCadgDgl8CbesDeikCcg4D4058E4nwDtc4CclcDbxcCdk0DdhcCdhcDdhcCdhcDdhcCdhcDdhcC",
      "dhcDe00CdhcDdhcCdhcDdhcCdhcDdhcCcyoDe00CdhcDdhcCe00Dfk0CbeoDfk0CbeoDfk0CbeoDg2oCaw0Dg2oC",
      "aw0Dg2oCbeoDfk0CbeoDfk0CbeoDg2oCaw0Dg2oCaw0Dg2oCaw8Dg2oCbeoDfk0CbeoDfk0CbeoDg2oCayoDg00C",
      "aw0Dg2oCbeoDfk0CbhcDfhcCbeoDglcCadcD"] },
  { names := ["Asia/Jakarta"],
    offsets := [25632, 26400, 27000, 32400, 28800, 25200],
    changes := ["5nkrt.jgB6n1cC71zz.8cD2mt6C1yg6E1i2mCa9uqF"] },
  { names := ["Asia/Jayapura"],
    offsets := [33768, 32400, 34200],
    changes := ["5u7sx.esB8w5d.d0Cej1aB"] },
  { names := ["Asia/Jerusalem", "Asia/Tel_Aviv", "Israel"],
    offsets := [8454, 8440, 7200, 10800, 14400],
    changes := [
      "4qif1.hyBsk2o.eCgug9.9gD91cC3hcD1gw0Cb6oDfuoCb9cDfuoCcaoDeqoCcaoDeqoC165cE7hcD4ioCdeoD",
      "dmoCcaoDb9cCeo0DglcCbxcDdhcCcyoDbeoCk80D6qoCk80D6qoCjpcD8tcCfk0Daw0Ccm7sD798Ce04D9ukC",
      "3p9gD340C2qioD8aoCh40Dad8Cj6sD8akCgasDb6kCfk4DavwChmsD9bwCf1gDbekCfk4Dbx8Cfk4Dbx8CfesD",
      "bjwCfesDb18CfxgDbjwCedgDdp8Cds4Dd3wCdusDcl8Cff0DbekCglgDcygCdpgDcfwCds4De7wCcqsDdzwCdusD",
      "cfwCe5kDe58CctgDdmkCdc4Dcl8CedgDe58CctgDdmkCdc4Dcl8Cew4DdmkCdc4Dd3wCdusD"],
    rule := some ⟨7200, 10800, ⟨3, 4, 4, 93600⟩, ⟨10, 5, 0, 7200⟩⟩ },
  { names := ["Asia/Kabul"],
    offsets := [16608, 14400, 16200],
    changes := ["4y104.ggB15c02.bcC"] },
  { names := ["Asia/Kamchatka"],
    offsets := [38076, 39600, 43200, 46800],
    changes := [
      "5mpvg.k4B5pxa.7oC125ukDdjwCdhgDdjwCdhgDdjwCdk4DdhkCdhcDdhcCdhcDdhcCdhcDdhcCdhcDdhcCdhcD",
      "dhcCdhcDe00CqysB8aoC56kDdhcCdhcDdhcCdhcDdhcCdhcDdhcCe00Dfk0CbeoDfk0CbeoDfk0CbeoDg2oCaw0D",
      "g2oCaw0Dg2oCbeoDfk0CbeoDfk0CbeoDg2oCaw0Dg2oCaw0Dg2oCaw0Dg2oCbeoDfk0CbeoDfk0CrhgBaw0C"] },
  { names := ["Asia/Karachi"],
    offsets := [16092, 19800, 23400, 18000, 21600],
    changes := ["5asut.5sBqsyj.m0C2cfwB4h6sD11yteEdh8D48ysEbbwDc84Eet8D"] },
  { names := ["Asia/Kashgar", "Asia/Urumqi"],
    offsets := [21020, 21600],
    changes := ["5qkzz.iwB"] },
  { names := ["Asia/Kathmandu", "Asia/Katmandu"],
    offsets := [20476, 19800, 20700],
    changes := ["5kkk0.90B1dlpc.isC"] },
  { names := ["Asia/Khandyga"],
    offsets := [32533, 28800, 32400, 36000, 39600],
    changes := [
      "5kjaa.o3B7wis.3pC125ukDdjwCdhgDdjwCdhgDdjwCdk4DdhkCdhcDdhcCdhcDdhcCdhcDdhcCdhcDdhcCdhcD",
      "dhcCdhcDe00CqysB8aoC56kDdhcCdhcDdhcCdhcDdhcCdhcDdhcCe00Dfk0CbeoDfk0CbeoDfk0CbeoDg2oCaw0D",
      "g2oCaw0Dg2oCbeoDfk0CbeoDfk0C4ygD6g4Eg2oDaw0Eg2oDaw0Eg2oDaw0Eg2oDbeoEfk0DbeoEfk0DbeoEg2oD",
      "aw0Ecl0D2cdoC"] },
  { names := ["Asia/Krasnoyarsk"],
    offsets := [22286, 21600, 25200, 28800],
    changes := [
      "5kkxa.8qB7uw0.j2C125ukDdjwCdhgDdjwCdhgDdjwCdk4DdhkCdhcDdhcCdhcDdhcCdhcDdhcCdhcDdhcCdhcD",
      "dhcCdhcDe00CqysB8aoC56kDdhcCdhcDdhcCdhcDdhcCdhcDdhcCe00Dfk0CbeoDfk0CbeoDfk0CbeoDg2oCaw0D",
      "g2oCaw0Dg2oCbeoDfk0CbeoDfk0CbeoDg2oCaw0Dg2oCaw0Dg2oCaw0Dg2oCbeoDfk0CbeoDfk0CbeoDg2oCaw0D",
      "2oykC"] },
  { names := ["Asia/Kuala_Lumpur", "Asia/Singapore", "Singapore"],
    offsets := [24925, 25200, 26400, 27000, 32400, 28800],
    changes := ["59lyj.afBkqdb.hdC6ify.goDcfz.8cE2ol6Dra84F"] },
  { names := ["Asia/Macao", "Asia/Macau"],
    offsets := [27250, 28800, 32400, 36000],
    changes := [
      "5963s.kuBrwyi.6yC9mkDevwCc5gDbbwC1i5kBfpcCbc0Bew0Cgo0BbeoCdhcBbc0Cfk0BbeoCfk0BbeoCfmoB",
      "buoCfk0BbeoCfk0BadcCglcBadcCh40B9uoCh4eBadgCgl8BadgCgl8BadgCgl8BadgCh3wB9usCh3wB9usCh3wB",
      "adgCgl8BadgCgl8Bcg4Cdh4BdhkCdh4BdhkCdzwBdhgCdh8BdhgCdh8BdhgCdh8BdhgCdh8BdhgCdzwBdhgCdh8B",
      "56sClrwBdhgCdh8BdhgCdh8B1xhgCbx8B"] },
  { names := ["Asia/Magadan"],
    offsets := [36192, 36000, 39600, 43200],
    changes := [
      "5ntsu.mgB4m00.5cC125ukDdjwCdhgDdjwCdhgDdjwCdk4DdhkCdhcDdhcCdhcDdhcCdhcDdhcCdhcDdhcCdhcD",
      "dhcCdhcDe00CqysB8aoC56kDdhcCdhcDdhcCdhcDdhcCdhcDdhcCe00Dfk0CbeoDfk0CbeoDfk0CbeoDg2oCaw0D",
      "g2oCaw0Dg2oCbeoDfk0CbeoDfk0CbeoDg2oCaw0Dg2oCaw0Dg2oCaw0Dg2oCbeoDfk0CbeoDfk0CbeoDg2oCaw0D",
      "2oykB14g8C"] },
  { names := ["Asia/Makassar", "Asia/Ujung_Pandang"],
    offsets := [28656, 28800, 32400],
    changes := ["5u7t3.6sB6yvz.l0C2px8B"] },
  { names := ["Asia/Manila"],
    offsets := [-57368, 29032, 28800, 32400],
    changes := ["407ie.lcB153dc.6gCrx5cD5mkC3oysD2z3wC6a84D3zwCh56sDd6kC9iisD53wC"] },
  { names := ["Asia/Nicosia", "Europe/Nicosia"],
    offsets := [8008, 7200, 10800],
    changes := [
      "5lz5q.5cB1451c.mgCdh8Bg04Cb18Bcw4CcykBe04CdjwBdesCdh8Be04CcykBdhgCdh8BdhgCdh8BdhgCdh8B",
      "dhgCdzwBdhgCdh8BdhgCdh8BdhgCdh8BdhgCdh8BdhgCdh8BdhgCdzwBdhgCdh8BdhgCdh8BdhgCdh8BdhgCdh8B",
      "dhgCdh8Be04Cdh8BdhgCdh8BdhgCfkcB"],
    rule := some ⟨7200, 10800, ⟨3, 5, 0, 10800⟩, ⟨10, 5, 0, 14400⟩⟩ },
  { names := ["Asia/Novokuznetsk"],
    offsets := [20928, 21600, 25200, 28800],
    changes := [
      "5ntqn.lgB4m2n.6cC125ukDdjwCdhgDdjwCdhgDdjwCdk4DdhkCdhcDdhcCdhcDdhcCdhcDdhcCdhcDdhcCdhcD",
      "dhcCdhcDe00CqysB8aoC56kDdhcCdhcDdhcCdhcDdhcCdhcDdhcCe00Dfk0CbeoDfk0CbeoDfk0CbeoDg2oCaw0D",
      "g2oCaw0Dg2oCbeoDfk0CbeoDfk0CbeoDg2oCaw0Dg2oCaw0Dg2oCaw0Dg2oCbeoDfk0CbeoDfk0CrhgBaw0C"] },
  { names := ["Asia/Novosibirsk"],
    offsets := [19900, 21600, 25200, 28800],
    changes := [
      "5kj8pB7wkm.2sC125ukDdjwCdhgDdjwCdhgDdjwCdk4DdhkCdhcDdhcCdhcDdhcCdhcDdhcCdhcDdhcCdhcDdhcC",
      "dhcDe00CqysB8aoC56kDdhcCdhcD450C9cgBdhcCdhcBdhcCdhcBe00Cfk0BbeoCfk0BbeoCfk0BbeoCg2oBaw0C",
      "g2oBaw0Cg2oBbeoCfk0BbeoCfk0BbeoCg2oBaw0Cg2oBaw0Cg2oBaw0Cg2oBbeoCfk0BbeoCfk0BbeoCg2oBaw0C",
      "2oykB1b6sC"] },
  { names := ["Asia/Omsk"],
    offsets := [17610, 18000, 21600, 25200],
    changes := [
      "5kh03.dmB7ytb.e6C125ukDdjwCdhgDdjwCdhgDdjwCdk4DdhkCdhcDdhcCdhcDdhcCdhcDdhcCdhcDdhcCdhcD",
      "dhcCdhcDe00CqysB8aoC56kDdhcCdhcDdhcCdhcDdhcCdhcDdhcCe00Dfk0CbeoDfk0CbeoDfk0CbeoDg2oCaw0D",
      "g2oCaw0Dg2oCbeoDfk0CbeoDfk0CbeoDg2oCaw0Dg2oCaw0Dg2oCaw0Dg2oCbeoDfk0CbeoDfk0CbeoDg2oCaw0D",
      "2oykC"] },
  { names := ["Asia/Oral"],
    offsets := [12324, 10800, 18000, 21600, 14400],
    changes := [
      "5nttl.agB4m01.hcC125ugD14l8CdhgDdjwCdk4DdhkCdhcDdhcCdhcDdhcCdhcDdhcCdhcDdhcCqysEdhcCe00E",
      "dhcCdhcE8aoCio0EdhcCdhcEdhcCdhcEdhcCdhcEe00Cfk0EbeoCfk0EbeoCfk0EbeoCg2oEaw0Cg2oEaw0Cg2oE",
      "beoCfk0EbeoCfk0EbeoC"] },
  { names := ["Asia/Pontianak"],
    offsets := [26240, 27000, 32400, 28800, 25200],
    changes := ["5u7t5.nwB6y2n.3wC2qqiB1yg6D1i2mBa9uqDi1byE"] },
  { names := ["Asia/Pyongyang"],
    offsets := [30180, 30600, 32400],
    changes := ["5bqmd.egB2thb.dcC25vhaB21moC"] },
  { names := ["Asia/Qostanay"],
    offsets := [15268, 14400, 18000, 21600],
    changes := [
      "5ntti.3oB4m00.o4C125ukD14l8CdhgDdjwCdk4DdhkCdhcDdhcCdhcDdhcCdhcDdhcCdhcDdhcCdhcDdhcCdhcD",
      "e00CqysB8aoC56kDdhcCdhcDdhcCdhcDdhcCdhcDdhcCe00Dfk0CbeoDfk0CbeoDfk0CbeoDg2oCaw0Dg2oCaw0D",
      "g2oCbeoDfk0CbeoDfk0CbeoDez3oC"] },
  { names := ["Asia/Qyzylorda"],
    offsets := [15712, 14400, 18000, 21600],
    changes := [
      "5ntth.gcB4m01.bgC125ukD14l8CdhgDdjwCdk4DdhkCdhcDdhcCdhcDdhcCdhcDdhcCdhcDdhcCdhcDdhcCdhcD",
      "e00Cz9cDio0CdhcDdhcCdhcDdhcCdhcDdhcCe00Dfk0CbeoDfk0CbeoDfk0CbeoDg2oCaw0Dg2oCaw0Dg2oCbeoD",
      "fk0CbeoDfk0CbeoDb2l0C"] },
  { names := ["Asia/Rangoon", "Asia/Yangon", "Indian/Cocos"],
    offsets := [23087, 23400, 32400],
    changes := ["5kkjx.bhBgs5b.gbC29bqB"] },
  { names := ["Asia/Sakhalin"],
    offsets := [34248, 32400, 39600, 43200, 36000],
    changes := [
      "59s3l.1gBu2de.1cCqr6gDdjwCdhgDdjwCdhgDdjwCdk4DdhkCdhcDdhcCdhcDdhcCdhcDdhcCdhcDdhcCdhcD",
      "dhcCdhcDe00CqysE8aoC56kDdhcCdhcDdhcCdhcDdhcCdhcDdhcCe00Dfk0CqysEbeoCfk0EbeoCg2oEaw0Cg2oE",
      "aw0Cg2oEbeoCfk0EbeoCfk0EbeoCg2oEaw0Cg2oEaw0Cg2oEaw0Cg2oEbeoCfk0EbeoCfk0EbeoCg2oEaw0C",
      "2oykE12dgC"] },
  { names := ["Asia/Samarkand"],
    offsets := [16073, 14400, 18000, 21600],
    changes := [
      "5ntth.6bB4m01.lhC125ukD14l8CdhgDdjwCdk4DdhkCdhcDdhcCdhcDdhcCdhcDdhcCdhcDdhcCdhcDdhcCdhcD",
      "e00CdhcDdhcC"] },
  { names := ["Asia/Seoul", "ROK"],
    offsets := [30472, 30600, 32400, 36000, 34200],
    changes := [
      "5bqmd.6cB2thb.lgCrd9aD7p8CeysDbx8CeysDbzwChmsD9bwC1wg4BudeE9ekBitgE9ukBg2sEad8BglgEad8B",
      "glgEad8BglgEad8Bo5gCjcliDbeoCfk0DbeoC"] },
  { names := ["Asia/Srednekolymsk"],
    offsets := [36892, 36000, 39600, 43200],
    changes := [
      "5ntsu.30B4m00.osC125ukDdjwCdhgDdjwCdhgDdjwCdk4DdhkCdhcDdhcCdhcDdhcCdhcDdhcCdhcDdhcCdhcD",
      "dhcCdhcDe00CqysB8aoC56kDdhcCdhcDdhcCdhcDdhcCdhcDdhcCe00Dfk0CbeoDfk0CbeoDfk0CbeoDg2oCaw0D",
      "g2oCaw0Dg2oCbeoDfk0CbeoDfk0CbeoDg2oCaw0Dg2oCaw0Dg2oCaw0Dg2oCbeoDfk0CbeoDfk0CbeoDg2oCaw0D",
      "2oykC"] },
  { names := ["Asia/Taipei", "ROC"],
    offsets := [29160, 28800, 32400],
    changes := [
      "52jae.hsBvdhc.a0C5zpcBhhcCaakBeisCet8BdhgCbbwBfpgCbbwBfpgCbbwBfpgCbbwBb9gCi58Bb6sCfukB",
      "b6sCfukBb6sCdjwBdk4CdjwBdhgCdjwBdhgCdjwBdhgCdjwBi2sC918Bi04C918B9e5gCdjwBdhgCdjwB2tesC",
      "6t8B"] },
  { names := ["Asia/Tashkent"],
    offsets := [16631, 18000, 21600, 25200],
    changes := [
      "5nttg.ftB4lzy.bzC125ukDdjwCdhgDdjwCdhgDdjwCdk4DdhkCdhcDdhcCdhcDdhcCdhcDdhcCdhcDdhcCdhcD",
      "dhcCdhcDe00CqysB"] },
  { names := ["Asia/Tbilisi"],
    offsets := [10751, 10800, 14400, 18000],
    changes := [
      "5nttn.45Boo7z.nnCi3mkDdjwCdhgDdjwCdhgDdjwCdk4DdhkCdhcDdhcCdhcDdhcCdhcDdhcCdhcDdhcCdhcD",
      "dhcCdhcDe00CqysBdh4Cdh8BdhgCdh8BdhgCqykDdh8Ce04D16ikCbesDfjwCbesDg2kCaw4Dg2kCaw4Dg2kC",
      "besDfjwCbesDfjwCbesD6qkC9cgBaw0C"] },
  { names := ["Asia/Tehran", "Iran"],
    offsets := [12344, 12600, 16200, 14400, 18000],
    changes := [
      "5w6hl.9wBve7v.hwCfs0DbheE9uoD79cBeiqC8l8BdmsCdrwB7yysCaikBdhgCdmkBdesCdmkBdesCdmkBdesC",
      "dmkBdesCdmkBdhgCdmkBdesCdmkBdesCdmkBdesCdmkBdhgCdmkBdesCdmkBdesCdmkBdesCdmkBdhgCdmkB",
      "1vhgCdmkBdhgCdmkBdesCdmkBdesCdmkBdesCdmkBdhgCdmkBdesCdmkBdesCdmkBdesCdmkBdhgCdmkBdesC",
      "dmkBdesCdmkBdesCdmkBdhgCdmkBdesCdmkB"] },
  { names := ["Asia/Thimbu", "Asia/Thimphu"],
    offsets := [21516, 19800, 21600],
    changes := ["65btb.54Bu5pd.moC"] },
  { names := ["Asia/Tokyo", "Japan"],
    offsets := [33539, 32400, 36000],
    changes := ["4wiub.2sB19caoC9uoBf1cCbxcBhmoC9c0BhmoC9c0B"] },
  { names := ["Asia/Tomsk"],
    offsets := [20391, 21600, 25200, 28800],
    changes := [
      "5kjtc.bdB7vzy.gfC125ukDdjwCdhgDdjwCdhgDdjwCdk4DdhkCdhcDdhcCdhcDdhcCdhcDdhcCdhcDdhcCdhcD",
      "dhcCdhcDe00CqysB8aoC56kDdhcCdhcDdhcCdhcDdhcCdhcDdhcCe00Dfk0CbeoDfk0CbeoDfk0CbeoDg2oCaw0D",
      "g2oCaw0Dg2oCbeoD2aoCd9gBbeoCfk0BbeoCg2oBaw0Cg2oBaw0Cg2oBaw0Cg2oBbeoCfk0BbeoCfk0BbeoCg2oB",
      "aw0C2oykB171gC"] },
  { names := ["Asia/Ust-Nera"],
    offsets := [34374, 28800, 32400, 43200, 39600, 36000],
    changes := [
      "5kja8.myB7wiu.4uC125ukDdjoEdhgDdjwEdhgDdjwEdk4DdhkEdhcDdhcEdhcDdhcEdhcDdhcEdhcDdhcEdhcD",
      "dhcEdhcDe00EqysF8aoE56kDdhcEdhcDdhcEdhcDdhcEdhcDdhcEe00Dfk0EbeoDfk0EbeoDfk0EbeoDg2oEaw0D",
      "g2oEaw0Dg2oEbeoDfk0EbeoDfk0EbeoDg2oEaw0Dg2oEaw0Dg2oEaw0Dg2oEbeoDfk0EbeoDfk0EbeoDg2oEaw0D",
      "cl0E2cdoF"] },
  { names := ["Asia/Vladivostok"],
    offsets := [31651, 32400, 36000, 39600],
    changes := [
      "5mq8z.nlB5pjz.47C125ukDdjwCdhgDdjwCdhgDdjwCdk4DdhkCdhcDdhcCdhcDdhcCdhcDdhcCdhcDdhcCdhcD",
      "dhcCdhcDe00CqysB8aoC56kDdhcCdhcDdhcCdhcDdhcCdhcDdhcCe00Dfk0CbeoDfk0CbeoDfk0CbeoDg2oCaw0D",
      "g2oCaw0Dg2oCbeoDfk0CbeoDfk0CbeoDg2oCaw0Dg2oCaw0Dg2oCaw0Dg2oCbeoDfk0CbeoDfk0CbeoDg2oCaw0D",
      "2oykC"] },
  { names := ["Asia/Yakutsk"],
    offsets := [31138, 28800, 32400, 36000],
    changes := [
      "5kjac.cuB7wiq.eyC125ukDdjwCdhgDdjwCdhgDdjwCdk4DdhkCdhcDdhcCdhcDdhcCdhcDdhcCdhcDdhcCdhcD",
      "dhcCdhcDe00CqysB8aoC56kDdhcCdhcDdhcCdhcDdhcCdhcDdhcCe00Dfk0CbeoDfk0CbeoDfk0CbeoDg2oCaw0D",
      "g2oCaw0Dg2oCbeoDfk0CbeoDfk0CbeoDg2oCaw0Dg2oCaw0Dg2oCaw0Dg2oCbeoDfk0CbeoDfk0CbeoDg2oCaw0D",
      "2oykC"] },
  { names := ["Asia/Yekaterinburg"],
    offsets := [14553, 13505, 14400, 18000, 21600],
    changes := [
      "5hxyu.njB2a0h.44C87u7.5D125ukEdjwDdhgEdjwDdhgEdjwDdk4EdhkDdhcEdhcDdhcEdhcDdhcEdhcDdhcE",
      "dhcDdhcEdhcDdhcEe00DqysC8aoD56kEdhcDdhcEdhcDdhcEdhcDdhcEdhcDe00Efk0DbeoEfk0DbeoEfk0DbeoE",
      "g2oDaw0Eg2oDaw0Eg2oDbeoEfk0DbeoEfk0DbeoEg2oDaw0Eg2oDaw0Eg2oDaw0Eg2oDbeoEfk0DbeoEfk0DbeoE",
      "g2oDaw0E2oykD"] },
  { names := ["Asia/Yerevan"],
    offsets := [10680, 10800, 14400, 18000],
    changes := [
      "5nttn.64Boo7z.loCi3mkDdjwCdhgDdjwCdhgDdjwCdk4DdhkCdhcDdhcCdhcDdhcCdhcDdhcCdhcDdhcCdhcD",
      "dhcCdhcDe00CqysBdhcCdhcBdhcCdhcBdhcCdhcBdhcC1ifwDfk0CbeoDfk0CbeoDg2oCaw0Dg2oCaw0Dg2oC",
      "beoDfk0CbeoDfk0CbeoDg2oCaw0Dg2oCaw0Dg2oCaw0Dg2oCbeoDfk0CbeoDfk0CbeoDg2oCaw0Dg2oC"] }]

/-- Zones of the Atlantic. -/
def atlantic : List Entry := [
  { names := [
      "Arctic/Longyearbyen", "Atlantic/Jan_Mayen", "Europe/Berlin", "Europe/Copenhagen",
      "Europe/Oslo", "Europe/Stockholm"],
    offsets := [3208, 3600, 7200, 10800],
    changes := [
      "50gv7.doBhcfv.e4Cbc4BelkCbeoBfk0CbeoBg6tcC1y00Baw0Ce00BdhcCdhcBdhcC3ukD940C42sBaw0Cd1cB",
      "desC2l8D3mkC79gBeioCcg0Be00CcyoBmxhcCcyoBdhcCdhcBdhcCdhcBdhcCdhcBdhcCe00BdhcCdhcBdhcC",
      "dhcBdhcCdhcBdhcCdhcBdhcCdhcBdhcCe00BdhcCdhcBdhcCdhcBdhcCdhcBdhcCdhcBdhcCdhcBe00C"],
    rule := some ⟨3600, 7200, ⟨3, 5, 0, 7200⟩, ⟨10, 5, 0, 10800⟩⟩ },
  { names := ["Atlantic/Azores"],
    offsets := [-6160, -6872, -7200, -3600, 0, 3600],
    changes := [
      "4tinh.nwBl1hd.3wC3cqkDa2sC8w0DgvwCa5gDgvwCa5gDgvwCa84DgvwCa5gDgvwC1vs0Dco0C15hcDcg0Ce00D",
      "cyoCeioDcyoCeioDcg0C15hcDcg0CdhcDdhcC14yoDdhcCcyoDe00CeioDcg0CdhcDdhcCcyoDe00CeioDg2oC",
      "79cDgqoCdc0Ddk0CbuoD33wE8aoD56sCadcD2l8E9uoD4o4C9uoD33wE9c0D4o4C9uoD33wE9c0D4o4CbxcDdhcC",
      "dhoDdhcCdhcDdhcCdhcDdhcCdhcDdhcCdhcDe00CdhcDdhcCdhcDdhcCdhcDdhcCdhcDdhcCdhcDe00CdhcDdhcC",
      "dhcDdhcCdhcDdhcCdhcDdhcCdhcDdhcCdhcDe00CdhcDdhcCdhcDdhcCdhcDdhcCdhcDc0foEdhcDdhcEdhcD",
      "dhcEe00DdhcEdhcDdhcEdhcDdhcEdhcDdhcEdhcDdhcEdhcDdhcEe00DdhcEdhcDdhcEdhcD6qsE6qkF600E7hcD",
      "dhcEdhcDdhcEdhcDe00E"],
    rule := some ⟨-3600, 0, ⟨3, 5, 0, 0⟩, ⟨10, 5, 0, 3600⟩⟩ },
  { names := ["Atlantic/Bermuda"],
    offsets := [-15558, -11958, -14400, -10800],
    changes := [
      "5iiig.9yBd6kAeg4Bbh8A8hkcC91em.huDkqkCbesDgl8C9usDhmkC9c4DhmkC15hgD8t8Cio4D7rwCj6sD7rwC",
      "jpgD798CjpgD798CjpgD7rwC2slgDbekCd5esDdh8CdhgDdh8CdhgDdzwCcysDdzwCdhgDdh8CdhgDdh8CdhgD",
      "dh8CdhgDdh8CdhgDdzwCcysDdzwCdhgDdh8CdhgDdh8CdhgDdh8CbxgDf18CbxgDfjwCbesDfjwCbesDfjwCbxgD",
      "f18CbxgDf18CbxgDfjwCbesDfjwCbesDfjwCbxgDf18CbxgDf18CbxgDf18CbxgDfjwCbesDfjwCbesDfjwCbxgD",
      "f18CbxgDf18CbxgDfjwCbesDfjwCbesDfjwC9usD"],
    rule := some ⟨-14400, -10800, ⟨3, 2, 0, 7200⟩, ⟨11, 1, 0, 7200⟩⟩ },
  { names := ["Atlantic/Canary"],
    offsets := [-3696, -3600, 0, 3600],
    changes := [
      "5m73f.5gBih43.mcCp6t4DcysCdhcDdhcCdhcDdhcCdhcDdhcCdhcDe00CdhcDdhcCdhcDdhcCdhcDdhcCdhcD",
      "dhcCdhcDdhcCdhcDe00CdhcDdhcCdhcDdhcCdhcDdhcCdhcDdhcCdhcDdhcCe00D"],
    rule := some ⟨0, 3600, ⟨3, 5, 0, 3600⟩, ⟨10, 5, 0, 7200⟩⟩ },
  { names := ["Atlantic/Cape_Verde"],
    offsets := [-5644, -7200, -3600],
    changes := ["5ek4v.2sBn1pcC2cfwBmmocC"] },
  { names := ["Atlantic/Faeroe", "Atlantic/Faroe"],
    offsets := [-1624, 0, 3600],
    changes := [
      "5bknc.mwB1j0te.4wCdhcBdhcCdhcBdhcCdhcBdhcCe00BdhcCdhcBdhcCdhcBdhcCdhcBdhcCdhcBdhcCdhcB",
      "dhcCe00BdhcCdhcBdhcCdhcBdhcCdhcBdhcCdhcBdhcCdhcBe00C"],
    rule := some ⟨0, 3600, ⟨3, 5, 0, 3600⟩, ⟨10, 5, 0, 7200⟩⟩ },
  { names := ["Atlantic/Madeira"],
    offsets := [-4056, -3600, 0, 3600],
    changes := [
      "5ek4r.2sB3cqkCa2sB8w0CgvwBa5gCgvwBa5gCgvwBa84CgvwBa5gCgvwB1vs0Cco0B15hcCcg0Be00CcyoBeioC",
      "cyoBeioCcg0B15hcCcg0BdhcCdhcB14yoCdhcBcyoCe00BeioCcg0BdhcCdhcBcyoCe00BeioCg2oB79cCgqoB",
      "dc0Cdk0BbuoC33wD8aoC56sBadcC2l8D9uoC4o4B9uoC33wD9c0C4o4B9uoC33wD9c0C4o4BbxcCdhcBdhoCdhcB",
      "dhcCdhcBdhcCdhcBdhcCdhcBdhcCe00BdhcCdhcBdhcCdhcBdhcCdhcBdhcCdhcBdhcCe00BdhcCdhcBdhcCdhcB",
      "dhcCdhcBdhcCdhcBdhcCdhcBdhcCe00BdhcCdhcBdhcCdhcBdhcCdhcBdhcCc0ycDcyoCdhcDdhcCdhcDe00C",
      "dhcDdhcCdhcDdhgCdhcDdhcCdhcDdhcCdhcDdhcCdhcDe00CdhcDdhcCdhcDdhcCdhcDdhcCdhcDdhcCdhcDdhcC",
      "e00D"],
    rule := some ⟨0, 3600, ⟨3, 5, 0, 3600⟩, ⟨10, 5, 0, 7200⟩⟩ },
  { names := ["Atlantic/South_Georgia"],
    offsets := [-8768, -7200],
    changes := ["4y10w.lcB"] },
  { names := ["Atlantic/Stanley"],
    offsets := [-13884, -14400, -10800, -7200],
    changes := [
      "5epee.dgBj71c.ecCcykBe04CcykBeisCcykBe04CcykBe04CcykBe04C73wBub44CavwDg2kCadgDgl8Cqg4B",
      "aw4Cg2kBaw4Cg2kBaw4Cg2kBaw4Cgl8BadgCgl8Baw4Cg2kBaw4Cg2kBaw4Cg2kBaw4Cg2kBaw4Cgl8Baw4Cg2kB",
      "aw4Cg2kBaw4Cg2kBaw4Cg2kBaw4Cg2sBadgCh3wB9usCh3wBadgCgl8BadgCgl8BadgCgl8BadgCgl8BadgCh3wB",
      "adgCgl8BadgCgl8BadgC"] }]

/-- Zones of Australia. -/
def australia : List Entry := [
  { names := ["Australia/ACT", "Australia/Canberra", "Australia/NSW", "Australia/Sydney"],
    offsets := [36292, 36000, 39600],
    changes := [
      "51uji.joBggw8.84C65cBim80C6g0BdhcCdhcBe00CcyoBkqo0C8tcBi5cC9c0BhmoC9c0BhmoC9c0BhmoC9uoB",
      "hmoC9c0BhmoC9c0BhmoC9c0BhmoC9c0BhmoC9c0BhmoCbxcBfk0C9c0BhmoC9c0BhmoC9c0BhmoCadcBg2oCaw0B",
      "glcCaw0BglcCadcBglcC9c0BhmoC9c0BhmoC9c0BhmoC9uoBhmoC9c0BhmoC9c0BhmoCbeoBfk0CbeoBfk0CbeoB",
      "fk0CbeoBg2oCaw0BbeoCfk0Bg2oCbeoBfk0CbeoBfk0CbeoBg2oCaw0Bg2oCbeoBfk0Caw0Bg2oCbxcB"],
    rule := some ⟨36000, 39600, ⟨10, 1, 0, 7200⟩, ⟨4, 1, 0, 10800⟩⟩ },
  { names := ["Australia/Adelaide", "Australia/South"],
    offsets := [33260, 32400, 34200, 37800],
    changes := [
      "51ujm.3wB36tc.nwCda2uD65cCim80D6g0CdhcDdhcCe00DcyoCkqo0D8tcCi5cD9c0ChmoD9c0ChmoD9c0ChmoD",
      "9uoChmoD9c0ChmoD9c0ChmoD9c0ChmoD9c0ChmoD9c0ChmoD9uoChmoD9c0ChmoD9c0ChmoD9c0ChmoDadcCg2oD",
      "aw0CglcDaw0CglcDadcCglcDadcCglcD9c0ChmoDaw0Cg2oD9uoChmoDadcCglcDaw0Cg2oDbeoCfk0DbeoCfk0D",
      "beoCfk0DbeoCg2oDaw0Cg2oDaw0Cg2oDbeoCfk0DbeoCfk0DbeoCg2oDaw0Cg2oDbeoCfk0Daw0Cg2oDbxcC"],
    rule := some ⟨34200, 37800, ⟨10, 1, 0, 7200⟩, ⟨4, 1, 0, 10800⟩⟩ },
  { names := ["Australia/Brisbane", "Australia/Queensland"],
    offsets := [36728, 36000, 39600],
    changes := [
      "51s8u.7kBgj6w.k8C65cBim80C6g0BdhcCdhcBe00CcyoBkqo0C8tcBda2oC9c0BhmoC9c0BhmoC9c0B"] },
  { names := ["Australia/Broken_Hill", "Australia/Yancowinna"],
    offsets := [33948, 36000, 32400, 34200, 37800],
    changes := [
      "51ujl.9sB1659.i0C20o4Dda2uE65cDim80E6g0DdhcEdhcDe00EcyoDkqo0E8tcDi5cE9c0DhmoE9c0DhmoE",
      "9c0DhmoE9uoDhmoE9c0DhmoE9c0DhmoE9c0DhmoE9c0DhmoE9c0DhmoEbxcDfk0E9c0DhmoE9c0DhmoE9c0DhmoE",
      "adcDg2oEaw0DglcEaw0DglcEadcDglcE9c0DhmoE9c0DhmoE9c0DhmoE9uoDhmoE9c0DhmoE9c0DhmoEbeoDfk0E",
      "beoDfk0EbeoDfk0EbeoDg2oEaw0Dg2oEaw0Dg2oEbeoDfk0EbeoDfk0EbeoDg2oEaw0Dg2oEbeoDfk0Eaw0Dg2oE",
      "bxcD"],
    rule := some ⟨34200, 37800, ⟨10, 1, 0, 7200⟩, ⟨4, 1, 0, 10800⟩⟩ },
  { names := ["Australia/Currie", "Australia/Hobart", "Australia/Tasmania"],
    offsets := [35356, 36000, 39600],
    changes := [
      "52a8v.koBfudj.74CcyoBg2oC9c0BhmoC9c0Bh5uoC6g0BdhcCdhcBe00CcyoBho80CdhcBfk0C9uoBh40C9uoB",
      "h40CadcBh40C8tcBi5cC9c0BhmoC9c0BhmoC9c0BhmoC9uoBhmoC9c0BhmoC9c0BhmoC9c0BhmoC9c0BhmoC9c0B",
      "hmoCbeoBg2oCaw0Bg2oC9c0BhmoC9c0BhmoC9c0Bh40Caw0BglcCaw0BglcCadcBglcCadcBglcCbeoBe00CcyoB",
      "e00CcyoBe00CcyoBe00CcyoBe00CdhcBe00CcyoBe00CcyoBe00CcyoBe00CcyoBbeoCfk0BeioCcyoBe00CcyoB",
      "e00CcyoBe00CcyoBe00CdhcBdhcCcyoBeioC"],
    rule := some ⟨36000, 39600, ⟨10, 1, 0, 7200⟩, ⟨4, 1, 0, 10800⟩⟩ },
  { names := ["Australia/Darwin", "Australia/North"],
    offsets := [31400, 32400, 34200, 37800],
    changes := ["51ujo.5kB36ta.m8Cda2uD65cCim80D6g0CdhcDdhcCe00DcyoC"] },
  { names := ["Australia/Eucla"],
    offsets := [30928, 31500, 35100],
    changes := [
      "52gzo.ioBfug7.94C65cBim80C6g0BdhcCdhcBnqioC9c0B6idcC9c0B5sg0C7s0Bb39cC8aoBg2oCbeoBfk0C",
      "beoB"] },
  { names := ["Australia/LHI", "Australia/Lord_Howe"],
    offsets := [38180, 36000, 37800, 41400, 39600],
    changes := [
      "51ujg.h8B1sote.akChmuD9ukChmsD9bwChmsD9bwChmsD9bwChmsEadaCg2qEavyCgleEavyCgleEadaCgleE",
      "9byChmqE9byChmqE9byChmqE9umChmqE9byChmqE9byChmqEbemCfk2EbemCfk2EbemCfk2EbemCg2qEavyCbeqE",
      "fjyCg2qEbemCfk2EbemCfk2EbemCg2qEavyCg2qEbemCfk2EavyCg2qEbxaC"],
    rule := some ⟨37800, 39600, ⟨10, 1, 0, 7200⟩, ⟨4, 1, 0, 7200⟩⟩ },
  { names := ["Australia/Lindeman"],
    offsets := [35756, 36000, 39600],
    changes := [
      "51s8v.9kBgj6v.i8C65cBim80C6g0BdhcCdhcBe00CcyoBkqo0C8tcBda2oC9c0BhmoC9c0BhmoC9c0BhmoC9uoB",
      "hmoC9c0B"] },
  { names := ["Australia/Melbourne", "Australia/Victoria"],
    offsets := [34792, 36000, 39600],
    changes := [
      "51ujk.bcBggw6.ggC65cBim80C6g0BdhcCdhcBe00CcyoBkqo0C8tcBi5cC9c0BhmoC9c0BhmoC9c0BhmoC9uoB",
      "hmoC9c0BhmoC9c0BhmoC9c0BhmoC9c0BhmoC9c0BhmoC9uoBhmoC9c0BhmoC9c0BhmoC9c0BhmoCadcBg2oCaw0B",
      "g2oCbeoBglcCadcBglcCadcBglcC9c0BhmoC9c0BhmoC9uoBhmoC9c0BhmoCaw0Bg2oCbeoBfk0CbeoBfk0CbeoB",
      "fk0CbeoBg2oCaw0BbeoCfk0Bg2oCbeoBfk0CbeoBfk0CbeoBg2oCaw0Bg2oCbeoBfk0Caw0Bg2oCbxcB"],
    rule := some ⟨36000, 39600, ⟨10, 1, 0, 7200⟩, ⟨4, 1, 0, 10800⟩⟩ },
  { names := ["Australia/Perth", "Australia/West"],
    offsets := [27804, 28800, 32400],
    changes := [
      "52gzs.5gBfug6.mcC65cBim80C6g0BdhcCdhcBnqioC9c0B6idcC9c0B5sg0C7s0Bb39cC8aoBg2oCbeoBfk0C",
      "beoB"] }]

/-- Zones of Europe. -/
def europe : List Entry := [
  { names := ["CET", "Europe/Amsterdam", "Europe/Brussels", "Europe/Luxembourg", "MET"],
    offsets := [1050, 0, 3600, 7200],
    changes := [
      "4zs1z.2sBgx9cC13zwDbc0CelkDbeoCfk0DbeoC46gB86oCg2oB9uoCio0BaioCgo0Bb6oCeioBeioCcg0BcyoC",
      "e00BdhcCdhcBeioCcg0Be00CcyoBeioCcz0BeioCcg0Be00CcyoBeioCcg0BdhcCdhcBcyoCeioBdhcCdhcBcyoC",
      "e00BeioCcg0BdhcCdhcBcyoCe00BeioCg2oB79cC6aoD1ud8Caw0De00CdhcDcdcCelcDcdcCi5cDag0Cmww0D",
      "cyoCe00DdhcCdhcDdhcCe00DcyoCdhcDdhcCdhcDdhcCdhcDdhcCdhcDe00CdhcDdhcCdhcDdhcCdhcDdhcCdhcD",
      "dhcCdhcDdhcCdhcDe00CdhcDdhcCdhcDdhcCdhcDdhcCdhcDdhcCdhcDdhcCe00D"],
    rule := some ⟨3600, 7200, ⟨3, 5, 0, 7200⟩, ⟨10, 5, 0, 10800⟩⟩ },
  { names := ["EET", "Europe/Athens"],
    offsets := [5692, 7200, 10800, 3600],
    changes := [
      "5hzts.lcBbzby.6gC458B6glgC1p8B14tsDaygBdx8Ddk4B66ykC96kBgv44Cgw0Ba5kCdhcBcyoCd1cBdxcC",
      "cysBe0oCddsBdp8CdbwBdhsCdhcBdhcCdhcBdhcCdhcBdhcCe00BdhcCdhcBdhcCdhcBdhcCdhcBdhcCdhcBdhcC",
      "dhcBdhcCe00BdhcCdhcBdhcCdhcBdhcCdhcBdhcCdhcBdhcCdhcBe00C"],
    rule := some ⟨7200, 10800, ⟨3, 5, 0, 10800⟩, ⟨10, 5, 0, 14400⟩⟩ },
  { names := ["Eire", "Europe/Dublin"],
    offsets := [-1521, 2079, 0, 3600],
    changes := [
      "5husw.k1B9uoCdzy.7rDc00CdxcDe2oCdeoDdk0CdeoDfmoCbuoDdk0Ccw0DeioCeioDaw0Cfk0DbxcCfk0Dcg0C",
      "eioDcg0Ce00DcyoCf1cDcg0CeioDcg0Ce00DcyoCeioDcg0CeioDcg0Ce00DdhcCeioDcg0Ce00DcyoCeioDcg0C",
      "eioDcg0Ce00DcyoCeioDg2oC79cD4yw0CbxcDh40Ccg0DeioCbeoDfk0Ccg0De00CcyoDe00CdhcDe00CcyoD",
      "cg0Ce00DcyoCeioDcg0Cf1cDcg0Ce00DcyoCeioDcg0CeioDcg0Ce00DcyoCcyoDg2oCaw0Dg2oCbeoDfk0Caw0D",
      "g2oCaw0Dg2oCaw0Dg2oCaw0DglcC8aoD2s2oCadcDglcCadcDglcCadcDglcCadcDglcCaw0Dg2oCaw0Dg2oC",
      "aw0DglcCadcDglcCadcDglcCbekDfk0CbeoDfk0CbeoDfk0CbeoDg2oCbeoDfk0CbeoDfk0CbeoDfk0CbeoDfk0C",
      "beoDg2oCaw0Dg2oCbeoDfk0CbeoDfk0CbeoDfk0CbeoDfk0CbeoDfk0CbxcD"],
    rule := some ⟨0, 3600, ⟨3, 5, 0, 3600⟩, ⟨10, 5, 0, 7200⟩⟩ },
  { names := ["Europe/Andorra"],
    offsets := [364, 0, 3600, 7200],
    changes := [
      "56akm.hoBydmo.a4CsxmsDdhcCdhcDdhcCdhcDdhcCdhcDdhcCdhcDdhcCdhcDe00CdhcDdhcCdhcDdhcCdhcD",
      "dhcCdhcDdhcCdhcDdhcCe00D"],
    rule := some ⟨3600, 7200, ⟨3, 5, 0, 7200⟩, ⟨10, 5, 0, 10800⟩⟩ },
  { names := ["Europe/Astrakhan"],
    offsets := [11532, 10800, 14400, 18000],
    changes := [
      "5ntqy.7gB4m2o.kcC125ukDdjwCdhgDdjwCdhgDdjwCdk4DdhkCdhcDdhcCdhcDdhcCdhcDdhcCdhcDdhcCqysB",
      "dhcCe00BdhcC14g0BdhcCdhcBdhcCdhcBdhcCdhcBe00Cfk0BbeoCfk0BbeoCfk0BbeoCg2oBaw0Cg2oBaw0C",
      "g2oBbeoCfk0BbeoCfk0BbeoCg2oBaw0Cg2oBaw0Cg2oBaw0Cg2oBbeoCfk0BbeoCfk0BbeoCg2oBaw0C2oykB",
      "12dgC"] },
  { names := [
      "Europe/Belfast", "Europe/Guernsey", "Europe/Isle_of_Man", "Europe/Jersey", "Europe/London",
      "GB", "GB-Eire"],
    offsets := [-75, 0, 3600, 7200],
    changes := [
      "42ecn.4vB1fgg7.mxC9uoBe00Cc00BdxcCe2oBdeoCdk0BdeoCfmoBbuoCdk0Bcw0CeioBeioCaw0Bfk0CbxcB",
      "fk0Ccg0BeioCcg0Be00CcyoBf1cCcg0BeioCcg0Be00CcyoBeioCcg0BeioCcg0Be00CdhcBeioCcg0Be00CcyoB",
      "eioCcg0BeioCcg0Be00CcyoBeioCg2oB79cCw58D79cChmoD9c0ChmoD9uoCh40Dcg0CelcD7pcC684Be00CcyoB",
      "bxcC22kD8tcC684B9uoCh40BbeoCfk0Bcg0Ce00BcyoCe00BdhcCe00BcyoCcg0Be00CcyoBeioCcg0Bf1cCcg0B",
      "e00CcyoBeioCcg0BeioCcg0Be00CcyoBcyoCg2oBaw0Cg2oBbeoCfk0Baw0Cg2oBaw0Cg2oBaw0Cg2oBaw0CglcB",
      "8aoC2s2oBadcCglcBadcCglcBadcCglcBadcCglcBaw0Cg2oBaw0Cg2oBaw0CglcBadcCglcBadcCglcBbekC",
      "fk0BbeoCfk0BbeoCfk0BbeoCg2oBbeoCfk0BbeoCfk0BbeoCfk0BbeoCfk0BbeoCg2oBaw0Cg2oBbeoCfk0BbeoC",
      "fk0BbeoCfk0BbeoCfk0BbeoCfk0BbxcC"],
    rule := some ⟨0, 3600, ⟨3, 5, 0, 3600⟩, ⟨10, 5, 0, 7200⟩⟩ },
  { names := [
      "Europe/Belgrade", "Europe/Ljubljana", "Europe/Podgorica", "Europe/Sarajevo",
      "Europe/Skopje", "Europe/Zagreb"],
    offsets := [4920, 3600, 7200],
    changes := [
      "4tin5.g4B17259.boC15n0Baw0Ce00BdhcCdhcBg5cC9pcBs79cCdhcBdhcCe00BdhcCdhcBdhcCdhcBdhcCdhcB",
      "dhcCdhcBdhcCdhcBdhcCe00BdhcCdhcBdhcCdhcBdhcCdhcBdhcCdhcBdhcCdhcBe00C"],
    rule := some ⟨3600, 7200, ⟨3, 5, 0, 7200⟩, ⟨10, 5, 0, 10800⟩⟩ },
  { names := ["Europe/Bratislava", "Europe/Prague"],
    offsets := [3464, 3600, 7200, 0],
    changes := [
      "4zc9v.6kBih17.l8Cbc4BelkCbeoBfk0CbeoBg6tcC1y00Baw0Ce00BdhcCdhcBdhcCdhcBg2oCbc0B45gD680B",
      "458Ccg0BeioCcg0BdxcCd1cBm600CdhcBe00CcyoBdhcCdhcBdhcCdhcBdhcCdhcBdhcCe00BdhcCdhcBdhcC",
      "dhcBdhcCdhcBdhcCdhcBdhcCdhcBdhcCe00BdhcCdhcBdhcCdhcBdhcCdhcBdhcCdhcBdhcCdhcBe00C"],
    rule := some ⟨3600, 7200, ⟨3, 5, 0, 7200⟩, ⟨10, 5, 0, 10800⟩⟩ },
  { names := ["Europe/Bucharest"],
    offsets := [6264, 7200, 10800],
    changes := [
      "5t9b4.3sBmda.o0C9xcBdhcCdhcBe00CdhcBdhcCdhcBdhcCdhcBdhcCdhcBdhcCdhcBdhcCdhcBtstcC9bwB",
      "e00CcysBdhkCdhcBdhcCdhcBdhcCdhcBdhcCe00BdhcCdhcBdhcCdhcBdhcCdhcBdhcCdhcBdhcCdhcBdhcCe00B",
      "dh4CdhcBdhcCdhcBdhcCdhcBdhcCdh8BdhgCdh8Be04CfjwBbf4C"],
    rule := some ⟨7200, 10800, ⟨3, 5, 0, 10800⟩, ⟨10, 5, 0, 14400⟩⟩ },
  { names := ["Europe/Budapest"],
    offsets := [4580, 3600, 7200],
    changes := [
      "4ynj6.kBj5rx.28Cbc4BelkCbeoBfk0CbeoBfmoCbc0Bf1cCcg0Bffx0C16gcBaw0Ce00BdhcCdhcBfp0Cdk4B",
      "b48Ce2kBdesCdhcBdhcCdhcBe00CcyoB3hh4C9ukBh4cC9uoBi5cC8tcBi5cC8tcBgx94CcyoBdhcCdhcBdhcC",
      "dhcBdhcCdhcBdhkCe00BdhcCdhcBdhcCdhcBdhcCdhcBdhcCdhcBdhcCdhcBdhcCe00BdhcCdhcBdhcCdhcBdhcC",
      "dhcBdhcCdhcBdhcCdhcBe00C"],
    rule := some ⟨3600, 7200, ⟨3, 5, 0, 7200⟩, ⟨10, 5, 0, 10800⟩⟩ },
  { names := ["Europe/Busingen", "Europe/Vaduz", "Europe/Zurich"],
    offsets := [2048, 1786, 3600, 7200],
    changes := [
      "46mhw.kwBupxc.7aCz9k1.omDbeoCfk0DbeoCsx44DdhcCdhcDdhcCdhcDdhcCdhcDe00CdhcDdhcCdhcDdhcC",
      "dhcDdhcCdhcDdhcCdhcDdhcCdhcDe00CdhcDdhcCdhcDdhcCdhcDdhcCdhcDdhcCdhcDdhcCe00D"],
    rule := some ⟨3600, 7200, ⟨3, 5, 0, 7200⟩, ⟨10, 5, 0, 10800⟩⟩ },
  { names := ["Europe/Chisinau", "Europe/Tiraspol"],
    offsets := [6920, 6900, 6264, 7200, 10800, 3600, 14400],
    changes := [
      "4qif3.akBsneo.kCa3hc.hoDmda.o0E9xcDdhcEdhcDe00EdhcDdhcEdhcDdhcEdhcDdhcEdhcDdhcEdhcDdhcE",
      "dhcDnmoEovwDz1sFaw0De00FdhcDal0EriakGdjwEdhgGdjwEdhgGdjwEdk4GdhkEdhcGdhcEdhcGdhcEdhcG",
      "dhcEdhcGdhcEdhcGdhcEdhcG33wEaw8DdhcEdhcDdh4Edh8DdhgEdh8DdhgEdh8DdhgEdh8De04EfjwDbf0Efk0D",
      "beoEfk0DbeoEg2oDaw0Eg2oDaw0Eg2oDbeoEfk0DbeoEfk0DbeoEg2oDaw0Eg2oDaw0Eg2oDaw0Eg2oDbeoEfk0D",
      "beoEfk0DbeoEg2oDaw0Eg2oDaw0Eg2oDbeoEfk0DbeoEfk0DbeoEfk0DbeoEg2oDaw0Eg2oDaw0Eg2oDbeoEfk0D",
      "beoEfk0DbeoEg2oDaw4E"],
    rule := some ⟨7200, 10800, ⟨3, 5, 0, 10800⟩, ⟨10, 5, 0, 14400⟩⟩ },
  { names := ["Europe/Gibraltar"],
    offsets := [-1284, 0, 3600, 7200],
    changes := [
      "4qya0.dgBqwiu.ecC9uoBe00Cc00BdxcCe2oBdeoCdk0BdeoCfmoBbuoCdk0Bcw0CeioBeioCaw0Bfk0CbxcB",
      "fk0Ccg0BeioCcg0Be00CcyoBf1cCcg0BeioCcg0Be00CcyoBeioCcg0BeioCcg0Be00CdhcBeioCcg0Be00CcyoB",
      "eioCcg0BeioCcg0Be00CcyoBeioCg2oB79cCw58D79cChmoD9c0ChmoD9uoCh40Dcg0CelcD7pcC684Be00CcyoB",
      "bxcC22kD8tcC684B9uoCh40BbeoCfk0Bcg0Ce00BcyoCe00BdhcCe00BcyoCcg0Be00CcyoBeioCcg0Bf1cCcg0B",
      "e00Cir3wDdhcCdhcDdhcCdhcDe00CdhcDdhcCdhcDdhcCdhcDdhcCdhcDdhcCdhcDdhcCdhcDe00CdhcDdhcC",
      "dhcDdhcCdhcDdhcCdhcDdhcCdhcDdhcCe00D"],
    rule := some ⟨3600, 7200, ⟨3, 5, 0, 7200⟩, ⟨10, 5, 0, 10800⟩⟩ },
  { names := ["Europe/Helsinki", "Europe/Mariehamn"],
    offsets := [5989, 7200, 10800],
    changes := [
      "5lkkg.bfBfq2m.gdCdmoBsx6wCdhcBdhcCdhcBdhgCdhcBdhcCe00BdhcCdhcBdhcCdhcBdhcCdhcBdhcCdhcB",
      "dhcCdhcBdhcCe00BdhcCdhcBdhcCdhcBdhcCdhcBdhcCdhcBdhcCdhcBe00C"],
    rule := some ⟨7200, 10800, ⟨3, 5, 0, 10800⟩, ⟨10, 5, 0, 14400⟩⟩ },
  { names := ["Europe/Kaliningrad"],
    offsets := [4920, 3600, 7200, 10800, 14400],
    changes := [
      "50gv5.g4Bhcfx.boCbc4BelkCbeoBfk0CbeoBg6tcC1y00Baw0Ce00BdhcCdhcBdhcC1zoDdrwCbmsDqaikEdjwD",
      "dhgEdjwDdhgEdjwDdk4EdhkDdhcEdhcDdhcEdhcDdhcEdhcDdhcEdhcDqysCdhcDe00CdhcDdhcCdhcDdhcCdhcD",
      "dhcCdhcDdhcCdhcDdhcCe00Dfk0CbeoDfk0CbeoDfk0CbeoDg2oCaw0Dg2oCaw0Dg2oCbeoDfk0CbeoDfk0CbeoD",
      "g2oCaw0Dg2oCaw0Dg2oCaw0Dg2oCbeoDfk0CbeoDfk0CbeoDg2oCaw0D2oykC"] },
  { names := ["Europe/Kiev", "Europe/Kyiv", "Europe/Uzhgorod", "Europe/Zaporozhye"],
    offsets := [7324, 7200, 10800, 3600, 14400],
    changes := [
      "5nttq.ocB4m00.3gC8gd8Bu8gDaw0Be00D2fsCs3x4EdjwCdhgEdjwCdhgEdjwCdk4EdhkCdhcEdhcCdhcEdhcC",
      "dhcEdhcCdhcEdhcCdhcEdhcCdhcE798CxpkBdhcCdhcBdhcCdhcBdhcCdhcBdhcCdhcBe00Cfk4B"],
    rule := some ⟨7200, 10800, ⟨3, 5, 0, 10800⟩, ⟨10, 5, 0, 14400⟩⟩ },
  { names := ["Europe/Kirov"],
    offsets := [11928, 10800, 14400, 18000],
    changes := [
      "5k6xz.2sB88voC125ukDdjwCdhgDdjwCdhgDdjwCdk4DdhkCdhcDdhcCdhcDdhcCdhcDdhcCdhcDdhcCqysBdhcC",
      "e00BdhcC14g0BdhcCdhcBdhcCdhcBdhcCdhcBe00Cfk0BbeoCfk0BbeoCfk0BbeoCg2oBaw0Cg2oBaw0Cg2oB",
      "beoCfk0BbeoCfk0BbeoCg2oBaw0Cg2oBaw0Cg2oBaw0Cg2oBbeoCfk0BbeoCfk0BbeoCg2oBaw0C2oykB"] },
  { names := ["Europe/Lisbon", "Portugal", "WET"],
    offsets := [-2205, 0, 3600, 7200],
    changes := [
      "5ek4n.2sB3cqkCa2sB8w0CgvwBa5gCgvwBa5gCgvwBa84CgvwBa5gCgvwB1vs0Cco0B15hcCcg0Be00CcyoBeioC",
      "cyoBeioCcg0B15hcCcg0BdhcCdhcB14yoCdhcBcyoCe00BeioCcg0BdhcCdhcBcyoCe00BeioCg2oB79cCgqoB",
      "dc0Cdk0BbuoC33wD8aoC56sBadcC2l8D9uoC4o4B9uoC33wD9c0C4o4B9uoC33wD9c0C4o4BbxcCdhcBdhoCdhcB",
      "dhcCdhcBdhcCdhcBdhcCdhcBdhcCe00BdhcCdhcBdhcCdhcBdhcCdhcBdhcCdhcBdhcCe00BdhcCdhcBdhcCdhcB",
      "dhcCdhcBdhcCdhcBdhcCdhcBdhcCe00BdhcCdhcBdhcCdhcBdhcCdhcBdhcC7vmgBdhcCdhcBe04CdhcBdhcC",
      "dhcBe00CcyoBdh8CdhcBdhcCdhcBdhcCdhcBdhcCe00BdhcCdhcBdhgCdhcBdhcCdhcBdhcCdhcBdhcCdhcBdhcC",
      "e00BdhcCdhcBdhcCqyoDdhcCdhcDdhcCdhcDdhcCtk0B"],
    rule := some ⟨0, 3600, ⟨3, 5, 0, 3600⟩, ⟨10, 5, 0, 7200⟩⟩ },
  { names := ["Europe/Madrid"],
    offsets := [-884, 0, 3600, 7200],
    changes := [
      "56akn.2sBczp8Ccw4Bdh8Cdk4B3eikCco4B15h8Ccg4BdzwCcysBeioCcyoBeikCcg4B5s7wC804Bdh8C22kD",
      "bhcCrewBbx8C1ljwD8ysCgykDcg4CeikDcg4CeikDcg4CeikDcg4C1xzwDbesCifp8DcysCdzwDcysCcykDdhgC",
      "dzwDcysCe08DdhcCdhcDdhcCe00DcyoCdhcDdhcCdhcDdhcCdhcDdhcCdhcDe00CdhcDdhcCdhcDdhcCdhcDdhcC",
      "dhcDdhcCdhcDdhcCdhcDe00CdhcDdhcCdhcDdhcCdhcDdhcCdhcDdhcCdhcDdhcCe00D"],
    rule := some ⟨3600, 7200, ⟨3, 5, 0, 7200⟩, ⟨10, 5, 0, 10800⟩⟩ },
  { names := ["Europe/Malta"],
    offsets := [3484, 3600, 7200],
    changes := [
      "50wsj.60Bgz1b.lsC8t8BdhgCdjwBbusCfmkBatgCg2kBcg4Cdh8Beu04C1sg8Baw0Ce00BdeoCcg0BelcCcagB",
      "dk8Cf1cBbx4Cf1cBaw8Cg2oBd914C9bwBi5gC8tcBi5cC8tcBio0C8tcBi5cC8tcBhmoC9c0Bi5cC9c0BdeoC",
      "dhcBf40CayoBg08CbekBfk4CbekBfk4CbekBfk4CbekBfk4CbekBelgCcvwBe04CdhcBdhcCdhcBdhcCdhcBdhcC",
      "e00BdhcCdhcBdhcCdhcBdhcCdhcBdhcCdhcBdhcCdhcBdhcCe00BdhcCdhcBdhcCdhcBdhcCdhcBdhcCdhcBdhcC",
      "dhcBe00C"],
    rule := some ⟨3600, 7200, ⟨3, 5, 0, 7200⟩, ⟨10, 5, 0, 10800⟩⟩ },
  { names := ["Europe/Minsk"],
    offsets := [6616, 6600, 7200, 10800, 3600, 14400],
    changes := [
      "4qif3.j0Bxbeo.gC4lzz.8cD8a58C10ggEaw0Ce00EdhcC6qcDrm58FdjwDdhgFdjwDdhgFdjwDdk4FdhkDdhcF",
      "dhcDdhcFdhcDdhcFdhcDdhcFdhcDdhcFdhcD1ig4CdhcDdhcCdhcDdhcCdhcDdhcCdhcDdhcCe00Dfk0CbeoD",
      "fk0CbeoDfk0CbeoDg2oCaw0Dg2oCaw0Dg2oCbeoDfk0CbeoDfk0CbeoDg2oCaw0Dg2oCaw0Dg2oCaw0Dg2oCbeoD",
      "fk0CbeoDfk0CbeoDg2oCaw0D"] },
  { names := ["Europe/Monaco", "Europe/Paris"],
    offsets := [561, 0, 3600, 7200],
    changes := [
      "5dy7a.c7B3yfw.flC82oBcw0CelcBbc0CfmoBatcCg5cB9s0Cio0BaioCgo0Bb6oCeioBh40C9uoBcyoCe00B",
      "dhcCdhcBeioCcg0Be00CcyoBeioCcyoBeioCcg0Be00CcyoBeioCcg0BdhcCdhcBcyoCeioBdhcCdhcBcyoCe00B",
      "eioCcg0BdhcCdhcBcyoCe00BeioCg2oB79oC87kD1sgcCaw0De00CdhcDdx4Cd1kDcdcCmxzwDdh8Ce08DcyoC",
      "e00DdhcCdhcDdhcCe00DcyoCdhcDdhcCdhcDdhcCdhcDdhcCdhcDe00CdhcDdhcCdhcDdhcCdhcDdhcCdhcDdhcC",
      "dhcDdhcCdhcDe00CdhcDdhcCdhcDdhcCdhcDdhcCdhcDdhcCdhcDdhcCe00D"],
    rule := some ⟨3600, 7200, ⟨3, 5, 0, 7200⟩, ⟨10, 5, 0, 10800⟩⟩ },
  { names := ["Europe/Moscow", "W-SU"],
    offsets := [9017, 9079, 12679, 16279, 14400, 10800, 18000, 7200],
    changes := [
      "5hxz1.2bBqyj.naCd9cBbh8D7xgCj3wD28i.27E3e8F14o0E2ikGc5cE284Fr1gH5sw4F125ukEdjwFdhgEdjwF",
      "dhgEdjwFdk4EdhkFdhcEdhcFdhcEdhcFdhcEdhcFdhcEdhcFdhcEdhcFdhcEe00FqysH8aoF56kEdhcFdhcEdhcF",
      "dhcEdhcFdhcEdhcFe00Efk0FbeoEfk0FbeoEfk0FbeoEg2oFaw0Eg2oFaw0Eg2oFbeoEfk0FbeoEfk0FbeoEg2oF",
      "aw0Eg2oFaw0Eg2oFaw0Eg2oFbeoEfk0FbeoEfk0FbeoEg2oFaw0E2oykF"] },
  { names := ["Europe/Riga"],
    offsets := [5794, 9394, 7200, 10800, 3600, 14400],
    changes := [
      "5ja7c.guBbeoAelcB3s0A58l4Cap6m.ayDofwC108gEaw0Ce00EdhcCdhcEt4Drel4FdjwDdhgFdjwDdhgFdjwD",
      "dk4FdhkDdhcFdhcDdhcFdhcDdhcFdhcDdhcFdhcDqysCdhcDe00CdhcDdhcCdhcDdhcCdhcDdhcCdhcDdhcCdhcD",
      "dhcCe00DdhcCdhgDfk0CbeoDfk0CbeoDg2oC11uoD"],
    rule := some ⟨7200, 10800, ⟨3, 5, 0, 10800⟩, ⟨10, 5, 0, 14400⟩⟩ },
  { names := ["Europe/Rome", "Europe/San_Marino", "Europe/Vatican"],
    offsets := [2996, 3600, 7200],
    changes := [
      "50wpv.2sBgz40C8t8BdhgCdjwBbusCfmkBatgCg2kBcg4Cdh8Beu04C1sg8Baw0Ce00BdhcCcdcBelcCcagBdk8C",
      "f1cBbx4Cf1cBaw8Cg2oBd914C9bwBi5gC8tcBi5cC8tcBio0C8tcBi5cC8tcBhmoC9c0Bi5cC9c0Bi5cC8tcB",
      "hmoC9c0Bi5cC8tcBi5cC8tcBhmoC9c0Bi5cC9c0BhmoC9c0Be08CcyoBdhcCdhcBdhcCdhcBdhcCdhcBdhcCe00B",
      "dhcCdhcBdhcCdhcBdhcCdhcBdhcCdhcBdhcCdhcBdhcCe00BdhcCdhcBdhcCdhcBdhcCdhcBdhcCdhcBdhcCdhcB",
      "e00C"],
    rule := some ⟨3600, 7200, ⟨3, 5, 0, 7200⟩, ⟨10, 5, 0, 10800⟩⟩ },
  { names := ["Europe/Samara"],
    offsets := [12020, 10800, 14400, 18000],
    changes := [
      "5k6xz.2sB88voC125ukDdjwCdhgDdjwCdhgDdjwCdk4DdhkCdhcDdhcCdhcDdhcCdhcDdhcCdhcDdhcCqysBdhcC",
      "e00BsisCbx4DdhcCdhcDdhcCdhcDdhcCdhcDdhcCe00Dfk0CbeoDfk0CbeoDfk0CbeoDg2oCaw0Dg2oCaw0Dg2oC",
      "beoDfk0CbeoDfk0CbeoDg2oCaw0Dg2oCaw0Dg2oCaw0Dg2oCbeoDfk0CbeoDfk0CrhgBaw0C"] },
  { names := ["Europe/Saratov"],
    offsets := [11058, 10800, 14400, 18000],
    changes := [
      "5k6xz.2sB88voC125ukDdjwCdhgDdjwCdhgDdjwCdk4DdhkCdhcDdhcCdhcDdhcCdhcDdhcCqysBdhcCdhcBdhcC",
      "e00BdhcC14g0BdhcCdhcBdhcCdhcBdhcCdhcBe00Cfk0BbeoCfk0BbeoCfk0BbeoCg2oBaw0Cg2oBaw0Cg2oB",
      "beoCfk0BbeoCfk0BbeoCg2oBaw0Cg2oBaw0Cg2oBaw0Cg2oBbeoCfk0BbeoCfk0BbeoCg2oBaw0C2oykB1l1gC"] },
  { names := ["Europe/Simferopol"],
    offsets := [8184, 8160, 7200, 10800, 3600, 14400],
    changes := [
      "4qif2.gBxbeo.oC4m01.1oD8jh8Cr4gEaw0Ce00EdhcCqcDrs58FdjwDdhgFdjwDdhgFdjwDdk4FdhkDdhcFdhcD",
      "dhcFdhcDdhcFdhcDdhcFdhcDdhcFdhcDkqoC1b6sDdhcCdhcDdhcCdhcD2l0Faw8DdhcFdhcDdzsFfkcDqysC",
      "beoDfk0CbeoDg2oCaw0Dg2oCaw0Dg2oCbeoDfk0CbeoDfk0CbeoDg2oCaw0Dg2oCaw0Dg2oCaw0Dg2oCbeoDfk0C",
      "beoDfk0CbeoDg2oCaw0Dg2oCaw0Dg2oCbeoDfk0CbekFfjsD"] },
  { names := ["Europe/Sofia"],
    offsets := [5596, 7016, 7200, 3600, 10800],
    changes := [
      "4qif4.mcBb7ha.akC100iz.jwDaw0Ce00DdhcCdhcDdhgCpjrgEdk4Cdx8Ed1gCdx8EcywCdzsEcz0CdhcEdhcC",
      "dhcEe00CdhcEdhcCdhcEdhcCdhcEdhcCdhcEdhcCdhcEdhcCdhcEe00Cdh4Edh8CdhgEdh8CdhgEdh8CdhgEdh8C",
      "dhgEdh8Ce04EfjwCbf4E"],
    rule := some ⟨7200, 10800, ⟨3, 5, 0, 10800⟩, ⟨10, 5, 0, 14400⟩⟩ },
  { names := ["Europe/Tallinn"],
    offsets := [5940, 3600, 7200, 10800, 14400],
    changes := [
      "5j4sg.csB5ey.f0CbeoBlbsA1dml.a0Ceh9a.f0DtzwCulsBaw0Ce00BdhcCcqcDrg58EdjwDdhgEdjwDdhgE",
      "djwDdk4EdhkDdhcEdhcDdhcEdhcDdhcEdhcDdhcEdhcDqysCdhcDe00CdhcDdhcCdhcDdhcCdhcDdhcCdhcDdhcC",
      "dhcDdhcCe00Dfk0CbeoDfk0CbeoDfk4CbeoDg2oC1tc0D"],
    rule := some ⟨7200, 10800, ⟨3, 5, 0, 10800⟩, ⟨10, 5, 0, 14400⟩⟩ },
  { names := ["Europe/Tirane"],
    offsets := [4760, 3600, 7200],
    changes := [
      "5g29t.kkBjvs1.78C1sdkBaw0Cw0BncigCb6kBfmsCbekBfs4CbekBg2sCavwBg04CaykBg04CaykBg04CbekB",
      "f44CbekBg2sCbekBelgCcakBdk4CdhkBdhcCdhcBdhcCdhcBdhcCdhcBdhcCdhcBdhcCdhcBdhcCe00BdhcCdhcB",
      "dhcCdhcBdhcCdhcBdhcCdhcBdhcCdhcBe00C"],
    rule := some ⟨3600, 7200, ⟨3, 5, 0, 7200⟩, ⟨10, 5, 0, 10800⟩⟩ },
  { names := ["Europe/Ulyanovsk"],
    offsets := [11616, 10800, 14400, 18000, 7200],
    changes := [
      "5k6xz.2sB88voC125ukDdjwCdhgDdjwCdhgDdjwCdk4DdhkCdhcDdhcCdhcDdhcCdhcDdhcCdhcDdhcCqysBdhcC",
      "e00BqysE8aoB56kCdhcBdhcCdhcBdhcCdhcBdhcCdhcBe00Cfk0BbeoCfk0BbeoCfk0BbeoCg2oBaw0Cg2oBaw0C",
      "g2oBbeoCfk0BbeoCfk0BbeoCg2oBaw0Cg2oBaw0Cg2oBaw0Cg2oBbeoCfk0BbeoCfk0BbeoCg2oBaw0C2oykB",
      "12dgC"] },
  { names := ["Europe/Vienna"],
    offsets := [3921, 3600, 7200],
    changes := [
      "50gv6.ivBhcfw.8xCbc4BelkCbeoBfk0CbeoB1600CbxcBeow0C1y00Baw0Ce00BdhcCdhcBdhcCqoBr6oCd1cB",
      "deoCdhcBeioCcg0BnofsCcykBdhoCdhcBdhcCdhcBdhcCdhcBdhcCe00BdhcCdhcBdhcCdhcBdhcCdhcBdhcC",
      "dhcBdhcCdhcBdhcCe00BdhcCdhcBdhcCdhcBdhcCdhcBdhcCdhcBdhcCdhcBe00C"],
    rule := some ⟨3600, 7200, ⟨3, 5, 0, 7200⟩, ⟨10, 5, 0, 10800⟩⟩ },
  { names := ["Europe/Vilnius"],
    offsets := [6076, 5040, 5736, 3600, 7200, 10800, 14400],
    changes := [
      "4qif4.90Brt1d.3sC22yn.5oDkg2.9cE6l8Dew5gFo2gE10r4Daw0Ee00DdhcE8voFrjzwGdjwFdhgGdjwFdhgG",
      "djwFdk4GdhkFdhcGdhcFdhcGdhcFdhcGdhcFdhcGdhcFqysEdhcFe00EdhcFdhcEdhcFdhcEdhcFdhcEdhcFdhcE",
      "dhcFdhcEe00Ffk0EbeoFfk0EqysDbeoE30dcF"],
    rule := some ⟨7200, 10800, ⟨3, 5, 0, 10800⟩, ⟨10, 5, 0, 14400⟩⟩ },
  { names := ["Europe/Volgograd"],
    offsets := [10660, 10800, 14400, 18000],
    changes := [
      "5kkpn.6oB7v3z.l4C125ukDdjwCdhgDdjwCdhgDdjwCdk4DdhkCdhcDdhcCdhcDdhcCdhcDdhcCqysBdhcCdhcB",
      "dhcCe00BdhcC14g0BdhcCdhcBdhcCdhcBdhcCdhcBe00Cfk0BbeoCfk0BbeoCfk0BbeoCg2oBaw0Cg2oBaw0C",
      "g2oBbeoCfk0BbeoCfk0BbeoCg2oBaw0Cg2oBaw0Cg2oBaw0Cg2oBbeoCfk0BbeoCfk0BbeoCg2oBaw0C2oykB",
      "30dgC1ml8B"] },
  { names := ["Europe/Warsaw", "Poland"],
    offsets := [5040, 3600, 7200, 10800],
    changes := [
      "5h9b5.csBjzx.f0Cbc4BelkCbeoBfk0Cr18DbeoC2194BdkocC1ruoBaw0Ce00BdhcCdmkBfbwCdrwBc5gCd1kB",
      "fhcCbeoBeioCcg0Be00CcyoB5rekC8tcBdhcCdhcBi5cC9c0BdhcCdhcBhmoC9c0BhmoC9c0BhmoC9c0Bi5cC",
      "8tcB9elcCcyoBe00CdhcBdhcCdhcBe00CcyoBdhcCdhcBdhcCdhcBdhcCdhcBdhcCe00BdhcCdhcBdhcCdhcB",
      "dhcCdhcBdhgCdhcBdhcCdhcBdhcCe00BdhcCdhcBdhcCdhcBdhcCdhcBdhcCdhcBdhcCdhcBe00C"],
    rule := some ⟨3600, 7200, ⟨3, 5, 0, 7200⟩, ⟨10, 5, 0, 10800⟩⟩ }]

/-- Zones of the Indian Ocean. -/
def indian : List Entry := [
  { names := ["Indian/Chagos"],
    offsets := [17380, 18000, 21600],
    changes := ["5asur.k0B1uvxb.7sC"] },
  { names := ["Indian/Kerguelen", "Indian/Maldives"],
    offsets := [17640, 18000],
    changes := ["6ems3.csB"] },
  { names := ["Indian/Mauritius"],
    offsets := [13800, 14400, 18000],
    changes := ["5asuv.jgB1ky2n.8cCbzwBj8ocCbekB"] }]

/-- Zones of the Pacific. -/
def pacific : List Entry := [
  { names := ["Chile/EasterIsland", "Pacific/Easter"],
    offsets := [-26248, -25200, -21600, -18000],
    changes := [
      "5u3c4.6wBr6nm.kwCavwBhmsC9bwBeisCbekBfk4CbekBg2sCavwBf1gCbx8Bg2sCavwBg2sCbekBfk4CbekB",
      "fk4CbekBg2sCavwBg2sCavwBg2sCbekBfk4CqyoDbekCfk4DbekCg2sDavwCg2sDavwCg2sDdh8CdhgDbekCfk4D",
      "bekCg2sDavwCe04DcykCg2sDbekCfk4DbekCfk4DbekCfk4DbekCg2sDavwCg2sDcfwCeisDbekCeisDdzwCe04D",
      "bekCg2sDavwCg2sDavwCg2sDavwCg2sDbekCfk4DbekCfk4DbekCg2sDavwCg2sDcfwCeisDbekCfk4DcykCe04D",
      "fjwC7s4DinwC9c4DhmkC9usDh3wC9usD19mkC6qsDk7wC6qsDk7wC6qsDhmkCbesDfjwCbesDfjwCbesDfjwC",
      "bxgDf18C"],
    rule := some ⟨-21600, -18000, ⟨9, 1, 6, 79200⟩, ⟨4, 1, 6, 79200⟩⟩ },
  { names := ["HST", "Pacific/Honolulu", "Pacific/Johnston", "US/Hawaii"],
    offsets := [-37886, -37800, -34200, -36000],
    changes := ["52k9t.56Bs0xj.mmC1l0B6jz0C2qfwB19msD"] },
  { names := ["Kwajalein", "Pacific/Kwajalein"],
    offsets := [40160, 39600, 36000, 32400, -43200, 43200],
    changes := ["56aje.c8Br200.fkC36w4D2544Bj9zsEhyd8F"] },
  { names := ["NZ-CHAT", "Pacific/Chatham"],
    offsets := [44028, 44100, 45900, 49500],
    changes := [
      "4i4dy.4sB1lzmn.n0Clo89D8aoCi5cD9uoChmoD9c0ChmoD9c0ChmoD9c0ChmoD9c0ChmoD9c0ChmoD9uoChmoD",
      "9c0ChmoD9c0ChmoD9c0ChmoD9c0ChmoD9c0ChmoD9uoChmoD9c0Cg2oDbxcCf1cDbxcCf1cDbxcCf1cDcg0CeioD",
      "cg0CeioDcg0CeioDcg0Cf1cDbxcCf1cDbxcCf1cDcg0CeioDcg0CeioDcg0Cf1cDbxcCf1cDbxcCf1cDcg0CeioD",
      "cg0CeioDcg0CeioDcg0CeioD"],
    rule := some ⟨45900, 49500, ⟨9, 5, 0, 9900⟩, ⟨4, 1, 0, 13500⟩⟩ },
  { names := ["Pacific/Apia"],
    offsets := [45184, -41216, -41400, -39600, -36000, 50400, 46800],
    changes := [
      "4zwtw.moBdwaoCtb6o.54D19n6mEdxoDcyoE768F6tsGdhcFe00GcyoFe00GcyoFe00GcyoFe00GcyoFe00GcyoF",
      "e00GdhcFe00GcyoFe00GcyoFe00G"] },
  { names := ["Pacific/Bougainville"],
    offsets := [37336, 35312, 36000, 32400, 39600],
    changes := ["4qie5.foBb9uq.68Czoyn.5wD2cysC1g4dgE"] },
  { names := ["Pacific/Efate"],
    offsets := [40396, 39600, 43200],
    changes := [
      "5ekze.5oB1ajx8.m4C79cB74o4Cdh8BdhgCdh8Be04CcykBe04Cdh8BdhgCdh8BdhgCdh8BdhgCdh8BdhgCdh8B",
      "e04C8t8Bk84C6qkB"] },
  { names := ["Pacific/Enderbury", "Pacific/Kanton"],
    offsets := [0, -43200, -39600, 46800],
    changes := ["5xuhz.2sBvmmoCbgl8D"] },
  { names := ["Pacific/Fakaofo"],
    offsets := [-41096, -39600, 46800],
    changes := ["56alw.jcB2beym.8gC"] },
  { names := ["Pacific/Fiji"],
    offsets := [42944, 43200, 46800],
    changes := [
      "5hfcn.9wB1qe2v.hwC8tcBio0C8aoB7bxcC8tcBfk0C9uoBh40C6qoBk80C6qoBkqoC67wBl9gC5pcBl9cC5pcB",
      "ls0C56oBls0C56oBls0C56oBmaoC4o0BpeoC22oB"] },
  { names := [
      "Pacific/Funafuti", "Pacific/Majuro", "Pacific/Tarawa", "Pacific/Wake", "Pacific/Wallis"],
    offsets := [41524, 43200],
    changes := ["56ajc.ocB"] },
  { names := ["Pacific/Galapagos"],
    offsets := [-21504, -18000, -21600],
    changes := ["5su7z.4B15c2k.2oC56w4B53wC"] },
  { names := ["Pacific/Gambier"],
    offsets := [-32388, -32400],
    changes := ["5f4gb.2gB"] },
  { names := ["Pacific/Guadalcanal", "Pacific/Pohnpei", "Pacific/Ponape"],
    offsets := [38388, 39600],
    changes := ["5f4e4.bgB"] },
  { names := ["Pacific/Guam", "Pacific/Saipan"],
    offsets := [-51660, 34740, 36000, 32400, 39600],
    changes := [
      "407i8.csB1631cCurmm.f0D1zesCb79gE173wC4y84E11zo.1oCawb.ncE56kChmsE9ukCh44E9ukC1ppgE56kC",
      "1ow4E6ik.1oCi5f.ncE9bwC"] },
  { names := ["Pacific/Kiritimati"],
    offsets := [-37760, -38400, -36000, 50400],
    changes := ["56alt.1oB1n6io.hsCbgl9.8cD"] },
  { names := ["Pacific/Kosrae"],
    offsets := [-47284, 39116, 39600, 32400, 36000, 43200],
    changes := ["407i3.g8B1631cCabxb.bkD39c8CdgqgE36w4D399gCi5ugFlzekC"] },
  { names := ["Pacific/Marquesas"],
    offsets := [-33480, -34200],
    changes := ["5f4gc.7sB"] },
  { names := ["Pacific/Midway", "Pacific/Pago_Pago", "Pacific/Samoa", "US/Samoa"],
    offsets := [45432, -40968, -39600],
    changes := ["4zwtw.fsBdwaoC"] },
  { names := ["Pacific/Nauru"],
    offsets := [40060, 41400, 32400, 43200],
    changes := ["5lcoq.f0Bg8vy.csC29xmBp4amD"] },
  { names := ["Pacific/Niue"],
    offsets := [-40780, -40800, -39600],
    changes := ["697sk.akB8sqo.kC"] },
  { names := ["Pacific/Norfolk"],
    offsets := [40312, 40320, 41400, 45000, 39600, 43200],
    changes := ["56aje.80B11kqn.osChwg6.k0D9c0Cui80E30deF"],
    rule := some ⟨39600, 43200, ⟨10, 1, 0, 7200⟩, ⟨4, 1, 0, 10800⟩⟩ },
  { names := ["Pacific/Noumea"],
    offsets := [39948, 39600, 43200],
    changes := ["5ekze.i4B1diqo.9oC6akBko4C6d8Bdcj0C6qoB"] },
  { names := ["Pacific/Palau"],
    offsets := [-54124, 32276, 32400],
    changes := ["407ib.68B1631cC"] },
  { names := ["Pacific/Pitcairn"],
    offsets := [-31220, -30600, -28800],
    changes := ["56all.k0B214yn.7sC"] },
  { names := ["Pacific/Rarotonga"],
    offsets := [48056, -38344, -37800, -34200, -36000],
    changes := [
      "55j1t.hwB13oqoCjlen.9wD8akEhmqD9byEhmqD9byEhmqD9umEhmqD9byEhmqD9byEhmqD9byEhmqD9byEhmqD",
      "9byEhmqD9umEhmqD9byEhmqD9byEhmqD9byE"] },
  { names := ["Pacific/Tahiti"],
    offsets := [-35896, -36000],
    changes := ["5f4ge.owB"] },
  { names := ["Pacific/Tongatapu"],
    offsets := [44352, 44400, 46800, 50400],
    changes := ["63vn9.ksBbi7z.noCt4qt.8cDc5cCh40D67wCkqsD67wCb3s4D56oC"] }]

/-- Zones that belong to no place on a map, and those known by a short name. -/
def placeless : List Entry := [
  { names := ["CST6CDT"],
    offsets := [-21600, -18000],
    changes := [
      "5j947.2sBfjwAbesBfjwAgr44B2qfwAg7usBdh8AdhgBdh8AdhgBdh8AdhgBdh8AdhgBdzwAdhgBdh8AdhgBdh8A",
      "56sBlrwA8tgBi58AdhgBdzwAcysBdzwAdhgBdh8AdhgBdh8AdhgBdh8AdhgBdh8AdhgBdzwAcysBdzwAdhgBdh8A",
      "dhgBdh8AdhgBdh8AbxgBf18AbxgBfjwAbesBfjwAbesBfjwAbxgBf18AbxgBf18AbxgBfjwAbesBfjwAbesBfjwA",
      "bxgBf18AbxgBf18AbxgBf18AbxgBfjwAbesBfjwAbesBfjwAbxgBf18AbxgBf18AbxgBfjwAbesBfjwAbesBfjwA",
      "9usB"],
    rule := some ⟨-21600, -18000, ⟨3, 2, 0, 7200⟩, ⟨11, 1, 0, 7200⟩⟩ },
  { names := ["EST5EDT"],
    offsets := [-18000, -14400],
    changes := [
      "5j943.2sBfjwAbesBfjwAgr44B2qfwAg7usBdh8AdhgBdh8AdhgBdh8AdhgBdh8AdhgBdzwAdhgBdh8AdhgBdh8A",
      "56sBlrwA8tgBi58AdhgBdzwAcysBdzwAdhgBdh8AdhgBdh8AdhgBdh8AdhgBdh8AdhgBdzwAcysBdzwAdhgBdh8A",
      "dhgBdh8AdhgBdh8AbxgBf18AbxgBfjwAbesBfjwAbesBfjwAbxgBf18AbxgBf18AbxgBfjwAbesBfjwAbesBfjwA",
      "bxgBf18AbxgBf18AbxgBf18AbxgBfjwAbesBfjwAbesBfjwAbxgBf18AbxgBf18AbxgBfjwAbesBfjwAbesBfjwA",
      "9usB"],
    rule := some ⟨-18000, -14400, ⟨3, 2, 0, 7200⟩, ⟨11, 1, 0, 7200⟩⟩ },
  { names := [
      "Etc/GMT", "Etc/GMT+0", "Etc/GMT-0", "Etc/GMT0", "Etc/Greenwich", "Etc/UCT", "Etc/UTC",
      "Etc/Universal", "Etc/Zulu", "Factory", "GMT", "GMT+0", "GMT-0", "GMT0", "Greenwich", "UCT",
      "UTC", "Universal", "Zulu"],
    offsets := [0] },
  { names := ["Etc/GMT+1"],
    offsets := [-3600] },
  { names := ["Etc/GMT+10"],
    offsets := [-36000] },
  { names := ["Etc/GMT+11"],
    offsets := [-39600] },
  { names := ["Etc/GMT+12"],
    offsets := [-43200] },
  { names := ["Etc/GMT+2"],
    offsets := [-7200] },
  { names := ["Etc/GMT+3"],
    offsets := [-10800] },
  { names := ["Etc/GMT+4"],
    offsets := [-14400] },
  { names := ["Etc/GMT+5"],
    offsets := [-18000] },
  { names := ["Etc/GMT+6"],
    offsets := [-21600] },
  { names := ["Etc/GMT+7"],
    offsets := [-25200] },
  { names := ["Etc/GMT+8"],
    offsets := [-28800] },
  { names := ["Etc/GMT+9"],
    offsets := [-32400] },
  { names := ["Etc/GMT-1"],
    offsets := [3600] },
  { names := ["Etc/GMT-10"],
    offsets := [36000] },
  { names := ["Etc/GMT-11"],
    offsets := [39600] },
  { names := ["Etc/GMT-12"],
    offsets := [43200] },
  { names := ["Etc/GMT-13"],
    offsets := [46800] },
  { names := ["Etc/GMT-14"],
    offsets := [50400] },
  { names := ["Etc/GMT-2"],
    offsets := [7200] },
  { names := ["Etc/GMT-3"],
    offsets := [10800] },
  { names := ["Etc/GMT-4"],
    offsets := [14400] },
  { names := ["Etc/GMT-5"],
    offsets := [18000] },
  { names := ["Etc/GMT-6"],
    offsets := [21600] },
  { names := ["Etc/GMT-7"],
    offsets := [25200] },
  { names := ["Etc/GMT-8"],
    offsets := [28800] },
  { names := ["Etc/GMT-9"],
    offsets := [32400] },
  { names := ["MST7MDT"],
    offsets := [-25200, -21600],
    changes := [
      "5j94b.2sBfjwAbesBfjwAgr44B2qfwAg7usBdh8AdhgBdh8AdhgBdh8AdhgBdh8AdhgBdzwAdhgBdh8AdhgBdh8A",
      "56sBlrwA8tgBi58AdhgBdzwAcysBdzwAdhgBdh8AdhgBdh8AdhgBdh8AdhgBdh8AdhgBdzwAcysBdzwAdhgBdh8A",
      "dhgBdh8AdhgBdh8AbxgBf18AbxgBfjwAbesBfjwAbesBfjwAbxgBf18AbxgBf18AbxgBfjwAbesBfjwAbesBfjwA",
      "bxgBf18AbxgBf18AbxgBf18AbxgBfjwAbesBfjwAbesBfjwAbxgBf18AbxgBf18AbxgBfjwAbesBfjwAbesBfjwA",
      "9usB"],
    rule := some ⟨-25200, -21600, ⟨3, 2, 0, 7200⟩, ⟨11, 1, 0, 7200⟩⟩ },
  { names := ["PST8PDT"],
    offsets := [-28800, -25200],
    changes := [
      "5j94f.2sBfjwAbesBfjwAgr44B2qfwAg7usBdh8AdhgBdh8AdhgBdh8AdhgBdh8AdhgBdzwAdhgBdh8AdhgBdh8A",
      "56sBlrwA8tgBi58AdhgBdzwAcysBdzwAdhgBdh8AdhgBdh8AdhgBdh8AdhgBdh8AdhgBdzwAcysBdzwAdhgBdh8A",
      "dhgBdh8AdhgBdh8AbxgBf18AbxgBfjwAbesBfjwAbesBfjwAbxgBf18AbxgBf18AbxgBfjwAbesBfjwAbesBfjwA",
      "bxgBf18AbxgBf18AbxgBf18AbxgBfjwAbesBfjwAbesBfjwAbxgBf18AbxgBf18AbxgBfjwAbesBfjwAbesBfjwA",
      "9usB"],
    rule := some ⟨-28800, -25200, ⟨3, 2, 0, 7200⟩, ⟨11, 1, 0, 7200⟩⟩ }]

/-- Every zone. -/
def entries : List Entry :=
  africa ++ america ++ antarctica ++ asia ++ atlantic ++ australia ++ europe ++ indian ++ pacific
    ++ placeless

end DataLayer.Zone
