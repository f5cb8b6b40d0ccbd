import ScriptTree.Basic
import ScriptTree.Text.CharacterName.Ancient
import ScriptTree.Text.CharacterName.East
import ScriptTree.Text.CharacterName.Letters
import ScriptTree.Text.CharacterName.Pictures
import ScriptTree.Text.CharacterName.Run
import ScriptTree.Text.CharacterName.Symbols

namespace ScriptTree

namespace CharacterName

/-- The names of controls, corrected names and abbreviations. -/
def aliases : List Run :=
  [⟨0x0, ["NULLaSTART OF HEADINGcTEXTaEND OF TEXTcTRANSMISSIONaENQUIRYaACKNOWLEDGEaALERT",
     "aBACKSPACEaCHARACTER TABULATIONaLINE FEEDbTABULATIONaFORM FEEDaCARRIAGE RETURN",
     "aSHIFT OUTbINaDATA LINK ESCAPEaDEVICE CONTROL ONEcTWOcTHREEcFOURaNEGATIVE ACKNOWLEDGE",
     "aSYNCHRONOUS IDLEaEND OF TRANSMISSION BLOCKaCANCELaEND OF MEDIUMaSUBSTITUTEaESCAPE",
     "aINFORMATION SEPARATOR FOURcTHREEcTWOcONEaSP"]⟩,
   ⟨0x7F, ["DELETEaPADDING CHARACTERaHIGH OCTET PRESETaBREAK PERMITTED HEREaNO BREAK HERE",
     "aINDEXaNEXT LINEaSTART OF SELECTED AREAaEND OF SELECTED AREAaCHARACTER TABULATION SET",
     "cWITH JUSTIFICATIONaLINE TABULATION SETaPARTIAL LINE FORWARDcBACKWARDaREVERSE LINE FEED",
     "aSINGLE SHIFT TWOcTHREEaDEVICE CONTROL STRINGaPRIVATE USE ONEcTWOaSET TRANSMIT STATE",
     "aCANCEL CHARACTERaMESSAGE WAITINGaSTART OF GUARDED AREAaEND OF GUARDED AREA",
     "aSTART OF STRINGaSINGLE GRAPHIC CHARACTER INTRODUCERbCHARACTER INTRODUCER",
     "aCONTROL SEQUENCE INTRODUCERaSTRING TERMINATORaOPERATING SYSTEM COMMANDaPRIVACY MESSAGE",
     "aAPPLICATION PROGRAM COMMANDaNBSP"]⟩,
   ⟨0xAD, ["SHY"]⟩, ⟨0x1A2, ["LATIN CAPITAL LETTER GHAbSMALL LETTER GHA"]⟩, ⟨0x34F, ["CGJ"]⟩,
   ⟨0x61C, ["ALM"]⟩, ⟨0x709, ["SYRIAC SUBLINEAR COLON SKEWED LEFT"]⟩,
   ⟨0xCDE, ["KANNADA LETTER LLLA"]⟩, ⟨0xE9D, ["LAO LETTER FO FON"]⟩,
   ⟨0xE9F, ["LAO LETTER FO FAY"]⟩, ⟨0xEA3, ["LAO LETTER RO"]⟩, ⟨0xEA5, ["LAO LETTER LO"]⟩,
   ⟨0xFD0, ["TIBETAN MARK BKA- SHOG GI MGO RGYAN"]⟩,
   ⟨0x11EC, ["HANGUL JONGSEONG YESIEUNG-KIYEOKcYESIEUNG-SSANGKIYEOKcSSANGYESIEUNG",
     "cYESIEUNG-KHIEUKH"]⟩,
   ⟨0x180B, ["FVS1aFVS2aFVS3aMVSaFVS4"]⟩, ⟨0x200B, ["ZWSPaZWNJaZWJaLRMaRLM"]⟩,
   ⟨0x202A, ["LREaRLEaPDFaLROaRLOaNNBSP"]⟩, ⟨0x205F, ["MMSPaWJ"]⟩, ⟨0x2066, ["LRIaRLIaFSIaPDI"]⟩,
   ⟨0x2118, ["WEIERSTRASS ELLIPTIC FUNCTION"]⟩, ⟨0x2448, ["MICR ON US SYMBOLbDASH SYMBOL"]⟩,
   ⟨0x2B7A, ["LEFTWARDS TRIANGLE-HEADED ARROW WITH DOUBLE VERTICAL STROKE"]⟩,
   ⟨0x2B7C, ["RIGHTWARDS TRIANGLE-HEADED ARROW WITH DOUBLE VERTICAL STROKE"]⟩,
   ⟨0xA015, ["YI SYLLABLE ITERATION MARK"]⟩, ⟨0xAA6E, ["MYANMAR LETTER KHAMTI LLA"]⟩,
   ⟨0xFE00, ["VS1aVS2aVS3aVS4aVS5aVS6aVS7aVS8aVS9aVS10aVS11aVS12aVS13aVS14aVS15aVS16"]⟩,
   ⟨0xFE18, ["PRESENTATION FORM FOR VERTICAL RIGHT WHITE LENTICULAR BRACKET"]⟩,
   ⟨0xFEFF, ["BYTE ORDER MARK"]⟩, ⟨0x122D4, ["CUNEIFORM SIGN NU11 TENUdOVER NU11 BUR OVER BUR"]⟩,
   ⟨0x16E56, ["MEDEFAIDRIN CAPITAL LETTER HdNG"]⟩, ⟨0x16E76, ["MEDEFAIDRIN SMALL LETTER HdNG"]⟩,
   ⟨0x1B001, ["HENTAIGANA LETTER E-1"]⟩,
   ⟨0x1D0C5, ["BYZANTINE MUSICAL SYMBOL FTHORA SKLIRON CHROMA VASIS"]⟩,
   ⟨0xE0100, ["VS17aVS18aVS19aVS20aVS21aVS22aVS23aVS24aVS25aVS26aVS27aVS28aVS29aVS30aVS31",
     "aVS32aVS33aVS34aVS35aVS36aVS37aVS38aVS39aVS40aVS41aVS42aVS43aVS44aVS45aVS46aVS47aVS48",
     "aVS49aVS50aVS51aVS52aVS53aVS54aVS55aVS56aVS57aVS58aVS59aVS60aVS61aVS62aVS63aVS64aVS65",
     "aVS66aVS67aVS68aVS69aVS70aVS71aVS72aVS73aVS74aVS75aVS76aVS77aVS78aVS79aVS80aVS81aVS82",
     "aVS83aVS84aVS85aVS86aVS87aVS88aVS89aVS90aVS91aVS92aVS93aVS94aVS95aVS96aVS97aVS98aVS99",
     "aVS100aVS101aVS102aVS103aVS104aVS105aVS106aVS107aVS108aVS109aVS110aVS111aVS112aVS113",
     "aVS114aVS115aVS116aVS117aVS118aVS119aVS120aVS121aVS122aVS123aVS124aVS125aVS126aVS127",
     "aVS128aVS129aVS130aVS131aVS132aVS133aVS134aVS135aVS136aVS137aVS138aVS139aVS140aVS141",
     "aVS142aVS143aVS144aVS145aVS146aVS147aVS148aVS149aVS150aVS151aVS152aVS153aVS154aVS155",
     "aVS156aVS157aVS158aVS159aVS160aVS161aVS162aVS163aVS164aVS165aVS166aVS167aVS168aVS169",
     "aVS170aVS171aVS172aVS173aVS174aVS175aVS176aVS177aVS178aVS179aVS180aVS181aVS182aVS183",
     "aVS184aVS185aVS186aVS187aVS188aVS189aVS190aVS191aVS192aVS193aVS194aVS195aVS196aVS197",
     "aVS198aVS199aVS200aVS201aVS202aVS203aVS204aVS205aVS206aVS207aVS208aVS209aVS210aVS211",
     "aVS212aVS213aVS214aVS215aVS216aVS217aVS218aVS219aVS220aVS221aVS222aVS223aVS224aVS225",
     "aVS226aVS227aVS228aVS229aVS230aVS231aVS232aVS233aVS234aVS235aVS236aVS237aVS238aVS239",
     "aVS240aVS241aVS242aVS243aVS244aVS245aVS246aVS247aVS248aVS249aVS250aVS251aVS252aVS253",
     "aVS254aVS255aVS256"]⟩,
   ⟨0x0, ["NULaSOHaSTXaETXaEOTaENQaACKaBELaBSaHORIZONTAL TABULATIONaNEW LINE",
     "aVERTICAL TABULATIONaFFaCRaLOCKING-SHIFT ONEbZEROaDLEaDC1aDC2aDC3aDC4aNAKaSYNaETBaCAN",
     "aEOMaSUBaESCaFILE SEPARATORaGROUP SEPARATORaRECORD SEPARATORaUNIT SEPARATOR"]⟩,
   ⟨0x7F, ["DELaPADaHOPaBPHaNBHaINDaNELaSSAaESAaHORIZONTAL TABULATION SETcWITH JUSTIFICATION",
     "aVERTICAL TABULATION SETaPARTIAL LINE DOWNcUPaREVERSE INDEXaSINGLE-SHIFT-2",
     "aSINGLE-SHIFT-3aDCSaPRIVATE USE-1bUSE-2aSTSaCCHaMWaSTART OF PROTECTED AREA",
     "aEND OF PROTECTED AREAaSOSaSGCaSCIaCSIaSTaOSCaPMaAPC"]⟩,
   ⟨0xFEFF, ["BOM"]⟩, ⟨0x9, ["HTaEND OF LINEaVT"]⟩, ⟨0xE, ["SOaSI"]⟩, ⟨0x1C, ["FSaGSaRSaUS"]⟩,
   ⟨0x88, ["HTSaHTJaVTSaPLDaPLUaRIaSS2aSS3"]⟩, ⟨0x91, ["PU1aPU2"]⟩, ⟨0x96, ["SPAaEPA"]⟩,
   ⟨0xFEFF, ["ZWNBSP"]⟩, ⟨0x9, ["TABaEOL"]⟩, ⟨0xA, ["LF"]⟩, ⟨0xA, ["NL"]⟩]

/-- The names that end with the number of the character. -/
def numbered : List (String × List (Nat × Nat)) :=
  [("CJK COMPATIBILITY IDEOGRAPH-", [(0xF900, 0xFA6D), (0xFA70, 0xFAD9), (0x2F800, 0x2FA1D)]),
   ("NUSHU CHARACTER-", [(0x1B170, 0x1B2FB)]),
   ("KHITAN SMALL SCRIPT CHARACTER-", [(0x18B00, 0x18CD5)])]

/-- The numbers of the unified ideographs. -/
def ideographs : List (Nat × Nat) :=
  [(0x3400, 0x4DBF), (0x4E00, 0x9FFF), (0x20000, 0x2A6DF), (0x2A700, 0x2B738), (0x2B740, 0x2B81D),
   (0x2B820, 0x2CEA1), (0x2CEB0, 0x2EBE0), (0x30000, 0x3134A)]

/-- A number in one of some ranges. -/
def isWithin (ranges : List (Nat × Nat)) (n : Nat) : Bool :=
  ranges.any fun r => r.1 ≤ n && n ≤ r.2

/-- The value of a digit in base sixteen, a capital letter beyond nine. -/
def digit? (c : Char) : Option Nat :=
  if '0' ≤ c ∧ c ≤ '9' then some (c.toNat - '0'.toNat)
  else if 'A' ≤ c ∧ c ≤ 'F' then some (c.toNat - 'A'.toNat + 10)
  else none

/-- The number that four or five digits in base sixteen denote. -/
def number? (digits : List Char) : Option Nat :=
  if digits.length = 4 ∨ digits.length = 5 then
    (digits.mapM digit?).map (Text.ofDigitValues 16)
  else none

/-- The rest of a name after its start. -/
def after? (start : String) (name : List Char) : Option (List Char) :=
  if start.toList.isPrefixOf name then some (name.drop start.length) else none

/-- The number of the character of a name that ends with it. -/
def findNumbered (name : List Char) : Option Nat :=
  numbered.findSome? fun (start, ranges) => do
    let digits ← after? start name
    let n ← number? digits
    if isWithin ranges n && (digits.length = 4 || 0x10000 ≤ n) then some n else none

/-- The letters that start a Korean syllable. -/
def leading : List String :=
  ["G", "GG", "N", "D", "DD", "R", "M", "B", "BB", "S", "SS", "", "J", "JJ", "C", "K", "T", "P",
   "H"]

/-- The vowels of a Korean syllable. -/
def vowels : List String :=
  ["A", "AE", "YA", "YAE", "EO", "E", "YEO", "YE", "O", "WA", "WAE", "OE", "YO", "U", "WEO", "WE",
   "WI", "YU", "EU", "YI", "I"]

/-- The letters that end a Korean syllable. -/
def trailing : List String :=
  ["", "G", "GG", "GS", "N", "NJ", "NH", "D", "L", "LG", "LM", "LB", "LS", "LT", "LP", "LH", "M",
   "B", "BS", "S", "SS", "NG", "J", "C", "K", "T", "P", "H"]

/-- The places of the entries of a list that a name starts with, and the rest of the name after
each of them. -/
def startingWith (letters : List String) (name : List Char) : List (Nat × List Char) :=
  letters.zipIdx.filterMap fun (s, i) => (after? s name).map fun rest => (i, rest)

/-- The number of a Korean syllable. -/
def syllable? (name : List Char) : Option Nat :=
  (startingWith leading name).findSome? fun (l, rest) =>
    (startingWith vowels rest).findSome? fun (v, rest) =>
      (startingWith trailing rest).findSome? fun (t, rest) =>
        if rest.isEmpty then some (0xAC00 + (l * 21 + v) * 28 + t) else none

/-- The number of the character of a listed name. -/
def findListed (name : List Char) : Option Nat :=
  [letters, symbols, east, ancient, pictures, aliases].findSome? (·.findSome? (Run.find? name))
    <|> findNumbered name

/-- The number of the character that a name denotes. The names of syllables and of unified
ideographs are written in capital letters. -/
def number (name : List Char) : Option Nat :=
  match after? "HANGUL SYLLABLE " name with
  | some rest => syllable? rest
  | none =>
    match after? "CJK UNIFIED IDEOGRAPH-" name with
    | some digits => (number? digits).filter (isWithin ideographs)
    | none => findListed (name.map Char.toUpper)

end CharacterName

/-- The character that a name denotes. Names are written in ASCII. -/
def CodePoint.ofName? (name : Text) : Option CodePoint :=
  if name.all fun c => decide (c.val < 128) then
    (CharacterName.number (name.map CodePoint.toChar)).map CodePoint.ofNat
  else none

end ScriptTree
