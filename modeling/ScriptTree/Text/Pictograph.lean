import ScriptTree.Basic
import ScriptTree.Text.LowerCase
import ScriptTree.Text.Pictograph.Plain
import ScriptTree.Text.Pictograph.Toned

namespace ScriptTree

namespace Pictograph

/-- The names of countries and territories, each with its two letters. -/
def flags : List String :=
  ["afghanistan AF albania AL algeria DZ american_samoa AS andorra AD angola AO anguilla AI",
   "antarctica AQ antigua_&_barbuda AG argentina AR armenia AM aruba AW ascension_island AC",
   "australia AU austria AT azerbaijan AZ bahamas BS bahrain BH bangladesh BD barbados BB",
   "belarus BY belgium BE belize BZ benin BJ bermuda BM bhutan BT bolivia BO",
   "bosnia_&_herzegovina BA botswana BW bouvet_island BV brazil BR",
   "british_indian_ocean_territory IO british_virgin_islands VG brunei BN bulgaria BG",
   "burkina_faso BF burundi BI cambodia KH cameroon CM canada CA canary_islands IC cape_verde CV",
   "caribbean_netherlands BQ cayman_islands KY central_african_republic CF ceuta_&_melilla EA",
   "chad TD chile CL china CN christmas_island CX clipperton_island CP colombia CO comoros KM",
   "cook_islands CK costa_rica CR croatia HR cuba CU curaçao CW cyprus CY côte_d’ivoire CI",
   "denmark DK diego_garcia DG djibouti DJ dominica DM dominican_republic DO ecuador EC egypt EG",
   "el_salvador SV equatorial_guinea GQ eritrea ER estonia EE ethiopia ET european_union EU",
   "falkland_islands FK faroe_islands FO fiji FJ finland FI france FR french_guiana GF",
   "french_polynesia PF french_southern_territories TF gabon GA gambia GM georgia GE germany DE",
   "ghana GH gibraltar GI greece GR greenland GL grenada GD guadeloupe GP guam GU guatemala GT",
   "guernsey GG guinea GN guyana GY haiti HT heard_&_mcdonald_islands HM honduras HN hungary HU",
   "iceland IS india IN indonesia ID iran IR iraq IQ ireland IE isle_of_man IM israel IL",
   "italy IT jamaica JM jersey JE jordan JO kazakhstan KZ kenya KE kiribati KI kosovo XK",
   "kuwait KW kyrgyzstan KG laos LA latvia LV lebanon LB lesotho LS liberia LR libya LY",
   "liechtenstein LI lithuania LT luxembourg LU macedonia MK madagascar MG malawi MW malaysia MY",
   "maldives MV mali ML malta MT marshall_islands MH martinique MQ mauritania MR mauritius MU",
   "mayotte YT mexico MX micronesia FM moldova MD monaco MC mongolia MN montenegro ME",
   "montserrat MS morocco MA mozambique MZ namibia NA nauru NR nepal NP netherlands NL",
   "new_caledonia NC new_zealand NZ nicaragua NI niger NE nigeria NG niue NU norfolk_island NF",
   "north_korea KP northern_mariana_islands MP norway NO oman OM pakistan PK palau PW",
   "palestinian_territories PS panama PA papua_new_guinea PG paraguay PY peru PE philippines PH",
   "pitcairn_islands PN poland PL portugal PT puerto_rico PR qatar QA romania RO russia RU",
   "rwanda RW réunion RE samoa WS san_marino SM saudi_arabia SA senegal SN serbia RS",
   "seychelles SC sierra_leone SL singapore SG sint_maarten SX slovakia SK slovenia SI",
   "solomon_islands SB somalia SO south_africa ZA south_georgia_&_south_sandwich_islands GS",
   "south_korea KR south_sudan SS spain ES sri_lanka LK st._barthélemy BL st._helena SH",
   "st._kitts_&_nevis KN st._lucia LC st._martin MF st._pierre_&_miquelon PM",
   "st._vincent_&_grenadines VC sudan SD suriname SR svalbard_&_jan_mayen SJ swaziland SZ",
   "sweden SE switzerland CH syria SY são_tomé_&_príncipe ST taiwan TW tajikistan TJ tanzania TZ",
   "thailand TH togo TG tokelau TK tonga TO trinidad_&_tobago TT tristan_da_cunha TA tunisia TN",
   "turkmenistan TM turks_&_caicos_islands TC tuvalu TV u.s._outlying_islands UM",
   "u.s._virgin_islands VI uganda UG ukraine UA united_arab_emirates AE united_kingdom GB",
   "united_states US uruguay UY uzbekistan UZ vanuatu VU vatican_city VA venezuela VE vietnam VN",
   "wallis_&_futuna WF western_sahara EH yemen YE zambia ZM zimbabwe ZW åland_islands AX"]

/-- The picture whose code points have the given numbers in base sixteen, with hyphens between. -/
def ofNumbers (numbers : Text) : Text :=
  (Text.split (CodePoint.ofChar '-') numbers).map fun digits =>
    CodePoint.ofNat (Text.ofDigitValues 16 (digits.filterMap CodePoint.hexValue?))

/-- The flag of a country or territory with the given letters. -/
def ofLetters (letters : Text) : Text :=
  letters.map fun c => CodePoint.ofNat (0x1F1E6 + (c.val - 'A'.toNat))

/-- What stands after a name among words in which names and values take turns. -/
def valueIn? (name : Text) : List Text → Option Text
  | known :: value :: rest => if known = name then some value else valueIn? name rest
  | _ => none

/-- What stands after a name in the lines of a table. -/
def value? (name : Text) (table : List String) : Option Text :=
  table.findSome? fun line =>
    valueIn? name (Text.split (CodePoint.ofChar ' ') (Text.ofString line))

/-- The rest of a text after its start. -/
def after? (start t : Text) : Option Text :=
  if start.isPrefixOf t then some (t.drop start.length) else none

/-- The rest of a text before its end. -/
def before? (finish t : Text) : Option Text :=
  if finish.isSuffixOf t then some (t.take (t.length - finish.length)) else none

/-- The tones of skin by name. -/
def tones : List (String × Nat) :=
  [("_light_skin_tone", 0x1F3FB), ("_medium-light_skin_tone", 0x1F3FC),
   ("_medium_skin_tone", 0x1F3FD), ("_medium-dark_skin_tone", 0x1F3FE),
   ("_dark_skin_tone", 0x1F3FF)]

/-- The code point that asks for a picture in colour. -/
def inColour : CodePoint := CodePoint.ofNat 0xFE0F

/-- The code point that asks for a picture as text. -/
def asText : CodePoint := CodePoint.ofNat 0xFE0E

/-- A picture with a tone, which stands after the first code point and makes a request for colour
there superfluous. -/
def withTone (tone : CodePoint) : Text → Text
  | [] => []
  | c :: rest => c :: tone :: (if rest.head? = some inColour then rest.tail else rest)

/-- The picture of a name that ends with a tone. -/
def withToneNamed? (name : Text) : Option Text :=
  tones.findSome? fun (ending, tone) => do
    let bare ← before? ending name
    let numbers ← value? bare toned
    return withTone (CodePoint.ofNat tone) (ofNumbers numbers)

/-- The flag of a name, which may start with what it is. -/
def flag? (name : Text) : Option Text :=
  (value? ((after? "flag_for_" name).getD name) flags).map ofLetters

/-- The picture of a name in small letters. -/
def named? (name : Text) : Option Text :=
  ((value? name plainToL <|> value? name plainFromM <|> value? name toned).map ofNumbers)
    <|> flag? name <|> withToneNamed? name

/-- The picture of what stands between two colons. -/
def shown? (code : Text) : Option Text :=
  match before? "-emoji" code, before? "-text" code with
  | some name, _ => (named? name.lowerCase).map (· ++ [inColour])
  | none, some name => (named? name.lowerCase).map (· ++ [asText])
  | none, none => named? code.lowerCase

/-- A text with pictures for their names, after a colon and what was read since then, backwards, if
no blank stood in it. -/
def drawAfter : Option Text → Text → Text
  | none, [] => []
  | some code, [] => CodePoint.ofChar ':' :: code.reverse
  | none, c :: rest =>
    if c = ':' then drawAfter (some []) rest else c :: drawAfter none rest
  | some code, c :: rest =>
    let name := code.reverse
    if c = ':' then ((shown? name).getD (":" ++ name ++ ":")) ++ drawAfter none rest
    else if c.isBlank then CodePoint.ofChar ':' :: name ++ c :: drawAfter none rest
    else drawAfter (some (c :: code)) rest

/-- A text with pictures for their names between colons. -/
def draw (t : Text) : Text := drawAfter none t

end Pictograph

end ScriptTree
