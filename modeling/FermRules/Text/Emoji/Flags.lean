import FermRules.Text.Emoji.PictureTable

/-! Flags. A region is spelled with two letters of an alphabet of its own, and the letters of that
alphabet have names too. A part of a region is spelled behind a black flag. -/

namespace FermRules.Text.Emoji

/-- By the letters of the region. -/
def regions : PictureTable :=
  [("A", ["regional_indicator_symbol_letter_a", "regional_indicator_a"]),
   ("AC", ["ascension_island", "flag_for_ascension_island"]),
   ("AD", ["andorra", "flag_for_andorra"]),
   ("AE", ["united_arab_emirates", "flag_for_united_arab_emirates"]),
   ("AF", ["afghanistan", "flag_for_afghanistan"]),
   ("AG", ["antigua_&_barbuda", "flag_for_antigua_&_barbuda"]),
   ("AI", ["anguilla", "flag_for_anguilla"]), ("AL", ["albania", "flag_for_albania"]),
   ("AM", ["armenia", "flag_for_armenia"]), ("AO", ["angola", "flag_for_angola"]),
   ("AQ", ["antarctica", "flag_for_antarctica"]), ("AR", ["argentina", "flag_for_argentina"]),
   ("AS", ["american_samoa", "flag_for_american_samoa"]), ("AT", ["austria", "flag_for_austria"]),
   ("AU", ["australia", "flag_for_australia"]), ("AW", ["aruba", "flag_for_aruba"]),
   ("AX", ["åland_islands", "flag_for_åland_islands"]),
   ("AZ", ["azerbaijan", "flag_for_azerbaijan"]),
   ("B", ["regional_indicator_symbol_letter_b", "regional_indicator_b"]),
   ("BA", ["bosnia_&_herzegovina", "flag_for_bosnia_&_herzegovina"]),
   ("BB", ["barbados", "flag_for_barbados"]), ("BD", ["bangladesh", "flag_for_bangladesh"]),
   ("BE", ["belgium", "flag_for_belgium"]), ("BF", ["burkina_faso", "flag_for_burkina_faso"]),
   ("BG", ["bulgaria", "flag_for_bulgaria"]), ("BH", ["bahrain", "flag_for_bahrain"]),
   ("BI", ["burundi", "flag_for_burundi"]), ("BJ", ["benin", "flag_for_benin"]),
   ("BL", ["st._barthélemy", "flag_for_st._barthélemy"]), ("BM", ["bermuda", "flag_for_bermuda"]),
   ("BN", ["brunei", "flag_for_brunei"]), ("BO", ["bolivia", "flag_for_bolivia"]),
   ("BQ", ["caribbean_netherlands", "flag_for_caribbean_netherlands"]),
   ("BR", ["brazil", "flag_for_brazil"]), ("BS", ["bahamas", "flag_for_bahamas"]),
   ("BT", ["bhutan", "flag_for_bhutan"]), ("BV", ["bouvet_island", "flag_for_bouvet_island"]),
   ("BW", ["botswana", "flag_for_botswana"]), ("BY", ["belarus", "flag_for_belarus"]),
   ("BZ", ["belize", "flag_for_belize"]),
   ("C", ["regional_indicator_symbol_letter_c", "regional_indicator_c"]),
   ("CA", ["canada", "flag_for_canada"]),
   ("CC", ["cocos_(keeling)_islands", "flag_for_cocos__islands"]),
   ("CD", ["congo_-_kinshasa", "flag_for_congo____kinshasa"]),
   ("CF", ["central_african_republic", "flag_for_central_african_republic"]),
   ("CG", ["congo_-_brazzaville", "flag_for_congo____brazzaville"]),
   ("CH", ["switzerland", "flag_for_switzerland"]),
   ("CI", ["côte_d’ivoire", "flag_for_côte_d’ivoire"]),
   ("CK", ["cook_islands", "flag_for_cook_islands"]), ("CL", ["chile", "flag_for_chile"]),
   ("CM", ["cameroon", "flag_for_cameroon"]), ("CN", ["china", "flag_for_china"]),
   ("CO", ["colombia", "flag_for_colombia"]),
   ("CP", ["clipperton_island", "flag_for_clipperton_island"]),
   ("CR", ["costa_rica", "flag_for_costa_rica"]), ("CU", ["cuba", "flag_for_cuba"]),
   ("CV", ["cape_verde", "flag_for_cape_verde"]), ("CW", ["curaçao", "flag_for_curaçao"]),
   ("CX", ["christmas_island", "flag_for_christmas_island"]), ("CY", ["cyprus", "flag_for_cyprus"]),
   ("CZ", ["czechia", "flag_for_czech_republic"]),
   ("D", ["regional_indicator_symbol_letter_d", "regional_indicator_d"]),
   ("DE", ["germany", "flag_for_germany"]), ("DG", ["diego_garcia", "flag_for_diego_garcia"]),
   ("DJ", ["djibouti", "flag_for_djibouti"]), ("DK", ["denmark", "flag_for_denmark"]),
   ("DM", ["dominica", "flag_for_dominica"]),
   ("DO", ["dominican_republic", "flag_for_dominican_republic"]),
   ("DZ", ["algeria", "flag_for_algeria"]),
   ("E", ["regional_indicator_symbol_letter_e", "regional_indicator_e"]),
   ("EA", ["ceuta_&_melilla", "flag_for_ceuta_&_melilla"]), ("EC", ["ecuador", "flag_for_ecuador"]),
   ("EE", ["estonia", "flag_for_estonia"]), ("EG", ["egypt", "flag_for_egypt"]),
   ("EH", ["western_sahara", "flag_for_western_sahara"]), ("ER", ["eritrea", "flag_for_eritrea"]),
   ("ES", ["spain", "flag_for_spain"]), ("ET", ["ethiopia", "flag_for_ethiopia"]),
   ("EU", ["european_union", "flag_for_european_union"]),
   ("F", ["regional_indicator_symbol_letter_f", "regional_indicator_f"]),
   ("FI", ["finland", "flag_for_finland"]), ("FJ", ["fiji", "flag_for_fiji"]),
   ("FK", ["falkland_islands", "flag_for_falkland_islands"]),
   ("FM", ["micronesia", "flag_for_micronesia"]),
   ("FO", ["faroe_islands", "flag_for_faroe_islands"]), ("FR", ["france", "flag_for_france"]),
   ("G", ["regional_indicator_symbol_letter_g", "regional_indicator_g"]),
   ("GA", ["gabon", "flag_for_gabon"]), ("GB", ["united_kingdom", "flag_for_united_kingdom"]),
   ("GD", ["grenada", "flag_for_grenada"]), ("GE", ["georgia", "flag_for_georgia"]),
   ("GF", ["french_guiana", "flag_for_french_guiana"]), ("GG", ["guernsey", "flag_for_guernsey"]),
   ("GH", ["ghana", "flag_for_ghana"]), ("GI", ["gibraltar", "flag_for_gibraltar"]),
   ("GL", ["greenland", "flag_for_greenland"]), ("GM", ["gambia", "flag_for_gambia"]),
   ("GN", ["guinea", "flag_for_guinea"]), ("GP", ["guadeloupe", "flag_for_guadeloupe"]),
   ("GQ", ["equatorial_guinea", "flag_for_equatorial_guinea"]),
   ("GR", ["greece", "flag_for_greece"]),
   ("GS", ["south_georgia_&_south_sandwich_islands",
     "flag_for_south_georgia_&_south_sandwich_islands"]),
   ("GT", ["guatemala", "flag_for_guatemala"]), ("GU", ["guam", "flag_for_guam"]),
   ("GW", ["guinea-bissau", "flag_for_guinea__bissau"]), ("GY", ["guyana", "flag_for_guyana"]),
   ("H", ["regional_indicator_symbol_letter_h", "regional_indicator_h"]),
   ("HK", ["hong_kong_sar_china", "flag_for_hong_kong"]),
   ("HM", ["heard_&_mcdonald_islands", "flag_for_heard_&_mcdonald_islands"]),
   ("HN", ["honduras", "flag_for_honduras"]), ("HR", ["croatia", "flag_for_croatia"]),
   ("HT", ["haiti", "flag_for_haiti"]), ("HU", ["hungary", "flag_for_hungary"]),
   ("I", ["regional_indicator_symbol_letter_i", "regional_indicator_i"]),
   ("IC", ["canary_islands", "flag_for_canary_islands"]),
   ("ID", ["indonesia", "flag_for_indonesia"]), ("IE", ["ireland", "flag_for_ireland"]),
   ("IL", ["israel", "flag_for_israel"]), ("IM", ["isle_of_man", "flag_for_isle_of_man"]),
   ("IN", ["india", "flag_for_india"]),
   ("IO", ["british_indian_ocean_territory", "flag_for_british_indian_ocean_territory"]),
   ("IQ", ["iraq", "flag_for_iraq"]), ("IR", ["iran", "flag_for_iran"]),
   ("IS", ["iceland", "flag_for_iceland"]), ("IT", ["italy", "flag_for_italy"]),
   ("J", ["regional_indicator_symbol_letter_j", "regional_indicator_j"]),
   ("JE", ["jersey", "flag_for_jersey"]), ("JM", ["jamaica", "flag_for_jamaica"]),
   ("JO", ["jordan", "flag_for_jordan"]), ("JP", ["flag_for_japan"]),
   ("K", ["regional_indicator_symbol_letter_k", "regional_indicator_k"]),
   ("KE", ["kenya", "flag_for_kenya"]), ("KG", ["kyrgyzstan", "flag_for_kyrgyzstan"]),
   ("KH", ["cambodia", "flag_for_cambodia"]), ("KI", ["kiribati", "flag_for_kiribati"]),
   ("KM", ["comoros", "flag_for_comoros"]),
   ("KN", ["st._kitts_&_nevis", "flag_for_st._kitts_&_nevis"]),
   ("KP", ["north_korea", "flag_for_north_korea"]), ("KR", ["south_korea", "flag_for_south_korea"]),
   ("KW", ["kuwait", "flag_for_kuwait"]), ("KY", ["cayman_islands", "flag_for_cayman_islands"]),
   ("KZ", ["kazakhstan", "flag_for_kazakhstan"]),
   ("L", ["regional_indicator_symbol_letter_l", "regional_indicator_l"]),
   ("LA", ["laos", "flag_for_laos"]), ("LB", ["lebanon", "flag_for_lebanon"]),
   ("LC", ["st._lucia", "flag_for_st._lucia"]), ("LI", ["liechtenstein", "flag_for_liechtenstein"]),
   ("LK", ["sri_lanka", "flag_for_sri_lanka"]), ("LR", ["liberia", "flag_for_liberia"]),
   ("LS", ["lesotho", "flag_for_lesotho"]), ("LT", ["lithuania", "flag_for_lithuania"]),
   ("LU", ["luxembourg", "flag_for_luxembourg"]), ("LV", ["latvia", "flag_for_latvia"]),
   ("LY", ["libya", "flag_for_libya"]),
   ("M", ["regional_indicator_symbol_letter_m", "regional_indicator_m"]),
   ("MA", ["morocco", "flag_for_morocco"]), ("MC", ["monaco", "flag_for_monaco"]),
   ("MD", ["moldova", "flag_for_moldova"]), ("ME", ["montenegro", "flag_for_montenegro"]),
   ("MF", ["st._martin", "flag_for_st._martin"]), ("MG", ["madagascar", "flag_for_madagascar"]),
   ("MH", ["marshall_islands", "flag_for_marshall_islands"]),
   ("MK", ["macedonia", "flag_for_macedonia"]), ("ML", ["mali", "flag_for_mali"]),
   ("MM", ["myanmar_(burma)", "flag_for_myanmar"]), ("MN", ["mongolia", "flag_for_mongolia"]),
   ("MO", ["macau_sar_china", "flag_for_macau"]),
   ("MP", ["northern_mariana_islands", "flag_for_northern_mariana_islands"]),
   ("MQ", ["martinique", "flag_for_martinique"]), ("MR", ["mauritania", "flag_for_mauritania"]),
   ("MS", ["montserrat", "flag_for_montserrat"]), ("MT", ["malta", "flag_for_malta"]),
   ("MU", ["mauritius", "flag_for_mauritius"]), ("MV", ["maldives", "flag_for_maldives"]),
   ("MW", ["malawi", "flag_for_malawi"]), ("MX", ["mexico", "flag_for_mexico"]),
   ("MY", ["malaysia", "flag_for_malaysia"]), ("MZ", ["mozambique", "flag_for_mozambique"]),
   ("N", ["regional_indicator_symbol_letter_n", "regional_indicator_n"]),
   ("NA", ["namibia", "flag_for_namibia"]), ("NC", ["new_caledonia", "flag_for_new_caledonia"]),
   ("NE", ["niger", "flag_for_niger"]), ("NF", ["norfolk_island", "flag_for_norfolk_island"]),
   ("NG", ["nigeria", "flag_for_nigeria"]), ("NI", ["nicaragua", "flag_for_nicaragua"]),
   ("NL", ["netherlands", "flag_for_netherlands"]), ("NO", ["norway", "flag_for_norway"]),
   ("NP", ["nepal", "flag_for_nepal"]), ("NR", ["nauru", "flag_for_nauru"]),
   ("NU", ["niue", "flag_for_niue"]), ("NZ", ["new_zealand", "flag_for_new_zealand"]),
   ("O", ["regional_indicator_symbol_letter_o", "regional_indicator_o"]),
   ("OM", ["oman", "flag_for_oman"]),
   ("P", ["regional_indicator_symbol_letter_p", "regional_indicator_p"]),
   ("PA", ["panama", "flag_for_panama"]), ("PE", ["peru", "flag_for_peru"]),
   ("PF", ["french_polynesia", "flag_for_french_polynesia"]),
   ("PG", ["papua_new_guinea", "flag_for_papua_new_guinea"]),
   ("PH", ["philippines", "flag_for_philippines"]), ("PK", ["pakistan", "flag_for_pakistan"]),
   ("PL", ["poland", "flag_for_poland"]),
   ("PM", ["st._pierre_&_miquelon", "flag_for_st._pierre_&_miquelon"]),
   ("PN", ["pitcairn_islands", "flag_for_pitcairn_islands"]),
   ("PR", ["puerto_rico", "flag_for_puerto_rico"]),
   ("PS", ["palestinian_territories", "flag_for_palestinian_territories"]),
   ("PT", ["portugal", "flag_for_portugal"]), ("PW", ["palau", "flag_for_palau"]),
   ("PY", ["paraguay", "flag_for_paraguay"]),
   ("Q", ["regional_indicator_symbol_letter_q", "regional_indicator_q"]),
   ("QA", ["qatar", "flag_for_qatar"]),
   ("R", ["regional_indicator_symbol_letter_r", "regional_indicator_r"]),
   ("RE", ["réunion", "flag_for_réunion"]), ("RO", ["romania", "flag_for_romania"]),
   ("RS", ["serbia", "flag_for_serbia"]), ("RU", ["russia", "flag_for_russia"]),
   ("RW", ["rwanda", "flag_for_rwanda"]),
   ("S", ["regional_indicator_symbol_letter_s", "regional_indicator_s"]),
   ("SA", ["saudi_arabia", "flag_for_saudi_arabia"]),
   ("SB", ["solomon_islands", "flag_for_solomon_islands"]),
   ("SC", ["seychelles", "flag_for_seychelles"]), ("SD", ["sudan", "flag_for_sudan"]),
   ("SE", ["sweden", "flag_for_sweden"]), ("SG", ["singapore", "flag_for_singapore"]),
   ("SH", ["st._helena", "flag_for_st._helena"]), ("SI", ["slovenia", "flag_for_slovenia"]),
   ("SJ", ["svalbard_&_jan_mayen", "flag_for_svalbard_&_jan_mayen"]),
   ("SK", ["slovakia", "flag_for_slovakia"]), ("SL", ["sierra_leone", "flag_for_sierra_leone"]),
   ("SM", ["san_marino", "flag_for_san_marino"]), ("SN", ["senegal", "flag_for_senegal"]),
   ("SO", ["somalia", "flag_for_somalia"]), ("SR", ["suriname", "flag_for_suriname"]),
   ("SS", ["south_sudan", "flag_for_south_sudan"]),
   ("ST", ["são_tomé_&_príncipe", "flag_for_são_tomé_&_príncipe"]),
   ("SV", ["el_salvador", "flag_for_el_salvador"]),
   ("SX", ["sint_maarten", "flag_for_sint_maarten"]), ("SY", ["syria", "flag_for_syria"]),
   ("SZ", ["swaziland", "flag_for_swaziland"]),
   ("T", ["regional_indicator_symbol_letter_t", "regional_indicator_t"]),
   ("TA", ["tristan_da_cunha", "flag_for_tristan_da_cunha"]),
   ("TC", ["turks_&_caicos_islands", "flag_for_turks_&_caicos_islands"]),
   ("TD", ["chad", "flag_for_chad"]),
   ("TF", ["french_southern_territories", "flag_for_french_southern_territories"]),
   ("TG", ["togo", "flag_for_togo"]), ("TH", ["thailand", "flag_for_thailand"]),
   ("TJ", ["tajikistan", "flag_for_tajikistan"]), ("TK", ["tokelau", "flag_for_tokelau"]),
   ("TL", ["timor-leste", "flag_for_timor__leste"]),
   ("TM", ["turkmenistan", "flag_for_turkmenistan"]), ("TN", ["tunisia", "flag_for_tunisia"]),
   ("TO", ["tonga", "flag_for_tonga"]), ("TR", ["flag_for_turkey"]),
   ("TT", ["trinidad_&_tobago", "flag_for_trinidad_&_tobago"]),
   ("TV", ["tuvalu", "flag_for_tuvalu"]), ("TW", ["taiwan", "flag_for_taiwan"]),
   ("TZ", ["tanzania", "flag_for_tanzania"]),
   ("U", ["regional_indicator_symbol_letter_u", "regional_indicator_u"]),
   ("UA", ["ukraine", "flag_for_ukraine"]), ("UG", ["uganda", "flag_for_uganda"]),
   ("UM", ["u.s._outlying_islands", "flag_for_u.s._outlying_islands"]), ("UN", ["united_nations"]),
   ("US", ["united_states", "flag_for_united_states"]), ("UY", ["uruguay", "flag_for_uruguay"]),
   ("UZ", ["uzbekistan", "flag_for_uzbekistan"]),
   ("V", ["regional_indicator_symbol_letter_v", "regional_indicator_v"]),
   ("VA", ["vatican_city", "flag_for_vatican_city"]),
   ("VC", ["st._vincent_&_grenadines", "flag_for_st._vincent_&_grenadines"]),
   ("VE", ["venezuela", "flag_for_venezuela"]),
   ("VG", ["british_virgin_islands", "flag_for_british_virgin_islands"]),
   ("VI", ["u.s._virgin_islands", "flag_for_u.s._virgin_islands"]),
   ("VN", ["vietnam", "flag_for_vietnam"]), ("VU", ["vanuatu", "flag_for_vanuatu"]),
   ("W", ["regional_indicator_symbol_letter_w", "regional_indicator_w"]),
   ("WF", ["wallis_&_futuna", "flag_for_wallis_&_futuna"]), ("WS", ["samoa", "flag_for_samoa"]),
   ("X", ["regional_indicator_symbol_letter_x", "regional_indicator_x"]),
   ("XK", ["kosovo", "flag_for_kosovo"]),
   ("Y", ["regional_indicator_symbol_letter_y", "regional_indicator_y"]),
   ("YE", ["yemen", "flag_for_yemen"]), ("YT", ["mayotte", "flag_for_mayotte"]),
   ("Z", ["regional_indicator_symbol_letter_z", "regional_indicator_z"]),
   ("ZA", ["south_africa", "flag_for_south_africa"]), ("ZM", ["zambia", "flag_for_zambia"]),
   ("ZW", ["zimbabwe", "flag_for_zimbabwe"])]

/-- By the letters of the region and its part. -/
def regionParts : PictureTable :=
  [("gbeng", ["england"]), ("gbsct", ["scotland"]), ("gbwls", ["wales"])]

/-- The letter of the alphabet of regions. -/
def regionLetter (c : Char) : Char := Char.ofNat (0x1f1e6 + (c.toNat - 'A'.toNat))

/-- The letter that is not shown but belongs to the flag before it. -/
def tagLetter (c : Char) : Char := Char.ofNat (0xe0000 + c.toNat)

/-- Stands behind the letters that belong to a flag. -/
def tagEnd : Char := Char.ofNat 0xe007f

def flags : PictureTable :=
  regions.map (fun (letters, names) => (letters.map regionLetter, names))
    ++ regionParts.map fun (letters, names) => ("🏴" ++ (letters.map tagLetter).push tagEnd, names)

end FermRules.Text.Emoji
