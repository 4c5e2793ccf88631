namespace Phrasebook

/-!
# Languages

The languages that messages can be written in, each with the regions that have a variant of their
own, in canonical order.
-/

/-- A language: its code, its name, and the codes and names of its regions. -/
structure Language where
  code : String
  name : String
  regions : List (String × String)

/-- The known languages. -/
def languages : List Language :=
  [⟨"aa", "Afar", []⟩,
   ⟨"ab", "Abkhazian", []⟩,
   ⟨"af", "Afrikaans", []⟩,
   ⟨"ak", "Akan", []⟩,
   ⟨"sq", "Albanian", []⟩,
   ⟨"am", "Amharic", []⟩,
   ⟨"ar", "Arabic", [("DZ", "Algeria"), ("BH", "Bahrain"), ("EG", "Egypt"), ("IQ", "Iraq"),
     ("JO", "Jordan"), ("KW", "Kuwait"), ("LB", "Lebanon"), ("LY", "Libya"), ("MA", "Morocco"),
     ("OM", "Oman"), ("QA", "Qatar"), ("SA", "Saudi Arabia"), ("SY", "Syria"), ("TN", "Tunisia"),
     ("AE", "United Arab Emirates"), ("YE", "Yemen")]⟩,
   ⟨"an", "Aragonese", []⟩,
   ⟨"hy", "Armenian", []⟩,
   ⟨"as", "Assamese", []⟩,
   ⟨"av", "Avaric", []⟩,
   ⟨"ae", "Avestan", []⟩,
   ⟨"ay", "Aymara", []⟩,
   ⟨"az", "Azerbaijani", []⟩,
   ⟨"ba", "Bashkir", []⟩,
   ⟨"bm", "Bambara", []⟩,
   ⟨"eu", "Basque", []⟩,
   ⟨"be", "Belarusian", []⟩,
   ⟨"bn", "Bengali", []⟩,
   ⟨"bh", "Bihari", []⟩,
   ⟨"bi", "Bislama", []⟩,
   ⟨"bo", "Tibetan", []⟩,
   ⟨"bs", "Bosnian", []⟩,
   ⟨"br", "Breton", []⟩,
   ⟨"bg", "Bulgarian", []⟩,
   ⟨"my", "Burmese", []⟩,
   ⟨"ca", "Catalan", []⟩,
   ⟨"cs", "Czech", []⟩,
   ⟨"ch", "Chamorro", []⟩,
   ⟨"ce", "Chechen", []⟩,
   ⟨"zh", "Chinese", [("HK", "Hong Kong"), ("CN", "China"), ("SG", "Singapore"), ("TW", "Taiwan")]⟩,
   ⟨"cu", "Church Slavic", []⟩,
   ⟨"cv", "Chuvash", []⟩,
   ⟨"kw", "Cornish", []⟩,
   ⟨"co", "Corsican", []⟩,
   ⟨"cr", "Cree", []⟩,
   ⟨"cy", "Welsh", []⟩,
   ⟨"da", "Danish", []⟩,
   ⟨"de", "German", [("AT", "Austria"), ("LI", "Liechtenstein"), ("LU", "Luxembourg"), ("CH",
     "Switzerland")]⟩,
   ⟨"dv", "Divehi", []⟩,
   ⟨"nl", "Dutch", [("BE", "Belgium")]⟩,
   ⟨"dz", "Dzongkha", []⟩,
   ⟨"el", "Greek", []⟩,
   ⟨"en", "English", [("AU", "Australia"), ("BZ", "Belize"), ("CA", "Canada"), ("IE",
     "Ireland"), ("JM", "Jamaica"), ("NZ", "New Zealand"), ("ZA", "South Africa"), ("TT",
     "Trinidad"), ("GB", "United Kingdom"), ("US", "United States")]⟩,
   ⟨"eo", "Esperanto", []⟩,
   ⟨"et", "Estonian", []⟩,
   ⟨"ee", "Ewe", []⟩,
   ⟨"fo", "Faroese", []⟩,
   ⟨"fa", "Persian", []⟩,
   ⟨"fj", "Fijian", []⟩,
   ⟨"fi", "Finnish", []⟩,
   ⟨"fr", "French", [("FR", "France"), ("BE", "Belgium"), ("CA", "Canada"), ("LU",
     "Luxembourg"), ("CH", "Switzerland")]⟩,
   ⟨"fy", "Western Frisian", []⟩,
   ⟨"ff", "Fulah", []⟩,
   ⟨"ka", "Georgian", []⟩,
   ⟨"gd", "Gaelic", []⟩,
   ⟨"ga", "Irish", []⟩,
   ⟨"gl", "Galician", []⟩,
   ⟨"gv", "Manx", []⟩,
   ⟨"gn", "Guarani", []⟩,
   ⟨"gu", "Gujarati", []⟩,
   ⟨"ht", "Haitian", []⟩,
   ⟨"ha", "Hausa", []⟩,
   ⟨"he", "Hebrew", []⟩,
   ⟨"hz", "Herero", []⟩,
   ⟨"hi", "Hindi", []⟩,
   ⟨"ho", "Hiri Motu", []⟩,
   ⟨"hr", "Croatian", []⟩,
   ⟨"hu", "Hungarian", []⟩,
   ⟨"ig", "Igbo", []⟩,
   ⟨"is", "Icelandic", []⟩,
   ⟨"io", "Ido", []⟩,
   ⟨"ii", "Sichuan Yi", []⟩,
   ⟨"iu", "Inuktitut", []⟩,
   ⟨"ie", "Interlingue", []⟩,
   ⟨"id", "Indonesian", []⟩,
   ⟨"ik", "Inupiaq", []⟩,
   ⟨"it", "Italian", [("CH", "Switzerland")]⟩,
   ⟨"jv", "Javanese", []⟩,
   ⟨"ja", "Japanese", []⟩,
   ⟨"kl", "Kalaallisut", []⟩,
   ⟨"kn", "Kannada", []⟩,
   ⟨"ks", "Kashmiri", []⟩,
   ⟨"kr", "Kanuri", []⟩,
   ⟨"kk", "Kazakh", []⟩,
   ⟨"km", "Central Khmer", []⟩,
   ⟨"ki", "Kikuyu", []⟩,
   ⟨"rw", "Kinyarwanda", []⟩,
   ⟨"ky", "Kirghiz", []⟩,
   ⟨"kv", "Komi", []⟩,
   ⟨"kg", "Kongo", []⟩,
   ⟨"ko", "Korean", []⟩,
   ⟨"kj", "Kuanyama", []⟩,
   ⟨"ku", "Kurdish", []⟩,
   ⟨"lo", "Lao", []⟩,
   ⟨"la", "Latin", []⟩,
   ⟨"lv", "Latvian", []⟩,
   ⟨"li", "Limburgan", []⟩,
   ⟨"ln", "Lingala", []⟩,
   ⟨"lt", "Lithuanian", []⟩,
   ⟨"lb", "Luxembourgish", []⟩,
   ⟨"lu", "Luba Katanga", []⟩,
   ⟨"lg", "Ganda", []⟩,
   ⟨"mk", "Macedonian", []⟩,
   ⟨"mh", "Marshallese", []⟩,
   ⟨"ml", "Malayalam", []⟩,
   ⟨"mi", "Maori", []⟩,
   ⟨"mr", "Marathi", []⟩,
   ⟨"ms", "Malay", []⟩,
   ⟨"mg", "Malagasy", []⟩,
   ⟨"mt", "Maltese", []⟩,
   ⟨"mn", "Mongolian", []⟩,
   ⟨"na", "Nauru", []⟩,
   ⟨"nv", "Navajo", []⟩,
   ⟨"nr", "Southern Ndebele", []⟩,
   ⟨"nd", "Northern Ndebele", []⟩,
   ⟨"ng", "Ndonga", []⟩,
   ⟨"ne", "Nepali", []⟩,
   ⟨"nn", "Norwegian Nynorsk", []⟩,
   ⟨"no", "Norwegian", []⟩,
   ⟨"ny", "Chichewa", []⟩,
   ⟨"oc", "Occitan", []⟩,
   ⟨"oj", "Ojibwa", []⟩,
   ⟨"or", "Oriya", []⟩,
   ⟨"om", "Oromo", []⟩,
   ⟨"os", "Ossetian", []⟩,
   ⟨"pa", "Panjabi", []⟩,
   ⟨"pi", "Pali", []⟩,
   ⟨"pl", "Polish", []⟩,
   ⟨"pt", "Portuguese", [("BR", "Brazil")]⟩,
   ⟨"ps", "Pushto", []⟩,
   ⟨"qu", "Quechua", []⟩,
   ⟨"rm", "Romansh", []⟩,
   ⟨"ro", "Romanian", [("MD", "Moldova")]⟩,
   ⟨"rn", "Rundi", []⟩,
   ⟨"ru", "Russian", [("MD", "Moldova")]⟩,
   ⟨"sg", "Sango", []⟩,
   ⟨"sa", "Sanskrit", []⟩,
   ⟨"si", "Sinhala", []⟩,
   ⟨"sk", "Slovak", []⟩,
   ⟨"sl", "Slovenian", []⟩,
   ⟨"se", "Northern Sami", []⟩,
   ⟨"sm", "Samoan", []⟩,
   ⟨"sn", "Shona", []⟩,
   ⟨"sd", "Sindhi", []⟩,
   ⟨"so", "Somali", []⟩,
   ⟨"st", "Southern Sotho", []⟩,
   ⟨"es", "Spanish", [("AR", "Argentina"), ("BO", "Bolivia"), ("CL", "Chile"), ("CO",
     "Colombia"), ("CR", "Costa Rica"), ("DO", "Dominican Republic"), ("EC", "Ecuador"), ("SV",
     "El Salvador"), ("GT", "Guatemala"), ("HN", "Honduras"), ("MX", "Mexico"), ("NI",
     "Nicaragua"), ("PA", "Panama"), ("PY", "Paraguay"), ("PE", "Peru"), ("PR", "Puerto Rico"),
     ("UY", "Uruguay"), ("VE", "Venezuela")]⟩,
   ⟨"sc", "Sardinian", []⟩,
   ⟨"sr", "Serbian", []⟩,
   ⟨"ss", "Swati", []⟩,
   ⟨"su", "Sundanese", []⟩,
   ⟨"sw", "Swahili", []⟩,
   ⟨"sv", "Swedish", [("FI", "Finland")]⟩,
   ⟨"ty", "Tahitian", []⟩,
   ⟨"ta", "Tamil", []⟩,
   ⟨"tt", "Tatar", []⟩,
   ⟨"te", "Telugu", []⟩,
   ⟨"tg", "Tajik", []⟩,
   ⟨"tl", "Tagalog", []⟩,
   ⟨"th", "Thai", []⟩,
   ⟨"ti", "Tigrinya", []⟩,
   ⟨"to", "Tonga", []⟩,
   ⟨"tn", "Tswana", []⟩,
   ⟨"ts", "Tsonga", []⟩,
   ⟨"tk", "Turkmen", []⟩,
   ⟨"tr", "Turkish", []⟩,
   ⟨"tw", "Twi", []⟩,
   ⟨"ug", "Uighur", []⟩,
   ⟨"uk", "Ukrainian", []⟩,
   ⟨"ur", "Urdu", []⟩,
   ⟨"uz", "Uzbek", []⟩,
   ⟨"ve", "Venda", []⟩,
   ⟨"vi", "Vietnamese", []⟩,
   ⟨"wa", "Walloon", []⟩,
   ⟨"wo", "Wolof", []⟩,
   ⟨"xh", "Xhosa", []⟩,
   ⟨"yi", "Yiddish", []⟩,
   ⟨"yo", "Yoruba", []⟩,
   ⟨"za", "Zhuang", []⟩,
   ⟨"zu", "Zulu", []⟩]

end Phrasebook
