/-
# Character sets and collations of MySQL

The names that a URL may give for the character set of a connection, and for the
order of its texts.  A collation is named for its character set; the character sets
of Unicode have many collations by language.
-/

namespace ReportQuery
namespace Endpoint

/-- The character sets. -/
def charsets : List String :=
  ["armscii8", "ascii", "big5", "binary", "cp1250", "cp1251", "cp1256", "cp1257", "cp850",
    "cp852", "cp866", "cp932", "dec8", "eucjpms", "euckr", "gb18030", "gb2312", "gbk", "geostd8",
    "greek", "hebrew", "hp8", "keybcs2", "koi8r", "koi8u", "latin1", "latin2", "latin5",
    "latin7", "macce", "macroman", "sjis", "swe7", "tis620", "ucs2", "ujis", "utf16", "utf16le",
    "utf32", "utf8", "utf8mb4"]

/-- The character sets of Unicode that have collations by language. -/
def unicodeCharsets : List String := ["ucs2", "utf16", "utf32", "utf8", "utf8mb4"]

/-- The collations of each character set of Unicode, without its name. -/
def unicodeOrders : List String :=
  ["bin", "croatian_ci", "czech_ci", "danish_ci", "esperanto_ci", "estonian_ci", "general_ci",
    "german2_ci", "hungarian_ci", "icelandic_ci", "latvian_ci", "lithuanian_ci", "persian_ci",
    "polish_ci", "roman_ci", "romanian_ci", "sinhala_ci", "slovak_ci", "slovenian_ci",
    "spanish2_ci", "spanish_ci", "swedish_ci", "turkish_ci", "unicode_520_ci", "unicode_ci",
    "vietnamese_ci"]

/-- The collations of the other character sets, and those of one set of Unicode alone. -/
def otherCollations : List String :=
  ["armscii8_bin", "armscii8_general_ci", "ascii_bin", "ascii_general_ci", "big5_bin",
    "big5_chinese_ci", "binary", "cp1250_bin", "cp1250_croatian_ci", "cp1250_czech_cs",
    "cp1250_general_ci", "cp1250_polish_ci", "cp1251_bin", "cp1251_bulgarian_ci",
    "cp1251_general_ci", "cp1251_general_cs", "cp1251_ukrainian_ci", "cp1256_bin",
    "cp1256_general_ci", "cp1257_bin", "cp1257_general_ci", "cp1257_lithuanian_ci", "cp850_bin",
    "cp850_general_ci", "cp852_bin", "cp852_general_ci", "cp866_bin", "cp866_general_ci",
    "cp932_bin", "cp932_japanese_ci", "dec8_bin", "dec8_swedish_ci", "eucjpms_bin",
    "eucjpms_japanese_ci", "euckr_bin", "euckr_korean_ci", "gb18030_bin", "gb18030_chinese_ci",
    "gb18030_unicode_520_ci", "gb2312_bin", "gb2312_chinese_ci", "gbk_bin", "gbk_chinese_ci",
    "geostd8_bin", "geostd8_general_ci", "greek_bin", "greek_general_ci", "hebrew_bin",
    "hebrew_general_ci", "hp8_bin", "hp8_english_ci", "keybcs2_bin", "keybcs2_general_ci",
    "koi8r_bin", "koi8r_general_ci", "koi8u_bin", "koi8u_general_ci", "latin1_bin",
    "latin1_danish_ci", "latin1_general_ci", "latin1_general_cs", "latin1_german1_ci",
    "latin1_german2_ci", "latin1_spanish_ci", "latin1_swedish_ci", "latin2_bin",
    "latin2_croatian_ci", "latin2_czech_cs", "latin2_general_ci", "latin2_hungarian_ci",
    "latin5_bin", "latin5_turkish_ci", "latin7_bin", "latin7_estonian_cs", "latin7_general_ci",
    "latin7_general_cs", "macce_bin", "macce_general_ci", "macroman_bin", "macroman_general_ci",
    "sjis_bin", "sjis_japanese_ci", "swe7_bin", "swe7_swedish_ci", "tis620_bin",
    "tis620_thai_ci", "ucs2_general_mysql500_ci", "ujis_bin", "ujis_japanese_ci", "utf16le_bin",
    "utf16le_general_ci", "utf8_general_mysql500_ci", "utf8_tolower_ci", "utf8mb4_0900_ai_ci"]

/-- Whether a name is that of a character set. -/
def isCharset (name : String) : Bool := charsets.contains name

/-- Whether a name is that of a collation. -/
def isCollation (name : String) : Bool :=
  otherCollations.contains name ||
    unicodeCharsets.any fun c => unicodeOrders.any fun order => c ++ "_" ++ order == name

end Endpoint
end ReportQuery
