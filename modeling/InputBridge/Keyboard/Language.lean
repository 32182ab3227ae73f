-- SUMMARY: Language identifiers, layout codes of languages, and the table of descriptions.

/-!
# Languages

Language identifiers of keyboard layout codes, and layout codes of the
descriptive names that a keymap gives to its groups.
-/

namespace InputBridge

/-! ## Language identifiers -/

/-- A language identifier: the primary language in the low ten bits, the variety
above them. -/
abbrev LangId := UInt16

namespace LangId

def make (primary variety : UInt16) : LangId := (variety <<< 10) ||| primary

/-- The primary language. -/
def primary (lang : LangId) : UInt16 := lang &&& 0x3ff

def german : UInt16 := 0x07
def french : UInt16 := 0x0c

/-- The identifier of a layout whose language is not known. -/
def unspecified : LangId := make 0 4

/-- Two-letter layout codes with primary language and variety. -/
def twoLetterCodes : List (String × UInt16 × UInt16) := [
  ("af", 0x8c, 0x01), ("al", 0x1c, 0x01), ("am", 0x2b, 0x01), ("at", 0x07, 0x03),
  ("au", 0x09, 0x03), ("az", 0x2c, 0x01), ("ba", 0x1a, 0x08), ("bd", 0x45, 0x01),
  ("be", 0x0c, 0x02), ("bg", 0x02, 0x01), ("br", 0x16, 0x02), ("bt", 0x51, 0x03),
  ("bw", 0x32, 0x02), ("by", 0x23, 0x01), ("ca", 0x09, 0x04), ("cd", 0x0c, 0x04),
  ("ch", 0x07, 0x02), ("cm", 0x0c, 0x0b), ("cn", 0x04, 0x01), ("cz", 0x05, 0x01),
  ("de", 0x07, 0x01), ("dk", 0x06, 0x01), ("dz", 0x5f, 0x02), ("ee", 0x25, 0x01),
  ("es", 0x0a, 0x01), ("et", 0x5e, 0x01), ("fi", 0x0b, 0x01), ("fo", 0x38, 0x01),
  ("fr", 0x0c, 0x01), ("gb", 0x09, 0x02), ("ge", 0x37, 0x01), ("gh", 0x09, 0x04),
  ("gn", 0x00, 0x03), ("gr", 0x08, 0x01), ("hr", 0x1a, 0x01), ("hu", 0x0e, 0x01),
  ("id", 0x21, 0x01), ("ie", 0x09, 0x06), ("il", 0x0d, 0x01), ("in", 0x39, 0x01),
  ("iq", 0x01, 0x02), ("ir", 0x29, 0x01), ("is", 0x0f, 0x01), ("it", 0x10, 0x01),
  ("jp", 0x11, 0x01), ("ke", 0x00, 0x03), ("kg", 0x40, 0x01), ("kh", 0x53, 0x01),
  ("kr", 0x12, 0x01), ("kz", 0x3f, 0x01), ("la", 0x54, 0x01), ("lk", 0x5b, 0x01),
  ("lt", 0x27, 0x01), ("lv", 0x26, 0x01), ("ma", 0x01, 0x06), ("md", 0x18, 0x04),
  ("me", 0x1a, 0x0b), ("mk", 0x2f, 0x01), ("ml", 0x00, 0x03), ("mm", 0x55, 0x01),
  ("mn", 0x50, 0x01), ("mt", 0x3a, 0x01), ("mv", 0x65, 0x01), ("my", 0x3e, 0x01),
  ("ng", 0x09, 0x04), ("nl", 0x13, 0x01), ("no", 0x14, 0x01), ("np", 0x61, 0x01),
  ("ph", 0x64, 0x01), ("pk", 0x20, 0x01), ("pl", 0x15, 0x01), ("pt", 0x16, 0x01),
  ("ro", 0x18, 0x01), ("rs", 0x1a, 0x02), ("ru", 0x19, 0x01), ("se", 0x1d, 0x01),
  ("si", 0x24, 0x01), ("sk", 0x1b, 0x01), ("sn", 0x88, 0x01), ("sy", 0x5a, 0x01),
  ("tg", 0x0c, 0x04), ("th", 0x1e, 0x01), ("tj", 0x28, 0x01), ("tm", 0x42, 0x01),
  ("tr", 0x1f, 0x01), ("tw", 0x04, 0x04), ("tz", 0x41, 0x04), ("ua", 0x22, 0x01),
  ("us", 0x09, 0x01), ("uz", 0x43, 0x02), ("vn", 0x2a, 0x01), ("za", 0x09, 0x07)]

/-- Longer layout codes with primary language and variety. -/
def longerCodes : List (String × UInt16 × UInt16) := [
  ("ara", 0x01, 0x01), ("epo", 0x00, 0x03), ("mao", 0x81, 0x01), ("brai", 0x00, 0x03),
  ("latam", 0x0a, 0x04)]

/-- The language of a layout code such as `fr` or `latam`. -/
def ofLayoutCode (code : String) : LangId :=
  match (twoLetterCodes ++ longerCodes).lookup code with
  | some (primary, variety) => make primary variety
  | none => unspecified

end LangId

/-! ## Descriptive names -/

/-- Beginnings of descriptive group names with their layout codes. A longer
beginning stands before the shorter ones it extends. -/
def describedCodes : List (String × String) := [
  ("English (US)", "us"), ("English (UK)", "gb"), ("English (Canada)", "ca"),
  ("English (Australia)", "au"), ("English (South Africa)", "za"), ("English", "us"),
  ("French (Switzerland)", "ch"), ("French (Canada)", "ca"), ("French (Belgium)", "be"),
  ("French", "fr"), ("German (Switzerland)", "ch"), ("German (Austria)", "at"),
  ("German", "de"), ("Portuguese (Brazil)", "br"), ("Portuguese", "pt"),
  ("Spanish (Latin American)", "latam"), ("Spanish", "es"), ("Italian", "it"),
  ("Dutch", "nl"), ("Belgian", "be"), ("Swedish", "se"), ("Norwegian", "no"),
  ("Danish", "dk"), ("Finnish", "fi"), ("Icelandic", "is"), ("Polish", "pl"),
  ("Czech", "cz"), ("Slovak", "sk"), ("Hungarian", "hu"), ("Romanian", "ro"),
  ("Russian", "ru"), ("Ukrainian", "ua"), ("Greek", "gr"), ("Turkish", "tr"),
  ("Hebrew", "il"), ("Arabic", "ara"), ("Persian", "ir"), ("Japanese", "jp"),
  ("Korean", "kr"), ("Chinese", "cn"), ("Thai", "th"), ("Vietnamese", "vn"),
  ("Esperanto", "epo")]

/-- The layout code of a descriptive name such as `French (AZERTY)`. -/
def codeOfDescription? (description : String) : Option String :=
  (describedCodes.find? fun (start, _) => start.toList.isPrefixOf description.toList).map (·.2)

end InputBridge
