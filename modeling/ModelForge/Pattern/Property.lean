import ModelForge.Pattern.CharSet
import ModelForge.Text.Property
import ModelForge.Text.Script
/-!
Sets of characters by the names of Unicode properties. Names are compared loosely: case, blanks,
underscores and dashes do not count, and neither does `is` in front.
-/

namespace ModelForge.Pattern.Property

/-- What counts of a name. A sole `c` behind `is` does not stand for a category. -/
def loose (name : String) : String :=
  let cs := name.toList
  let (stripped, rest) := match cs with
    | a :: b :: rest => if a.toLower = 'i' && b.toLower = 's' then (true, rest) else (false, cs)
    | _ => (false, cs)
  let kept := (rest.filter fun c => c.toNat < 128 && c ≠ ' ' && c ≠ '_' && c ≠ '-').map Char.toLower
  if stripped && kept = ['c'] then "isc" else String.ofList kept

/-- General categories and groups of them: the short names, then what a group consists of. -/
def categories : List (List String × List String) := [
  (["Lu", "Uppercase_Letter"], ["Lu"]), (["Ll", "Lowercase_Letter"], ["Ll"]),
  (["Lt", "Titlecase_Letter"], ["Lt"]), (["Lm", "Modifier_Letter"], ["Lm"]),
  (["Lo", "Other_Letter"], ["Lo"]), (["LC", "Cased_Letter"], ["Lu", "Ll", "Lt"]),
  (["L", "Letter"], ["Lu", "Ll", "Lt", "Lm", "Lo"]),
  (["Mn", "Nonspacing_Mark"], ["Mn"]), (["Mc", "Spacing_Mark"], ["Mc"]),
  (["Me", "Enclosing_Mark"], ["Me"]), (["M", "Mark", "Combining_Mark"], ["Mn", "Mc", "Me"]),
  (["Nd", "Decimal_Number", "digit"], ["Nd"]), (["Nl", "Letter_Number"], ["Nl"]),
  (["No", "Other_Number"], ["No"]), (["N", "Number"], ["Nd", "Nl", "No"]),
  (["Pc", "Connector_Punctuation"], ["Pc"]), (["Pd", "Dash_Punctuation"], ["Pd"]),
  (["Ps", "Open_Punctuation"], ["Ps"]), (["Pe", "Close_Punctuation"], ["Pe"]),
  (["Pi", "Initial_Punctuation"], ["Pi"]), (["Pf", "Final_Punctuation"], ["Pf"]),
  (["Po", "Other_Punctuation"], ["Po"]),
  (["P", "Punctuation", "punct"], ["Pc", "Pd", "Ps", "Pe", "Pi", "Pf", "Po"]),
  (["Sm", "Math_Symbol"], ["Sm"]), (["Sc", "Currency_Symbol"], ["Sc"]),
  (["Sk", "Modifier_Symbol"], ["Sk"]), (["So", "Other_Symbol"], ["So"]),
  (["S", "Symbol"], ["Sm", "Sc", "Sk", "So"]),
  (["Zs", "Space_Separator"], ["Zs"]), (["Zl", "Line_Separator"], ["Zl"]),
  (["Zp", "Paragraph_Separator"], ["Zp"]), (["Z", "Separator"], ["Zs", "Zl", "Zp"]),
  (["Cc", "Control", "cntrl"], ["Cc"]), (["Cf", "Format"], ["Cf"]), (["Co", "Private_Use"], ["Co"])]

def assigned : CharSet := CharSet.categories (Text.categoryTable.map (·.1))

/-- A general category by its loose name. -/
def category? (name : String) : Option CharSet :=
  match name with
  | "any" => some (.complement .nothing)
  | "ascii" => some (.ranges [(0, 0x7F)])
  | "assigned" => some assigned
  | "cn" | "unassigned" => some (.complement assigned)
  | "c" | "other" => some (.union (.complement assigned) (CharSet.categories ["Cc", "Cf", "Co"]))
  | _ => (categories.find? fun c => c.1.any (loose · == name)).map fun c => CharSet.categories c.2

/-- Second names that scripts have besides their codes. -/
def scriptAliases : List (String × String) := [("qaac", "Coptic"), ("qaai", "Inherited")]

def findScript? (name : String) : Option Text.Script :=
  let full := ((scriptAliases.find? (·.1 == name)).map (·.2)).getD name
  Text.scripts.find? fun s => loose s.name == loose full || loose s.code == name

/-- The characters of a script by its loose name. -/
def script? (name : String) : Option CharSet := (findScript? name).map fun s => .ranges s.own

/-- The characters used with a script. -/
def scriptExtension? (name : String) : Option CharSet :=
  (findScript? name).map fun s =>
    if s.isGeneral then .difference (.ranges s.own) (.ranges Text.Script.allShared)
    else .union (.ranges s.own) (.ranges s.shared)

/-- The names of properties that stand in the table. -/
def tabled : List (String × String) := [
  ("AHex", "ASCII_Hex_Digit"), ("Bidi_C", "Bidi_Control"), ("Bidi_M", "Bidi_Mirrored"),
  ("CWCF", "Changes_When_Casefolded"), ("CWCM", "Changes_When_Casemapped"),
  ("CWL", "Changes_When_Lowercased"), ("CWT", "Changes_When_Titlecased"),
  ("CWU", "Changes_When_Uppercased"), ("Dash", "Dash"), ("DI", "Default_Ignorable_Code_Point"),
  ("Dep", "Deprecated"), ("Dia", "Diacritic"), ("Emoji", "Emoji"), ("EComp", "Emoji_Component"),
  ("EMod", "Emoji_Modifier"), ("EBase", "Emoji_Modifier_Base"), ("EPres", "Emoji_Presentation"),
  ("ExtPict", "Extended_Pictographic"), ("Ext", "Extender"), ("Hex", "Hex_Digit"),
  ("IDSB", "IDS_Binary_Operator"), ("IDST", "IDS_Trinary_Operator"), ("Ideo", "Ideographic"),
  ("Join_C", "Join_Control"), ("LOE", "Logical_Order_Exception"), ("Lower", "Lowercase"),
  ("Math", "Math"), ("NChar", "Noncharacter_Code_Point"), ("OAlpha", "Other_Alphabetic"),
  ("OGr_Ext", "Other_Grapheme_Extend"), ("OIDC", "Other_ID_Continue"), ("OIDS", "Other_ID_Start"),
  ("Pat_Syn", "Pattern_Syntax"), ("Pat_WS", "Pattern_White_Space"), ("QMark", "Quotation_Mark"),
  ("Radical", "Radical"), ("RI", "Regional_Indicator"), ("STerm", "Sentence_Terminal"),
  ("SD", "Soft_Dotted"), ("Term", "Terminal_Punctuation"), ("UIdeo", "Unified_Ideograph"),
  ("Upper", "Uppercase"), ("VS", "Variation_Selector"), ("WSpace", "White_Space"), ("space", "White_Space")]

def ofTable (name : String) : CharSet := .ranges (Text.property name)

def patternOwn : CharSet := .union (ofTable "Pattern_Syntax") (ofTable "Pattern_White_Space")

def idStart : CharSet :=
  .difference (.union (CharSet.categories ["Lu", "Ll", "Lt", "Lm", "Lo", "Nl"]) (ofTable "Other_ID_Start")) patternOwn

def idContinue : CharSet :=
  .union idStart (.union (CharSet.categories ["Mn", "Mc", "Nd", "Pc"]) (ofTable "Other_ID_Continue"))

/-- Characters that a compatible form would not allow where names continue. -/
def notContinuing : CharSet := .ranges [(0x37A, 0x37A), (0x309B, 0x309C), (0xFC5E, 0xFC63), (0xFDFA, 0xFDFB),
  (0xFE70, 0xFE70), (0xFE72, 0xFE72), (0xFE74, 0xFE74), (0xFE76, 0xFE76), (0xFE78, 0xFE78), (0xFE7A, 0xFE7A),
  (0xFE7C, 0xFE7C), (0xFE7E, 0xFE7E)]

/-- Characters that a compatible form would not allow where names start. -/
def notStarting : CharSet := .union notContinuing (.ranges [(0xE33, 0xE33), (0xEB3, 0xEB3), (0xFF9E, 0xFF9F)])

def graphemeExtend : CharSet := .union (CharSet.categories ["Mn", "Me"]) (ofTable "Other_Grapheme_Extend")

def cased : CharSet := .union (.union (ofTable "Lowercase") (ofTable "Uppercase")) (CharSet.categories ["Lt"])

/-- Properties that follow from others, with their names. -/
def derived : List (List String × CharSet) := [
  (["Alpha", "Alphabetic"], .union (.union cased (CharSet.categories ["Lm", "Lo", "Nl"])) (ofTable "Other_Alphabetic")),
  (["Cased"], cased),
  (["CI", "Case_Ignorable"],
    .union (CharSet.categories ["Mn", "Me", "Cf", "Lm", "Sk"]) (ofTable "Other_Case_Ignorable")),
  (["Gr_Base", "Grapheme_Base"], .difference assigned
    (.union (CharSet.categories ["Cc", "Cf", "Co", "Zl", "Zp"]) graphemeExtend)),
  (["Gr_Ext", "Grapheme_Extend"], graphemeExtend),
  (["IDS", "ID_Start"], idStart),
  (["IDC", "ID_Continue"], idContinue),
  (["XIDS", "XID_Start"], .difference idStart notStarting),
  (["XIDC", "XID_Continue"], .difference idContinue notContinuing)]

/-- A property that a character has or does not have, by its loose name. -/
def binary? (name : String) : Option CharSet :=
  match tabled.find? fun p => loose p.1 == name || loose p.2 == name with
  | some (_, full) => some (ofTable full)
  | none => (derived.find? fun p => p.1.any (loose · == name)).map (·.2)

/-- A set by one name: a property, a category or a script. -/
def named? (name : String) : Option CharSet :=
  let name := loose name
  binary? name <|> category? name <|> script? name

/-- A set by the value of a property. -/
def valued? (property value : String) : Option CharSet :=
  match loose property with
  | "gc" | "generalcategory" => category? (loose value)
  | "sc" | "script" => script? (loose value)
  | "scx" | "scriptextensions" => scriptExtension? (loose value)
  | _ => none

end ModelForge.Pattern.Property
