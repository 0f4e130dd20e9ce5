import ShapeSchema.Unicode.Age
import ShapeSchema.Unicode.Property
import ShapeSchema.Unicode.Script
import ShapeSchema.Unicode.Segmentation

/-!
# `ShapeSchema.Unicode.Lookup`: sets of characters by name

A set is asked for by one name, which is that of a yes-or-no property, a general category or a
script, or by the name of a property and the name of one of its values. Names are compared in their
loose form: case, blanks, hyphens, low lines and a leading `is` do not matter.

Three short names are those of a category and of a property with values, and mean the category:
`cf`, `sc` and `lc`.
-/

set_option autoImplicit false

namespace ShapeSchema.Unicode

/-- What is not known: the property, or its value. -/
inductive LookupError where
  | unknownProperty
  | unknownValue
  deriving DecidableEq, Repr

/-- The loose form of a name. A lone `c` after `is` stays `isc`, the name of a property. -/
def looseName (name : String) : String :=
  let chars := name.toList
  let isLed := (chars.take 2).map Char.toLower == ['i', 's']
  let kept := ((if isLed then chars.drop 2 else chars).filter fun c =>
    c.toNat ≤ 0x7F && c != ' ' && c != '_' && c != '-').map Char.toLower
  if isLed && kept == ['c'] then "isc" else String.ofList kept

/-- A name is one of these, in loose form. -/
def isNamed (loose : String) (names : List String) : Bool :=
  names.any fun n => looseName n == loose

/-! ### General categories -/

/-- The groups of categories, with their names. -/
def categoryGroups : List (List String × List Category) :=
  [(["L", "Letter"], letters),
   (["LC", "Cased_Letter"], [.uppercaseLetter, .lowercaseLetter, .titlecaseLetter]),
   (["M", "Mark", "Combining_Mark"], marks),
   (["N", "Number"], numbers),
   (["P", "Punctuation", "punct"],
    [.connectorPunctuation, .dashPunctuation, .openPunctuation, .closePunctuation,
     .initialPunctuation, .finalPunctuation, .otherPunctuation]),
   (["S", "Symbol"], [.mathSymbol, .currencySymbol, .modifierSymbol, .otherSymbol]),
   (["Z", "Separator"], [.spaceSeparator, .lineSeparator, .paragraphSeparator])]

/-- The names of a category. -/
def Category.aliases (c : Category) : List String :=
  let more := match c with
    | .decimalNumber => ["digit"]
    | .control => ["cntrl"]
    | _ => []
  c.names.1 :: c.names.2 :: more

/-- The characters of a general category, by its loose name. Surrogates are no characters, so their
category has a name but no value. -/
def category? (loose : String) : Option (Except LookupError CharSet) :=
  if loose == "any" then some (.ok .all)
  else if loose == "assigned" then some (.ok unassigned.complement)
  else if loose == "ascii" then some (.ok ⟨[(0, 0x7F)]⟩)
  else if isNamed loose ["Cn", "Unassigned"] then some (.ok unassigned)
  else if isNamed loose ["C", "Other"] then
    some (.ok (.unions [unassigned, Category.union [.control, .format, .privateUse]]))
  else if isNamed loose ["Cs", "Surrogate"] then some (.error .unknownValue)
  else
    match categoryGroups.find? fun g => isNamed loose g.1 with
    | some g => some (.ok (Category.union g.2))
    | none => (Category.all.find? fun c => isNamed loose c.aliases).map fun c => .ok c.chars

/-! ### Scripts -/

/-- Scripts that have a name but no characters of their own. -/
def emptyScripts : List String := ["Katakana_Or_Hiragana", "Hrkt", "Unknown", "Zzzz"]

/-- The characters of a script by its loose name, in the sense that `chars` gives. -/
def script? (loose : String) (chars : Script → CharSet) : Option (Except LookupError CharSet) :=
  match scripts.find? fun s => isNamed loose (s.name :: s.aliases) with
  | some s => some (.ok (chars s))
  | none => if isNamed loose emptyScripts then some (.error .unknownValue) else none

/-! ### Properties -/

/-- Properties that have values, but none that a set can be asked for. -/
def otherProperties : List String :=
  ["Bidi_Class", "bc", "Bidi_Mirroring_Glyph", "bmg", "Bidi_Paired_Bracket", "bpb",
   "Bidi_Paired_Bracket_Type", "bpt", "Block", "blk", "Canonical_Combining_Class", "ccc",
   "Case_Folding", "cf", "Composition_Exclusion", "ce", "cjkAccountingNumeric",
   "kAccountingNumeric", "cjkCompatibilityVariant", "kCompatibilityVariant", "cjkIICore",
   "kIICore", "cjkIRG_GSource", "kIRG_GSource", "cjkIRG_HSource", "kIRG_HSource",
   "cjkIRG_JSource", "kIRG_JSource", "cjkIRG_KPSource", "kIRG_KPSource", "cjkIRG_KSource",
   "kIRG_KSource", "cjkIRG_MSource", "kIRG_MSource", "cjkIRG_SSource", "kIRG_SSource",
   "cjkIRG_TSource", "kIRG_TSource", "cjkIRG_UKSource", "kIRG_UKSource", "cjkIRG_USource",
   "kIRG_USource", "cjkIRG_VSource", "kIRG_VSource", "cjkOtherNumeric", "kOtherNumeric",
   "cjkPrimaryNumeric", "kPrimaryNumeric", "cjkRSUnicode", "kRSUnicode", "Unicode_Radical_Stroke",
   "URS", "Decomposition_Mapping", "dm", "Decomposition_Type", "dt", "East_Asian_Width", "ea",
   "Equivalent_Unified_Ideograph", "EqUIdeo", "Expands_On_NFC", "XO_NFC", "Expands_On_NFD",
   "XO_NFD", "Expands_On_NFKC", "XO_NFKC", "Expands_On_NFKD", "XO_NFKD", "FC_NFKC_Closure",
   "FC_NFKC", "Full_Composition_Exclusion", "Comp_Ex", "Hangul_Syllable_Type", "hst",
   "Indic_Conjunct_Break", "InCB", "Indic_Positional_Category", "InPC",
   "Indic_Syllabic_Category", "InSC", "ISO_Comment", "isc", "Jamo_Short_Name", "JSN",
   "Joining_Group", "jg", "Joining_Type", "jt", "kEH_Cat", "kEH_Desc", "kEH_HG", "kEH_IFAO",
   "kEH_JSesh", "kEH_NoMirror", "kEH_NoRotate", "Line_Break", "lb", "Lowercase_Mapping", "lc",
   "Name", "na", "Name_Alias", "NFC_Quick_Check", "NFC_QC", "NFD_Quick_Check", "NFD_QC",
   "NFKC_Casefold", "NFKC_CF", "NFKC_Quick_Check", "NFKC_QC", "NFKC_Simple_Casefold",
   "NFKC_SCF", "NFKD_Quick_Check", "NFKD_QC", "Numeric_Type", "nt", "Numeric_Value", "nv",
   "Simple_Case_Folding", "scf", "sfc", "Simple_Lowercase_Mapping", "slc",
   "Simple_Titlecase_Mapping", "stc", "Simple_Uppercase_Mapping", "suc", "Titlecase_Mapping",
   "tc", "Unicode_1_Name", "na1", "Uppercase_Mapping", "uc", "Vertical_Orientation", "vo"]

/-- The properties whose values can be asked for. -/
inductive ValuedProperty where
  | generalCategory
  | script
  | scriptExtensions
  | age
  | graphemeBreak
  | wordBreak
  | sentenceBreak
  deriving DecidableEq, Repr

namespace ValuedProperty

/-- All properties with named values. -/
def all : List ValuedProperty :=
  [.generalCategory, .script, .scriptExtensions, .age, .graphemeBreak, .wordBreak, .sentenceBreak]

/-- The names of a property. -/
def names : ValuedProperty → List String
  | .generalCategory => ["General_Category", "gc"]
  | .script => ["Script", "sc"]
  | .scriptExtensions => ["Script_Extensions", "scx"]
  | .age => ["Age"]
  | .graphemeBreak => ["Grapheme_Cluster_Break", "GCB"]
  | .wordBreak => ["Word_Break", "WB"]
  | .sentenceBreak => ["Sentence_Break", "SB"]

/-- The characters for which a property of segmentation has a value. -/
def breakValue? (classes : List BreakClass) (loose : String) :
    Option (Except LookupError CharSet) :=
  match classes.find? fun b => isNamed loose (b.name :: b.aliases) with
  | some b => some (.ok b.chars)
  | none => none

/-- The names of a version: `V3_0` is written `3.0` as well. -/
def versionNames (version : String) : List String :=
  [version, "V" ++ version.map fun c => if c = '.' then '_' else c]

/-- The characters for which a property has the value of a loose name. -/
def value? (loose : String) : ValuedProperty → Option (Except LookupError CharSet)
  | .generalCategory => category? loose
  | .script => script? loose Script.chars
  | .scriptExtensions => script? loose Script.extended
  | .age =>
    match ages.find? fun a => isNamed loose (versionNames a.version) with
    | some a => some (.ok (Age.upTo a.version))
    | none => none
  | .graphemeBreak => breakValue? graphemeBreaks loose
  | .wordBreak => breakValue? wordBreaks loose
  | .sentenceBreak => breakValue? sentenceBreaks loose

end ValuedProperty

/-! ### Lookup -/

/-- The property of a loose name has values, and so is no set by itself. -/
def isValuedProperty (loose : String) : Bool :=
  isNamed loose otherProperties || ValuedProperty.all.any fun p => isNamed loose p.names

/-- A yes-or-no property by its loose name. -/
def property? (loose : String) : Option Property :=
  properties.find? fun p => isNamed loose (p.name :: p.aliases)

/-- The set of a name. -/
def named (name : String) : Except LookupError CharSet :=
  let loose := looseName name
  let categoryOrScript : Except LookupError CharSet :=
    match category? loose with
    | some found => found
    | none => (script? loose Script.chars).getD (.error .unknownProperty)
  if ["cf", "sc", "lc"].contains loose then categoryOrScript
  else
    match property? loose with
    | some p => .ok p.chars
    | none => if isValuedProperty loose then .error .unknownProperty else categoryOrScript

/-- The set of the characters for which a property has a value. -/
def valued (property value : String) : Except LookupError CharSet :=
  let loose := looseName property
  match ValuedProperty.all.find? fun p => isNamed loose p.names with
  | some p => (p.value? (looseName value)).getD (.error .unknownValue)
  | none =>
    if (property? loose).isSome || isNamed loose otherProperties then .error .unknownValue
    else .error .unknownProperty

end ShapeSchema.Unicode
