import FeatureFlags.Text.Break.Sentence
import FeatureFlags.Text.Edition
import FeatureFlags.Text.Identifier
import FeatureFlags.Text.Script.Extension

/-!
# Properties by name

Sets of characters that are named by a general category, a script or another property. Case,
blanks, hyphens and underscores in a name do not count, nor does `is` in front of it.
-/
namespace FeatureFlags.Regex

open FeatureFlags.Text

/-- A name in the form in which names are compared. One name that starts with `is` and a single
letter is a name of its own. -/
def looseName (name : List Char) : String :=
  let counted (s : List Char) : List Char :=
    (s.filter fun c => c.toNat < 128 && c ≠ ' ' && c ≠ '_' && c ≠ '-').map Char.toLower
  match name with
  | i :: s :: rest =>
    if i.toLower = 'i' ∧ s.toLower = 's' then
      if counted rest = ['c'] then "isc" else String.ofList (counted rest)
    else String.ofList (counted name)
  | _ => String.ofList (counted name)

/-- A general category, a group of them, or one of the sets that are named like one. -/
def category? : String → Option CharSet
  | "any" => some .any
  | "ascii" => some .ascii
  | "assigned" => some assigned
  | "c" | "other" => some otherCharacters
  | "cc" | "control" | "cntrl" => some controls
  | "cf" | "format" => some formats
  | "cn" | "unassigned" => some unassigned
  | "co" | "privateuse" => some privateCharacters
  | "l" | "letter" => some letters
  | "lc" | "casedletter" => some casedLetters
  | "ll" | "lowercaseletter" => some lowercaseLetters
  | "lm" | "modifierletter" => some modifierLetters
  | "lo" | "otherletter" => some otherLetters
  | "lt" | "titlecaseletter" => some titlecaseLetters
  | "lu" | "uppercaseletter" => some uppercaseLetters
  | "m" | "mark" | "combiningmark" => some marks
  | "mc" | "spacingmark" => some spacingMarks
  | "me" | "enclosingmark" => some enclosingMarks
  | "mn" | "nonspacingmark" => some nonspacingMarks
  | "n" | "number" => some numbers
  | "nd" | "decimalnumber" | "digit" => some decimalNumbers
  | "nl" | "letternumber" => some letterNumbers
  | "no" | "othernumber" => some otherNumbers
  | "p" | "punctuation" | "punct" => some punctuation
  | "pc" | "connectorpunctuation" => some connectors
  | "pd" | "dashpunctuation" => some dashes
  | "pe" | "closepunctuation" => some closers
  | "pf" | "finalpunctuation" => some finalQuotes
  | "pi" | "initialpunctuation" => some initialQuotes
  | "po" | "otherpunctuation" => some otherPunctuationMarks
  | "ps" | "openpunctuation" => some openers
  | "s" | "symbol" => some symbolCharacters
  | "sc" | "currencysymbol" => some currencySymbols
  | "sk" | "modifiersymbol" => some modifierSymbols
  | "sm" | "mathsymbol" => some mathSymbols
  | "so" | "othersymbol" => some otherSymbols
  | "z" | "separator" => some separators
  | "zl" | "lineseparator" => some lineSeparators
  | "zp" | "paragraphseparator" => some paragraphSeparators
  | "zs" | "spaceseparator" => some spaceSeparators
  | _ => none

/-- Properties of letters and of names. -/
def letterProperty? : String → Option CharSet
  | "alpha" | "alphabetic" => some alphabetics
  | "cased" => some cased
  | "ci" | "caseignorable" => some caseIgnorable
  | "cwcf" | "changeswhencasefolded" => some changesInFolding
  | "cwcm" | "changeswhencasemapped" => some changesInAnyCase
  | "cwl" | "changeswhenlowercased" => some changesInLowercase
  | "cwt" | "changeswhentitlecased" => some changesInTitlecase
  | "cwu" | "changeswhenuppercased" => some changesInUppercase
  | "idc" | "idcontinue" => some identifierContinuations
  | "idcompatmathcontinue" => some mathIdentifierContinuations
  | "idcompatmathstart" => some mathIdentifierStarts
  | "ids" | "idstart" => some identifierStarts
  | "lower" | "lowercase" => some lowercase
  | "oalpha" | "otheralphabetic" => some otherAlphabetics
  | "oidc" | "otheridcontinue" => some otherIdentifierContinuations
  | "oids" | "otheridstart" => some otherIdentifierStarts
  | "olower" | "otherlowercase" => some otherLowercase
  | "oupper" | "otheruppercase" => some otherUppercase
  | "patsyn" | "patternsyntax" => some patternSyntax
  | "patws" | "patternwhitespace" => some patternWhiteSpace
  | "sd" | "softdotted" => some softDotted
  | "upper" | "uppercase" => some uppercase
  | "xidc" | "xidcontinue" => some stableIdentifierContinuations
  | "xids" | "xidstart" => some stableIdentifierStarts
  | _ => none

/-- Properties of pictures and ideographs. -/
def pictureProperty? : String → Option CharSet
  | "ebase" | "emojimodifierbase" => some emojiModifierBases
  | "ecomp" | "emojicomponent" => some emojiComponents
  | "emod" | "emojimodifier" => some emojiModifiers
  | "emoji" => some emoji
  | "epres" | "emojipresentation" => some emojiPresentation
  | "extpict" | "extendedpictographic" => some pictographs
  | "ideo" | "ideographic" => some ideographs
  | "idsb" | "idsbinaryoperator" => some binaryDescriptions
  | "idst" | "idstrinaryoperator" => some ternaryDescriptions
  | "idsu" | "idsunaryoperator" => some unaryDescriptions
  | "radical" => some radicals
  | "ri" | "regionalindicator" => some regionalIndicators
  | "uideo" | "unifiedideograph" => some unifiedIdeographs
  | _ => none

/-- Properties of signs, marks and layout characters. -/
def signProperty? : String → Option CharSet
  | "ahex" | "asciihexdigit" => some asciiHexadecimalDigits
  | "bidic" | "bidicontrol" => some bidirectionalControls
  | "bidim" | "bidimirrored" => some mirroredSigns
  | "dash" => some dashSigns
  | "dep" | "deprecated" => some deprecatedCharacters
  | "di" | "defaultignorablecodepoint" => some defaultIgnorables
  | "dia" | "diacritic" => some diacritics
  | "ext" | "extender" => some extenders
  | "grbase" | "graphemebase" => some graphemeBases
  | "grext" | "graphemeextend" => some graphemeExtenders
  | "grlink" | "graphemelink" => some viramas
  | "hex" | "hexdigit" => some hexadecimalDigits
  | "hyphen" => some hyphens
  | "joinc" | "joincontrol" => some joiners
  | "loe" | "logicalorderexception" => some visuallyOrdered
  | "math" => some mathematical
  | "mcm" | "modifiercombiningmark" => some modifierMarks
  | "nchar" | "noncharactercodepoint" => some noncharacters
  | "odi" | "otherdefaultignorablecodepoint" => some otherIgnorables
  | "ogrext" | "othergraphemeextend" => some spacingExtenders
  | "omath" | "othermath" => some otherMathematical
  | "pcm" | "prependedconcatenationmark" => some prefixedSigns
  | "qmark" | "quotationmark" => some quotationMarks
  | "sterm" | "sentenceterminal" => some sentenceTerminals
  | "term" | "terminalpunctuation" => some terminalPunctuation
  | "vs" | "variationselector" => some variationSelectors
  | "wspace" | "space" | "whitespace" => some whiteSpace
  | _ => none

/-- The set of a name alone. -/
def ofName? (name : List Char) : Option CharSet :=
  let name := looseName name
  [letterProperty?, pictureProperty?, signProperty?, category?,
    fun name => (script? name).map (·.members)].findSome? (· name)

/-- The set of a value of a named property. -/
def ofValue? (name value : List Char) : Option CharSet :=
  let value := looseName value
  match looseName name with
  | "gc" | "generalcategory" => category? value
  | "sc" | "script" => (script? value).map (·.members)
  | "scx" | "scriptextensions" => (script? value).map (·.extension)
  | "age" => charactersUpTo? value
  | "gcb" | "graphemeclusterbreak" => graphemeClass? value
  | "wb" | "wordbreak" => wordClass? value
  | "sb" | "sentencebreak" => sentenceClass? value
  | _ => none

end FeatureFlags.Regex
