import SchemaSheet.Pattern.Tree
import SchemaSheet.Unicode.Property
import SchemaSheet.Unicode.Script
import SchemaSheet.Unicode.Version

/-! The sets that patterns know by names: properties, categories, scripts and versions. Case,
blanks, dashes, underscores and a leading `is` do not matter in names. -/

namespace SchemaSheet.Pattern

open Unicode

/-- The properties without a set of their own, most of which have values. -/
def valuedProperties : String :=
  "age bc bidiclass bidimirroringglyph bidipairedbracket bidipairedbrackettype blk block bmg bpb
   bpt canonicalcombiningclass casefolding ccc ce cf changeswhennfkccasefolded
   cjkaccountingnumeric cjkcompatibilityvariant cjkiicore cjkirggsource cjkirghsource
   cjkirgjsource cjkirgkpsource cjkirgksource cjkirgmsource cjkirgssource cjkirgtsource
   cjkirguksource cjkirgusource cjkirgvsource cjkothernumeric cjkprimarynumeric cjkrsunicode
   compex compositionexclusion cwkcf decompositionmapping decompositiontype dm dt ea
   eastasianwidth equideo equivalentunifiedideograph expandsonnfc expandsonnfd expandsonnfkc
   expandsonnfkd fcnfkc fcnfkcclosure fullcompositionexclusion gc gcb generalcategory
   graphemeclusterbreak hangulsyllabletype hst incb indicconjunctbreak indicpositionalcategory
   indicsyllabiccategory inpc insc isc jamoshortname jg joininggroup joiningtype jsn jt
   kaccountingnumeric kcompatibilityvariant kehcat kehcore kehdesc kehhg kehifao kehjsesh
   kehnomirror kehnorotate kiicore kirggsource kirghsource kirgjsource kirgkpsource kirgksource
   kirgmsource kirgssource kirgtsource kirguksource kirgusource kirgvsource kothernumeric
   kprimarynumeric krsunicode lb lc linebreak lowercasemapping na na1 name namealias nfcqc
   nfcquickcheck nfdqc nfdquickcheck nfkccasefold nfkccf nfkcqc nfkcquickcheck nfkcscf
   nfkcsimplecasefold nfkdqc nfkdquickcheck nt numerictype numericvalue nv sb sc scf script
   scriptextensions scx sentencebreak sfc simplecasefolding simplelowercasemapping
   simpletitlecasemapping simpleuppercasemapping slc stc suc tc titlecasemapping uc unicode1name
   unicoderadicalstroke uppercasemapping urs verticalorientation vo wb wordbreak xonfc xonfd
   xonfkc xonfkd"

def normalized (t : Text) : Text :=
  let kept (t : Text) : Text :=
    (t.filter fun c => c.toNat < 0x80 && c != ' ' && c != '_' && c != '-').map Char.toLower
  match t with
  | a :: b :: rest =>
    if a.toLower = 'i' ∧ b.toLower = 's' then
      if kept rest = ['c'] then "isc".toList else kept rest
    else kept t
  | _ => kept t

def isValued (name : Text) : Bool :=
  ((valuedProperties.toList.map fun c => if c = '\n' then ' ' else c) |> Text.pieces ' ').contains
    name

def emptyValues : List String :=
  ["cs", "surrogate", "hrkt", "katakanaorhiragana", "zzzz", "unknown"]

/-- The set that a name alone stands for. Some short names of properties are those of categories
first. -/
def setOfName (name : Text) : Except Cause CharSet :=
  let isCategory := ["cf", "sc", "lc"].any (·.toList = name)
  match if isCategory then none else property? name with
  | some s => .ok s
  | none =>
    if !isCategory && isValued name then .error .propertyNotFound
    else match category? name, script? name with
      | some s, _ => .ok s
      | none, some s => .ok s
      | none, none =>
        .error (if emptyValues.any (·.toList = name) then .propertyValueNotFound
          else .propertyNotFound)

def setOfValue (property value : Text) : Except Cause CharSet :=
  let is (names : List String) : Bool := names.any (·.toList = property)
  let found : Option CharSet :=
    if is ["gc", "generalcategory"] then category? value
    else if is ["sc", "script"] then script? value
    else if is ["scx", "scriptextensions"] then scriptUse? value
    else if is ["age"] then version? value
    else none
  match found with
  | some s => .ok s
  | none =>
    .error (if isValued property || (property? property).isSome then .propertyValueNotFound
      else .propertyNotFound)

def Query.set : Query → Except Cause CharSet
  | name t => setOfName (normalized t)
  | value property v => setOfValue (normalized property) (normalized v)

end SchemaSheet.Pattern
