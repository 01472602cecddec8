import TemplateCheck.Pattern.CharSet

/-!
Character properties by name: general categories, scripts and a few others. Case, blanks, hyphens and
underscores of a name do not matter.
-/
namespace TemplateCheck.Pattern.Property

def normalize (name : Text) : Text :=
  let plain := (name.filter fun c => c != ' ' && c != '_' && c != '-' && c.toNat < 0x80).map Char.toLower
  match plain with
  | 'i' :: 's' :: rest => if rest == ['c'] then plain else rest
  | _ => plain

def lower (t : Text) : Text := t.map Char.toLower

/-- Categories that are unions of others: their short and long names and their members. -/
def groups : List (String × String × List Text.Category) :=
  [("lc", "casedletter", [.uppercaseLetter, .lowercaseLetter, .titlecaseLetter]),
   ("l", "letter", Text.letters),
   ("m", "mark", Text.marks),
   ("m", "combiningmark", Text.marks),
   ("n", "number", Text.numbers),
   ("p", "punctuation",
    [.connectorPunctuation, .dashPunctuation, .openPunctuation, .closePunctuation,
     .initialPunctuation, .finalPunctuation, .otherPunctuation]),
   ("p", "punct",
    [.connectorPunctuation, .dashPunctuation, .openPunctuation, .closePunctuation,
     .initialPunctuation, .finalPunctuation, .otherPunctuation]),
   ("s", "symbol", [.mathSymbol, .currencySymbol, .modifierSymbol, .otherSymbol]),
   ("z", "separator", [.spaceSeparator, .lineSeparator, .paragraphSeparator]),
   ("c", "other", [.control, .format, .surrogate, .privateUse, .unassigned])]

def longNames : List (String × Text.Category) :=
  [("uppercaseletter", .uppercaseLetter), ("lowercaseletter", .lowercaseLetter),
   ("titlecaseletter", .titlecaseLetter), ("modifierletter", .modifierLetter),
   ("otherletter", .otherLetter), ("nonspacingmark", .nonspacingMark),
   ("spacingmark", .spacingMark), ("enclosingmark", .enclosingMark),
   ("decimalnumber", .decimalNumber), ("digit", .decimalNumber), ("letternumber", .letterNumber),
   ("othernumber", .otherNumber), ("connectorpunctuation", .connectorPunctuation),
   ("dashpunctuation", .dashPunctuation), ("openpunctuation", .openPunctuation),
   ("closepunctuation", .closePunctuation), ("initialpunctuation", .initialPunctuation),
   ("finalpunctuation", .finalPunctuation), ("otherpunctuation", .otherPunctuation),
   ("mathsymbol", .mathSymbol), ("currencysymbol", .currencySymbol),
   ("modifiersymbol", .modifierSymbol), ("othersymbol", .otherSymbol),
   ("spaceseparator", .spaceSeparator), ("lineseparator", .lineSeparator),
   ("paragraphseparator", .paragraphSeparator), ("control", .control), ("cntrl", .control),
   ("format", .format), ("surrogate", .surrogate), ("privateuse", .privateUse),
   ("unassigned", .unassigned)]

def single? (name : Text) : Option Text.Category :=
  (Text.Category.all.find? fun c => lower c.code == name).or
    ((longNames.find? fun (long, _) => long.toList == name).map (·.2))

def category? (name : Text) : Option CharSet :=
  if name == "any".toList then some .full
  else if name == "assigned".toList then some (.compl (.category .unassigned))
  else if name == "ascii".toList then some (.range '\x00' '\x7f')
  else match single? name with
    | some .decimalNumber => some .digit
    | some c => some (.category c)
    | none =>
      (groups.find? fun (short, long, _) => short.toList == name || long.toList == name).map
        fun (_, _, members) => .unions (members.map .category)

def binary? (name : Text) : Option CharSet :=
  match String.ofList name with
  | "alphabetic" | "alpha" => some .alphabetic
  | "lowercase" | "lower" => some .lowercase
  | "uppercase" | "upper" => some .uppercase
  | "whitespace" | "wspace" | "space" => some .blank
  | "asciihexdigit" | "ahex" => some (.ofRanges [('0', '9'), ('A', 'F'), ('a', 'f')])
  | "hexdigit" | "hex" =>
    some (.ofRanges [('0', '9'), ('A', 'F'), ('a', 'f'), ('\uff10', '\uff19'), ('\uff21', '\uff26'),
      ('\uff41', '\uff46')])
  | "joincontrol" | "joinc" => some (.range '\u200c' '\u200d')
  | _ => none

def script? (name : Text) : Option CharSet := (Text.Script.named? name).map .script

def named? (name : Text) : Option CharSet :=
  let name := normalize name
  (binary? name).or ((category? name).or (script? name))

def valued? (property value : Text) : Option CharSet :=
  match String.ofList (normalize property) with
  | "gc" | "generalcategory" => category? (normalize value)
  | "sc" | "script" => script? (normalize value)
  | _ => none

def splitAt? (separator : Text) : Text → Option (Text × Text)
  | [] => none
  | c :: rest =>
    if separator.isPrefixOf (c :: rest) then some ([], (c :: rest).drop separator.length)
    else (splitAt? separator rest).map fun (a, b) => (c :: a, b)

/-- What stands between the braces of a property, such as a name or a name with its value. -/
def ofQuery? (query : Text) : Option CharSet :=
  match splitAt? "!=" query with
  | some (property, value) => (valued? property value).map .compl
  | none =>
    match (splitAt? ":" query).or (splitAt? "=" query) with
    | some (property, value) => valued? property value
    | none => named? query

end TemplateCheck.Pattern.Property
