import SchemaGate.Rules.Basic

/-!
# Formats

Texts of a known form: dates and times, network addresses, references and pointers.
-/

namespace SchemaGate.Rules.Format

/-- The number that a text of exactly `width` decimal digits stands for. -/
def digits? (width : Nat) (cs : List Char) : Option Nat :=
  if cs.length = width ∧ cs.all Char.isDigit then
    some (cs.foldl (fun n c => n * 10 + (c.toNat - 48)) 0)
  else none

def isLeap (year : Nat) : Bool :=
  year % 4 = 0 && (year % 100 ≠ 0 || year % 400 = 0)

def daysIn (year month : Nat) : Nat :=
  if month = 2 then (if isLeap year then 29 else 28)
  else if [4, 6, 9, 11].contains month then 30
  else 31

def isDateChars (cs : List Char) : Bool :=
  match digits? 4 (cs.take 4), digits? 2 ((cs.drop 5).take 2), digits? 2 (cs.drop 8) with
  | some year, some month, some day =>
    cs[4]? = some '-' && cs[7]? = some '-' && 1 ≤ month && month ≤ 12 && 1 ≤ day &&
      day ≤ daysIn year month
  | _, _, _ => false

/-- The offset from universal time in minutes, which a zone's text ends with. -/
def offset? : List Char → Option Int
  | ['Z'] => some 0
  | ['z'] => some 0
  | sign :: rest =>
    match digits? 2 (rest.take 2), digits? 2 (rest.drop 3) with
    | some hours, some minutes =>
      if rest[2]? = some ':' ∧ hours ≤ 23 ∧ minutes ≤ 59 then
        if sign = '+' then some (hours * 60 + minutes)
        else if sign = '-' then some (-(hours * 60 + minutes : Int))
        else none
      else none
    | _, _ => none
  | [] => none

/-- A time of day with its zone; a second beyond the sixtieth ends a day of universal time. -/
def isTimeChars (cs : List Char) : Bool :=
  match digits? 2 (cs.take 2), digits? 2 ((cs.drop 3).take 2), digits? 2 ((cs.drop 6).take 2) with
  | some hour, some minute, some second =>
    let rest := cs.drop 8
    let zone? : Option (List Char) := match rest with
      | '.' :: more =>
        if (more.head?.map Char.isDigit).getD false then some (more.dropWhile Char.isDigit) else none
      | more => some more
    match zone?.bind offset? with
    | some offset =>
      let ofDay : Int := ((hour * 60 + minute : Nat) - offset) % 1440
      cs[2]? = some ':' && cs[5]? = some ':' && hour ≤ 23 && minute ≤ 59 &&
        (second ≤ 59 || (second = 60 && ofDay = 1439))
    | none => false
  | _, _, _ => false

def isDate (text : String) : Bool :=
  isDateChars text.toList

def isTime (text : String) : Bool :=
  isTimeChars text.toList

def isDateTime (text : String) : Bool :=
  let cs := text.toList
  isDateChars (cs.take 10) && (cs[10]? = some 'T' || cs[10]? = some 't') && isTimeChars (cs.drop 11)

def splitAt (sep : Char) (text : String) : List String :=
  (text.splitToList (· == sep))

def isOctet (text : String) : Bool :=
  let cs := text.toList
  !cs.isEmpty && cs.length ≤ 3 && cs.all Char.isDigit && (cs.length = 1 || cs.head? ≠ some '0') &&
    cs.foldl (fun n c => n * 10 + (c.toNat - 48)) 0 ≤ 255

def isIpv4 (text : String) : Bool :=
  let parts := splitAt '.' text
  parts.length = 4 && parts.all isOctet

def isHexGroup (text : String) : Bool :=
  let cs := text.toList
  !cs.isEmpty && cs.length ≤ 4 && cs.all fun c => (Pattern.hexValue? c).isSome

/-- How many 16-bit groups a run of groups has; the last may be an address of four octets. -/
def groups? (last : Bool) : List String → Option Nat
  | [] => some 0
  | [part] =>
    if isHexGroup part then some 1 else if last ∧ isIpv4 part then some 2 else none
  | part :: rest => if isHexGroup part then (groups? last rest).map (· + 1) else none

def run? (last : Bool) (text : String) : Option Nat :=
  if text.isEmpty then some 0 else groups? last (splitAt ':' text)

def isIpv6 (text : String) : Bool :=
  match text.splitOn "::" with
  | [whole] => groups? true (splitAt ':' whole) = some 8
  | [front, back] =>
    match run? false front, run? true back with
    | some a, some b => a + b ≤ 7
    | _, _ => false
  | _ => false

/-- One label of a host's name; a wide one may hold letters beyond ASCII. -/
def isLabel (wide : Bool) (text : String) : Bool :=
  let cs := text.toList
  !cs.isEmpty && cs.length ≤ 63 && cs.head? ≠ some '-' && cs.getLast? ≠ some '-' &&
    cs.all fun c => c.isAlphanum || c = '-' || (wide && 0x80 ≤ c.toNat)

def isHostname (wide : Bool) (text : String) : Bool :=
  text.length ≤ 253 && (splitAt '.' text).all (isLabel wide)

def isAtomChar (c : Char) : Bool :=
  c.isAlphanum || "!#$%&'*+-/=?^_\x60\x7b|\x7d~".toList.contains c || 0x80 ≤ c.toNat

def isLocalPart (text : String) : Bool :=
  let cs := text.toList
  if cs.head? = some '"' then 2 ≤ cs.length && cs.getLast? = some '"'
  else (splitAt '.' text).all fun part => !part.isEmpty && part.toList.all isAtomChar

def isDomain (text : String) : Bool :=
  let cs := text.toList
  if cs.head? = some '[' then
    if cs.getLast? ≠ some ']' then false
    else
      let inner := String.ofList (cs.drop 1).dropLast
      if "IPv6:".toList.isPrefixOf (cs.drop 1) then isIpv6 (String.ofList (inner.toList.drop 5))
      else isIpv4 inner
  else isHostname false text

def isEmail (text : String) : Bool :=
  match (splitAt '@' text).reverse with
  | domain :: rest@(_ :: _) =>
    isLocalPart (String.intercalate "@" rest.reverse) && isDomain domain
  | _ => false

def isReferenceChar (wide : Bool) (c : Char) : Bool :=
  c.isAlphanum || "-._~:/?#[]@!$&'()*+,;=".toList.contains c || (wide && 0xA0 ≤ c.toNat)

/-- Whether every percent sign is followed by two hexadecimal digits, and all else is allowed. -/
def isEncoded (allowed : Char → Bool) : List Char → Bool
  | '%' :: a :: b :: rest =>
    (Pattern.hexValue? a).isSome && (Pattern.hexValue? b).isSome && isEncoded allowed rest
  | c :: rest => allowed c && isEncoded allowed rest
  | [] => true

def hasScheme (text : String) : Bool :=
  let cs := text.toList
  let scheme := cs.takeWhile (· != ':')
  scheme.length < cs.length && (scheme.head?.map Char.isAlpha).getD false &&
    scheme.all fun c => c.isAlphanum || c = '+' || c = '-' || c = '.'

def isReference (wide : Bool) (text : String) : Bool :=
  isEncoded (isReferenceChar wide) text.toList && (text.toList.filter (· = '#')).length ≤ 1 &&
    (text.toList.head? ≠ some ':')

def isAbsolute (wide : Bool) (text : String) : Bool :=
  hasScheme text && isReference wide text

/-- Whether every tilde begins one of the two escapes. -/
def isEscaped : List Char → Bool
  | '~' :: '0' :: rest => isEscaped rest
  | '~' :: '1' :: rest => isEscaped rest
  | '~' :: _ => false
  | _ :: rest => isEscaped rest
  | [] => true

def isPointer (text : String) : Bool :=
  text.isEmpty || (text.toList.head? = some '/' && isEscaped text.toList)

def isRelativePointer (text : String) : Bool :=
  let cs := text.toList
  let steps := cs.takeWhile Char.isDigit
  let rest := cs.drop steps.length
  !steps.isEmpty && (steps.length = 1 || steps.head? ≠ some '0') &&
    (rest = ['#'] || isPointer (String.ofList rest))

/-- Whether braces in a template open and close one expression at a time. -/
def isTemplateChars : (inside : Bool) → List Char → Bool
  | inside, [] => !inside
  | inside, c :: rest =>
    if c = '\x7b' then !inside && isTemplateChars true rest
    else if c = '\x7d' then inside && isTemplateChars false rest
    else isTemplateChars inside rest

def isTemplate (text : String) : Bool :=
  isTemplateChars false text.toList

def isPattern (text : String) : Bool :=
  (Pattern.parse? text).isSome

/-- The formats that a version of the schema language asserts. -/
def asserted? (draft : Draft) (name : String) : Option (String → Bool) :=
  if draft.since .draft2019 then none
  else match name with
    | "date" => some isDate
    | "time" => some isTime
    | "date-time" => some isDateTime
    | "email" => some isEmail
    | "idn-email" => some isEmail
    | "hostname" => some (isHostname false)
    | "idn-hostname" => if draft.since .draft7 then some (isHostname true) else none
    | "ipv4" => some isIpv4
    | "ipv6" => some isIpv6
    | "uri" => some (isAbsolute false)
    | "uri-reference" => if draft.since .draft6 then some (isReference false) else none
    | "iri" => if draft.since .draft7 then some (isAbsolute true) else none
    | "iri-reference" => if draft.since .draft7 then some (isReference true) else none
    | "uri-template" => if draft.since .draft6 then some isTemplate else none
    | "json-pointer" => if draft.since .draft6 then some isPointer else none
    | "relative-json-pointer" => if draft.since .draft7 then some isRelativePointer else none
    | "regex" => some isPattern
    | _ => none

end SchemaGate.Rules.Format
