import SchemaGate.Pattern.Basic

/-!
# Reading patterns

The notation of patterns.  The classes of digits, word characters and blanks are first written out as
bracketed sets, and it is this form of a pattern that messages show.
-/

namespace SchemaGate.Pattern

def blankClass : String :=
  " \t\n\r\u000b\u000c\u00a0\ufeff\u2003\u2029"

/-- The bracketed set that a class escape stands for. -/
def writtenClass? : Char → Option String
  | 'd' => some "[0-9]"
  | 'D' => some "[^0-9]"
  | 'w' => some "[A-Za-z0-9_]"
  | 'W' => some "[^A-Za-z0-9_]"
  | 's' => some ("[" ++ blankClass ++ "]")
  | 'S' => some ("[^" ++ blankClass ++ "]")
  | _ => none

def writeOutChars : List Char → List Char
  | '\\' :: c :: rest =>
    match writtenClass? c with
    | some text => text.toList ++ writeOutChars rest
    | none => '\\' :: c :: writeOutChars rest
  | c :: rest => c :: writeOutChars rest
  | [] => []

def writeOut (text : String) : String :=
  String.ofList (writeOutChars text.toList)

def lineEnds : CharSet := [(10, 10)]

def one (c : Char) : CharSet := [(c.toNat, c.toNat)]

def hexValue? (c : Char) : Option Nat :=
  if c.isDigit then some (c.toNat - 48)
  else if 'a' ≤ c ∧ c ≤ 'f' then some (c.toNat - 87)
  else if 'A' ≤ c ∧ c ≤ 'F' then some (c.toNat - 55)
  else none

def hexNumber? (digits : List Char) : Option Nat :=
  if digits.isEmpty then none
  else digits.foldlM (fun n c => (hexValue? c).map (n * 16 + ·)) 0

def codePoint? (n : Nat) : Option Char :=
  if n < 0xD800 ∨ (0xDFFF < n ∧ n < 0x110000) then some (Char.ofNat n) else none

/-- Reads a code point of `width` digits, or of any number of them in braces. -/
def readCodePoint (width : Nat) : List Char → Option (Char × List Char)
  | '\x7b' :: rest => do
    let digits := rest.takeWhile (· != '\x7d')
    let n ← hexNumber? digits
    let c ← codePoint? n
    if digits.length < rest.length then some (c, rest.drop (digits.length + 1)) else none
  | cs => do
    if cs.length < width then none
    else
      let n ← hexNumber? (cs.take width)
      let c ← codePoint? n
      some (c, cs.drop width)

def readEscape : List Char → Option (Char × List Char)
  | [] => none
  | c :: rest =>
    match c with
    | 'n' => some ('\n', rest)
    | 't' => some ('\t', rest)
    | 'r' => some ('\r', rest)
    | 'f' => some ('\x0c', rest)
    | 'v' => some ('\x0b', rest)
    | 'a' => some ('\x07', rest)
    | 'x' => readCodePoint 2 rest
    | 'u' => readCodePoint 4 rest
    | 'U' => readCodePoint 8 rest
    | 'c' =>
      match rest with
      | l :: rest => if l.isAlpha then some (Char.ofNat (l.toNat % 32), rest) else none
      | [] => none
    | c => if c.isAlphanum || 0x80 ≤ c.toNat then none else some (c, rest)

def readNumber (cs : List Char) : Option (Nat × List Char) :=
  let digits := cs.takeWhile Char.isDigit
  if digits.isEmpty then none
  else some (digits.foldl (fun n c => n * 10 + (c.toNat - 48)) 0, cs.dropWhile Char.isDigit)

def readBounds (cs : List Char) : Option ((Nat × Option Nat) × List Char) := do
  let (least, rest) ← readNumber cs
  match rest with
  | '\x7d' :: rest => some ((least, some least), rest)
  | ',' :: '\x7d' :: rest => some ((least, none), rest)
  | ',' :: rest => do
    let (most, rest) ← readNumber rest
    match rest with
    | '\x7d' :: rest => some ((least, some most), rest)
    | _ => none
  | _ => none

/-- Reads the marks of repetition that follow a part; a mark that asks for few copies changes nothing. -/
def readTimes : (fuel : Nat) → Pattern → List Char → Option (Pattern × List Char)
  | 0, p, cs => some (p, cs)
  | fuel + 1, p, cs =>
    let lazily := fun rest => match rest with
      | '?' :: rest => rest
      | rest => rest
    match cs with
    | '*' :: rest => readTimes fuel (.times p 0 none) (lazily rest)
    | '+' :: rest => readTimes fuel (.times p 1 none) (lazily rest)
    | '?' :: rest => readTimes fuel (.times p 0 (some 1)) (lazily rest)
    | '\x7b' :: rest =>
      match readBounds rest with
      | some ((least, most), rest) =>
        if (most.map fun m => decide (m < least)).getD false then none
        else readTimes fuel (.times p least most) (lazily rest)
      | none => some (p, cs)
    | cs => some (p, cs)

/-- Reads the members of a bracketed set up to its closing bracket, which may stand for itself where
the set begins. -/
def readSet : (fuel : Nat) → (first : Bool) → CharSet → List Char → Option (CharSet × List Char)
  | 0, _, _, _ => none
  | _ + 1, _, _, [] => none
  | fuel + 1, first, chars, c :: rest =>
    if c = ']' ∧ !first then some (chars, rest)
    else if c = '[' then
      match rest with
      | '^' :: rest => do
        let (inner, rest) ← readSet fuel true [] rest
        readSet fuel false (chars ++ inner.complement) rest
      | rest => do
        let (inner, rest) ← readSet fuel true [] rest
        readSet fuel false (chars ++ inner) rest
    else do
      let (low, rest) ← if c = '\\' then readMember rest else some (c, rest)
      match rest with
      | '-' :: ']' :: _ => readSet fuel false (chars ++ one low) rest
      | '-' :: h :: rest => do
        let (high, rest) ← if h = '\\' then readMember rest else some (h, rest)
        if high < low then none
        else readSet fuel false (chars ++ [(low.toNat, high.toNat)]) rest
      | rest => readSet fuel false (chars ++ one low) rest
where
  /-- In a set the escape of a word edge stands for the backspace. -/
  readMember : List Char → Option (Char × List Char)
    | 'b' :: rest => some ('\x08', rest)
    | cs => readEscape cs

def readBracket (cs : List Char) : Option (Pattern × List Char) :=
  match cs with
  | '^' :: rest => (readSet (rest.length + 1) true [] rest).map fun (s, rest) =>
      (.set s.complement, rest)
  | rest => (readSet (rest.length + 1) true [] rest).map fun (s, rest) => (.set s, rest)

/-- What a group asks for, and the group's text after its mark. -/
def groupMark : List Char → Option ((Pattern → Pattern) × List Char)
  | '?' :: ':' :: rest => some (id, rest)
  | '?' :: '=' :: rest => some (.ahead true, rest)
  | '?' :: '!' :: rest => some (.ahead false, rest)
  | '?' :: '<' :: '=' :: rest => some (.behind true, rest)
  | '?' :: '<' :: '!' :: rest => some (.behind false, rest)
  | '?' :: 'P' :: '<' :: rest => named rest
  | '?' :: '<' :: rest => named rest
  | '?' :: _ => none
  | rest => some (id, rest)
where
  named (rest : List Char) : Option ((Pattern → Pattern) × List Char) :=
    let name := rest.takeWhile fun c => c.isAlphanum || c = '_'
    match rest.drop name.length with
    | '>' :: rest => if name.isEmpty then none else some (id, rest)
    | _ => none

mutual

/-- Reads alternatives up to a closing parenthesis or the end of the text. -/
def readAlternatives : (fuel : Nat) → List Char → Option (Pattern × List Char)
  | 0, _ => none
  | fuel + 1, cs => do
    let (p, rest) ← readSequence fuel .empty cs
    match rest with
    | '|' :: rest => do
      let (q, rest) ← readAlternatives fuel rest
      some (.alt p q, rest)
    | rest => some (p, rest)

/-- Reads parts up to a bar, a closing parenthesis or the end of the text. -/
def readSequence : (fuel : Nat) → Pattern → List Char → Option (Pattern × List Char)
  | 0, _, _ => none
  | _ + 1, before, [] => some (before, [])
  | fuel + 1, before, c :: rest =>
    if c = '|' ∨ c = ')' then some (before, c :: rest)
    else do
      let (p, rest) ← readPart fuel c rest
      let (p, rest) ← readTimes (rest.length + 1) p rest
      readSequence fuel (.seq before p) rest

def readPart : (fuel : Nat) → Char → List Char → Option (Pattern × List Char)
  | 0, _, _ => none
  | fuel + 1, c, rest =>
    match c with
    | '(' => do
      let (mark, rest) ← groupMark rest
      let (p, rest) ← readAlternatives fuel rest
      match rest with
      | ')' :: rest => some (mark p, rest)
      | _ => none
    | '[' => readBracket rest
    | '.' => some (.set lineEnds.complement, rest)
    | '^' => some (.textStart, rest)
    | '$' => some (.textEnd, rest)
    | '*' => none
    | '+' => none
    | '?' => none
    | '\\' =>
      match rest with
      | 'b' :: rest => some (.wordEdge true, rest)
      | 'B' :: rest => some (.wordEdge false, rest)
      | 'A' :: rest => some (.textStart, rest)
      | 'z' :: rest => some (.textEnd, rest)
      | rest => (readEscape rest).map fun (c, rest) => (.set (one c), rest)
    | c => some (.set (one c), rest)

end

/-- The pattern that a text stands for, if it is well formed.  The notation is smaller than that of schemas:
a text with a back-reference, with flags as in `(?i)` or with a Unicode class as in `\p{L}` stands for no
pattern, and a named class as in `[[:alpha:]]` is read as the set of its characters. -/
def parse? (text : String) : Option Pattern :=
  let cs := (writeOut text).toList
  match readAlternatives (3 * cs.length + 3) cs with
  | some (p, []) => some p
  | _ => none

end SchemaGate.Pattern
