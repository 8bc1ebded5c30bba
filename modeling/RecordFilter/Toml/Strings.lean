import RecordFilter.Toml.Basic

/-!
# Strings of configuration documents

A string between double quotes has escapes, one between apostrophes has none.  Three quotes in a row
begin a string of several lines, which may end with up to two more quotes of its own.
-/

namespace RecordFilter.Toml

def hexValue? (c : Char) : Option Nat :=
  if '0' ≤ c && c ≤ '9' then some (c.toNat - 48)
  else if 'a' ≤ c && c ≤ 'f' then some (c.toNat - 87)
  else if 'A' ≤ c && c ≤ 'F' then some (c.toNat - 55)
  else none

def isScalarValue (code : Nat) : Bool :=
  code < 0xD800 || (0xE000 ≤ code && code < 0x110000)

def readCode (count : Nat) (text : List Char) : Reading (List Char) (text.length + 1) :=
  match (text.take count).mapM hexValue? with
  | some values =>
      if values.length ≠ count then fail .hexValue text
      else
        let code := values.foldl (fun code value => 16 * code + value) 0
        if isScalarValue code then .ok ((Parsed.before [Char.ofNat code] text).drop count)
        else fail .scalarValue (text.drop count)
  | none => fail .hexValue text

def simpleEscape? (c : Char) : Option Char :=
  if c == '"' || c == '\\' then some c
  else if c == 'b' then some (Char.ofNat 8)
  else if c == 't' then some '\t'
  else if c == 'n' then some '\n'
  else if c == 'f' then some (Char.ofNat 12)
  else if c == 'r' then some '\r'
  else none

def readLineBreak (text : List Char) : Reading (List Char) (text.length + 1) :=
  let spaces := (Parsed.before [] text).dropWhile isSpace
  match spaces.past.next? with
  | none => .ok spaces
  | some (c, behind) =>
      if c == '\n' then .ok (behind.dropWhile isBlank) else fail .backslash spaces.rest

/-- What an escape stands for, from behind its backslash.  In a string of several lines a backslash
at the end of a line takes the blanks after it away. -/
def readEscape (multiline : Bool) (text : List Char) : Reading (List Char) (text.length + 1) :=
  match text with
  | [] => fail .backslash []
  | c :: rest =>
      if multiline && isBlank c then readLineBreak (c :: rest)
      else if c == 'u' then return (← readCode 4 rest).past
      else if c == 'U' then return (← readCode 8 rest).past
      else
        match simpleEscape? c with
        | some d => .ok (Parsed.before [d] rest).past
        | none => fail .backslash rest

def readBasic (multiline : Bool) (text : List Char) : Reading (List Char) text.length :=
  match text with
  | [] => fail .unclosedString []
  | c :: rest =>
      if c == '"' then
        if multiline then
          match rest with
          | '"' :: '"' :: behind => .ok (Parsed.before [] behind).past.past
          | rest => return ((← readBasic multiline rest).map (c :: ·)).past
        else .ok (.before [] rest)
      else if c == '\\' then do
        let escaped ← readEscape multiline rest
        let more ← readBasic multiline escaped.rest
        return escaped.followedBy (· ++ ·) more.past
      else if (if multiline then isControlInLine c else isControl c) then
        fail (.illegalCharacter c) (c :: rest)
      else return ((← readBasic multiline rest).map (c :: ·)).past
  termination_by text.length
  decreasing_by
    · exact Nat.lt_succ_self _
    · exact escaped.short
    · exact Nat.lt_succ_self _

def splitAtMark? (mark : List Char) : (text : List Char) →
    Option (Parsed Char (List Char) (text.length + 1))
  | [] => if mark.isEmpty then some (.before [] []) else none
  | c :: rest =>
      if mark.isPrefixOf (c :: rest) then
        some ((Parsed.before [] (c :: rest)).drop mark.length)
      else (splitAtMark? mark rest).map fun p => (p.map (c :: ·)).past

def readLiteral (mark : String) (isIllegal : Char → Bool) (text : List Char) :
    Reading (List Char) (text.length + 1) :=
  match splitAtMark? mark.toList text with
  | none => fail (.expected mark) []
  | some p =>
      match p.result.find? isIllegal with
      | some c =>
          .error (.malformed (.invalidCharacter c)
            (text.length - (p.result.takeWhile (!isIllegal ·)).length))
      | none => .ok p

/-- Up to two more quotes that belong to a string of several lines. -/
def readExtraQuotes {bound : Nat} (quoteMark : Char) (p : Parsed Char (List Char) bound) :
    Parsed Char (List Char) bound :=
  let count := min 2 (p.rest.takeWhile (· == quoteMark)).length
  (p.map (· ++ List.replicate count quoteMark)).drop count

def skipLineFeed (text : List Char) : Parsed Char Unit (text.length + 1) :=
  (Parsed.before () text).drop (if text.head? == some '\n' then 1 else 0)

def readString? (text : List Char) : Option (Reading (List Char) text.length) :=
  match text with
  | '"' :: '"' :: '"' :: rest =>
      let start := skipLineFeed rest
      some <| (readBasic true start.rest).map fun p =>
        (readExtraQuotes '"' (start.andThen p.past)).past.past
  | '"' :: rest => some <| (readBasic false rest).map (·.past)
  | '\'' :: '\'' :: '\'' :: rest =>
      let start := skipLineFeed rest
      some <| (readLiteral "'''" isControlInLine start.rest).map fun p =>
        (readExtraQuotes '\'' (start.andThen p)).past.past
  | '\'' :: rest => some (readLiteral "'" isControl rest)
  | _ => none

end RecordFilter.Toml
