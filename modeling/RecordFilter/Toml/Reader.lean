import RecordFilter.Toml.Scalars
import RecordFilter.Toml.Strings

/-!
# Reading configuration documents

A document is read statement by statement.  Tables may be opened by a header, by a dotted key, or
in one piece as a value.  What is written in one piece stays as it is, and a table that a header
has opened is not opened again; marks on keys keep track of that.
-/

namespace RecordFilter.Toml

open Number Text

abbrev Key := List String

abbrev Entries := List (String × Toml)

/-! ## Tables -/

def replaceEntry (entries : Entries) (name : String) (value : Toml) : Entries :=
  entries.map fun entry => if entry.1 == name then (name, value) else entry

/-- Changes the table behind a key, which is made if there is none.  The last table of a list of
tables counts as the table behind the key of the list, where lists may be entered. -/
def updateTable (entersLists : Bool) (change : Entries → Option Entries) :
    Key → Entries → Option Entries
  | [], entries => change entries
  | name :: path, entries =>
      match entries.lookup name with
      | none =>
          (updateTable entersLists change path []).map fun inner =>
            entries ++ [(name, .table inner)]
      | some (.table inner) =>
          (updateTable entersLists change path inner).map fun inner =>
            replaceEntry entries name (.table inner)
      | some (.array items) =>
          match entersLists, items.getLast? with
          | true, some (.table inner) =>
              (updateTable entersLists change path inner).map fun inner =>
                replaceEntry entries name (.array (items.dropLast ++ [.table inner]))
          | _, _ => none
      | some _ => none

def appendTable (name : String) (entries : Entries) : Option Entries :=
  match entries.lookup name with
  | none => some (entries ++ [(name, .array [.table []])])
  | some (.array items) => some (replaceEntry entries name (.array (items ++ [.table []])))
  | some _ => none

def addEntry (name : String) (value : Toml) (entries : Entries) : Option Entries :=
  if (entries.lookup name).isSome then none else some (entries ++ [(name, value)])

/-! ## Marks on keys -/

/-- A mark on a key: a table opened by name, or a value that stays as it is with all below it. -/
inductive Mark
  | opened (key : Key)
  | frozen (key : Key)
  deriving DecidableEq, Repr

def isOpened (marks : List Mark) (key : Key) : Bool := marks.contains (.opened key)

def isFrozen (marks : List Mark) (key : Key) : Bool :=
  marks.any fun
    | .frozen other => other.isPrefixOf key
    | .opened _ => false

def unmark (marks : List Mark) (key : Key) : List Mark :=
  marks.filter fun
    | .frozen other | .opened other => !key.isPrefixOf other

/-- A document up to a statement: its content, the marks, those that count from the next header
on, and the key of the table that is open. -/
structure Document where
  content : Entries
  marks : List Mark
  pending : List Mark
  header : Key

namespace Document

def empty : Document := ⟨[], [], [], []⟩

/-- Makes the pending marks count. -/
def settle (d : Document) : Document := { d with marks := d.marks ++ d.pending, pending := [] }

end Document

def isCompound : Toml → Bool
  | .array _ | .table _ => true
  | _ => false

/-! ## Keys and comments -/

def readKeyPart (text : List Char) : Reading String text.length :=
  match text with
  | [] => fail .keyStart []
  | c :: rest =>
      if isBareKeyChar c then
        let name := String.ofList (c :: rest.takeWhile isBareKeyChar)
        .ok ((Parsed.before name rest).dropWhile isBareKeyChar)
      else if c == '\'' then return (← readLiteral "'" isControl rest).map String.ofList
      else if c == '"' then return ((← readBasic false rest).map String.ofList).past
      else fail .keyStart (c :: rest)

def readKey (text : List Char) : Reading Key text.length := do
  let name ← readKeyPart text
  let name := name.dropWhile isSpace
  match name.past.next? with
  | some ('.', point) => do
      let start := point.dropWhile isSpace
      let names ← readKey start.rest
      return start.followedBy (· :: ·) names.past
  | _ => return name.map fun name => [name]
  termination_by text.length
  decreasing_by exact start.short

def skipComment (text : List Char) : Reading Unit (text.length + 1) :=
  let line := text.takeWhile (· != '\n')
  match line.find? isControl with
  | some c =>
      .error (.malformed (.invalidCharacter c)
        (text.length - (line.takeWhile (!isControl ·)).length))
  | none => .ok ((Parsed.before () text).dropWhile (· != '\n'))

def skipBetween (text : List Char) : Reading Unit (text.length + 1) :=
  match (skipBlanks text).next? with
  | some ('#', mark) => do
      let line := mark.skip (← skipComment mark.rest)
      return (line.skip (← skipBetween line.rest)).past
  | _ => .ok (skipBlanks text)
  termination_by text.length
  decreasing_by exact line.short

/-! ## Values -/

def addInlineEntry (entries : Entries) (marks : List Mark) (key : Key) (value : Toml)
    (text : List Char) : Except TomlFailure Entries :=
  if isFrozen marks key then fail (.immutable key) text
  else
    let name := key.getLastD ""
    match updateTable false some key.dropLast entries with
    | none => fail .overwrite text
    | some _ =>
        match updateTable false (addEntry name value) key.dropLast entries with
        | none => fail (.duplicateKey name) text
        | some entries => .ok entries

mutual

def readValue (text : List Char) : Reading Toml text.length :=
  match readString? text with
  | some reading => return (← reading).map fun chars => .string (String.ofList chars)
  | none =>
      match text with
      | [] => fail .value []
      | c :: rest =>
          if c == '[' then do
            let start ← skipBetween rest
            match start.past.next? with
            | some (']', behind) => return behind.map fun _ => .array []
            | _ => do
                let items ← readItems start.rest
                return start.followedBy (fun _ items => .array items) items.past
          else if c.toNat = 123 then
            let start := skipSpaces rest
            match start.past.next? with
            | none => fail .keyStart []
            | some (d, behind) =>
                if d.toNat = 125 then return behind.map fun _ => .table []
                else do
                  let entries ← readEntries [] [] start.rest
                  return start.followedBy (fun _ entries => .table entries) entries.past
          else readScalar (c :: rest)
  termination_by rank text.length 0
  decreasing_by all_goals exact rank_lt_of_shorter _ start.short (by decide)

def readItems (text : List Char) : Reading (List Toml) text.length := do
  let item ← readValue text
  let item := item.skip (← skipBetween item.rest)
  match item.past.next? with
  | some (']', behind) => return behind.map fun item => [item]
  | some (',', comma) => do
      let start := comma.skip (← skipBetween comma.rest)
      match start.past.next? with
      | some (']', behind) => return behind.map fun item => [item]
      | _ => do
          let items ← readItems start.rest
          return start.followedBy (· :: ·) items.past
  | _ => fail .unclosedArray item.rest
  termination_by rank text.length 1
  decreasing_by
    · exact rank_lt_of_lower _ (by decide)
    · exact rank_lt_of_shorter _ start.short (by decide)

def readPair (text : List Char) : Reading (Key × Toml) text.length := do
  let key ← readKey text
  match key.past.next? with
  | some ('=', sign) => do
      let start := sign.dropWhile isSpace
      let value ← readValue start.rest
      return start.followedBy Prod.mk value.past
  | _ => fail .equalsSign key.rest
  termination_by rank text.length 0
  decreasing_by exact rank_lt_of_shorter _ start.short (by decide)

def readEntries (entries : Entries) (marks : List Mark) (text : List Char) :
    Reading Entries text.length := do
  let pair ← readPair text
  let (key, value) := pair.result
  let entries ← addInlineEntry entries marks key value pair.rest
  let entries := (pair.map fun _ => entries).dropWhile isSpace
  match entries.past.next? with
  | none => fail .unclosedTable []
  | some (c, behind) =>
      if c.toNat = 125 then return behind
      else if c == ',' then do
        let marks := if isCompound value then marks ++ [.frozen key] else marks
        let start := behind.dropWhile isSpace
        let entries ← readEntries start.result marks start.rest
        return start.andThen entries.past
      else fail .unclosedTable entries.rest
  termination_by rank text.length 1
  decreasing_by
    · exact rank_lt_of_lower _ (by decide)
    · exact rank_lt_of_shorter _ start.short (by decide)

end

/-! ## Statements -/

def throughKeys (header key : Key) : List Key :=
  (List.range (key.length - 1)).map fun i => header ++ key.take (i + 1)

def assign (d : Document) (key : Key) (value : Toml) (text : List Char) :
    Except TomlFailure Document := do
  let through := throughKeys d.header key
  let table := d.header ++ key.dropLast
  match through.find? (isOpened d.marks) with
  | some opened => fail (.redefined opened) text
  | none => pure ()
  if isFrozen d.marks table then fail (.immutable table) text
  match updateTable true (addEntry (key.getLastD "") value) table d.content with
  | none => fail .overwrite text
  | some content =>
      return { d with
        content
        marks := if isCompound value then d.marks ++ [.frozen (d.header ++ key)] else d.marks
        pending := d.pending ++ through.map .opened }

def openTable (d : Document) (key : Key) (text : List Char) : Except TomlFailure Document :=
  if isOpened d.marks key || isFrozen d.marks key then fail (.declaredTwice key) text
  else
    match updateTable true some key d.content with
    | none => fail .overwrite text
    | some content =>
        match text with
        | ']' :: _ =>
            .ok { d with content, marks := d.marks ++ [.opened key], header := key }
        | text => fail .tableEnd text

def openItem (d : Document) (key : Key) (text : List Char) : Except TomlFailure Document :=
  if isFrozen d.marks key then fail (.immutable key) text
  else
    match updateTable true (appendTable (key.getLastD "")) key.dropLast d.content with
    | none => fail .overwrite text
    | some content =>
        match text with
        | ']' :: ']' :: _ =>
            .ok { d with content, marks := unmark d.marks key ++ [.opened key], header := key }
        | text => fail .tableArrayEnd text

def readStatement (d : Document) (text : List Char) : Reading Document text.length :=
  match text with
  | '[' :: '[' :: rest => do
      let start := skipSpaces rest
      let key ← readKey start.rest
      let d ← openItem d.settle key.result key.rest
      let header := start.andThen key.past
      return (((header.drop 2).dropWhile isSpace).map fun _ => d).past
  | '[' :: rest => do
      let start := skipSpaces rest
      let key ← readKey start.rest
      let d ← openTable d.settle key.result key.rest
      let header := start.andThen key.past
      return ((header.drop 1).dropWhile isSpace).map fun _ => d
  | c :: rest =>
      if startsKey c then do
        let pair ← readPair (c :: rest)
        let d ← assign d pair.result.1 pair.result.2 pair.rest
        return (pair.dropWhile isSpace).map fun _ => d
      else fail .statement (c :: rest)
  | [] => fail .statement []

def endLine (text : List Char) : Reading Unit (text.length + 1) :=
  match text with
  | [] => .ok (.before () [])
  | '\n' :: rest => .ok (Parsed.before () rest).past
  | text => fail .statementEnd text

def readLineEnd (text : List Char) : Reading Unit (text.length + 1) :=
  match text with
  | '#' :: rest => do
      let comment ← skipComment rest
      return (comment.skip (← endLine comment.rest)).past
  | text => endLine text

def readStatements (d : Document) (text : List Char) : Except TomlFailure Document :=
  match (skipSpaces text).next? with
  | none => .ok d
  | some (c, behind) =>
      if c == '\n' then readStatements d behind.rest
      else if c == '#' then do
        let comment := behind.skip (← skipComment behind.rest)
        let line := comment.skip (← endLine comment.rest)
        readStatements d line.rest
      else do
        let statement := behind.andThen (← readStatement d (c :: behind.rest))
        let line := statement.skip (← readLineEnd statement.rest)
        readStatements line.result line.rest
  termination_by text.length
  decreasing_by
    · exact behind.short
    · exact line.short
    · exact line.short

/-- A carriage return in front of a line feed does not count. -/
def withoutReturns : List Char → List Char
  | '\r' :: '\n' :: rest => '\n' :: withoutReturns rest
  | c :: rest => c :: withoutReturns rest
  | [] => []

def read (text : String) : Except TomlFailure Entries :=
  (readStatements .empty (withoutReturns text.toList)).map (·.content)

end RecordFilter.Toml
