import SymbolIndex.CharRef.Basic
import SymbolIndex.Key.Escape
import SymbolIndex.Record.Basic
import SymbolIndex.SearchData.Strings
import SymbolIndex.Shard

/-!
# Search data files

The script files of a generated HTML tree, one variable each: an array of rows
`['escaped_key',['Name',['url',1,'scope'],...]]`. Names and scopes carry character references.
`read` gives the records of such a file, `render` writes a shard as one.
-/

namespace SymbolIndex.SearchData

/-! ### Reading -/

inductive Error where
  | noVariable
  | unreadable (e : Json.ReadError)
  | notArray
  | badRow (row : Json)
  | badOccurrence (key : Json)
  | hugeReference (e : CharRef.HugeNumeral)
  | unencodable (u : Text.Utf8.Unencodable)

def Error.message : Error → String
  | .noVariable => "missing 'var searchData=' prefix"
  | .unreadable (.hugeInteger n) => (Json.ReadError.hugeInteger n).message
  | .unreadable e => "unparseable searchData array: " ++ e.message
  | .notArray => "searchData must be an array"
  | .badRow row => "malformed searchData row: " ++ row.literal
  | .badOccurrence key => "malformed occurrence in row " ++ key.literal
  | .hugeReference e => (Json.ReadError.hugeInteger e.digits).message
  | .unencodable u => u.message

/-- Whether the text is no search data file, and not a number in it too long or a key without
bytes. -/
def Error.isFormat : Error → Bool
  | .unreadable e => e.isMalformed
  | .hugeReference _ | .unencodable _ => false
  | _ => true

/-- The text behind a word. -/
def afterWord? : (word : List Char) → List Char → Option (List Char)
  | [], s => some s
  | _ :: _, [] => none
  | w :: ws, c :: rest => if w = c then afterWord? ws rest else none

/-- The text behind `var searchData =`. -/
def afterVariable? (s : List Char) : Option (List Char) := do
  let rest ← afterWord? ['v', 'a', 'r'] (Unicode.trimStart s)
  if (rest.head?.map Unicode.isBlank).getD false then
    let rest ← afterWord? "searchData".toList (Unicode.trimStart rest)
    let rest ← afterWord? ['='] (Unicode.trimStart rest)
    return Unicode.trimStart rest
  else none

/-- A text without the semicolons at its end and the blanks around it and them. -/
def trimBody (s : List Char) : List Char :=
  Unicode.trim (((Unicode.trim s).reverse.dropWhile (· = ';')).reverse)

/-- A text with its references replaced; anything else is empty text. -/
def plainText (v : Json) : Except Error String :=
  match v with
  | .str s =>
    match CharRef.unescape s.toList with
    | .ok t => .ok (String.ofList t)
    | .error e => .error (.hugeReference e)
  | _ => .ok ""

def readOccurrence (key : Json) : Json → Except Error Occurrence
  | .arr (.str url :: rest) => do return ⟨url, ← plainText ((rest[1]?).getD (.str ""))⟩
  | _ => .error (.badOccurrence key)

/-- The key of a row, given its code points; anything but a string is an empty key. -/
def readKey (points : List Text.Utf8.CodePoint) : Json → Except Error String
  | .str key =>
    match Key.unencodable? 0 points with
    | some u => .error (.unencodable u)
    | none => .ok (Key.unescape key)
  | _ => .ok ""

/-- The record of a row, given the code points of its key. -/
def readRow (points : List Text.Utf8.CodePoint) (row : Json) : Except Error Record :=
  match row with
  | .arr [key, .arr (name :: places)] => do
    let occurrences ← places.mapM (readOccurrence key)
    let rawName ← readKey points key
    return .ofText rawName (← plainText name) occurrences
  | _ => .error (.badRow row)

/-- The array of a search data file, in double quotes. -/
def arrayText (body : List Char) : List Char := requote (trimBody body)

def read (text : String) : Except Error (List Record) := do
  match afterVariable? text.toList with
  | none => throw .noVariable
  | some body =>
    match ← (Json.read (arrayText body)).mapError .unreadable with
    | .arr rows =>
      ((Json.arrayTexts (arrayText body)).zip rows).mapM fun (text, row) =>
        readRow (Json.headPoints text) row
    | _ => throw .notArray

/-! ### Writing -/

/-- A text in single quotes, with references for the characters that need them. -/
def quoteText (s : String) : List Char := quote (CharRef.escape s.toList)

def occurrenceText (o : Occurrence) : List Char :=
  '[' :: quote o.anchorUrl.toList ++ [',', '1', ','] ++ quoteText o.scopeLabel ++ [']']

def rowText (e : Entry) : List Char :=
  [' ', ' ', '['] ++ quoteText (Key.escape e.key) ++ [',', '['] ++ quoteText e.displayName ++
    ',' :: [','].intercalate (e.occurrences.map occurrenceText) ++ [']', ']']

def render (s : Shard) : String :=
  String.ofList ("var searchData=\n[\n".toList ++
    [',', '\n'].intercalate (s.entries.map rowText) ++ "\n];\n".toList)

def fileName (shardId : String) : String := "searchdata_" ++ shardId ++ ".js"

end SymbolIndex.SearchData
