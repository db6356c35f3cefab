import SymbolIndex.CommandLine.Grammar
import SymbolIndex.Unicode.Digit

/-!
# Arguments

The arguments of a command line are first told apart by what they look like: switches, with all
that is joined to them, and words. `Grammar.read` then goes through them from the front. A switch
takes the word behind it if it needs a value; operands take words as soon as there are some. What
fits nowhere is kept, for the caller to refuse.
-/

namespace SymbolIndex.CommandLine

inductive UsageError where
  | ambiguous (given : String) (candidates : List String)
  | argument (name : String) (problem : Problem)
  | missing (names : List String)
  | unrecognized (arguments : List String)
  deriving DecidableEq, Repr

def UsageError.message : UsageError → String
  | .ambiguous given candidates =>
    "ambiguous option: " ++ given ++ " could match " ++ ", ".intercalate candidates
  | .argument name problem => "argument " ++ name ++ ": " ++ problem.message
  | .missing names => "the following arguments are required: " ++ ", ".intercalate names
  | .unrecognized arguments => "unrecognized arguments: " ++ " ".intercalate arguments

/-- Why reading stops: a request for help, or an error. -/
inductive Stop where
  | help
  | usage (e : UsageError)
  deriving DecidableEq, Repr

/-! ### What arguments look like -/

/-- A separator, a word, a long switch with the value joined to it by an equals sign, a short
switch with the characters behind it, or a switch that the grammar does not have. -/
inductive Look where
  | separator
  | word
  | long (s : Switch) (value : Option String)
  | short (s : Switch) (tail : List Char)
  | unknown
  deriving DecidableEq, Repr

structure Item where
  text : String
  look : Look
  deriving DecidableEq, Repr

def Item.isSeparator (i : Item) : Bool := i.look == .separator

def Item.isWord (i : Item) : Bool := i.look == .word

def Item.isSwitch (i : Item) : Bool := !(i.isSeparator || i.isWord)

def isDigit (c : Char) : Bool := (Unicode.digitValue? c).isSome

/-- Whether the text behind a dash makes a negative number of it: digits, with a point among or
before them. A line feed may end it. -/
def isNumber (s : List Char) : Bool :=
  let s := if s.getLast? = some '\n' then s.dropLast else s
  match s.dropWhile isDigit with
  | [] => s ≠ []
  | '.' :: decimals => decimals ≠ [] ∧ decimals.all isDigit
  | _ => false

/-- A text before its first equals sign, and behind it if there is one. -/
def splitEquals : List Char → List Char × Option (List Char)
  | [] => ([], none)
  | c :: rest =>
    if c = '=' then ([], some rest)
    else
      let (before, behind) := splitEquals rest
      (c :: before, behind)

namespace Grammar

def short? (g : Grammar) (c : Char) : Option Switch := g.switches.find? fun s => s.short? == some c

/-- The switches that a long spelling may stand for: the one that has it, or else all that begin
with it. -/
def candidates (g : Grammar) (spelling : List Char) : List Switch :=
  match g.switches.find? fun s => s.long.toList == spelling with
  | some s => [s]
  | none => g.switches.filter fun s => spelling.isPrefixOf s.long.toList

/-- The look of an argument with a dash that is no known switch. -/
def otherLook (text : String) : Look :=
  if isNumber (text.toList.drop 1) || text.toList.contains ' ' then .word else .unknown

def look (g : Grammar) (text : String) : Except UsageError Look :=
  match text.toList with
  | '-' :: '-' :: rest =>
    let (spelling, value) := splitEquals ('-' :: '-' :: rest)
    match g.candidates spelling with
    | [] => .ok (otherLook text)
    | [s] => .ok (.long s (value.map String.ofList))
    | several => .error (.ambiguous text (several.map (·.long)))
  | '-' :: c :: tail =>
    match g.short? c with
    | some s => .ok (.short s tail)
    | none => .ok (otherLook text)
  | _ => .ok .word

/-- The arguments by their look. Behind the first double dash all are words. -/
def items (g : Grammar) : List String → Except UsageError (List Item)
  | [] => .ok []
  | text :: rest =>
    if text = "--" then .ok (⟨text, .separator⟩ :: rest.map (⟨·, .word⟩))
    else do
      let look ← g.look text
      return ⟨text, look⟩ :: (← g.items rest)

end Grammar

/-! ### What was read -/

/-- What a switch with a value comes to: it may be absent, or lack its value. -/
inductive Choice (α : Type) where
  | absent
  | noValue
  | value (a : α)
  deriving DecidableEq, Repr

def Choice.value? {α : Type} : Choice α → Option α
  | .value a => some a
  | _ => none

/-- What was read: the values given for a switch or operand, by its name, and the arguments that
fit nowhere. -/
structure Arguments where
  given : List (String × List Value)
  extras : List String
  deriving DecidableEq, Repr

namespace Arguments

def add (a : Arguments) (name : String) (values : List Value) : Arguments :=
  { a with given := a.given ++ [(name, values)] }

def addExtras (a : Arguments) (texts : List String) : Arguments :=
  { a with extras := a.extras ++ texts }

def has (a : Arguments) (name : String) : Bool := a.given.any fun e => e.1 == name

/-- The values of a name; of several that were given the last count. -/
def values (a : Arguments) (name : String) : List Value :=
  ((a.given.reverse.find? fun e => e.1 == name).map (·.2)).getD []

def texts (a : Arguments) (name : String) : List String :=
  (a.values name).filterMap fun
    | .text s => some s
    | .number _ => none

def text? (a : Arguments) (name : String) : Option String := (a.texts name).head?

def number (a : Arguments) (name : String) : Choice Nat :=
  match a.values name with
  | .number n :: _ => .value n
  | _ => if a.has name then .noValue else .absent

end Arguments

/-! ### Operands -/

namespace Operand

/-- How many items an operand takes, separators around its words included. -/
def take? (o : Operand) (items : List Item) : Option Nat :=
  let lead := (items.takeWhile Item.isSeparator).length
  let rest := items.drop lead
  let trail (n : Nat) := ((rest.drop n).takeWhile Item.isSeparator).length
  let hasWord := (rest.head?.map Item.isWord).getD false
  match o.arity with
  | .one => if hasWord then some (lead + 1 + trail 1) else none
  | .optional => if hasWord then some (lead + 1 + trail 1) else some lead
  | .many =>
    if hasWord then some (lead + (rest.takeWhile fun i => !i.isSwitch).length) else none
  | .everything => if hasWord then some items.length else none

/-- The values in the texts that an operand took. The first double dash is none of them, except
where everything is taken; a single value that is left without a text is an empty list. -/
def values (o : Operand) (taken : List String) : List Value :=
  match o.arity with
  | .everything => taken.map .text
  | .one =>
    match taken.erase "--" with
    | [] => [.text "[]"]
    | texts => texts.map .text
  | _ => (taken.erase "--").map .text

end Operand

/-- Gives the operands their words, as long as there are enough for the next of them. Returns
the operands and the items that are left. -/
def fill : List Operand → List Item → Arguments → List Operand × List Item × Arguments
  | [], items, a => ([], items, a)
  | o :: os, items, a =>
    match o.take? items with
    | none => (o :: os, items, a)
    | some n => fill os (items.drop n) (a.add o.name (o.values ((items.take n).map (·.text))))

/-! ### Switches -/

namespace Grammar

/-- A short switch and those that are joined to it, each as its letter. Letters of no switch are
taken for a value, which no short switch may have. -/
def joined (g : Grammar) (s : Switch) : (letters : List Char) → Except UsageError (List Switch)
  | [] => .ok [s]
  | c :: rest =>
    match g.short? c with
    | some t => do return s :: (← g.joined t rest)
    | none => .error (.argument s.name (.needlessValue (String.ofList (c :: rest))))

/-- The switches that a short one and the characters behind it stand for. An equals sign may part
them if something follows it. -/
def cluster (g : Grammar) (s : Switch) : (tail : List Char) → Except UsageError (List Switch)
  | ['='] => .error (.argument s.name (.needlessValue ""))
  | '=' :: letters => g.joined s letters
  | letters => g.joined s letters

end Grammar

/-- Notes a switch without a value. -/
def Switch.use (a : Arguments) (s : Switch) : Except Stop Arguments :=
  match s.kind with
  | .help => .error .help
  | _ => .ok (a.add s.long [])

/-- Notes a switch with its value, if it may have one. A double dash is no value, so a switch that
is joined to it lacks its own. -/
def Switch.useWith (a : Arguments) (s : Switch) (text : String) : Except Stop Arguments :=
  match s.kind with
  | .value domain _ =>
    if text = "--" then .ok (a.add s.long [])
    else
      match domain.read text with
      | .ok v => .ok (a.add s.long [v])
      | .error p => .error (.usage (.argument s.name p))
  | _ => .error (.usage (.argument s.name (.needlessValue text)))

/-- Reads the switch at the front; says how many of the items behind it belong to it. -/
def Grammar.readSwitch (g : Grammar) (item : Item) (rest : List Item) (a : Arguments) :
    Except Stop (Nat × Arguments) :=
  match item.look with
  | .short s tail => do
    return (0, ← (← (g.cluster s tail).mapError .usage).foldlM Switch.use a)
  | .long s (some text) => do return (0, ← s.useWith a text)
  | .long s none =>
    match s.kind, rest with
    | .value .., value :: _ =>
      if value.isWord then do return (1, ← s.useWith a value.text)
      else .error (.usage (.argument s.name .noValue))
    | .value .., [] => .error (.usage (.argument s.name .noValue))
    | _, _ => do return (0, ← s.use a)
  | _ => .ok (0, a.addExtras [item.text])

/-! ### Reading -/

/-- Reads items from the front; returns the operands that were not reached. -/
def Grammar.scan (g : Grammar) (operands : List Operand) (items : List Item) (a : Arguments) :
    Except Stop (List Operand × Arguments) :=
  match items with
  | [] => .ok (operands, a)
  | item :: rest =>
    if item.isSwitch then do
      let (n, a) ← g.readSwitch item rest a
      g.scan operands (rest.drop n) a
    else
      let (operands, left, a) := fill operands (item :: rest) a
      if left.length < rest.length + 1 then g.scan operands left a
      else g.scan operands rest (a.addExtras [item.text])
termination_by items.length
decreasing_by all_goals simp only [List.length_drop, List.length_cons]; omega

/-- What is missing: operands that need a word, and required switches. -/
def Grammar.missing (g : Grammar) (operands : List Operand) (a : Arguments) : List String :=
  (operands.filter fun o => o.arity != .optional).map (·.name) ++
    (g.switches.filter fun s => s.isRequired && !a.has s.long).map (·.name)

def Grammar.read (g : Grammar) (texts : List String) : Except Stop Arguments := do
  let items ← (g.items texts).mapError .usage
  let (operands, a) ← g.scan g.operands items ⟨[], []⟩
  match g.missing operands a with
  | [] => return a
  | names => throw (.usage (.missing names))

end SymbolIndex.CommandLine
