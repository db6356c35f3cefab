import SymbolIndex.Text.Numeral
import SymbolIndex.Text.Quoted

/-!
# Grammars of command lines

A grammar lists the switches that a command knows, which begin with a dash, and the operands that
it expects. A value may be confined to some words or to whole numbers above zero.
-/

namespace SymbolIndex.CommandLine

/-! ### Values -/

/-- What a value must be. -/
inductive Domain where
  | text
  | oneOf (words : List String)
  | positive
  deriving DecidableEq, Repr

/-- A value in its domain. -/
inductive Value where
  | text (s : String)
  | number (n : Nat)
  deriving DecidableEq, Repr

/-- What is wrong with the value of a switch or an operand. -/
inductive Problem where
  | noValue
  | needlessValue (given : String)
  | notOneOf (given : String) (words : List String)
  | notNumber (given : String)
  | notPositive
  deriving DecidableEq, Repr

def Problem.message : Problem → String
  | .noValue => "expected one argument"
  | .needlessValue given => "ignored explicit argument " ++ Text.quoted given
  | .notOneOf given words => "invalid choice: " ++ Text.quoted given ++ " (choose from " ++
      ", ".intercalate (words.map Text.quoted) ++ ")"
  | .notNumber given => "invalid integer value: " ++ Text.quoted given
  | .notPositive => "value must be >= 1"

def Domain.read (d : Domain) (given : String) : Except Problem Value :=
  match d with
  | .text => .ok (.text given)
  | .oneOf words => if given ∈ words then .ok (.text given) else .error (.notOneOf given words)
  | .positive =>
    match Text.Numeral.read? given.toList with
    | some n => if 0 < n then .ok (.number n.toNat) else .error .notPositive
    | none => .error (.notNumber given)

/-! ### Switches and operands -/

/-- What a switch does: it asks for help, it is there or not, or it has a value. -/
inductive Switch.Kind where
  | help
  | flag
  | value (domain : Domain) (isRequired : Bool)
  deriving DecidableEq, Repr

/-- A switch with its long spelling and, unless it has a value, perhaps a short one. -/
structure Switch where
  long : String
  short? : Option Char
  kind : Switch.Kind
  deriving DecidableEq, Repr

namespace Switch

def help : Switch := ⟨"--help", some 'h', .help⟩

def flag (long : String) : Switch := ⟨long, none, .flag⟩

def value (long : String) (domain : Domain) : Switch := ⟨long, none, .value domain false⟩

def required (long : String) (domain : Domain) : Switch := ⟨long, none, .value domain true⟩

def isRequired (s : Switch) : Bool :=
  match s.kind with
  | .value _ r => r
  | _ => false

/-- All spellings, for messages. -/
def name (s : Switch) : String :=
  match s.short? with
  | some c => String.ofList ['-', c, '/'] ++ s.long
  | none => s.long

end Switch

/-- How many arguments an operand takes; one that takes everything takes what looks like switches
as well. -/
inductive Arity where
  | one
  | optional
  | many
  | everything
  deriving DecidableEq, Repr

structure Operand where
  name : String
  arity : Arity
  deriving DecidableEq, Repr

/-- Only the last operand of a grammar may have the arity `many` or `everything`, and behind an
optional one all are optional, so that no operand takes what a later one needs. -/
structure Grammar where
  operands : List Operand
  switches : List Switch
  deriving DecidableEq, Repr

end SymbolIndex.CommandLine
