import Mathlib.Algebra.Group.Nat.Defs
import Mathlib.Algebra.Ring.Int.Defs
import Mathlib.Data.List.Basic
import Mathlib.Data.List.Forall2
import RayTraceRenderer.Foundation.Exception

/-! The parser of the console program's command line.

A text is the list of its characters, and a parser that reports an error is lost: the program
ends there, or an exception leaves `parse`.
-/

set_option autoImplicit false

namespace RayTraceRenderer.CommandLine

abbrev Text := List Char

inductive Fault where
  | argumentError (msg : Text)
  | badCast
  | keyNotFound
  | undefined
  deriving DecidableEq, Repr

inductive Any where
  | string (held : Text)
  | strings (held : List Text)
  deriving DecidableEq, Repr

namespace Any

def castString : Any → Except Fault Text
  | string held => .ok held
  | strings _ => .error .badCast

def castStrings : Any → Except Fault (List Text)
  | string _ => .error .badCast
  | strings held => .ok held

end Any

inductive Nargs where
  | fixed (count : Nat)
  | oneOrMore
  | zeroOrMore
  deriving DecidableEq, Repr

-- A negative `char` becomes a `size_t` near 2^64.
def Nargs.ofChar (nargs : Int8) : Nargs :=
  if nargs = 43 then .oneOrMore
  else if nargs = 42 then .zeroOrMore
  else .fixed (nargs.toInt % 2 ^ 64).toNat

namespace Nargs

def admits : Nargs → Nat → Bool
  | fixed count, consumed => count = consumed
  | oneOrMore, consumed => 1 ≤ consumed
  | zeroOrMore, _ => true

def supplied : Nargs → Nat → Bool
  | fixed count, remaining => count ≤ remaining
  | oneOrMore, remaining => remaining ≠ 0
  | zeroOrMore, _ => true

def expects : Nargs → Nat → Bool
  | fixed count, consumed => consumed < count
  | _, _ => true

end Nargs

structure Argument where
  shortName : Text
  name : Text
  optional : Bool
  nargs : Nargs
  deriving DecidableEq, Repr

namespace Argument

def blank : Argument := ⟨[], [], true, .fixed 0⟩

def canonicalName (argument : Argument) : Text :=
  if argument.name.isEmpty then argument.shortName else argument.name

def initially (argument : Argument) : Any :=
  match argument.nargs with
  | .fixed count => if count ≤ 1 then .string [] else .strings []
  | _ => .strings []

def put (argument : Argument) (held : Any) (el : Text) : Except Fault Any :=
  if argument.nargs = .fixed 1 then do
    let _ ← held.castString
    return .string el
  else do
    let inputs ← held.castStrings
    return .strings (inputs ++ [el])

end Argument

-- `values` is the source's `variables_`. `usage` and the choice between an exception and `exit`
-- only show the error.
structure ArgumentParser where
  index : Text → Option Nat
  ignoreFirst : Bool
  required : Nat
  appName : Text
  finalName : Text
  arguments : List Argument
  values : List Any

def delimit (name : Text) : Text := List.replicate (min name.length 2) '-' ++ name

/-- A name as it stands, or the error about it. Names of one and of three characters go
through as they are. -/
def verify (name : Text) : Except Fault Text :=
  if name.isEmpty then
    .error (.argumentError "argument names must be non-empty".toList)
  else if name.length = 2 ∧ name[0]? ≠ some '-' then
    .error (.argumentError ("invalid argument '".toList ++ name ++
      "'. Short names must begin with '-'".toList))
  else if 3 < name.length ∧ (name[0]? ≠ some '-' ∨ name[1]? ≠ some '-') then
    .error (.argumentError ("invalid argument '".toList ++ name ++
      "'. Multi-character names must begin with '--'".toList))
  else .ok name

namespace ArgumentParser

def new : ArgumentParser := ⟨fun _ => none, true, 0, [], [], [], []⟩

def setIndex (index : Text → Option Nat) (name : Text) (place : Nat) : Text → Option Nat :=
  if name.isEmpty then index else Function.update index name (some place)

def insertArgument (parser : ArgumentParser) (arg : Argument) : ArgumentParser :=
  { parser with
    arguments := parser.arguments ++ [arg]
    values := parser.values ++ [arg.initially]
    index := setIndex (setIndex parser.index arg.shortName parser.arguments.length) arg.name
      parser.arguments.length
    required := if arg.optional then parser.required else parser.required + 1 }

def addArgument (parser : ArgumentParser) (name : Text) (nargs : Int8) (optional : Bool) :
    Except Fault ArgumentParser := do
  let name ← verify name
  if 2 < name.length then
    return parser.insertArgument ⟨[], name, optional, Nargs.ofChar nargs⟩
  else
    return parser.insertArgument ⟨name, [], optional, Nargs.ofChar nargs⟩

-- The compiler chooses which of two names is verified first; both errors end the program.
def addNamedArgument (parser : ArgumentParser) (shortName name : Text) (nargs : Int8)
    (optional : Bool) : Except Fault ArgumentParser := do
  let shortName ← verify shortName
  let name ← verify name
  return parser.insertArgument ⟨shortName, name, optional, Nargs.ofChar nargs⟩

def addFinalArgument (parser : ArgumentParser) (name : Text) (nargs : Int8) (optional : Bool) :
    ArgumentParser :=
  insertArgument { parser with finalName := delimit name }
    ⟨[], delimit name, optional, Nargs.ofChar nargs⟩

/-- The words at the end of the line that the final argument takes. With `'+'` it takes one,
and with `'*'` none. -/
def nfinal (final : Argument) : Nat :=
  if final.optional then 0
  else match final.nargs with
    | .fixed count => count
    | .oneOrMore => 1
    | .zeroOrMore => 0

/-- `nrequired--` on a `size_t`. -/
def decrement (count : Nat) : Nat := if count = 0 then 2 ^ 64 - 1 else count - 1

structure Cursor where
  active : Argument
  consumed : Nat
  nrequired : Nat
  values : List Any

variable (parser : ArgumentParser)

/-- `index_[name]`: every name that `parse` looks up so is in the index, or there is no
variable to reach. -/
def position (name : Text) : Nat := (parser.index name).getD 0

def store (values : List Any) (argument : Argument) (place : Nat) (el : Text) :
    Except Fault (List Any) :=
  match values[place]? with
  | none => .error .undefined
  | some held => do
    let held ← argument.put held el
    return values.set place held

def takeInput (cursor : Cursor) (el : Text) : Except Fault Cursor :=
  let activeName := cursor.active.canonicalName
  if cursor.active.nargs.expects cursor.consumed then do
    let values ← store cursor.values cursor.active (parser.position activeName) el
    return { cursor with values, consumed := cursor.consumed + 1 }
  else .error (.argumentError ("attempt to pass too many inputs to ".toList ++ activeName))

def takeKey (cursor : Cursor) (el : Text) (place remaining : Nat) : Except Fault Cursor :=
  if !cursor.active.nargs.admits cursor.consumed then
    .error (.argumentError ("encountered argument ".toList ++ el ++
      " when expecting more inputs to ".toList ++ cursor.active.canonicalName))
  else match parser.arguments[place]? with
  | none => .error .undefined
  | some active =>
    if active.optional ∧ 0 < cursor.nrequired then
      .error (.argumentError ("encountered optional argument ".toList ++ el ++
        " when expecting more required arguments".toList))
    else if !active.nargs.supplied remaining then
      .error (.argumentError ("too few inputs passed to argument ".toList ++ el))
    else .ok {
      active
      consumed := 0
      nrequired := if active.optional then cursor.nrequired else decrement cursor.nrequired
      values := cursor.values }

def takeWords : Cursor → List Text → Except Fault Cursor
  | cursor, [] => .ok cursor
  | cursor, el :: rest => do
    let next ← match parser.index el with
      | none => parser.takeInput cursor el
      | some place => parser.takeKey cursor el place rest.length
    takeWords next rest

/-- The words of the final argument, and how many of them are still missing after them. -/
def takeFinals (final : Argument) : List Any → Nat → List Text → Except Fault (List Any × Nat)
  | values, missing, [] => .ok (values, missing)
  | values, missing, el :: rest =>
    if (parser.index el).isSome then
      .error (.argumentError ("encountered argument specifier ".toList ++ el ++
        " while parsing final required inputs".toList))
    else do
      let values ← store values final (parser.position parser.finalName) el
      takeFinals final values (missing - 1) rest

def final : Argument :=
  if parser.finalName.isEmpty then .blank
  else parser.arguments[parser.position parser.finalName]?.getD .blank

/-- The words that `parse` reads: the first is the program's name unless the caller says so. -/
def given (argv : List Text) : List Text := argv.drop (if parser.ignoreFirst then 1 else 0)

-- No word at all where the first is ignored starts the loops past the end of the words.
def parse (argv : List Text) : Except Fault ArgumentParser :=
  if parser.ignoreFirst ∧ argv = [] then .error .undefined
  else do
    let appName := if parser.appName.isEmpty ∧ parser.ignoreFirst then argv.headD [] else parser.appName
    let final := parser.final
    let nrequired := if final.optional then parser.required else decrement parser.required
    let nfinal := nfinal final
    let words := parser.given argv
    let cursor ← parser.takeWords ⟨.blank, 0, nrequired, parser.values⟩
      (words.take (words.length - nfinal))
    let (values, missing) ← parser.takeFinals final cursor.values nfinal
      (words.drop (words.length - nfinal))
    if 0 < cursor.nrequired ∨ 0 < missing then
      .error (.argumentError ("too few required arguments passed to ".toList ++ appName))
    else .ok { parser with appName, values }

def retrieve (name : Text) : Except Fault Any :=
  match parser.index (delimit name) with
  | none => .error .keyNotFound
  | some place => (parser.values[place]?).elim (.error .undefined) .ok

def count (name : Text) : Except Fault Nat :=
  match parser.index (delimit name) with
  | none => .ok 0
  | some place =>
    match parser.arguments[place]?, parser.values[place]? with
    | some arg, some var =>
      match arg.nargs with
      | .fixed _ => var.castString.map fun held => if held.isEmpty then 0 else 1
      | _ => var.castStrings.map List.length
    | _, _ => .error .undefined

end ArgumentParser

open ArgumentParser in
/-- The console program up to the address it looks up. -/
def main (argv : List Text) : Except Fault Text := do
  let parser ← ArgumentParser.new.addArgument "--ip".toList 1 true
  let parser ← parser.addArgument "--host".toList 1 true
  let parser ← parser.parse argv
  (← parser.retrieve "ip".toList).castString

end RayTraceRenderer.CommandLine
