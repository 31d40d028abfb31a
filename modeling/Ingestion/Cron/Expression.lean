import Ingestion.Cron.Schedule
import Ingestion.Text.Case

/-!
# Cron expressions

An expression has five fields with blanks between them: minute, hour, day, month and weekday. It
may also be one of a few descriptors such as `@daily`. Names of weekdays and months stand for
numbers, in either case, and `?` stands for `*`.

`Schedule.read` reads an expression or tells what is wrong with it.
-/

namespace Ingestion.Cron

/-- What is wrong with an expression. -/
inductive Fault where
  | blank
  | untrimmed
  /-- There are not five fields but another number of them. -/
  | fieldCount (n : Nat)
  /-- A text that is no descriptor has neither five nor six fields. -/
  | shape
  /-- There is a sixth field, for seconds. -/
  | seconds
  /-- A part of a field is wrong. -/
  | part (fault : PartFault)
deriving DecidableEq, Repr, Inhabited

/-- The text that tells what is wrong with an expression. -/
def Fault.message : Fault → String
  | blank => "empty expression"
  | untrimmed => "leading or trailing whitespace"
  | fieldCount n => "expected 5 fields, found " ++ toString n
  | shape =>
    "Invalid pattern: Pattern must consist of five or six fields (minute, hour, day, month, day "
      ++ "of week, and optional second)."
  | seconds =>
    "Invalid pattern: Pattern must consist of five fields, seconds are not allowed by "
      ++ "configuration."
  | part fault => "Component error: " ++ fault.message

/-- The descriptors and the fields they stand for. -/
def descriptors : List (String × String) :=
  [("@yearly", "0 0 1 1 *"), ("@annually", "0 0 1 1 *"), ("@monthly", "0 0 1 * *"),
    ("@weekly", "0 0 * * 0"), ("@daily", "0 0 * * *"), ("@hourly", "0 * * * *")]

/-- The names of weekdays and months and the numbers they stand for, in the order in which they
are replaced. At the end of a range Sunday is the last day of the week. -/
def names : List (String × String) :=
  [("-sun", "-7"), ("sun", "0"), ("mon", "1"), ("tue", "2"), ("wed", "3"), ("thu", "4"),
    ("fri", "5"), ("sat", "6"), ("jan", "1"), ("feb", "2"), ("mar", "3"), ("apr", "4"),
    ("may", "5"), ("jun", "6"), ("jul", "7"), ("aug", "8"), ("sep", "9"), ("oct", "10"),
    ("nov", "11"), ("dec", "12")]

/-- The fields of a descriptor, or the text itself if it is none. -/
def expandDescriptor (cs : List Char) : List Char :=
  match descriptors.find? fun d => Text.sameUpToCase d.1.toList cs with
  | some d => d.2.toList
  | none => cs

/-- The text of the fields in numbers: descriptors are expanded, letters become small, and names
are replaced wherever they occur. -/
def normalize (cs : List Char) : List Char :=
  let cs := cs.map fun c => if c = '?' then '*' else c
  let cs := Text.toSmall (expandDescriptor cs)
  names.foldl (fun cs name => Text.replace name.1.toList name.2.toList cs) cs

namespace Schedule

/-- Reads a field of an expression. -/
def readField (slot : Slot) (cs : List Char) : Except Fault Field :=
  match Field.read slot cs with
  | .ok f => .ok f
  | .error fault => .error (.part fault)

/-- Reads the text of the fields in numbers. -/
def ofPattern (cs : List Char) : Except Fault Schedule :=
  match Text.fields cs with
  | [minute, hour, day, month, weekday] => do
    let minutes ← readField .minute minute
    let hours ← readField .hour hour
    let days ← readField .day day
    let months ← readField .month month
    let weekdays ← readField .weekday weekday
    return {
      pattern := String.ofList cs
      minutes, hours, days, months, weekdays
      anyDay := day == ['*']
      anyWeekday := weekday == ['*'] }
  | [_, _, _, _, _, _] => .error .seconds
  | _ => .error .shape

/-- Reads an expression. It is taken as it is written: blanks around it are not allowed. -/
def read (expression : String) : Except Fault Schedule :=
  let cs := expression.toList
  if Text.isBlank expression then .error .blank
  else if !Text.isTrimmed expression then .error .untrimmed
  else if cs.head? ≠ some '@' ∧ (Text.fields cs).length ≠ 5 then
    .error (.fieldCount (Text.fields cs).length)
  else ofPattern (normalize cs)

end Schedule

end Ingestion.Cron
