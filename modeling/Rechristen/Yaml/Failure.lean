import Rechristen.Fault
import Rechristen.Text.Numeral

/-!
# What can be wrong with a configuration file

Most files that cannot be read are not well formed.  A file that is well formed can still hold a
scalar that looks like a number or a point in time and is none.
-/

namespace Rechristen.Yaml

/-- Why a point in time does not exist. -/
inductive MomentError where
  | year (year : Nat)
  | month
  | day
  | hour
  | minute
  | second
  /-- The difference to world time, in seconds, is a day or more. -/
  | zone (seconds : Int)
  deriving DecidableEq, Repr

/-- How far a zone is off, in days and seconds. -/
def MomentError.difference (seconds : Int) : String :=
  let part := fun (name : String) (n : Int) =>
    if n = 0 then [] else [name ++ "=" ++ toString n]
  "datetime.timedelta(" ++
    ", ".intercalate
      (part "days" (seconds.fdiv 86400) ++ part "seconds" (seconds.fmod 86400)) ++ ")"

/-- What is said about a point in time that does not exist. -/
def MomentError.message : MomentError → String
  | year y => "year " ++ toString y ++ " is out of range"
  | month => "month must be in 1..12"
  | day => "day is out of range for month"
  | hour => "hour must be in 0..23"
  | minute => "minute must be in 0..59"
  | second => "second must be in 0..59"
  | zone seconds =>
    "offset must be a timedelta strictly between -timedelta(hours=24) and timedelta(hours=24), " ++
      "not " ++ MomentError.difference seconds ++ "."

/-- Why a configuration file gives no data. -/
inductive Failure where
  /-- The file is not well formed. -/
  | malformed
  /-- Nodes stand too deep inside each other. -/
  | tooDeep
  /-- A code in a quoted text is beyond the last character. -/
  | noCharacter (code : Nat)
  /-- A text is not a whole number of a base. -/
  | notNumber (base : Nat) (text : Text.Codes)
  /-- A whole number has too many digits. -/
  | longNumber (digits : Nat)
  /-- A text is not a fraction. -/
  | notFraction (text : Text.Codes)
  /-- A number has more groups than a fraction can have. -/
  | longFraction
  /-- A text is not a truth value. -/
  | notTruth (text : Text.Codes)
  /-- Nothing is written where a number has to be. -/
  | noNumber
  /-- A text is not a point in time. -/
  | notMoment
  /-- A mapping is to be a point in time. -/
  | mappingMoment
  /-- A point in time does not exist. -/
  | moment (error : MomentError)
  deriving DecidableEq, Repr

/-- The fault of a file that is well formed, but has no data. -/
def Failure.fault : Failure → Fault
  | malformed => .plain "YAMLError" ""
  | tooDeep => .plain "RecursionError" ""
  | noCharacter code =>
    if code < Nat.pow 2 31 then .plain "ValueError" "chr() arg not in range(0x110000)"
    else .plain "OverflowError" ""
  | notNumber base text =>
    .plain "ValueError"
      (Text.Numeral.Flaw.notNumber.message base (String.ofList (text.quoted.toList.take 200)))
  | longNumber digits =>
    .plain "ValueError" ((Text.Numeral.Flaw.tooLong digits).message 10 "")
  | notFraction text =>
    .plain "ValueError" ("could not convert string to float: " ++ text.quoted)
  | longFraction => .plain "OverflowError" ""
  | notTruth text => .plain "KeyError" text.quoted
  | noNumber => .plain "IndexError" "string index out of range"
  | notMoment => .plain "AttributeError" ""
  | mappingMoment => .plain "TypeError" "expected string or bytes-like object, got 'list'"
  | moment error => .plain "ValueError" error.message

end Rechristen.Yaml
