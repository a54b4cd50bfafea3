import SchemaTypes.Decimal.Shortest
import SchemaTypes.Text.Shown
import SchemaTypes.Value

/-!
# Values inside messages

How a message shows a value, and the words it uses for its kind.
-/

namespace SchemaTypes

/-- The time of day with its fraction of a second and its distance from universal time. -/
def Clock.iso (c : Clock) : String :=
  let two := Decimal.zeroPadded 2
  let micro := if c.micro = 0 then "" else "." ++ Decimal.zeroPadded 6 c.micro
  let zone := match c.offset with
    | none => ""
    | some s =>
      let size := s.natAbs
      (if s < 0 then "-" else "+") ++ two (size / 3600) ++ ":" ++ two (size / 60 % 60) ++
        (if size % 60 = 0 then "" else ":" ++ two (size % 60))
  two c.hour ++ ":" ++ two c.minute ++ ":" ++ two c.second ++ micro ++ zone

/-- Year, month and day, and the time behind a `T`. -/
def Moment.iso (m : Moment) : String :=
  Decimal.zeroPadded 4 m.year ++ "-" ++ Decimal.zeroPadded 2 m.month ++ "-" ++
    Decimal.zeroPadded 2 m.day ++ ((m.clock.map fun c => "T" ++ c.iso).getD "")

/-- A distance from universal time as messages show it. -/
def shownZone (seconds : Int) : String :=
  if seconds = 0 then "datetime.timezone.utc"
  else
    let days := Int.fdiv seconds 86400
    "datetime.timezone(datetime.timedelta(" ++
      (if days = 0 then "" else s!"days={days}, ") ++ s!"seconds={Int.fmod seconds 86400}))"

def Moment.shown (m : Moment) : String :=
  match m.clock with
  | none => s!"datetime.date({m.year}, {m.month}, {m.day})"
  | some c =>
    let second := if c.second = 0 && c.micro = 0 then "" else s!", {c.second}"
    let micro := if c.micro = 0 then "" else s!", {c.micro}"
    let zone := (c.offset.map fun s => ", tzinfo=" ++ shownZone s).getD ""
    s!"datetime.datetime({m.year}, {m.month}, {m.day}, {c.hour}, {c.minute}" ++ second ++ micro ++
      zone ++ ")"

def shownByte (quote : Char) (b : UInt8) : List Char :=
  let c := Char.ofNat b.toNat
  if b.toNat < 127 && c != '\'' then Text.shownChar quote c
  else if c = quote then ['\\', c]
  else if c = '\'' then [c]
  else '\\' :: 'x' :: Text.hexDigits 2 b.toNat

def Scalar.shown : Scalar → String
  | null => "None"
  | bool b => if b then "True" else "False"
  | int n => toString n
  | float x => Decimal.floatText x
  | text s => Text.shown s
  | moment m => m.shown
  | bytes bs =>
    let quote := Text.quoteFor (bs.map fun b => Char.ofNat b.toNat)
    "b" ++ String.ofList (quote :: bs.flatMap (shownByte quote) ++ [quote])

namespace Value

mutual

def shown : Value → String
  | scalar s => s.shown
  | list xs => "[" ++ ", ".intercalate (shownItems xs) ++ "]"
  | mapping es => "\x7b" ++ ", ".intercalate (shownEntries es) ++ "\x7d"
  | set xs =>
    if xs.isEmpty then "set()" else "\x7b" ++ ", ".intercalate (xs.map Scalar.shown) ++ "\x7d"

def shownItems : List Value → List String
  | [] => []
  | x :: xs => shown x :: shownItems xs

def shownEntries : List (Scalar × Value) → List String
  | [] => []
  | (k, v) :: es => (k.shown ++ ": " ++ shown v) :: shownEntries es

end

/-- A value as the part of a sentence: texts stand for themselves. -/
def plain : Value → String
  | text s => s
  | scalar (.moment m) => match m.clock with
    | none => m.iso
    | some _ => m.iso.replace "T" " "
  | v => v.shown

def kindName : Value → String
  | scalar .null => "NoneType"
  | scalar (.bool _) => "bool"
  | scalar (.int _) => "int"
  | scalar (.float _) => "float"
  | scalar (.text _) => "str"
  | scalar (.moment m) => if m.clock.isSome then "datetime" else "date"
  | scalar (.bytes _) => "bytes"
  | list _ => "list"
  | mapping _ => "dict"
  | set _ => "set"

end Value

end SchemaTypes
