import SchemaTypes.Checked
import SchemaTypes.Text.Sorted

/-!
# Enums

An enum of the schema: named members, each with the value that the database stores.
-/

namespace SchemaTypes

/-- A member of an enum. -/
@[ext] structure Member where
  name : String
  /-- The value that the database stores, where it differs. -/
  dbName : Option String := none
  name_ne : name ≠ "" := by decide
deriving Repr

instance : DecidableEq Member := fun _ _ => decidable_of_iff _ Member.ext_iff.symm

/-- An enum of the schema. It has members, and no two of one name. -/
@[ext] structure Enumeration where
  name : String
  dbName : Option String := none
  members : List Member
  name_ne : name ≠ "" := by decide
  members_ne : members ≠ [] := by decide
  members_nodup : (members.map Member.name).Nodup := by decide
deriving Repr

instance : DecidableEq Enumeration := fun _ _ => decidable_of_iff _ Enumeration.ext_iff.symm

namespace Member

/-- The value that the database stores. -/
def stored (m : Member) : String :=
  match m.dbName with
  | some s => if s = "" then m.name else s
  | none => m.name

def attributes : List Checked.Attribute := [⟨"name", "name"⟩, ⟨"db_name", "dbName"⟩]

def check (v : Value) : Checked Member :=
  Checked.record "EnumValueDescriptor" v fun es => Checked.closed attributes es <|
    (fun (name : Checked.Named) dbName =>
      { name := name.1, dbName, name_ne := name.ne : Member })
    <$> Checked.needed es ⟨"name", "name"⟩ Checked.name
    <*> Checked.given es ⟨"db_name", "dbName"⟩ none Checked.optionalText

/-- A member from a document; a text alone is the name of one. -/
def checkBare : Value → Checked Member
  | .text s => check (.record [("name", .text s)])
  | v => check v

def toValue (m : Member) : Value := .record [
  ("name", .text m.name), ("db_name", .ofText? m.dbName), ("database_value", .text m.stored)]

end Member

namespace Enumeration

def attributes : List Checked.Attribute :=
  [⟨"name", "name"⟩, ⟨"db_name", "dbName"⟩, ⟨"values", "values"⟩]

/-- Members that an enum may have. -/
abbrev Members := { ms : List Member // ms ≠ [] ∧ (ms.map Member.name).Nodup }

/-- The issue of a list in which no item is a member. -/
def lackIssues (results : List (Checked Member)) : List Issue :=
  if results.all fun r => r.toOption.isNone then [⟨[], .noItems⟩] else []

/-- The members of an enum: at least one that is in order, and no two of one name. -/
def checkMembers (v : Value) : Checked Members :=
  match Checked.items? v with
  | none => .fail .notTuple
  | some xs =>
    let bare := match v with
      | .list _ => Member.checkBare
      | _ => Member.check
    match Checked.each bare 0 xs with
    | .bad is => .bad (is ++ lackIssues (xs.map bare))
    | .good ms =>
      if hn : ms = [] then .fail .noItems
      else if hd : (ms.map Member.name).Nodup then .good ⟨ms, hn, hd⟩
      else .fail (.conflict (.repeatedMembers (Text.repeated (ms.map Member.name))))

def check (v : Value) : Checked Enumeration :=
  Checked.record "EnumDescriptor" v fun es => Checked.closed attributes es <|
    (fun (name : Checked.Named) dbName (members : Members) =>
      { name := name.1, dbName, members := members.1, name_ne := name.ne, members_ne := members.2.1,
        members_nodup := members.2.2 : Enumeration })
    <$> Checked.needed es ⟨"name", "name"⟩ Checked.name
    <*> Checked.given es ⟨"db_name", "dbName"⟩ none Checked.optionalText
    <*> Checked.needed es ⟨"values", "values"⟩ checkMembers

def toValue (e : Enumeration) : Value := .record [
  ("name", .text e.name), ("db_name", .ofText? e.dbName),
  ("values", .list (e.members.map Member.toValue)),
  ("database_values", .texts (e.members.map Member.stored))]

end Enumeration

end SchemaTypes
