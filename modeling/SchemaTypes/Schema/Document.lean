import SchemaTypes.Schema.Enumeration
import SchemaTypes.Schema.Model

/-!
# Documents

A whole schema. The names of its models are pairwise distinct, and so are those of its enums.
Whether a name that a field refers to exists is not part of this.
-/

namespace SchemaTypes

structure Document where
  models : List Model := []
  enums : List Enumeration := []
  models_nodup : (models.map Model.name).Nodup := by decide
  enums_nodup : (enums.map Enumeration.name).Nodup := by decide
deriving Repr, DecidableEq

namespace Document

def model? (d : Document) (name : String) : Option Model :=
  d.models.find? fun m => m.name = name

def enum? (d : Document) (name : String) : Option Enumeration :=
  d.enums.find? fun e => e.name = name

def enumNames (d : Document) : List String := Text.sorted (d.enums.map Enumeration.name)

def attributes : List Checked.Attribute := [⟨"models", "models"⟩, ⟨"enums", "enums"⟩]

def check (v : Value) : Checked Document :=
  (Checked.record "SchemaDocument" v fun es => Checked.closed attributes es <|
    Prod.mk
    <$> Checked.given es ⟨"models", "models"⟩ [] (Checked.tuple Model.check)
    <*> Checked.given es ⟨"enums", "enums"⟩ [] (Checked.tuple Enumeration.check)).andThen fun p =>
  if hm : (p.1.map Model.name).Nodup then
    if he : (p.2.map Enumeration.name).Nodup then
      .good { models := p.1, enums := p.2, models_nodup := hm, enums_nodup := he }
    else .fail (.conflict (.repeatedNames "enum" (Text.repeated (p.2.map Enumeration.name))))
  else .fail (.conflict (.repeatedNames "model" (Text.repeated (p.1.map Model.name))))

def toValue (d : Document) : Value := .record [
  ("models", .list (d.models.map Model.toValue)), ("enums", .list (d.enums.map Enumeration.toValue)),
  ("enum_names", .texts d.enumNames)]

def brief (d : Document) : String :=
  s!"<SchemaDocument {d.models.length} models, {d.enums.length} enums>"

end Document

end SchemaTypes
