import TypeAtlas.Declaration.Basic

/-!
Declarations as JSON: every field is written, also an empty one.
-/

namespace TypeAtlas

open Json (entry)

def Parameter.toJson (p : Parameter) : Json :=
  .object [entry "name" (.text p.name), entry "type" (.text p.type),
    entry "default_value" (.ofText? p.value), entry "description" (.ofText? p.description)]

def Method.toJson (m : Method) : Json :=
  .object [entry "name" (.text m.name), entry "return_type" (.text m.result),
    entry "parameters" (.list (m.parameters.map Parameter.toJson)),
    entry "visibility" (.text m.visibility.word), entry "is_static" (.bool m.isStatic),
    entry "is_const" (.bool m.isConst), entry "is_virtual" (.bool m.isVirtual),
    entry "is_override" (.bool m.isOverride), entry "is_abstract" (.bool m.isAbstract),
    entry "decorators" (.texts m.decorators), entry "description" (.ofText? m.description)]

def Property.toJson (p : Property) : Json :=
  .object [entry "name" (.text p.name), entry "type" (.text p.type),
    entry "readonly" (.bool p.isReadonly), entry "description" (.ofText? p.description)]

def EnumValue.toJson (v : EnumValue) : Json :=
  .object [entry "name" (.text v.name), entry "value" (.ofText? v.value),
    entry "description" (.ofText? v.description)]

def EnumType.toJson (e : EnumType) : Json :=
  .object [entry "name" (.text e.name), entry "values" (.list (e.values.map EnumValue.toJson)),
    entry "description" (.ofText? e.description)]

def Declaration.toJson (d : Declaration) : Json :=
  .object [entry "name" (.text d.name), entry "namespace" (.text d.scope),
    entry "full_name" (.text d.fullName), entry "inheritance" (.texts d.parents),
    entry "enums" (.list (d.enums.map EnumType.toJson)),
    entry "methods" (.list (d.methods.map Method.toJson)),
    entry "slots" (.list (d.slots.map Method.toJson)),
    entry "signals" (.list (d.signals.map Method.toJson)),
    entry "properties" (.list (d.properties.map Property.toJson)),
    entry "description" (.ofText? d.description), entry "is_abstract" (.bool d.isAbstract)]

def NamespaceInfo.toJson (n : NamespaceInfo) : Json :=
  .object [entry "name" (.text n.name), entry "full_name" (.text n.fullName),
    entry "enums" (.list (n.enums.map EnumType.toJson))]

end TypeAtlas
