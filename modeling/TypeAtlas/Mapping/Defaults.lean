import TypeAtlas.Mapping.Rule

/-!
The mapping that holds when no other one is given.
-/

namespace TypeAtlas

namespace MappingConfig

def primitive (name target description : String) : Definition :=
  ⟨name, target, "primitive", some description.toList, []⟩

def basicClass (name target description : String) : Definition :=
  ⟨name, target, "qt-basic", some description.toList, []⟩

def primitives : List Definition := [
  primitive "int" "number" "32-bit signed integer",
  primitive "uint" "number" "32-bit unsigned integer",
  primitive "long" "number" "Long integer",
  primitive "short" "number" "16-bit signed integer",
  primitive "char" "string" "Single character",
  primitive "bool" "boolean" "Boolean value",
  primitive "void" "void" "No return value",
  primitive "float" "number" "32-bit floating point",
  primitive "double" "number" "64-bit floating point",
  primitive "qreal" "number" "Qt real number type"]

def basicClasses : List Definition := [
  basicClass "QString" "string" "Qt string class",
  basicClass "QStringList" "string[]" "List of Qt strings",
  basicClass "QByteArray" "Uint8Array" "Qt byte array"]

def genericRule (pattern replacement description : String) : GenericRule :=
  ⟨pattern, replacement, some description.toList⟩

def containerRules : List GenericRule := [
  genericRule "^QList<(.+)>$" "$1[]" "QList to array",
  genericRule "^QVector<(.+)>$" "$1[]" "QVector to array",
  genericRule "^QHash<(.+),\\s*(.+)>$" "Map<$1, $2>" "QHash to Map",
  genericRule "^QMap<(.+),\\s*(.+)>$" "Map<$1, $2>" "QMap to Map",
  genericRule "^QSet<(.+)>$" "Set<$1>" "QSet to Set",
  genericRule "^std::vector<(.+)>$" "$1[]" "std::vector to array",
  genericRule "^std::map<(.+),\\s*(.+)>$" "Map<$1, $2>" "std::map to Map",
  genericRule "^std::set<(.+)>$" "Set<$1>" "std::set to Set"]

/-- Scopes of the graphics libraries keep their names; the standard scope is dropped. -/
def builtInScopes : List ScopeRule := [
  ⟨"KWin", "KWin", false⟩,
  ⟨"Qt", "Qt", false⟩,
  ⟨"std", [], true⟩]

def builtIn : MappingConfig :=
  ⟨primitives ++ basicClasses, containerRules, builtInScopes, []⟩

end MappingConfig

end TypeAtlas
