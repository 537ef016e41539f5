/-!
This module contains the kinds of symbols, their names, and which of them are scopes that the names
of other symbols stand in.
-/

namespace FreshIndex

/-- What a symbol is. The order of the kinds is that of the constructors. -/
inductive SymbolKind
  | other
  | moduleUnit
  | nameSpace
  | namespaceAlias
  | preprocessorMacro
  | enumeration
  | structType
  | classType
  | protocolType
  | extensionType
  | unionType
  | typealias
  | function
  | variableBinding
  | field
  | enumConstant
  | instanceMethod
  | classMethod
  | staticMethod
  | instanceProperty
  | classProperty
  | staticProperty
  | initializer
  | deinitializer
  | conversionFunction
  | parameter
  | usingDirective
  | concept
  | commentTag
  deriving Repr, DecidableEq, Ord

namespace SymbolKind

def all : List SymbolKind :=
  [.other, .moduleUnit, .nameSpace, .namespaceAlias, .preprocessorMacro, .enumeration,
   .structType, .classType, .protocolType, .extensionType, .unionType, .typealias, .function,
   .variableBinding, .field, .enumConstant, .instanceMethod, .classMethod, .staticMethod,
   .instanceProperty, .classProperty, .staticProperty, .initializer, .deinitializer,
   .conversionFunction, .parameter, .usingDirective, .concept, .commentTag]

/-- The name under which an index keeps a kind. -/
def name : SymbolKind → String
  | other => "unknown"
  | moduleUnit => "module"
  | nameSpace => "namespace"
  | namespaceAlias => "namespace-alias"
  | preprocessorMacro => "macro"
  | enumeration => "enum"
  | structType => "struct"
  | classType => "class"
  | protocolType => "protocol"
  | extensionType => "extension"
  | unionType => "union"
  | typealias => "typealias"
  | function => "function"
  | variableBinding => "variable"
  | field => "field"
  | enumConstant => "enum-constant"
  | instanceMethod => "instance-method"
  | classMethod => "class-method"
  | staticMethod => "static-method"
  | instanceProperty => "instance-property"
  | classProperty => "class-property"
  | staticProperty => "static-property"
  | initializer => "constructor"
  | deinitializer => "destructor"
  | conversionFunction => "conversion-function"
  | parameter => "parameter"
  | usingDirective => "using"
  | concept => "concept"
  | commentTag => "comment-tag"

/-- The kind of a name; a name that no kind has stands for a kind that is not known here. -/
def ofName (name : String) : SymbolKind :=
  (all.find? (·.name == name)).getD .other

def isScope : SymbolKind → Bool
  | moduleUnit | nameSpace | enumeration | structType
  | classType | protocolType | extensionType | unionType => true
  | other | namespaceAlias | preprocessorMacro | typealias | function | variableBinding | field
  | enumConstant | instanceMethod | classMethod | staticMethod | instanceProperty | classProperty
  | staticProperty | initializer | deinitializer | conversionFunction | parameter
  | usingDirective | concept | commentTag => false

theorem mem_all (kind : SymbolKind) : kind ∈ all := by
  cases kind <;> decide

theorem ofName_name (kind : SymbolKind) : ofName kind.name = kind := by
  cases kind <;> simp [ofName, all, name]

end SymbolKind

end FreshIndex
