import SourceOutline.Declaration.Kind
import SourceOutline.Text.Basic

/-!
# Symbols

A symbol is a name in a scope, with the declarations that introduce it. Namespaces hold
symbols of their own. Tables list their symbols in the order of first declaration, and a
symbol knows the names of the scopes around it, so its path leads back to it.
-/

namespace SourceOutline

/-- How a declaration introduces its name: in this file, as another name for something in
this file, or from another module. -/
inductive Form where
  | plain (nodeType : String)
  | importAlias (target : String)
  | defaultImport (source : Option String)
  | namespaceImport (source : Option String)
  | requireImport (source : Option String)
  | namedImport (source : Option String) (exported : String)
  deriving DecidableEq, Repr, Inhabited

namespace Form

def label : Form → String
  | plain nodeType => nodeType
  | importAlias _ => "import_alias"
  | defaultImport _ => "import_clause"
  | namespaceImport _ => "namespace_import"
  | requireImport _ => "import_require_clause"
  | namedImport .. => "import_specifier"

/-- Whether the symbol lives in another module. -/
def isImport : Form → Bool
  | plain _ | importAlias _ => false
  | defaultImport _ | namespaceImport _ | requireImport _ | namedImport .. => true

/-- The module that the name is imported from, where it is written. -/
def source? : Form → Option String
  | plain _ | importAlias _ => none
  | defaultImport source | namespaceImport source | requireImport source
  | namedImport source _ => source

/-- The name inside the other module. -/
def exported? : Form → Option String
  | namedImport _ exported => some exported
  | _ => none

/-- The dotted name that an alias stands for. -/
def target? : Form → Option String
  | importAlias target => some target
  | _ => none

end Form

structure Declaration where
  form : Form
  site : Site
  deriving Repr, Inhabited

structure Symbol where
  name : String
  scope : List String
  declarations : List Declaration
  members : List Symbol
  deriving Repr, Inhabited

namespace Symbol

/-- The names from the outermost scope down to the symbol. -/
def path (symbol : Symbol) : List String := symbol.scope ++ [symbol.name]

/-- The originating declaration. -/
def origin? (symbol : Symbol) : Option Declaration := symbol.declarations.head?

def isImported (symbol : Symbol) : Bool :=
  symbol.origin?.any (fun declaration => declaration.form.isImport)

/-- The alias declaration that the symbol originates from, with what it stands for. -/
def alias? (symbol : Symbol) : Option (String × Site) := do
  let declaration ← symbol.origin?
  let target ← declaration.form.target?
  return (target, declaration.site)

/-- The symbol of a table with a name. -/
def find? (table : List Symbol) (name : String) : Option Symbol :=
  table.find? (fun symbol => symbol.name == name)

def member? (symbol : Symbol) (name : String) : Option Symbol := find? symbol.members name

mutual

/-- The paths of all aliases below a symbol and of the symbol itself. -/
def aliasPaths : Symbol → List (List String)
  | ⟨name, scope, declarations, members⟩ =>
    let symbol : Symbol := ⟨name, scope, declarations, members⟩
    (if symbol.alias?.isSome then [symbol.path] else []) ++ aliasPathsAll members

def aliasPathsAll : List Symbol → List (List String)
  | [] => []
  | symbol :: symbols => aliasPaths symbol ++ aliasPathsAll symbols

end

end Symbol

namespace Declaration

/-- Whether the declaration stands directly inside an export statement. A variable is
exported by the statement around its declarator. -/
def isExported (declaration : Declaration) : Bool :=
  let above :=
    if declaration.site.type == "variable_declarator" then declaration.site.ancestors.drop 1
    else declaration.site.ancestors
  above.head?.any (fun parent => parent.type == "export_statement")

end Declaration

def Symbol.isExported (symbol : Symbol) : Bool := symbol.declarations.any Declaration.isExported

end SourceOutline
