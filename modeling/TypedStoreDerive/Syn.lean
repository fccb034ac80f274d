import TypedStoreDerive.Rust

/-!
# The `syn` syntax the derive reads

The parts of a parsed `struct` that `extract_struct_info`, `get_options_override_function`,
`extract_generics_names` and `derive_dbmap_utils_general` look at. Identifiers are kept as the
text their `Display` prints, and a generic argument as the text `stringify!` prints for it.

A parsed path has at least one segment, so `Path` keeps its first segment apart and
`segments.first().unwrap()` cannot fail. An attribute keeps its path and what follows it, which
`Attribute.parseMeta` turns into a `Meta` as `Attribute::parse_meta` does.
-/

namespace TypedStoreDerive

/-- `syn::Lit`: a string literal by its value; no other literal is read. -/
inductive Lit
  | str (value : String)
  | other
  deriving DecidableEq, Repr

/-- `syn::AngleBracketedGenericArguments`, each argument by its `stringify!` text. -/
structure AngleBracketedGenericArguments where
  args : List String
  deriving DecidableEq, Repr

/-- `syn::PathArguments`. -/
inductive PathArguments
  | none
  | angleBracketed (args : AngleBracketedGenericArguments)
  | parenthesized
  deriving DecidableEq, Repr

/-- `syn::PathSegment`. -/
structure PathSegment where
  ident : String
  arguments : PathArguments
  deriving DecidableEq, Repr

/-- `syn::Path`: its segments are `first :: rest`. -/
structure Path where
  leadingColon : Bool
  first : PathSegment
  rest : List PathSegment
  deriving DecidableEq, Repr

/-- `Path::is_ident`: no leading `::`, one segment, no arguments, and that identifier. -/
def Path.isIdent (p : Path) (ident : String) : Bool :=
  !p.leadingColon && p.rest.isEmpty && p.first.arguments == .none && p.first.ident == ident

/-- `syn::Type`: a path type, by its path, or any other type. -/
inductive Ty
  | path (path : Path)
  | other
  deriving DecidableEq, Repr

/-- `syn::Meta`. -/
inductive Meta
  | path (path : Path)
  | list (path : Path)
  | nameValue (path : Path) (lit : Lit)
  deriving DecidableEq, Repr

/-- The tokens of an attribute after its path: none, a parenthesised list that parses, `= lit`,
or anything `parse_meta` rejects, with its error. -/
inductive AttrTokens
  | empty
  | paren
  | eqLit (lit : Lit)
  | malformed (err : String)
  deriving DecidableEq, Repr

/-- `syn::Attribute`. -/
structure Attribute where
  path : Path
  tokens : AttrTokens
  deriving DecidableEq, Repr

/-- `Attribute::parse_meta`. -/
def Attribute.parseMeta (a : Attribute) : Except String Meta :=
  match a.tokens with
  | .empty => .ok (.path a.path)
  | .paren => .ok (.list a.path)
  | .eqLit lit => .ok (.nameValue a.path lit)
  | .malformed err => .error err

/-- `syn::Field`: a tuple struct's fields have no identifier. -/
structure Field where
  attrs : List Attribute
  ident : Option String
  ty : Ty
  deriving DecidableEq, Repr

/-- `syn::GenericParam`. -/
inductive GenericParam
  | type (ident : String)
  | lifetime
  | const
  deriving DecidableEq, Repr

/-- `syn::ItemStruct`. -/
structure ItemStruct where
  ident : String
  generics : List GenericParam
  fields : List Field
  deriving DecidableEq, Repr

end TypedStoreDerive
