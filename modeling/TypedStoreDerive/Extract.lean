import TypedStoreDerive.Syn

/-!
# Reading the struct: `extract_struct_info`

`extract_struct_info` maps every field to its name, its map type's name, the arguments of that
map type and its options function, stopping at the first field it panics on; it then asks for at
least one field and for one map type shared by all of them.

`extractStructInfo_eq_ok_iff` says exactly what it returns, `extractStructInfo_isOk_iff` when it
returns, and `extractStructInfo_eq_error` what in the fields each of its panics reports.
`extractStructInfo_perm` shows that the iteration order of the allowed map types changes only the
text of one panic.
-/

namespace TypedStoreDerive

/-- `DEFAULT_DB_OPTIONS_CUSTOM_FN`: the options function of a table that names none. -/
def defaultDbOptionsCustomFn : String := "typed_store::rocks::default_rocksdb_options"

/-- `DB_OPTIONS_CUSTOM_FUNCTION`: the attribute naming a table's options function. -/
def dbOptionsCustomFunction : String := "default_options_override_fn"

/-- `GeneralTableOptions`. -/
inductive GeneralTableOptions
  | overrideFunction (fnName : String)
  deriving DecidableEq, Repr

/-- `GeneralTableOptions::default`. -/
def GeneralTableOptions.default : GeneralTableOptions := .overrideFunction defaultDbOptionsCustomFn

/-- The error of `get_options_override_function`. -/
def expectedFunctionName : String :=
  "Expected function name in format `#[" ++ dbOptionsCustomFunction ++ " = \x7bfunction_name\x7d]`"

/-- `get_options_override_function`: the string of `#[default_options_override_fn = "..."]`. -/
def getOptionsOverrideFunction (attr : Attribute) : Except String String := do
  let m ← attr.parseMeta
  match m with
  | .nameValue path lit =>
    if path.isIdent dbOptionsCustomFunction then
      match lit with
      | .str fnName => pure fnName
      | _ => throw expectedFunctionName
    else throw expectedFunctionName
  | _ => throw expectedFunctionName

/-- The attributes of a field that `extract_struct_info` keeps. -/
def Field.optionsAttrs (f : Field) : List Attribute :=
  f.attrs.filter (·.path.isIdent dbOptionsCustomFunction)

/-- `options` in `extract_struct_info`: from the first kept attribute, or the default. -/
def fieldOptions (f : Field) : Except Panic GeneralTableOptions :=
  match f.optionsAttrs with
  | [] => .ok .default
  | a :: _ =>
    match getOptionsOverrideFunction a with
    | .ok fnName => .ok (.overrideFunction fnName)
    | .error err => .error (.unwrapErr err)

/-- `allowed_strs` in `extract_struct_info`: each allowed name followed by `<K, V>`, joined by
` or `, in the iteration order of the `HashSet`. -/
def allowedStrsOf (allowedMapTypeNames : List String) : String :=
  " or ".intercalate (allowedMapTypeNames.map (· ++ "<K, V>"))

/-- The closure `extract_struct_info` maps over the fields: `((name, map type), (arguments,
options))`. -/
def fieldInfo (allowedMapTypeNames : List String) (f : Field) :
    Except Panic ((String × String) × (AngleBracketedGenericArguments × GeneralTableOptions)) := do
  let options ← fieldOptions f
  match f.ty with
  | .path p =>
    match p.first.arguments with
    | .angleBracketed innerType =>
      if p.first.ident ∈ allowedMapTypeNames then
        let ident ← unwrap f.ident
        pure ((ident, p.first.ident), (innerType, options))
      else throw (.mustBeOfType (allowedStrsOf allowedMapTypeNames))
    | _ => throw (.mustBeOfType (allowedStrsOf allowedMapTypeNames))
  | .other => throw (.mustBeOfType (allowedStrsOf allowedMapTypeNames))

/-- What `extract_struct_info` returns: field names, map type arguments, options, and the map
type all fields share. -/
abbrev StructInfo :=
  List String × List AngleBracketedGenericArguments × List GeneralTableOptions × String

/-- The checks after the loop: at least one field, and one map type for all. -/
def homogeneous (fieldNames simpleFieldTypeNames : List String)
    (innerTypesWithOpts : List (AngleBracketedGenericArguments × GeneralTableOptions)) :
    Except Panic StructInfo :=
  match simpleFieldTypeNames with
  | [] => throw .emptyStruct
  | first :: _ =>
    if simpleFieldTypeNames.all (· == first) then
      pure (fieldNames, innerTypesWithOpts.unzip.1, innerTypesWithOpts.unzip.2, first)
    else throw .mustBeOfSameType

/-- `extract_struct_info`. -/
def extractStructInfo (input : ItemStruct) (allowedMapTypeNames : List String) :
    Except Panic StructInfo := do
  let info ← input.fields.mapM (fieldInfo allowedMapTypeNames)
  let fieldInfo := info.unzip.1
  let innerTypesWithOpts := info.unzip.2
  homogeneous fieldInfo.unzip.1 fieldInfo.unzip.2 innerTypesWithOpts

/-- `extract_generics_names`. -/
def extractGenericsNames (generics : List GenericParam) : Except Panic (List String) :=
  generics.mapM fun
    | .type ident => .ok ident
    | _ => .error .unsupportedGeneric

/-! ## What a field declares

A field read as the documentation describes it, without running the code: its options function,
from the first of its attributes named `default_options_override_fn` (found with `List.find?`,
not with the code's filter), and the map type and arguments its type names through the first
segment of its path. -/

/-- A field's options as its attributes declare them: the function its first
`default_options_override_fn` attribute names in the form `= "..."`, or the default function
when it has no such attribute. -/
def OptionsDeclared (f : Field) (options : GeneralTableOptions) : Prop :=
  match f.attrs.find? (·.path.isIdent dbOptionsCustomFunction) with
  | none => options = .default
  | some a => ∃ fnName, a.tokens = .eqLit (.str fnName) ∧ options = .overrideFunction fnName

/-- A field's first `default_options_override_fn` attribute, if any, has the form `= "..."`. -/
def AttrWellFormed (f : Field) : Prop :=
  ∀ a ∈ f.attrs.find? (·.path.isIdent dbOptionsCustomFunction),
    ∃ fnName, a.tokens = .eqLit (.str fnName)

/-- A field's type is the map type `kind` with the arguments `innerType`, both read from the
first segment of its path. -/
def WrapsAs (kind : String) (f : Field) (innerType : AngleBracketedGenericArguments) : Prop :=
  ∃ p : Path, f.ty = .path p ∧ p.first.ident = kind ∧ p.first.arguments = .angleBracketed innerType

/-- A field's type is one of the allowed map types with angle-bracketed arguments. -/
def AllowedWrapper (allowed : List String) (f : Field) : Prop :=
  ∃ kind innerType, kind ∈ allowed ∧ WrapsAs kind f innerType

/-- What one field declares, in the shape the loop of `extract_struct_info` returns it. -/
def FieldDeclares (allowed : List String) (f : Field)
    (r : (String × String) × (AngleBracketedGenericArguments × GeneralTableOptions)) : Prop :=
  f.ident = some r.1.1 ∧ r.1.2 ∈ allowed ∧ WrapsAs r.1.2 f r.2.1 ∧ OptionsDeclared f r.2.2

/-! ## One field -/

theorem getOptionsOverrideFunction_eq_ok {a : Attribute}
    (ha : a.path.isIdent dbOptionsCustomFunction) {fnName : String} :
    getOptionsOverrideFunction a = .ok fnName ↔ a.tokens = .eqLit (.str fnName) := by
  rcases a with ⟨path, tokens⟩
  cases tokens with
  | eqLit lit => cases lit <;> simp_all [getOptionsOverrideFunction, Attribute.parseMeta]
  | _ => simp [getOptionsOverrideFunction, Attribute.parseMeta]

/-- The code's filter starts with the first attribute the documentation means. -/
theorem find?_eq_head?_optionsAttrs (f : Field) :
    f.attrs.find? (·.path.isIdent dbOptionsCustomFunction) = f.optionsAttrs.head? :=
  (List.filter_head? _ _).symm

theorem isIdent_of_optionsAttrs {f : Field} {a : Attribute} {rest : List Attribute}
    (h : f.optionsAttrs = a :: rest) : a.path.isIdent dbOptionsCustomFunction :=
  (List.mem_filter.mp (h ▸ List.mem_cons_self a rest : a ∈ f.optionsAttrs)).2

theorem fieldOptions_eq_ok {f : Field} {options : GeneralTableOptions} :
    fieldOptions f = .ok options ↔ OptionsDeclared f options := by
  unfold fieldOptions OptionsDeclared
  rw [find?_eq_head?_optionsAttrs]
  split
  · next h =>
    rw [h]
    exact ⟨fun h => (Except.ok.inj h).symm, fun h => h ▸ rfl⟩
  · next a rest h =>
    rw [h]
    have ha := isIdent_of_optionsAttrs h
    cases hg : getOptionsOverrideFunction a with
    | error e =>
      refine ⟨fun h => (nomatch h), fun ⟨fnName, hs, _⟩ => ?_⟩
      exact nomatch hg.symm.trans ((getOptionsOverrideFunction_eq_ok ha).mpr hs)
    | ok fnName =>
      simp [(getOptionsOverrideFunction_eq_ok ha).mp hg, eq_comm]

theorem fieldInfo_eq_ok {allowed : List String} {f : Field}
    {r : (String × String) × (AngleBracketedGenericArguments × GeneralTableOptions)} :
    fieldInfo allowed f = .ok r ↔ FieldDeclares allowed f r := by
  obtain ⟨⟨name, kind⟩, innerType, options⟩ := r
  rcases f with ⟨attrs, ident, ty⟩
  unfold fieldInfo FieldDeclares WrapsAs
  cases hfo : fieldOptions ⟨attrs, ident, ty⟩ with
  | error e =>
    have : ¬ OptionsDeclared ⟨attrs, ident, ty⟩ options :=
      fun h => nomatch hfo.symm.trans (fieldOptions_eq_ok.mpr h)
    simp [this]
  | ok o =>
    rw [← fieldOptions_eq_ok, hfo]
    cases ty with
    | other => simp
    | path p =>
      rcases p with ⟨lc, ⟨i, args⟩, rest⟩
      cases args <;> cases ident <;> by_cases hi : i ∈ allowed <;> simp [hi] <;> aesop

theorem optionsDeclared_exists_iff {f : Field} :
    (∃ options, OptionsDeclared f options) ↔ AttrWellFormed f := by
  unfold OptionsDeclared AttrWellFormed
  cases f.attrs.find? (·.path.isIdent dbOptionsCustomFunction) with
  | none => simp
  | some a =>
    simp only [Option.mem_def, Option.some.injEq, forall_eq']
    exact ⟨fun ⟨_, fnName, h, _⟩ => ⟨fnName, h⟩, fun ⟨fnName, h⟩ => ⟨_, fnName, h, rfl⟩⟩

theorem fieldInfo_isOk_iff {allowed : List String} {f : Field} :
    (∃ r, fieldInfo allowed f = .ok r) ↔
      f.ident.isSome ∧ AttrWellFormed f ∧ AllowedWrapper allowed f := by
  simp only [fieldInfo_eq_ok, FieldDeclares, ← optionsDeclared_exists_iff, AllowedWrapper,
    Option.isSome_iff_exists, Prod.exists]
  exact ⟨fun ⟨a, b, c, d, hi, hb, hw, ho⟩ => ⟨⟨a, hi⟩, ⟨d, ho⟩, b, c, hb, hw⟩,
    fun ⟨⟨a, hi⟩, ⟨d, ho⟩, b, c, hb, hw⟩ => ⟨a, b, c, d, hi, hb, hw, ho⟩⟩

/-- Under a named field with a well-formed attribute, the loop can only panic on its type. -/
theorem fieldInfo_eq_error {allowed : List String} {f : Field} {e : Panic}
    (hn : f.ident.isSome) (ha : AttrWellFormed f) (h : fieldInfo allowed f = .error e) :
    e = .mustBeOfType (allowedStrsOf allowed) := by
  obtain ⟨o, ho⟩ := optionsDeclared_exists_iff.mpr ha
  rcases f with ⟨attrs, ident, ty⟩
  obtain ⟨name, rfl⟩ := Option.isSome_iff_exists.mp hn
  unfold fieldInfo at h
  rw [fieldOptions_eq_ok.mpr ho] at h
  cases ty with
  | other => exact (Except.error.inj h).symm
  | path p =>
    rcases p with ⟨lc, ⟨i, args⟩, rest⟩
    cases args <;> by_cases hi : i ∈ allowed <;> simp_all

/-! ## The loop and the checks after it -/

/-- All fields wrap one map type. -/
def OneMapType (fields : List Field) : Prop :=
  ∃ kind, ∀ f ∈ fields, ∃ innerType, WrapsAs kind f innerType

/-- The fields `extract_struct_info` accepts: at least one, all named, with well-formed options,
of allowed map types, and of one map type. -/
structure Accepted (allowed : List String) (fields : List Field) : Prop where
  nonempty : fields ≠ []
  named : ∀ f ∈ fields, f.ident.isSome
  attrs : ∀ f ∈ fields, AttrWellFormed f
  wrappers : ∀ f ∈ fields, AllowedWrapper allowed f
  oneMapType : OneMapType fields

theorem homogeneous_nil (names : List String)
    (iwo : List (AngleBracketedGenericArguments × GeneralTableOptions)) :
    homogeneous names [] iwo = .error .emptyStruct := rfl

theorem homogeneous_cons (names : List String) (k : String) (ks : List String)
    (iwo : List (AngleBracketedGenericArguments × GeneralTableOptions)) :
    homogeneous names (k :: ks) iwo =
      if ∀ k' ∈ k :: ks, k' = k then .ok (names, iwo.map (·.1), iwo.map (·.2), k)
      else .error .mustBeOfSameType := by
  simp [homogeneous]

theorem extractStructInfo_of_mapM_ok {input : ItemStruct} {allowed : List String}
    {info : List ((String × String) × (AngleBracketedGenericArguments × GeneralTableOptions))}
    (h : input.fields.mapM (fieldInfo allowed) = .ok info) :
    extractStructInfo input allowed =
      homogeneous (info.map (·.1.1)) (info.map (·.1.2)) (info.map (·.2)) := by
  rw [extractStructInfo, h, ok_bind]
  simp only [List.unzip_fst, List.unzip_snd, List.map_map]
  rfl

theorem extractStructInfo_of_mapM_error {input : ItemStruct} {allowed : List String} {e : Panic}
    (h : input.fields.mapM (fieldInfo allowed) = .error e) :
    extractStructInfo input allowed = .error e := by
  rw [extractStructInfo, h, error_bind]

/-- The loop's results, field by field. -/
theorem forall₂_fieldDeclares {input : ItemStruct} {allowed : List String}
    {info : List ((String × String) × (AngleBracketedGenericArguments × GeneralTableOptions))}
    (h : input.fields.mapM (fieldInfo allowed) = .ok info) :
    List.Forall₂ (FieldDeclares allowed) input.fields info :=
  (mapM_eq_ok_iff.mp h).imp fun _ _ => fieldInfo_eq_ok.mp

/-- A field's path fixes its map type and arguments. -/
theorem WrapsAs.unique {k k' : String} {f : Field} {a a' : AngleBracketedGenericArguments}
    (h : WrapsAs k f a) (h' : WrapsAs k' f a') : k = k' ∧ a = a' := by
  obtain ⟨p, hp, rfl, ha⟩ := h
  obtain ⟨p', hp', rfl, ha'⟩ := h'
  cases hp.symm.trans hp'
  exact ⟨rfl, PathArguments.angleBracketed.inj (ha.symm.trans ha')⟩

/-- A field's attributes fix its options. -/
theorem OptionsDeclared.unique {f : Field} {o o' : GeneralTableOptions}
    (h : OptionsDeclared f o) (h' : OptionsDeclared f o') : o = o' := by
  revert h h'
  unfold OptionsDeclared
  split
  · rintro rfl rfl
    rfl
  · rintro ⟨s, hs, rfl⟩ ⟨s', hs', rfl⟩
    cases hs.symm.trans hs'
    rfl

section Loop

variable {allowed : List String} {fields : List Field}
  {info : List ((String × String) × (AngleBracketedGenericArguments × GeneralTableOptions))}

/-- The vectors `extract_struct_info` unzips from the loop's results, aligned with the fields. -/
theorem forall₂_unzip (hd : List.Forall₂ (FieldDeclares allowed) fields info) {kind : String}
    (hall : ∀ r ∈ info, r.1.2 = kind) :
    List.Forall₂ (fun f name => f.ident = some name) fields (info.map (·.1.1)) ∧
    List.Forall₂ (WrapsAs kind) fields (info.map (·.2.1)) ∧
    List.Forall₂ OptionsDeclared fields (info.map (·.2.2)) :=
  ⟨List.forall₂_map_right_iff.mpr (hd.imp fun _ _ h => h.1),
    List.forall₂_map_right_iff.mpr (forall₂_imp_mem_right hd fun _ _ hy h => hall _ hy ▸ h.2.2.1),
    List.forall₂_map_right_iff.mpr (hd.imp fun _ _ h => h.2.2.2)⟩

/-- Fields that all wrap `kind` give results that all name `kind`. -/
theorem kind_eq_of_mem (hd : List.Forall₂ (FieldDeclares allowed) fields info) {kind : String}
    (hk : ∀ f ∈ fields, ∃ a, WrapsAs kind f a) : ∀ r ∈ info, r.1.2 = kind := by
  intro r hr
  obtain ⟨f, hf, hfr⟩ := forall₂_exists_of_mem hd.flip hr
  obtain ⟨a, ha⟩ := hk f hf
  exact (hfr.2.2.1.unique ha).1

/-- The checks after the loop, on the loop's results: they pass exactly when there is a result and
all results name one map type. -/
theorem homogeneous_map_eq_ok {r : StructInfo} :
    homogeneous (info.map (·.1.1)) (info.map (·.1.2)) (info.map (·.2)) = .ok r ↔
      info ≠ [] ∧ ∃ kind, (∀ x ∈ info, x.1.2 = kind) ∧
        r = (info.map (·.1.1), info.map (·.2.1), info.map (·.2.2), kind) := by
  cases info with
  | nil => exact ⟨fun h => (nomatch h), fun ⟨h, _⟩ => absurd rfl h⟩
  | cons x xs =>
    show homogeneous _ (x.1.2 :: xs.map (·.1.2)) _ = _ ↔ _
    rw [homogeneous_cons]
    simp only [List.map_map, Function.comp_def, List.mem_cons, List.mem_map, forall_eq_or_imp,
      forall_exists_index, and_imp, forall_apply_eq_imp_iff₂, true_and, ne_eq, reduceCtorEq,
      not_false_eq_true]
    split_ifs with hall
    · constructor
      · intro h
        exact ⟨x.1.2, ⟨rfl, hall⟩, (Except.ok.inj h).symm⟩
      · rintro ⟨kind, ⟨hx, _⟩, rfl⟩
        rw [hx]
    · refine ⟨fun h => (nomatch h), fun ⟨kind, ⟨hx, hxs⟩, _⟩ => hall fun a ha => ?_⟩
      rw [hxs a ha, hx]

theorem homogeneous_ne_mustBeOfType (names kinds : List String)
    (iwo : List (AngleBracketedGenericArguments × GeneralTableOptions)) (s : String) :
    homogeneous names kinds iwo ≠ .error (.mustBeOfType s) := by
  cases kinds with
  | nil => exact fun h => nomatch h
  | cons k ks =>
    rw [homogeneous_cons]
    split_ifs <;> exact fun h => nomatch h

theorem homogeneous_map_eq_emptyStruct :
    homogeneous (info.map (·.1.1)) (info.map (·.1.2)) (info.map (·.2)) = .error .emptyStruct ↔
      info = [] := by
  cases info with
  | nil => exact ⟨fun _ => rfl, fun _ => rfl⟩
  | cons x xs =>
    show homogeneous _ (x.1.2 :: xs.map (·.1.2)) _ = _ ↔ _
    rw [homogeneous_cons]
    split_ifs <;> exact ⟨fun h => (nomatch h), fun h => (nomatch h)⟩

theorem homogeneous_map_eq_mustBeOfSameType :
    homogeneous (info.map (·.1.1)) (info.map (·.1.2)) (info.map (·.2)) =
        .error .mustBeOfSameType ↔
      info ≠ [] ∧ ¬ ∃ kind, ∀ x ∈ info, x.1.2 = kind := by
  cases info with
  | nil => exact ⟨fun h => (nomatch h), fun ⟨h, _⟩ => absurd rfl h⟩
  | cons x xs =>
    show homogeneous _ (x.1.2 :: xs.map (·.1.2)) _ = _ ↔ _
    rw [homogeneous_cons]
    split_ifs with hall
    · refine ⟨fun h => (nomatch h), fun ⟨_, h⟩ => absurd ⟨x.1.2, fun y hy => ?_⟩ h⟩
      exact hall _ (List.mem_map_of_mem (·.1.2) hy)
    · refine ⟨fun _ => ⟨List.cons_ne_nil _ _, fun ⟨kind, hk⟩ => hall fun k hk' => ?_⟩, fun _ => rfl⟩
      rcases List.mem_cons.mp hk' with rfl | hk'
      · rfl
      obtain ⟨y, hy, rfl⟩ := List.mem_map.mp hk'
      rw [hk y (List.mem_cons_of_mem _ hy), hk x (List.mem_cons_self _ _)]

/-- On the loop's results, one map type for all fields is one map type for all results. -/
theorem oneMapType_iff (hd : List.Forall₂ (FieldDeclares allowed) fields info) :
    OneMapType fields ↔ ∃ kind, ∀ x ∈ info, x.1.2 = kind := by
  refine ⟨fun ⟨kind, hk⟩ => ⟨kind, kind_eq_of_mem hd hk⟩, fun ⟨kind, hk⟩ => ⟨kind, fun f hf => ?_⟩⟩
  obtain ⟨r, hr, hfr⟩ := forall₂_exists_of_mem hd hf
  exact ⟨r.2.1, hk r hr ▸ hfr.2.2.1⟩

end Loop

/-- **What `extract_struct_info` returns.** Exactly the field names, map type arguments and
options aligned with the fields, and the one map type they share, an allowed one. -/
theorem extractStructInfo_eq_ok_iff {input : ItemStruct} {allowed : List String}
    {names : List String} {innerTypes : List AngleBracketedGenericArguments}
    {options : List GeneralTableOptions} {kind : String} :
    extractStructInfo input allowed = .ok (names, innerTypes, options, kind) ↔
      input.fields ≠ [] ∧ kind ∈ allowed ∧
      List.Forall₂ (fun f name => f.ident = some name) input.fields names ∧
      List.Forall₂ (WrapsAs kind) input.fields innerTypes ∧
      List.Forall₂ OptionsDeclared input.fields options := by
  constructor
  · intro h
    cases hm : input.fields.mapM (fieldInfo allowed) with
    | error e => rw [extractStructInfo_of_mapM_error hm] at h; cases h
    | ok info =>
      have hd := forall₂_fieldDeclares hm
      rw [extractStructInfo_of_mapM_ok hm, homogeneous_map_eq_ok] at h
      obtain ⟨hne, kind', hall, h⟩ := h
      simp only [Prod.mk.injEq] at h
      obtain ⟨rfl, rfl, rfl, rfl⟩ := h
      obtain ⟨r, hr⟩ := List.exists_mem_of_ne_nil info hne
      obtain ⟨f, -, hf⟩ := forall₂_exists_of_mem hd.flip hr
      exact ⟨(ne_nil_iff_of_forall₂ hd).mpr hne, hall r hr ▸ hf.2.1, forall₂_unzip hd hall⟩
  · rintro ⟨hne, hk, hn, hw, ho⟩
    have hok : ∀ f ∈ input.fields, ∃ r, fieldInfo allowed f = .ok r := by
      intro f hf
      obtain ⟨n, -, hfn⟩ := forall₂_exists_of_mem hn hf
      obtain ⟨a, -, hfa⟩ := forall₂_exists_of_mem hw hf
      obtain ⟨o, -, hfo⟩ := forall₂_exists_of_mem ho hf
      exact ⟨((n, kind), (a, o)), fieldInfo_eq_ok.mpr ⟨hfn, hk, hfa, hfo⟩⟩
    obtain ⟨info, hm⟩ := mapM_isOk_iff.mpr hok
    have hd := forall₂_fieldDeclares hm
    have hall := kind_eq_of_mem hd fun f hf =>
      (forall₂_exists_of_mem hw hf).imp fun _ h => h.2
    rw [extractStructInfo_of_mapM_ok hm, homogeneous_map_eq_ok]
    refine ⟨(ne_nil_iff_of_forall₂ hd).mp hne, kind, hall, ?_⟩
    obtain ⟨hn', hw', ho'⟩ := forall₂_unzip hd hall
    rw [List.right_unique_forall₂' (fun _ _ _ h h' => Option.some.inj (h.symm.trans h')) hn hn',
      List.right_unique_forall₂' (fun _ _ _ h h' => (h.unique h').2) hw hw',
      List.right_unique_forall₂' (fun _ _ _ h h' => h.unique h') ho ho']

/-- **When `extract_struct_info` returns.** -/
theorem extractStructInfo_isOk_iff {input : ItemStruct} {allowed : List String} :
    (∃ r, extractStructInfo input allowed = .ok r) ↔ Accepted allowed input.fields := by
  constructor
  · rintro ⟨⟨names, innerTypes, options, kind⟩, h⟩
    obtain ⟨hne, hk, hn, hw, ho⟩ := extractStructInfo_eq_ok_iff.mp h
    refine ⟨hne, fun f hf => ?_, fun f hf => ?_, fun f hf => ?_, ⟨kind, fun f hf => ?_⟩⟩
    · obtain ⟨n, -, hfn⟩ := forall₂_exists_of_mem hn hf
      simp [hfn]
    · obtain ⟨o, -, hfo⟩ := forall₂_exists_of_mem ho hf
      exact optionsDeclared_exists_iff.mp ⟨o, hfo⟩
    · obtain ⟨a, -, hfa⟩ := forall₂_exists_of_mem hw hf
      exact ⟨kind, a, hk, hfa⟩
    · obtain ⟨a, -, hfa⟩ := forall₂_exists_of_mem hw hf
      exact ⟨a, hfa⟩
  · intro hacc
    obtain ⟨info, hm⟩ := mapM_isOk_iff.mpr fun f hf =>
      fieldInfo_isOk_iff.mpr ⟨hacc.named f hf, hacc.attrs f hf, hacc.wrappers f hf⟩
    have hd := forall₂_fieldDeclares hm
    obtain ⟨kind, hk⟩ := (oneMapType_iff hd).mp hacc.oneMapType
    exact ⟨_, (extractStructInfo_of_mapM_ok hm).trans
      (homogeneous_map_eq_ok.mpr ⟨(ne_nil_iff_of_forall₂ hd).mp hacc.nonempty, kind, hk, rfl⟩)⟩

section Panics

variable {input : ItemStruct} {allowed : List String}
  (H : ∀ f ∈ input.fields, f.ident.isSome ∧ AttrWellFormed f)

include H

/-- With named fields and well-formed attributes, the loop runs through exactly when every field
has an allowed map type. -/
theorem loop_isOk_iff :
    (∃ info, input.fields.mapM (fieldInfo allowed) = .ok info) ↔
      ∀ f ∈ input.fields, AllowedWrapper allowed f := by
  rw [mapM_isOk_iff]
  exact forall₂_congr fun f hf => fieldInfo_isOk_iff.trans (by simp [H f hf])

/-- With named fields and well-formed attributes, the loop can only panic with `must be of type`. -/
theorem loop_eq_error {e : Panic} (h : input.fields.mapM (fieldInfo allowed) = .error e) :
    e = .mustBeOfType (allowedStrsOf allowed) := by
  obtain ⟨f, hf, hfe⟩ := mapM_eq_error h
  exact fieldInfo_eq_error (H f hf).1 (H f hf).2 hfe

theorem extractStructInfo_eq_mustBeOfType_iff :
    extractStructInfo input allowed = .error (.mustBeOfType (allowedStrsOf allowed)) ↔
      ∃ f ∈ input.fields, ¬ AllowedWrapper allowed f := by
  constructor
  · intro h
    by_contra hall
    push_neg at hall
    obtain ⟨info, hm⟩ := (loop_isOk_iff H).mpr hall
    rw [extractStructInfo_of_mapM_ok hm] at h
    exact homogeneous_ne_mustBeOfType _ _ _ _ h
  · intro ⟨f, hf, hbad⟩
    cases hm : input.fields.mapM (fieldInfo allowed) with
    | ok info => exact absurd ((loop_isOk_iff H).mp ⟨info, hm⟩ f hf) hbad
    | error e => rw [extractStructInfo_of_mapM_error hm, loop_eq_error H hm]

theorem extractStructInfo_eq_mustBeOfSameType_iff :
    extractStructInfo input allowed = .error .mustBeOfSameType ↔
      input.fields ≠ [] ∧ (∀ f ∈ input.fields, AllowedWrapper allowed f) ∧
        ¬ OneMapType input.fields := by
  cases hm : input.fields.mapM (fieldInfo allowed) with
  | error e =>
    rw [extractStructInfo_of_mapM_error hm, loop_eq_error H hm]
    refine ⟨fun h => (nomatch h), fun ⟨_, hall, _⟩ => ?_⟩
    obtain ⟨info, hm'⟩ := (loop_isOk_iff H).mpr hall
    exact nomatch hm.symm.trans hm'
  | ok info =>
    have hd := forall₂_fieldDeclares hm
    rw [extractStructInfo_of_mapM_ok hm, homogeneous_map_eq_mustBeOfSameType, oneMapType_iff hd]
    have hlen : input.fields ≠ [] ↔ info ≠ [] := by
      rw [ne_eq, ne_eq, ← List.length_eq_zero, ← List.length_eq_zero, hd.length_eq]
    rw [hlen]
    exact ⟨fun ⟨hne, h⟩ => ⟨hne, (loop_isOk_iff H).mp ⟨info, hm⟩, h⟩, fun ⟨hne, _, h⟩ => ⟨hne, h⟩⟩

theorem extractStructInfo_eq_emptyStruct_iff :
    extractStructInfo input allowed = .error .emptyStruct ↔ input.fields = [] := by
  cases hm : input.fields.mapM (fieldInfo allowed) with
  | error e =>
    rw [extractStructInfo_of_mapM_error hm, loop_eq_error H hm]
    refine ⟨fun h => (nomatch h), fun h => ?_⟩
    rw [h] at hm
    exact nomatch hm
  | ok info =>
    have hd := forall₂_fieldDeclares hm
    rw [extractStructInfo_of_mapM_ok hm, homogeneous_map_eq_emptyStruct, ← List.length_eq_zero,
      ← List.length_eq_zero, hd.length_eq]

end Panics

/-- **`extract_struct_info`.** It returns exactly on the accepted field lists, and then with the
names, arguments and options aligned with the fields and the one allowed map type they share;
on named fields with well-formed attributes its panic names the check that failed. -/
theorem extractStructInfo_correct (input : ItemStruct) (allowed : List String) :
    ((∃ r, extractStructInfo input allowed = .ok r) ↔ Accepted allowed input.fields) ∧
    (∀ names innerTypes options kind,
      extractStructInfo input allowed = .ok (names, innerTypes, options, kind) ↔
        input.fields ≠ [] ∧ kind ∈ allowed ∧
        List.Forall₂ (fun f name => f.ident = some name) input.fields names ∧
        List.Forall₂ (WrapsAs kind) input.fields innerTypes ∧
        List.Forall₂ OptionsDeclared input.fields options) ∧
    ((∀ f ∈ input.fields, f.ident.isSome ∧ AttrWellFormed f) →
      (extractStructInfo input allowed = .error (.mustBeOfType (allowedStrsOf allowed)) ↔
        ∃ f ∈ input.fields, ¬ AllowedWrapper allowed f) ∧
      (extractStructInfo input allowed = .error .mustBeOfSameType ↔
        input.fields ≠ [] ∧ (∀ f ∈ input.fields, AllowedWrapper allowed f) ∧
          ¬ OneMapType input.fields) ∧
      (extractStructInfo input allowed = .error .emptyStruct ↔ input.fields = [])) :=
  ⟨extractStructInfo_isOk_iff, fun _ _ _ _ => extractStructInfo_eq_ok_iff, fun H =>
    ⟨extractStructInfo_eq_mustBeOfType_iff H, extractStructInfo_eq_mustBeOfSameType_iff H,
      extractStructInfo_eq_emptyStruct_iff H⟩⟩

/-- The bad usage of the derive's documentation: `table1: Store<String, String>` beside
`bad_field: u32`. -/
def badTables : ItemStruct :=
  ⟨"BadTables", [],
    [⟨[], some "table1", .path ⟨false, ⟨"Store", .angleBracketed ⟨["String", "String"]⟩⟩, []⟩⟩,
     ⟨[], some "bad_field", .path ⟨false, ⟨"u32", .none⟩, []⟩⟩]⟩

theorem extractStructInfo_badTables :
    extractStructInfo badTables ["DBMap", "Store"] =
      .error (.mustBeOfType "DBMap<K, V> or Store<K, V>") :=
  ((extractStructInfo_correct badTables ["DBMap", "Store"]).2.2
    (by simp [badTables, AttrWellFormed, Field.optionsAttrs])).1.mpr
    ⟨_, List.mem_cons_of_mem _ (List.mem_singleton_self _),
      fun ⟨_, _, _, _, hp, _, ha⟩ => by cases hp; cases ha⟩

/-! ## The iteration order of the allowed set

`allowed_map_type_names` is a `HashSet`, which Rust iterates in an order it leaves open. Only
`allowed_strs` reads that order; the membership test does not. -/

/-- A panic of `extract_struct_info` under the order `allowed`, worded as under `allowed'`. -/
def retext (allowed allowed' : List String) (p : Panic) : Panic :=
  if p = .mustBeOfType (allowedStrsOf allowed) then .mustBeOfType (allowedStrsOf allowed') else p

section Order

variable {allowed allowed' : List String}

@[simp] theorem retext_mustBeOfType :
    retext allowed allowed' (.mustBeOfType (allowedStrsOf allowed)) =
      .mustBeOfType (allowedStrsOf allowed') := if_pos rfl

theorem retext_of_ne {p : Panic} (h : ∀ s, p ≠ .mustBeOfType s) : retext allowed allowed' p = p :=
  if_neg (h _)

theorem fieldOptions_mapError (f : Field) :
    (fieldOptions f).mapError (retext allowed allowed') = fieldOptions f := by
  unfold fieldOptions
  split
  · rfl
  · split
    · rfl
    · next err _ => exact congrArg Except.error (retext_of_ne (p := .unwrapErr err) fun _ => nofun)

theorem fieldInfo_perm (h : allowed.Perm allowed') (f : Field) :
    fieldInfo allowed' f = (fieldInfo allowed f).mapError (retext allowed allowed') := by
  rw [fieldInfo, fieldInfo, mapError_bind, fieldOptions_mapError]
  congr 1
  funext o
  split
  · split
    · simp only [h.mem_iff]
      split
      · cases f.ident with
        | none => exact congrArg Except.error (retext_of_ne (p := .unwrapNone) fun _ => nofun).symm
        | some n => rfl
      · exact (congrArg Except.error retext_mustBeOfType).symm
    · exact (congrArg Except.error retext_mustBeOfType).symm
  · exact (congrArg Except.error retext_mustBeOfType).symm

theorem homogeneous_mapError (a b : List String)
    (c : List (AngleBracketedGenericArguments × GeneralTableOptions)) :
    (homogeneous a b c).mapError (retext allowed allowed') = homogeneous a b c := by
  unfold homogeneous
  split
  · exact congrArg Except.error (retext_of_ne (p := .emptyStruct) fun _ => nofun)
  · split
    · rfl
    · exact congrArg Except.error (retext_of_ne (p := .mustBeOfSameType) fun _ => nofun)

/-- Two iteration orders of the allowed map types accept the same structs, with the same result. -/
theorem extractStructInfo_eq_ok_of_perm (h : allowed.Perm allowed') {input : ItemStruct}
    {r : StructInfo} :
    extractStructInfo input allowed = .ok r ↔ extractStructInfo input allowed' = .ok r := by
  obtain ⟨names, inner, opts, kind⟩ := r
  rw [extractStructInfo_eq_ok_iff, extractStructInfo_eq_ok_iff, h.mem_iff]

/-- **The iteration order of the allowed set.** Two iteration orders of the same allowed map
types give `extract_struct_info` the same outcome, except that its "must be of type" panic lists
the types in its own order. -/
theorem extractStructInfo_perm {input : ItemStruct} (h : allowed.Perm allowed') :
    extractStructInfo input allowed' =
      (extractStructInfo input allowed).mapError (retext allowed allowed') := by
  simp only [extractStructInfo, mapError_bind, homogeneous_mapError, ← mapM_mapError,
    ← fieldInfo_perm h]

end Order

theorem extractStructInfo_perm_badTables :
    ["DBMap", "Store"].Perm ["Store", "DBMap"] ∧
      extractStructInfo badTables ["Store", "DBMap"] =
        (extractStructInfo badTables ["DBMap", "Store"]).mapError
          (retext ["DBMap", "Store"] ["Store", "DBMap"]) :=
  ⟨List.Perm.swap _ _ _, extractStructInfo_perm (List.Perm.swap _ _ _)⟩

/-! ## What a panic reports

Every panic of `extract_struct_info` points at the fields: `FieldsRejected` gives, for each panic
site of the loop and of the checks after it, what in the fields makes it fire. Unlike
`extractStructInfo_correct`, this needs nothing of the fields. -/

/-- What a panic of `extract_struct_info` reports about the fields, one constructor per panic
site, in the order the code reaches them. -/
inductive FieldsRejected (allowed : List String) (fields : List Field) : Panic → Prop
  /-- The first options attribute of a field does not parse as `= "..."`. -/
  | badOptions {f : Field} {a : Attribute} {err : String} : f ∈ fields →
      f.attrs.find? (·.path.isIdent dbOptionsCustomFunction) = some a →
      getOptionsOverrideFunction a = .error err →
      FieldsRejected allowed fields (.unwrapErr err)
  /-- A field with well-formed options whose type is not an allowed map type. -/
  | mustBeOfType {f : Field} : f ∈ fields → AttrWellFormed f → ¬ AllowedWrapper allowed f →
      FieldsRejected allowed fields (.mustBeOfType (allowedStrsOf allowed))
  /-- A field of an allowed map type with well-formed options and no name. -/
  | unnamedField {f : Field} : f ∈ fields → AttrWellFormed f → AllowedWrapper allowed f →
      f.ident = none → FieldsRejected allowed fields .unwrapNone
  /-- No field at all. -/
  | emptyStruct : fields = [] → FieldsRejected allowed fields .emptyStruct
  /-- Named fields of allowed map types with well-formed options that do not share one map type. -/
  | mustBeOfSameType :
      (∀ f ∈ fields, f.ident.isSome ∧ AttrWellFormed f ∧ AllowedWrapper allowed f) →
      ¬ OneMapType fields → FieldsRejected allowed fields .mustBeOfSameType

section Rejected

variable {allowed : List String} {fields : List Field} {e : Panic}

/-- A panic of the closure over one field reports that field. -/
theorem fieldsRejected_of_fieldInfo {f : Field} (hf : f ∈ fields)
    (h : fieldInfo allowed f = .error e) : FieldsRejected allowed fields e := by
  cases ho : fieldOptions f with
  | error e' =>
    rw [fieldInfo, ho, error_bind] at h
    cases h
    unfold fieldOptions at ho
    split at ho
    · cases ho
    · next a rest hattrs =>
      split at ho
      · cases ho
      · next err hg =>
        cases ho
        exact .badOptions hf (by rw [find?_eq_head?_optionsAttrs, hattrs]; rfl) hg
  | ok o =>
    have hw := optionsDeclared_exists_iff.mp ⟨o, fieldOptions_eq_ok.mp ho⟩
    rw [fieldInfo, ho, ok_bind] at h
    rcases f with ⟨attrs, ident, ty⟩
    cases ty with
    | other =>
      cases h
      exact .mustBeOfType hf hw (by rintro ⟨_, _, _, _, ⟨⟩, _⟩)
    | path p =>
      rcases p with ⟨lc, ⟨i, args⟩, rest⟩
      cases args with
      | angleBracketed a =>
        by_cases hi : i ∈ allowed
        · cases ident with
          | none =>
            simp only [hi, if_true] at h
            cases h
            exact .unnamedField hf hw ⟨i, a, hi, _, rfl, rfl, rfl⟩ rfl
          | some n => simp [hi] at h
        · simp only [hi, if_false] at h
          cases h
          exact .mustBeOfType hf hw (by rintro ⟨_, _, hk, _, ⟨⟩, rfl, -⟩; exact hi hk)
      | _ =>
        cases h
        exact .mustBeOfType hf hw (by rintro ⟨_, _, _, _, ⟨⟩, _, ⟨⟩⟩)

theorem homogeneous_eq_error {names kinds : List String}
    {iwo : List (AngleBracketedGenericArguments × GeneralTableOptions)}
    (h : homogeneous names kinds iwo = .error e) : e = .emptyStruct ∨ e = .mustBeOfSameType := by
  cases kinds with
  | nil => exact .inl (Except.error.inj h).symm
  | cons k ks =>
    rw [homogeneous_cons] at h
    split_ifs at h
    exact .inr (Except.error.inj h).symm

/-- **What a panic of `extract_struct_info` reports.** Every panic points at the fields: a
malformed options attribute, a field not of an allowed map type, an unnamed field, no field, or
fields of different map types. -/
theorem extractStructInfo_eq_error {input : ItemStruct}
    (h : extractStructInfo input allowed = .error e) : FieldsRejected allowed input.fields e := by
  cases hm : input.fields.mapM (fieldInfo allowed) with
  | error e' =>
    rw [extractStructInfo_of_mapM_error hm] at h
    cases h
    obtain ⟨f, hf, hfe⟩ := mapM_eq_error hm
    exact fieldsRejected_of_fieldInfo hf hfe
  | ok info =>
    have hd := forall₂_fieldDeclares hm
    rw [extractStructInfo_of_mapM_ok hm] at h
    rcases homogeneous_eq_error h with rfl | rfl
    · have hnil := homogeneous_map_eq_emptyStruct.mp h
      exact .emptyStruct (List.forall₂_nil_right_iff.mp (hnil ▸ hd))
    · refine .mustBeOfSameType (fun f hf => ?_) (mt (oneMapType_iff hd).mp
        (homogeneous_map_eq_mustBeOfSameType.mp h).2)
      obtain ⟨r, -, hr⟩ := forall₂_exists_of_mem (mapM_eq_ok_iff.mp hm) hf
      exact fieldInfo_isOk_iff.mp ⟨r, hr⟩

end Rejected

end TypedStoreDerive
