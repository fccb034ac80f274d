import TypedStoreDerive.Extract

/-!
# The derive: `derive_dbmap_utils_general`

The derive reads the struct (`extract_generics_names`, then `extract_struct_info` over the two
allowed map types), takes the key and value types as the first and last argument of every map
type, looks up the post-processing function of the map type, and parses the options functions
and the generated names into token streams. What it splices into its `quote!` is an `Expansion`:
one `TableExpansion` per field, in declaration order, as the repetitions of `quote!` walk the
vectors in step.

`deriveDbmapUtilsGeneral_eq_ok` inverts a successful run; from it `deriveDbmapUtilsGeneral_tables`
ties every table of the expansion to its field (`Declares`), `deriveDbmapUtilsGeneral_isOk_iff`
says exactly which structs the derive expands, and `deriveDbmapUtilsGeneral_eq_ok_iff` that what it
returns is the expansion the struct declares (`ExpansionOf`). `deriveDbmapUtilsGeneral_eq_error`
gives the cause in the struct of each of its panics (`Rejects`). Token streams are kept as the
text they were parsed from; whether a text lexes is `proc_macro2`'s business and a parameter
`lexes` here. The iteration order of the `HashSet` the derive hands `extract_struct_info` is left
open by Rust and is a parameter `allowedStrs : AllowedStrs`, any order of the two keys.
-/

namespace TypedStoreDerive

/-- `allowed_types_with_post_process_fn`, as the sorted entries of the `BTreeMap`: each allowed map
type with the function `open_tables_read_write` applies to its tables. -/
def allowedTypesWithPostProcessFn : List (String × String) :=
  [("DBMap", ""), ("Store", "typed_store::Store::new")]

/-- `allowed_strs`: the keys of `allowed_types_with_post_process_fn` collected into the `HashSet`
that `extract_struct_info` iterates. Rust leaves the order of that iteration open, so the set is
kept as the order it iterates its keys in, any order of them. -/
structure AllowedStrs where
  /-- The keys, in the order the set iterates them. -/
  order : List String
  perm : order.Perm (allowedTypesWithPostProcessFn.map (·.1))

/-- The keys in the `BTreeMap`'s own order, one order the set may iterate them in. -/
def AllowedStrs.sorted : AllowedStrs := ⟨allowedTypesWithPostProcessFn.map (·.1), .refl _⟩

/-- `generics_bounds`. -/
def genericsBounds : String :=
  "std::fmt::Debug + serde::Serialize + for<\x27de> serde::de::Deserialize<\x27de>"

/-- `s.parse::<proc_macro2::TokenStream>().unwrap()`, keeping the token stream as its text. -/
def parseTokens (lexes : String → Bool) (s : String) : Except Panic String :=
  if lexes s then .ok s else .error (.unwrapErr "LexError")

/-- What the derive splices into its output for one table. -/
structure TableExpansion where
  /-- `stringify!` of the field: the table's name. -/
  fieldName : String
  /-- The arguments of the field's map type. -/
  innerType : AngleBracketedGenericArguments
  /-- `key_names`: the first argument. -/
  keyName : String
  /-- `value_names`: the last argument. -/
  valueName : String
  /-- `default_options_override_fn_names`: the table's options function. -/
  optionsFn : String
  deriving DecidableEq, Repr

/-- What `derive_dbmap_utils_general` splices into its `quote!`. -/
structure Expansion where
  name : String
  genericsNames : List String
  tables : List TableExpansion
  postProcessFn : String
  firstFieldName : String
  deriving DecidableEq, Repr

/-- The tables `quote!` walks: its repetitions take the vectors in step. -/
def tablesOf : List String → List AngleBracketedGenericArguments → List (String × String) →
    List String → List TableExpansion
  | n :: ns, q :: qs, kv :: kvs, o :: os => ⟨n, q, kv.1, kv.2, o⟩ :: tablesOf ns qs kvs os
  | _, _, _, _ => []

/-- `(q.args.first().unwrap(), q.args.last().unwrap())`. -/
def keyValueName (q : AngleBracketedGenericArguments) : Except Panic (String × String) := do
  let k ← unwrap q.args.head?
  let v ← unwrap q.args.getLast?
  pure (k, v)

/-- `fn_name.parse().unwrap()` for one table's options. -/
def optionsFnName (lexes : String → Bool) : GeneralTableOptions → Except Panic String
  | .overrideFunction fnName => parseTokens lexes fnName

/-- `derive_dbmap_utils_general`, up to the `quote!` it returns. -/
def deriveDbmapUtilsGeneral (lexes : String → Bool) (allowedStrs : AllowedStrs)
    (input : ItemStruct) : Except Panic Expansion := do
  let genericsNames ← extractGenericsNames input.generics
  let (fieldNames, innerTypes, derivedTableOptions, simpleFieldTypeNameStr) ←
    extractStructInfo input allowedStrs.order
  let keyValueNames ← innerTypes.mapM keyValueName
  let postProcessFnStr ← unwrap (allowedTypesWithPostProcessFn.lookup simpleFieldTypeNameStr)
  let postProcessFn ← parseTokens lexes postProcessFnStr
  let defaultOptionsOverrideFnNames ← derivedTableOptions.mapM (optionsFnName lexes)
  let _ ← parseTokens lexes genericsBounds
  let _ ← parseTokens lexes (input.ident ++ "Configurator")
  let _ ← parseTokens lexes (input.ident ++ "IntermediateDBMapStructPrimary")
  let _ ← parseTokens lexes (input.ident ++ "ReadOnly")
  let firstFieldName ← expect "Expected at least one field" fieldNames.head?
  pure { name := input.ident, genericsNames, postProcessFn, firstFieldName,
         tables := tablesOf fieldNames innerTypes keyValueNames defaultOptionsOverrideFnNames }

/-! ## The expansion against the struct -/

/-- What a field declares for its table: its name, the arguments of its map type with their first
and last, and its options function. -/
def Declares (f : Field) (t : TableExpansion) : Prop :=
  f.ident = some t.fieldName ∧ (∃ kind, WrapsAs kind f t.innerType) ∧
    t.innerType.args.head? = some t.keyName ∧ t.innerType.args.getLast? = some t.valueName ∧
    OptionsDeclared f (.overrideFunction t.optionsFn)

theorem parseTokens_eq_ok {lexes : String → Bool} {s t : String} :
    parseTokens lexes s = .ok t ↔ lexes s ∧ s = t := by
  unfold parseTokens
  split <;> simp_all

theorem keyValueName_eq_ok {q : AngleBracketedGenericArguments} {kv : String × String} :
    keyValueName q = .ok kv ↔ q.args.head? = some kv.1 ∧ q.args.getLast? = some kv.2 := by
  unfold keyValueName
  cases q.args.head? <;> cases q.args.getLast? <;> simp [Prod.ext_iff, eq_comm]

theorem optionsFnName_eq_ok {lexes : String → Bool} {o : GeneralTableOptions} {s : String} :
    optionsFnName lexes o = .ok s ↔ lexes s ∧ o = .overrideFunction s := by
  cases o
  rw [optionsFnName, parseTokens_eq_ok]
  constructor
  · rintro ⟨h, rfl⟩
    exact ⟨h, rfl⟩
  · rintro ⟨h, ⟨⟩⟩
    exact ⟨h, rfl⟩

theorem forall₂_tablesOf {lexes : String → Bool} {kind : String} {fields : List Field}
    {names : List String} {inner : List AngleBracketedGenericArguments}
    {kvs : List (String × String)} {opts : List GeneralTableOptions} {fns : List String}
    (hn : List.Forall₂ (fun f n => f.ident = some n) fields names)
    (hw : List.Forall₂ (WrapsAs kind) fields inner)
    (hkv : List.Forall₂ (fun q kv => keyValueName q = .ok kv) inner kvs)
    (ho : List.Forall₂ OptionsDeclared fields opts)
    (hf : List.Forall₂ (fun o s => optionsFnName lexes o = .ok s) opts fns) :
    List.Forall₂ Declares fields (tablesOf names inner kvs fns) := by
  induction hn generalizing inner kvs opts fns with
  | nil =>
    cases hw
    exact .nil
  | cons hfn _ ih =>
    cases hw with | cons hfw hw =>
    cases hkv with | cons hq hkv =>
    cases ho with | cons hfo ho =>
    cases hf with | cons hs hf =>
    obtain ⟨hk, hv⟩ := keyValueName_eq_ok.mp hq
    obtain ⟨-, rfl⟩ := optionsFnName_eq_ok.mp hs
    exact .cons ⟨hfn, ⟨kind, hfw⟩, hk, hv, hfo⟩ (ih hw hkv ho hf)

/-- What a successful derive computed on the way: the inversion of its `do` block. -/
theorem deriveDbmapUtilsGeneral_eq_ok {lexes : String → Bool} {allowedStrs : AllowedStrs}
    {input : ItemStruct}
    {exp : Expansion} (h : deriveDbmapUtilsGeneral lexes allowedStrs input = .ok exp) :
    ∃ names inner opts kind kvs fns,
      extractGenericsNames input.generics = .ok exp.genericsNames ∧
      extractStructInfo input (allowedTypesWithPostProcessFn.map (·.1)) =
        .ok (names, inner, opts, kind) ∧
      inner.mapM keyValueName = .ok kvs ∧
      allowedTypesWithPostProcessFn.lookup kind = some exp.postProcessFn ∧
      lexes exp.postProcessFn ∧ opts.mapM (optionsFnName lexes) = .ok fns ∧
      lexes genericsBounds ∧ lexes (input.ident ++ "Configurator") ∧
      lexes (input.ident ++ "IntermediateDBMapStructPrimary") ∧ lexes (input.ident ++ "ReadOnly") ∧
      names.head? = some exp.firstFieldName ∧ exp.name = input.ident ∧
      exp.tables = tablesOf names inner kvs fns := by
  simp only [deriveDbmapUtilsGeneral, bind_eq_ok] at h
  obtain ⟨gn, hg, ⟨⟨names, inner, opts, kind⟩, hex, h⟩⟩ := h
  simp only [bind_eq_ok] at h
  obtain ⟨kvs, hkv, pps, hpps, pp, hpp, fns, hfns, _, hb, _, hc, _, hi, _, hr, _, hfirst, h⟩ := h
  obtain rfl := Except.ok.inj h
  obtain ⟨hl, rfl⟩ := parseTokens_eq_ok.mp hpp
  exact ⟨names, inner, opts, kind, kvs, fns, hg,
    (extractStructInfo_eq_ok_of_perm allowedStrs.perm).mp hex, hkv, unwrap_eq_ok.mp hpps, hl, hfns,
    (parseTokens_eq_ok.mp hb).1, (parseTokens_eq_ok.mp hc).1, (parseTokens_eq_ok.mp hi).1,
    (parseTokens_eq_ok.mp hr).1, expect_eq_ok.mp hfirst, rfl, rfl⟩

/-- **The tables of the expansion are the fields.** Table `i` carries field `i`'s name, its map
type's arguments, their first and last as key and value, and its options function. -/
theorem deriveDbmapUtilsGeneral_tables {lexes : String → Bool} {allowedStrs : AllowedStrs}
    {input : ItemStruct}
    {exp : Expansion} (h : deriveDbmapUtilsGeneral lexes allowedStrs input = .ok exp) :
    List.Forall₂ Declares input.fields exp.tables := by
  obtain ⟨_, _, _, _, _, _, -, hex, hkv, -, -, hfns, -, -, -, -, -, -, htables⟩ :=
    deriveDbmapUtilsGeneral_eq_ok h
  obtain ⟨-, -, hn, hw, ho⟩ := extractStructInfo_eq_ok_iff.mp hex
  rw [htables]
  exact forall₂_tablesOf hn hw (mapM_eq_ok_iff.mp hkv) ho (mapM_eq_ok_iff.mp hfns)

/-- The post-processing function of the expansion is that of every field's map type. -/
theorem deriveDbmapUtilsGeneral_postProcessFn {lexes : String → Bool} {allowedStrs : AllowedStrs}
    {input : ItemStruct}
    {exp : Expansion} (h : deriveDbmapUtilsGeneral lexes allowedStrs input = .ok exp) {f : Field}
    (hf : f ∈ input.fields) {kind : String} {args : AngleBracketedGenericArguments}
    (hw : WrapsAs kind f args) :
    allowedTypesWithPostProcessFn.lookup kind = some exp.postProcessFn := by
  obtain ⟨_, _, _, _, _, _, -, hex, -, hpp, -⟩ := deriveDbmapUtilsGeneral_eq_ok h
  obtain ⟨-, -, -, hw₀, -⟩ := extractStructInfo_eq_ok_iff.mp hex
  obtain ⟨q, -, hfq⟩ := forall₂_exists_of_mem hw₀ hf
  obtain ⟨rfl, -⟩ := WrapsAs.unique hw hfq
  exact hpp

/-! ## When the derive succeeds -/

theorem extractGenericsNames_isOk_iff {generics : List GenericParam} :
    (∃ names, extractGenericsNames generics = .ok names) ↔
      ∀ g ∈ generics, ∃ ident, g = .type ident := by
  rw [extractGenericsNames, mapM_isOk_iff]
  refine forall₂_congr fun g _ => ?_
  cases g <;> simp

theorem keyValueName_isOk_iff {q : AngleBracketedGenericArguments} :
    (∃ kv, keyValueName q = .ok kv) ↔ q.args ≠ [] := by
  unfold keyValueName
  cases q.args <;> simp [List.getLast?_cons]

theorem optionsFnName_isOk_iff {lexes : String → Bool} {fnName : String} :
    (∃ s, optionsFnName lexes (.overrideFunction fnName) = .ok s) ↔ lexes fnName := by
  simp only [optionsFnName_eq_ok, GeneralTableOptions.overrideFunction.injEq]
  exact ⟨fun ⟨_, h, rfl⟩ => h, fun h => ⟨_, h, rfl⟩⟩

theorem lookup_postProcessFn {kind : String} (h : kind ∈ allowedTypesWithPostProcessFn.map (·.1)) :
    ∃ fn, allowedTypesWithPostProcessFn.lookup kind = some fn := by
  simp only [allowedTypesWithPostProcessFn, List.map_cons, List.map_nil, List.mem_cons,
    List.not_mem_nil, or_false] at h
  rcases h with rfl | rfl <;> exact ⟨_, rfl⟩

/-- The derive succeeds on a struct whose generics are type parameters, whose fields
`extract_struct_info` accepts, and whose texts lex. -/
theorem deriveDbmapUtilsGeneral_isOk_of {lexes : String → Bool} {allowedStrs : AllowedStrs}
    {input : ItemStruct}
    (hg : ∀ g ∈ input.generics, ∃ ident, g = .type ident)
    (hacc : Accepted (allowedTypesWithPostProcessFn.map (·.1)) input.fields)
    (hargs : ∀ f ∈ input.fields, ∀ kind args, WrapsAs kind f args → args.args ≠ [] ∧
      ∀ fn, allowedTypesWithPostProcessFn.lookup kind = some fn → lexes fn)
    (hopts : ∀ f ∈ input.fields, ∀ fn, OptionsDeclared f (.overrideFunction fn) → lexes fn)
    (hb : lexes genericsBounds) (hc : lexes (input.ident ++ "Configurator"))
    (hi : lexes (input.ident ++ "IntermediateDBMapStructPrimary"))
    (hr : lexes (input.ident ++ "ReadOnly")) :
    ∃ exp, deriveDbmapUtilsGeneral lexes allowedStrs input = .ok exp := by
  obtain ⟨gn, hgn⟩ := extractGenericsNames_isOk_iff.mpr hg
  obtain ⟨⟨names, inner, opts, kind⟩, hex⟩ := extractStructInfo_isOk_iff.mpr hacc
  obtain ⟨hne, hk, hn, hw, ho⟩ := extractStructInfo_eq_ok_iff.mp hex
  have hex' := (extractStructInfo_eq_ok_of_perm allowedStrs.perm).mpr hex
  obtain ⟨kvs, hkv⟩ := mapM_isOk_iff.mpr fun q hq => by
    obtain ⟨f, hf, hfq⟩ := forall₂_exists_of_mem hw.flip hq
    exact keyValueName_isOk_iff.mpr (hargs f hf _ _ hfq).1
  obtain ⟨fns, hfns⟩ := mapM_isOk_iff.mpr fun o ho' => by
    obtain ⟨f, hf, hfo⟩ := forall₂_exists_of_mem ho.flip ho'
    cases o
    exact optionsFnName_isOk_iff.mpr (hopts f hf _ hfo)
  obtain ⟨pp, hpp⟩ := lookup_postProcessFn hk
  obtain ⟨f₀, hf₀⟩ := List.exists_mem_of_ne_nil _ hne
  obtain ⟨q₀, -, hq₀⟩ := forall₂_exists_of_mem hw hf₀
  obtain ⟨n₀, ns, rfl⟩ := List.exists_cons_of_ne_nil ((ne_nil_iff_of_forall₂ hn).mp hne)
  simp only [deriveDbmapUtilsGeneral, hgn, hex', hkv, hpp, hfns, parseTokens,
    (hargs f₀ hf₀ kind q₀ hq₀).2 pp hpp, hb, hc, hi, hr, ok_bind, unwrap_some, List.head?_cons,
    expect, if_true]
  exact ⟨_, rfl⟩

/-- **When the derive succeeds.** The derive returns its expansion exactly when every generic is a
type parameter, `extract_struct_info` accepts the fields, every field's map type has an argument
and a post-processing function that lexes, every options function a field names lexes, and so do
the bounds and the names of the generated structs. -/
theorem deriveDbmapUtilsGeneral_isOk_iff (lexes : String → Bool) (allowedStrs : AllowedStrs)
    (input : ItemStruct) :
    (∃ exp, deriveDbmapUtilsGeneral lexes allowedStrs input = .ok exp) ↔
      (∀ g ∈ input.generics, ∃ ident, g = .type ident) ∧
      Accepted (allowedTypesWithPostProcessFn.map (·.1)) input.fields ∧
      (∀ f ∈ input.fields, ∀ kind args, WrapsAs kind f args → args.args ≠ [] ∧
        ∀ fn, allowedTypesWithPostProcessFn.lookup kind = some fn → lexes fn) ∧
      (∀ f ∈ input.fields, ∀ fn, OptionsDeclared f (.overrideFunction fn) → lexes fn) ∧
      lexes genericsBounds ∧ lexes (input.ident ++ "Configurator") ∧
      lexes (input.ident ++ "IntermediateDBMapStructPrimary") ∧
      lexes (input.ident ++ "ReadOnly") := by
  constructor
  · rintro ⟨exp, h⟩
    obtain ⟨_, inner, opts, kind, kvs, fns, hg, hex, hkv, hpp, hl, hfns, hb, hc, hi, hr, -⟩ :=
      deriveDbmapUtilsGeneral_eq_ok h
    obtain ⟨-, -, -, hw, ho⟩ := extractStructInfo_eq_ok_iff.mp hex
    refine ⟨extractGenericsNames_isOk_iff.mp ⟨_, hg⟩, extractStructInfo_isOk_iff.mp ⟨_, hex⟩,
      fun f hf kind' args hfa => ?_, fun f hf fn hfn => ?_, hb, hc, hi, hr⟩
    · obtain ⟨q, hq, hfq⟩ := forall₂_exists_of_mem hw hf
      obtain ⟨rfl, rfl⟩ := WrapsAs.unique hfa hfq
      obtain ⟨kv, -, hq'⟩ := forall₂_exists_of_mem (mapM_eq_ok_iff.mp hkv) hq
      refine ⟨keyValueName_isOk_iff.mp ⟨kv, hq'⟩, fun fn hfn => ?_⟩
      cases hfn.symm.trans hpp
      exact hl
    · obtain ⟨o, ho', hfo⟩ := forall₂_exists_of_mem ho hf
      cases OptionsDeclared.unique hfn hfo
      obtain ⟨s, -, hs⟩ := forall₂_exists_of_mem (mapM_eq_ok_iff.mp hfns) ho'
      exact optionsFnName_isOk_iff.mp ⟨s, hs⟩
  · exact fun ⟨hg, hacc, hargs, hopts, hb, hc, hi, hr⟩ =>
      deriveDbmapUtilsGeneral_isOk_of hg hacc hargs hopts hb hc hi hr

/-! ## The expansion a struct declares -/

/-- The expansion a struct declares, read off the struct without running the derive: its name, its
type parameters in order, a table per field as the field declares it, the post-processing function
of the one map type of its fields, and the name of its first field. -/
structure ExpansionOf (input : ItemStruct) (exp : Expansion) : Prop where
  name : exp.name = input.ident
  genericsNames : List.Forall₂ (fun g n => g = .type n) input.generics exp.genericsNames
  tables : List.Forall₂ Declares input.fields exp.tables
  mapType : ∃ kind, allowedTypesWithPostProcessFn.lookup kind = some exp.postProcessFn ∧
    ∀ f ∈ input.fields, ∃ args, WrapsAs kind f args
  firstFieldName : ∃ f ∈ input.fields.head?, f.ident = some exp.firstFieldName

theorem Declares.unique {f : Field} {t t' : TableExpansion} (h : Declares f t)
    (h' : Declares f t') : t = t' := by
  obtain ⟨hn, ⟨_, hw⟩, hk, hv, ho⟩ := h
  obtain ⟨hn', ⟨_, hw'⟩, hk', hv', ho'⟩ := h'
  obtain ⟨-, hq⟩ := hw.unique hw'
  rw [hq] at hk hv
  cases t
  cases t'
  cases Option.some.inj (hn.symm.trans hn')
  cases hq
  cases Option.some.inj (hk.symm.trans hk')
  cases Option.some.inj (hv.symm.trans hv')
  cases ho.unique ho'
  rfl

theorem mem_of_lookup_postProcessFn {kind fn : String}
    (h : allowedTypesWithPostProcessFn.lookup kind = some fn) :
    kind ∈ allowedTypesWithPostProcessFn.map (·.1) := by
  obtain ⟨p, hp, hk⟩ := List.lookup_isSome_iff.mp (by rw [h]; rfl)
  exact List.mem_map.mpr ⟨p, hp, (beq_iff_eq.mp hk).symm⟩

/-- A struct declares at most one expansion. -/
theorem ExpansionOf.unique {input : ItemStruct} {exp exp' : Expansion} (h : ExpansionOf input exp)
    (h' : ExpansionOf input exp') : exp = exp' := by
  obtain ⟨kind, hl, hw⟩ := h.mapType
  obtain ⟨kind', hl', hw'⟩ := h'.mapType
  obtain ⟨f, hf, hfn⟩ := h.firstFieldName
  obtain ⟨f', hf', hfn'⟩ := h'.firstFieldName
  cases Option.mem_unique hf hf'
  obtain ⟨a, ha⟩ := hw f (List.mem_of_mem_head? hf)
  obtain ⟨a', ha'⟩ := hw' f (List.mem_of_mem_head? hf)
  cases (ha.unique ha').1
  have hgen := List.right_unique_forall₂'
    (fun _ _ _ h h' => GenericParam.type.inj (h.symm.trans h')) h.genericsNames h'.genericsNames
  have htab := List.right_unique_forall₂'
    (fun (f : Field) (t t' : TableExpansion) (h : Declares f t) h' => h.unique h') h.tables
    h'.tables
  have hname := h.name.trans h'.name.symm
  cases exp
  cases exp'
  cases hgen
  cases htab
  cases hname
  cases Option.some.inj (hl.symm.trans hl')
  cases Option.some.inj (hfn.symm.trans hfn')
  rfl

section Declared

variable {lexes : String → Bool} {allowedStrs : AllowedStrs}
    {input : ItemStruct} {exp : Expansion}

theorem expansionOf_of_eq_ok (h : deriveDbmapUtilsGeneral lexes allowedStrs input = .ok exp) :
    ExpansionOf input exp ∧ lexes exp.postProcessFn ∧ (∀ t ∈ exp.tables, lexes t.optionsFn) ∧
      lexes genericsBounds ∧ lexes (input.ident ++ "Configurator") ∧
      lexes (input.ident ++ "IntermediateDBMapStructPrimary") ∧
      lexes (input.ident ++ "ReadOnly") := by
  obtain ⟨names, _, _, kind, _, _, hg, hex, -, hpp, hl, hfns, hb, hc, hi, hr, hfirst, hname, -⟩ :=
    deriveDbmapUtilsGeneral_eq_ok h
  obtain ⟨-, -, hn, hw, ho⟩ := extractStructInfo_eq_ok_iff.mp hex
  have hd := deriveDbmapUtilsGeneral_tables h
  refine ⟨⟨hname, ?_, hd, ⟨kind, hpp, fun f hf => ?_⟩, ?_⟩, hl, fun t ht => ?_, hb, hc, hi, hr⟩
  · rw [extractGenericsNames] at hg
    exact (mapM_eq_ok_iff.mp hg).imp fun g n hgn => by
      cases g <;> cases hgn
      rfl
  · obtain ⟨q, -, hq⟩ := forall₂_exists_of_mem hw hf
    exact ⟨q, hq⟩
  · obtain ⟨ns, rfl⟩ := List.head?_eq_some_iff.mp hfirst
    obtain ⟨f, fs, hf, -, hfs⟩ := List.forall₂_cons_right_iff.mp hn
    exact ⟨f, by rw [hfs]; rfl, hf⟩
  · obtain ⟨f, hf, hft⟩ := forall₂_exists_of_mem hd.flip ht
    obtain ⟨o, ho', hfo⟩ := forall₂_exists_of_mem ho hf
    cases OptionsDeclared.unique hft.2.2.2.2 hfo
    obtain ⟨s, -, hs⟩ := forall₂_exists_of_mem (mapM_eq_ok_iff.mp hfns) ho'
    exact optionsFnName_isOk_iff.mp ⟨s, hs⟩

theorem eq_ok_of_expansionOf (he : ExpansionOf input exp) (hl : lexes exp.postProcessFn)
    (hfns : ∀ t ∈ exp.tables, lexes t.optionsFn) (hb : lexes genericsBounds)
    (hc : lexes (input.ident ++ "Configurator"))
    (hi : lexes (input.ident ++ "IntermediateDBMapStructPrimary"))
    (hr : lexes (input.ident ++ "ReadOnly")) :
    deriveDbmapUtilsGeneral lexes allowedStrs input = .ok exp := by
  obtain ⟨kind, hpp, hw⟩ := he.mapType
  obtain ⟨f₀, hf₀, -⟩ := he.firstFieldName
  have hdecl : ∀ f ∈ input.fields, ∃ t ∈ exp.tables, Declares f t :=
    fun f hf => forall₂_exists_of_mem he.tables hf
  have hacc : Accepted (allowedTypesWithPostProcessFn.map (·.1)) input.fields := by
    refine ⟨List.ne_nil_of_mem (List.mem_of_mem_head? hf₀), fun f hf => ?_, fun f hf => ?_,
      fun f hf => ?_, ⟨kind, hw⟩⟩
    · obtain ⟨t, -, hft⟩ := hdecl f hf
      simp [hft.1]
    · obtain ⟨t, -, hft⟩ := hdecl f hf
      exact optionsDeclared_exists_iff.mp ⟨_, hft.2.2.2.2⟩
    · obtain ⟨a, ha⟩ := hw f hf
      exact ⟨kind, a, mem_of_lookup_postProcessFn hpp, ha⟩
  have hargs : ∀ f ∈ input.fields, ∀ kind' args, WrapsAs kind' f args → args.args ≠ [] ∧
      ∀ fn, allowedTypesWithPostProcessFn.lookup kind' = some fn → lexes fn := by
    intro f hf kind' args hfa
    obtain ⟨t, -, -, ⟨k, hk⟩, hhead, -⟩ := hdecl f hf
    obtain ⟨rfl, rfl⟩ := hfa.unique hk
    refine ⟨fun hnil => by simp [hnil] at hhead, fun fn hfn => ?_⟩
    obtain ⟨a, ha⟩ := hw f hf
    cases (hfa.unique ha).1
    cases Option.some.inj (hfn.symm.trans hpp)
    exact hl
  have hopts : ∀ f ∈ input.fields, ∀ fn, OptionsDeclared f (.overrideFunction fn) → lexes fn := by
    intro f hf fn hfn
    obtain ⟨t, ht, hft⟩ := hdecl f hf
    cases OptionsDeclared.unique hfn hft.2.2.2.2
    exact hfns t ht
  obtain ⟨exp', h'⟩ := deriveDbmapUtilsGeneral_isOk_of
    (fun g hg => (forall₂_exists_of_mem he.genericsNames hg).imp fun _ h => h.2) hacc hargs hopts
    hb hc hi hr
  rw [h', (expansionOf_of_eq_ok h').1.unique he]

end Declared

/-- **What the derive computes.** The derive returns `exp` exactly when `exp` is the expansion the
struct declares and every text the derive parses lexes: the post-processing function, each table's
options function, the bounds and the names of the generated structs. -/
theorem deriveDbmapUtilsGeneral_eq_ok_iff (lexes : String → Bool) (allowedStrs : AllowedStrs)
    (input : ItemStruct) (exp : Expansion) :
    deriveDbmapUtilsGeneral lexes allowedStrs input = .ok exp ↔
      ExpansionOf input exp ∧ lexes exp.postProcessFn ∧ (∀ t ∈ exp.tables, lexes t.optionsFn) ∧
        lexes genericsBounds ∧ lexes (input.ident ++ "Configurator") ∧
        lexes (input.ident ++ "IntermediateDBMapStructPrimary") ∧
        lexes (input.ident ++ "ReadOnly") :=
  ⟨expansionOf_of_eq_ok, fun ⟨he, hl, hfns, hb, hc, hi, hr⟩ =>
    eq_ok_of_expansionOf he hl hfns hb hc hi hr⟩

/-! ## The documentation's structs -/

/-- A field `name: DBMap<args>`, with `#[default_options_override_fn = "fn"]` when `fn` is given. -/
def dbMapField (name : String) (fn : Option String) (args : List String) : Field :=
  ⟨(fn.map fun s => ⟨⟨false, ⟨dbOptionsCustomFunction, .none⟩, []⟩, .eqLit (.str s)⟩).toList,
    some name, .path ⟨false, ⟨"DBMap", .angleBracketed ⟨args⟩⟩, []⟩⟩

/-- The struct of the derive's documentation: `table3` names no options function. -/
def docTables : ItemStruct :=
  ⟨"Tables", [],
    [dbMapField "table1" (some "custom_fn_name1") ["String", "String"],
     dbMapField "table2" (some "custom_fn_name2") ["i32", "String"],
     dbMapField "table3" none ["i32", "String"],
     dbMapField "table4" (some "custom_fn_name1") ["i32", "String"]]⟩

/-- What the derive splices into its output for `docTables`. -/
def docExpansion : Expansion :=
  ⟨"Tables", [],
    [⟨"table1", ⟨["String", "String"]⟩, "String", "String", "custom_fn_name1"⟩,
     ⟨"table2", ⟨["i32", "String"]⟩, "i32", "String", "custom_fn_name2"⟩,
     ⟨"table3", ⟨["i32", "String"]⟩, "i32", "String", defaultDbOptionsCustomFn⟩,
     ⟨"table4", ⟨["i32", "String"]⟩, "i32", "String", "custom_fn_name1"⟩], "", "table1"⟩

theorem deriveDbmapUtilsGeneral_docTables :
    deriveDbmapUtilsGeneral (fun _ => true) .sorted docTables = .ok docExpansion := rfl

/-- A struct whose one field is `t: DBMap<>`. -/
def emptyArgsTables : ItemStruct := ⟨"Tables", [], [dbMapField "t" none []]⟩

/-- `extract_struct_info` accepts `t: DBMap<>`, and the derive then panics at
`q.args.first().unwrap()`, whatever the lexer. -/
theorem deriveDbmapUtilsGeneral_emptyArgsTables :
    extractStructInfo emptyArgsTables ["DBMap", "Store"] =
        .ok (["t"], [⟨[]⟩], [.default], "DBMap") ∧
      ∀ lexes allowedStrs,
        deriveDbmapUtilsGeneral lexes allowedStrs emptyArgsTables = .error .unwrapNone := by
  refine ⟨rfl, fun lexes allowedStrs => ?_⟩
  have hex : extractStructInfo emptyArgsTables allowedStrs.order =
      .ok (["t"], [⟨[]⟩], [.default], "DBMap") :=
    (extractStructInfo_eq_ok_of_perm allowedStrs.perm).mpr rfl
  rw [deriveDbmapUtilsGeneral, hex]
  rfl

/-! ## What a panic of the derive reports

Every panic of the derive has a cause in the struct or in a text it parses. None of them is the
derive's own `expect("Expected at least one field")` or the `unwrap` of the post-processing lookup:
`extract_struct_info` has already checked that there is a field and that the fields' map type is a
key of the map. -/

/-- The texts the derive parses into token streams: the post-processing function of an allowed
map type, an options function a field declares, the bounds, and the names of the generated
structs. -/
def ParsedText (input : ItemStruct) (s : String) : Prop :=
  (∃ kind, allowedTypesWithPostProcessFn.lookup kind = some s) ∨
    (∃ f ∈ input.fields, OptionsDeclared f (.overrideFunction s)) ∨
    s ∈ [genericsBounds, input.ident ++ "Configurator",
      input.ident ++ "IntermediateDBMapStructPrimary", input.ident ++ "ReadOnly"]

/-- What a panic of the derive reports about the struct, one constructor per kind of cause. -/
inductive Rejects (lexes : String → Bool) (allowedStrs : AllowedStrs) (input : ItemStruct) :
    Panic → Prop
  /-- A lifetime or const parameter. -/
  | unsupportedGeneric {g : GenericParam} : g ∈ input.generics → (∀ n, g ≠ .type n) →
      Rejects lexes allowedStrs input .unsupportedGeneric
  /-- A panic of `extract_struct_info` over the two allowed map types. -/
  | fields {e : Panic} : FieldsRejected allowedStrs.order input.fields e →
      Rejects lexes allowedStrs input e
  /-- A field whose map type has no generic argument: the `unwrap` of the first. -/
  | noArguments {f : Field} {kind : String} {innerType : AngleBracketedGenericArguments} :
      f ∈ input.fields → WrapsAs kind f innerType → innerType.args = [] →
      Rejects lexes allowedStrs input .unwrapNone
  /-- A parsed text that does not lex. -/
  | lexError {s : String} : ParsedText input s → lexes s = false →
      Rejects lexes allowedStrs input (.unwrapErr "LexError")

section Rejects

variable {lexes : String → Bool} {allowedStrs : AllowedStrs} {input : ItemStruct} {e : Panic}

theorem parseTokens_eq_error {s : String} :
    parseTokens lexes s = .error e ↔ lexes s = false ∧ e = .unwrapErr "LexError" := by
  unfold parseTokens
  split
  · next hl => simp [hl]
  · next hl =>
    exact ⟨fun h => ⟨by simpa using hl, (Except.error.inj h).symm⟩, fun ⟨_, h⟩ => h ▸ rfl⟩

theorem keyValueName_eq_error {q : AngleBracketedGenericArguments}
    (h : keyValueName q = .error e) : e = .unwrapNone ∧ q.args = [] := by
  unfold keyValueName at h
  cases hq : q.args <;> simp_all [List.getLast?_cons, eq_comm]

theorem rejects_of_parseTokens {s : String} (hs : ParsedText input s)
    (h : parseTokens lexes s = .error e) : Rejects lexes allowedStrs input e := by
  obtain ⟨hl, rfl⟩ := parseTokens_eq_error.mp h
  exact .lexError hs hl

/-- **What a panic of the derive reports.** Every panic of the derive reports the struct: a
lifetime or const parameter, a panic of `extract_struct_info`, a map type without arguments, or a
parsed text that does not lex. `Rejects` has no case for the derive's own `expect` or for the
`unwrap` of its lookup: they never fire. -/
theorem deriveDbmapUtilsGeneral_eq_error
    (h : deriveDbmapUtilsGeneral lexes allowedStrs input = .error e) :
    Rejects lexes allowedStrs input e := by
  simp only [deriveDbmapUtilsGeneral, bind_eq_error] at h
  rcases h with hg | ⟨_, -, hex | ⟨⟨names, inner, opts, kind⟩, hex, h⟩⟩
  · rw [extractGenericsNames] at hg
    obtain ⟨g, hmem, hge⟩ := mapM_eq_error hg
    cases g <;> cases hge <;> exact .unsupportedGeneric hmem fun _ => nofun
  · exact .fields (extractStructInfo_eq_error hex)
  obtain ⟨hne, hk, hn, hw, ho⟩ := extractStructInfo_eq_ok_iff.mp hex
  simp only [bind_eq_error] at h
  rcases h with hkv | ⟨_, -, hpp | ⟨pps, hpps, hl | ⟨_, -, hfns | ⟨_, -, hb | ⟨_, -, hc |
    ⟨_, -, hi | ⟨_, -, hr | ⟨_, -, hfirst | ⟨_, -, h⟩⟩⟩⟩⟩⟩⟩⟩⟩
  · obtain ⟨q, hq, hqe⟩ := mapM_eq_error hkv
    obtain ⟨f, hf, hfq⟩ := forall₂_exists_of_mem hw.flip hq
    obtain ⟨rfl, hnil⟩ := keyValueName_eq_error hqe
    exact .noArguments hf hfq hnil
  · obtain ⟨fn, hfn⟩ := lookup_postProcessFn (allowedStrs.perm.subset hk)
    rw [hfn] at hpp
    cases hpp
  · exact rejects_of_parseTokens (.inl ⟨kind, unwrap_eq_ok.mp hpps⟩) hl
  · obtain ⟨⟨s⟩, ho', hoe⟩ := mapM_eq_error hfns
    obtain ⟨f, hf, hfo⟩ := forall₂_exists_of_mem ho.flip ho'
    exact rejects_of_parseTokens (.inr (.inl ⟨f, hf, hfo⟩)) hoe
  · exact rejects_of_parseTokens (.inr (.inr (by simp))) hb
  · exact rejects_of_parseTokens (.inr (.inr (by simp))) hc
  · exact rejects_of_parseTokens (.inr (.inr (by simp))) hi
  · exact rejects_of_parseTokens (.inr (.inr (by simp))) hr
  · cases names with
    | nil => exact absurd (List.forall₂_nil_right_iff.mp hn) hne
    | cons n ns => cases hfirst
  · cases h

end Rejects

theorem deriveDbmapUtilsGeneral_eq_error_emptyArgsTables :
    deriveDbmapUtilsGeneral (fun _ => true) .sorted emptyArgsTables = .error .unwrapNone ∧
      Rejects (fun _ => true) .sorted emptyArgsTables .unwrapNone :=
  have h : deriveDbmapUtilsGeneral (fun _ => true) .sorted emptyArgsTables = .error .unwrapNone :=
    rfl
  ⟨h, deriveDbmapUtilsGeneral_eq_error h⟩

end TypedStoreDerive
