import Mathlib.Data.List.Nodup
import TypedStoreDerive.Derive

/-!
# The generated open logic

For an expansion `exp`, the configurator (`init`, `build`, `configurator`), `open_tables_impl`
with its options resolution `optCfs`, `open_tables_read_write`, `get_memory_usage`,
`open_tables_read_only` and `get_read_only_handle`. The generated structs with a field per table
are `TableStruct exp α`.

Everything outside the crate is a parameter: `rocksdb::Options` is a type `O`, the user's
options functions are `call : String → O` (the value of `path()` for a function path), and
`typed_store::rocks` is an `Engine`. A run of `open_tables_impl` returns the open calls it made,
in order, beside its result, so that which options reach the engine can be stated.

The results: `openTablesImpl_options` (the options each table gets, with or without a caller's
map), `configurator_build_options` and `configurator_init_options` (opening from a configurator),
`openTablesImpl_tables` (the tables an open returns, and its panics), `getReadOnlyHandle_secondary`
(where a read-only handle opens), `openTablesReadWrite_handles` (the wrapping of `Store` tables)
and `getMemoryUsage_first` (memory usage is that of the first field's database).
-/

namespace TypedStoreDerive

/-- A value of a struct the derive generates with a field per table, the fields in declaration
order. -/
@[ext] structure TableStruct (exp : Expansion) (α : Type) where
  fields : List α
  length_eq : fields.length = exp.tables.length

/-- Applying a function to every field. -/
def TableStruct.map {exp : Expansion} {α β : Type} (f : α → β) (s : TableStruct exp α) :
    TableStruct exp β :=
  ⟨s.fields.map f, by rw [List.length_map, s.length_eq]⟩

/-- The field of a name, `s.name`: that of the first table of the name. -/
def TableStruct.get {exp : Expansion} {α : Type} (s : TableStruct exp α) (name : String) :
    Option α :=
  ((exp.tables.map (·.fieldName)).zip s.fields).lookup name

/-- `typed_store::rocks::DBMapTableConfigMap` (defined outside this crate): the per-table
options mapping from table names to options, which `build` wraps and `open_tables_impl` reads
back. -/
structure DBMapTableConfigMap (O : Type) where
  /-- `DBMapTableConfigMap::to_map`. -/
  toMap : BTreeMap String O

/-- `DBMapTableConfigMap::new`. -/
def DBMapTableConfigMap.new {O : Type} (m : BTreeMap String O) : DBMapTableConfigMap O := ⟨m⟩

/-- A call of the generated code into `typed_store::rocks` that opens the database. -/
inductive EngineCall (O : Type)
  | openCfOpts (path : String) (globalDbOptionsOverride : Option O) (optCfs : List (String × O))
  | openCfOptsSecondary (path : String) (secondaryPath : Option String)
      (globalDbOptionsOverride : Option O) (optCfs : List (String × O))
  deriving DecidableEq

/-- The functions of `typed_store::rocks` that `open_tables_impl` calls, absent from src/: the
outcome of an open call, and `DBMap::reopen` of a column family. -/
structure Engine (O Db T : Type) where
  run : EngineCall O → Except String Db
  reopen : Db → String → Except String T

variable {O Db T : Type}

/-! ## The configurator -/

/-- `#config_struct_name::init`: every table at `typed_store::rocks::default_rocksdb_options()`,
the function `DEFAULT_DB_OPTIONS_CUSTOM_FN` names. -/
def Configurator.init (exp : Expansion) (call : String → O) : TableStruct exp O :=
  ⟨exp.tables.map fun _ => call defaultDbOptionsCustomFn, List.length_map _ _⟩

/-- `#config_struct_name::build`: the table names with the options of their fields. -/
def Configurator.build {exp : Expansion} (c : TableStruct exp O) : DBMapTableConfigMap O :=
  .new (BTreeMap.collect ((exp.tables.map (·.fieldName)).zip c.fields))

/-- `#name::configurator`. -/
def configurator (exp : Expansion) (call : String → O) : TableStruct exp O :=
  Configurator.init exp call

/-! ## `open_tables_impl` -/

/-- `(stringify!(f).to_owned(), o.to_map().get(stringify!(f)).unwrap().clone())`. -/
def overrideEntry (o : DBMapTableConfigMap O) (t : TableExpansion) : Except Panic (String × O) := do
  let v ← unwrap (o.toMap.get t.fieldName)
  pure (t.fieldName, v)

/-- `opt_cfs` in `open_tables_impl`: every table's options, from its options function when the
caller passes no map, else from the map, where a missing table panics. -/
def optCfs (exp : Expansion) (call : String → O) :
    Option (DBMapTableConfigMap O) → Except Panic (List (String × O))
  | none => .ok (exp.tables.map fun t => (t.fieldName, call t.optionsFn))
  | some o => exp.tables.mapM (overrideEntry o)

/-- The open call of `open_tables_impl`: `open_cf_opts_secondary` when given a secondary path,
else `open_cf_opts`. -/
def openCall (path : String) (asSecondaryWithPath : Option String)
    (globalDbOptionsOverride : Option O) (cfs : List (String × O)) : EngineCall O :=
  match asSecondaryWithPath with
  | some p => .openCfOptsSecondary path (some p) globalDbOptionsOverride cfs
  | none => .openCfOpts path globalDbOptionsOverride cfs

/-- One `DBMap::reopen(&db, Some(name)).expect(...)` of the tuple that binds the tables. -/
def reopenTable (eng : Engine O Db T) (db : Db) (t : TableExpansion) : Except Panic T :=
  expectOk ("Cannot open " ++ t.fieldName ++ " CF.") (eng.reopen db t.fieldName)

/-- The tuple of reopened tables, evaluated left to right. -/
def reopenAll (exp : Expansion) (eng : Engine O Db T) (db : Db) :
    Except Panic (TableStruct exp T) :=
  match h : exp.tables.mapM (reopenTable eng db) with
  | .ok tables => .ok ⟨tables, (mapM_eq_ok_iff.mp h).length_eq.symm⟩
  | .error p => .error p

/-- `#intermediate_db_map_struct_name::open_tables_impl`: the open calls it makes, and the
intermediate struct or a panic. -/
def openTablesImpl (exp : Expansion) (eng : Engine O Db T) (call : String → O) (path : String)
    (asSecondaryWithPath : Option String) (globalDbOptionsOverride : Option O)
    (tablesDbOptionsOverride : Option (DBMapTableConfigMap O)) :
    List (EngineCall O) × Except Panic (TableStruct exp T) :=
  match optCfs exp call tablesDbOptionsOverride with
  | .error p => ([], .error p)
  | .ok cfs =>
    let c := openCall path asSecondaryWithPath globalDbOptionsOverride cfs
    ([c], do
      let db ← expectOk "Cannot open DB." (eng.run c)
      reopenAll exp eng db)

/-- A table of the struct the derive was applied to: `#post_process_fn(inner.f)`, the `DBMap`
itself when that function is empty. -/
inductive Handle (T : Type)
  | dbMap (t : T)
  | call (fn : String) (t : T)

/-- `#post_process_fn(inner.#field_names)`. -/
def postProcess (fn : String) (t : T) : Handle T :=
  if fn = "" then .dbMap t else .call fn t

/-- `#name::open_tables_read_write`. -/
def openTablesReadWrite (exp : Expansion) (eng : Engine O Db T) (call : String → O)
    (path : String) (globalDbOptionsOverride : Option O)
    (tablesDbOptionsOverride : Option (DBMapTableConfigMap O)) :
    List (EngineCall O) × Except Panic (TableStruct exp (Handle T)) :=
  let run := openTablesImpl exp eng call path none globalDbOptionsOverride tablesDbOptionsOverride
  (run.1, run.2.map (TableStruct.map (postProcess exp.postProcessFn)))

/-- `typed_store::rocks::TypedStoreError`, as `get_memory_usage` builds it. -/
inductive TypedStoreError
  | rocksDBError (msg : String)
  deriving DecidableEq, Repr

/-- The fields of `rocksdb::perf::MemoryUsageStats` that `get_memory_usage` reads. -/
structure MemoryUsageStats where
  memTableTotal : UInt64
  cacheTotal : UInt64
  deriving DecidableEq, Repr

/-- `#name::get_memory_usage`: `rocksdb::perf::get_memory_usage_stats` of the one database
`self.#first_field_name.rocksdb` and no cache, its error mapped to `RocksDBError` of its text.
`rocksdb h` is the field `h.rocksdb` of a table; `none` stands for a struct without a field of
that name, which the compiler would refuse. -/
def getMemoryUsage {exp : Expansion} {H Db : Type} (rocksdb : H → Db)
    (getMemoryUsageStats : List Db → Except String MemoryUsageStats) (s : TableStruct exp H) :
    Option (Except TypedStoreError (UInt64 × UInt64)) :=
  (s.get exp.firstFieldName).map fun first => do
    let stats ← (getMemoryUsageStats [rocksdb first]).mapError .rocksDBError
    pure (stats.memTableTotal, stats.cacheTotal)

/-- `#secondary_db_map_struct_name::open_tables_read_only`: a fresh temporary directory stands in
for a missing secondary path. -/
def openTablesReadOnly (exp : Expansion) (eng : Engine O Db T) (call : String → O)
    (tempdir : Except String String) (primaryPath : String) (withSecondaryPath : Option String)
    (globalDbOptionsOverride : Option O) : List (EngineCall O) × Except Panic (TableStruct exp T) :=
  match withSecondaryPath with
  | some q => openTablesImpl exp eng call primaryPath (some q) globalDbOptionsOverride none
  | none =>
    match tempdir with
    | .error e => ([], .error (.expect "Failed to open temporary directory" (some e)))
    | .ok p => openTablesImpl exp eng call primaryPath (some p) globalDbOptionsOverride none

/-- `#name::get_read_only_handle`. -/
def getReadOnlyHandle (exp : Expansion) (eng : Engine O Db T) (call : String → O)
    (tempdir : Except String String) (primaryPath : String) (withSecondaryPath : Option String)
    (globalDbOptionsOverride : Option O) : List (EngineCall O) × Except Panic (TableStruct exp T) :=
  openTablesReadOnly exp eng call tempdir primaryPath withSecondaryPath globalDbOptionsOverride

/-! ## Options resolution -/

section Resolution

variable {exp : Expansion} {call : String → O}

theorem overrideEntry_eq_ok {o : DBMapTableConfigMap O} {t : TableExpansion} {c : String × O} :
    overrideEntry o t = .ok c ↔ c.1 = t.fieldName ∧ o.toMap.get t.fieldName = some c.2 := by
  unfold overrideEntry
  cases o.toMap.get t.fieldName <;> simp [Prod.ext_iff, eq_comm]

theorem optCfs_some_eq_ok {o : DBMapTableConfigMap O} {cfs : List (String × O)} :
    optCfs exp call (some o) = .ok cfs ↔
      List.Forall₂ (fun t c => c.1 = t.fieldName ∧ o.toMap.get t.fieldName = some c.2)
        exp.tables cfs := by
  rw [optCfs, mapM_eq_ok_iff]
  exact ⟨fun h => h.imp fun _ _ => overrideEntry_eq_ok.mp,
    fun h => h.imp fun _ _ => overrideEntry_eq_ok.mpr⟩

theorem optCfs_some_of_missing {o : DBMapTableConfigMap O}
    (h : ∃ t ∈ exp.tables, o.toMap.get t.fieldName = none) :
    optCfs exp call (some o) = .error .unwrapNone := by
  obtain ⟨t, ht, hnone⟩ := h
  cases hm : optCfs exp call (some o) with
  | ok cfs =>
    obtain ⟨c, -, -, hc⟩ := forall₂_exists_of_mem (optCfs_some_eq_ok.mp hm) ht
    exact nomatch hnone.symm.trans hc
  | error p =>
    obtain ⟨t', -, ht'⟩ := mapM_eq_error hm
    unfold overrideEntry at ht'
    cases hg : o.toMap.get t'.fieldName <;> simp_all

@[simp] theorem optCfs_none :
    optCfs exp call none = .ok (exp.tables.map fun t => (t.fieldName, call t.optionsFn)) := rfl

theorem openCall_eq_elim (path : String) (sec : Option String) (G : Option O)
    (cfs : List (String × O)) :
    openCall path sec G cfs =
      sec.elim (.openCfOpts path G cfs) fun q => .openCfOptsSecondary path (some q) G cfs := by
  cases sec <;> rfl

@[simp] theorem openCall_none (path : String) (G : Option O) (cfs : List (String × O)) :
    openCall path none G cfs = .openCfOpts path G cfs := rfl

theorem openTablesImpl_of_ok (eng : Engine O Db T) (path : String) (sec : Option String)
    (G : Option O) {M : Option (DBMapTableConfigMap O)} {cfs : List (String × O)}
    (h : optCfs exp call M = .ok cfs) :
    (openTablesImpl exp eng call path sec G M).1 = [openCall path sec G cfs] := by
  rw [openTablesImpl, h]

theorem openTablesImpl_of_error {eng : Engine O Db T} {path : String} {sec : Option String}
    {G : Option O} {M : Option (DBMapTableConfigMap O)} {p : Panic}
    (h : optCfs exp call M = .error p) :
    openTablesImpl exp eng call path sec G M = ([], .error p) := by
  rw [openTablesImpl, h]

end Resolution

/-! ## The tables an open returns -/

section Reopen

variable {exp : Expansion} {eng : Engine O Db T} {db : Db}

theorem reopenAll_eq_ok {s : TableStruct exp T} :
    reopenAll exp eng db = .ok s ↔
      List.Forall₂ (fun t r => eng.reopen db t.fieldName = .ok r) exp.tables s.fields := by
  have hmap : reopenAll exp eng db = .ok s ↔
      exp.tables.mapM (reopenTable eng db) = .ok s.fields := by
    unfold reopenAll
    split
    · next tables h =>
      refine ⟨fun e => ?_,
        fun e => congrArg Except.ok (TableStruct.ext (Except.ok.inj (h.symm.trans e)))⟩
      cases e
      exact h
    · next p h =>
      rw [h]
      simp
  rw [hmap, mapM_eq_ok_iff]
  exact ⟨fun h => h.imp fun _ _ => expectOk_eq_ok.mp, fun h => h.imp fun _ _ => expectOk_eq_ok.mpr⟩

theorem reopenAll_eq_error {p : Panic} (h : reopenAll exp eng db = .error p) :
    ∃ t ∈ exp.tables, ∃ e, eng.reopen db t.fieldName = .error e ∧
      p = .expect ("Cannot open " ++ t.fieldName ++ " CF.") (some e) := by
  unfold reopenAll at h
  split at h
  · cases h
  · next hm =>
    cases h
    obtain ⟨t, ht, hte⟩ := mapM_eq_error hm
    exact ⟨t, ht, expectOk_eq_error.mp hte⟩

theorem openTablesImpl_result {call : String → O} (eng : Engine O Db T) (path : String)
    (sec : Option String) (G : Option O) {M : Option (DBMapTableConfigMap O)}
    {cfs : List (String × O)} (h : optCfs exp call M = .ok cfs) :
    (openTablesImpl exp eng call path sec G M).2 =
      expectOk "Cannot open DB." (eng.run (openCall path sec G cfs)) >>= reopenAll exp eng := by
  rw [openTablesImpl, h]

end Reopen

/-- **The options the engine gets.** For an expanded struct and either open mode,
`open_tables_impl` calls the engine once, with every field's name and, without a caller map, the
result of the field's options function, or with a map holding every name, the map's entry; with a
map that misses a name it panics before any call. -/
theorem openTablesImpl_options {lexes : String → Bool} {allowedStrs : AllowedStrs}
    {input : ItemStruct} {exp : Expansion}
    (h : deriveDbmapUtilsGeneral lexes allowedStrs input = .ok exp) (eng : Engine O Db T)
    (call : String → O) (path : String) (sec : Option String) (G : Option O) :
    (∃ cfs, (openTablesImpl exp eng call path sec G none).1 =
        [sec.elim (.openCfOpts path G cfs) fun q => .openCfOptsSecondary path (some q) G cfs] ∧
      List.Forall₂ (fun f c => f.ident = some c.1 ∧
        ∃ fn, OptionsDeclared f (.overrideFunction fn) ∧ c.2 = call fn) input.fields cfs) ∧
    (∀ m : DBMapTableConfigMap O,
      (∀ f ∈ input.fields, ∃ name o, f.ident = some name ∧ m.toMap.get name = some o) →
      ∃ cfs, (openTablesImpl exp eng call path sec G (some m)).1 =
          [sec.elim (.openCfOpts path G cfs) fun q => .openCfOptsSecondary path (some q) G cfs] ∧
        List.Forall₂ (fun f c => f.ident = some c.1 ∧ m.toMap.get c.1 = some c.2)
          input.fields cfs) ∧
    (∀ m : DBMapTableConfigMap O,
      (∃ f ∈ input.fields, ∃ name, f.ident = some name ∧ m.toMap.get name = none) →
      openTablesImpl exp eng call path sec G (some m) = ([], .error .unwrapNone)) := by
  have hd := deriveDbmapUtilsGeneral_tables h
  simp only [← openCall_eq_elim]
  refine ⟨⟨_, openTablesImpl_of_ok eng path sec G optCfs_none, ?_⟩, fun m hm => ?_,
    fun m ⟨f, hf, name, hn, hnone⟩ => ?_⟩
  · exact List.forall₂_map_right_iff.mpr (hd.imp fun _ _ h => ⟨h.1, _, h.2.2.2.2, rfl⟩)
  · have hall : ∀ t ∈ exp.tables, ∃ c, overrideEntry m t = .ok c := by
      intro t ht
      obtain ⟨f, hf, hft⟩ := forall₂_exists_of_mem hd.flip ht
      obtain ⟨name, o, hn, ho⟩ := hm f hf
      cases hft.1.symm.trans hn
      exact ⟨(t.fieldName, o), overrideEntry_eq_ok.mpr ⟨rfl, ho⟩⟩
    obtain ⟨cfs, hcfs⟩ := mapM_isOk_iff.mpr hall
    replace hcfs : optCfs exp call (some m) = .ok cfs := hcfs
    refine ⟨cfs, openTablesImpl_of_ok eng path sec G hcfs, ?_⟩
    refine (forall₂_comp hd (optCfs_some_eq_ok.mp hcfs)).imp fun f c ⟨t, hft, hc, hg⟩ => ?_
    rw [hc]
    exact ⟨hft.1, hg⟩
  · obtain ⟨t, ht, hft⟩ := forall₂_exists_of_mem hd hf
    cases hft.1.symm.trans hn
    exact openTablesImpl_of_error (optCfs_some_of_missing ⟨t, ht, hnone⟩)

theorem openTablesImpl_options_docTables :
    deriveDbmapUtilsGeneral (fun _ => true) .sorted docTables = .ok docExpansion ∧
      ∃ cfs, (openTablesImpl docExpansion
          (⟨fun _ => .ok (), fun _ _ => .ok ()⟩ : Engine Nat Unit Unit)
          (fun _ => 0) "db" none none none).1 = [.openCfOpts "db" none cfs] ∧
        List.Forall₂ (fun f c => f.ident = some c.1 ∧
          ∃ fn, OptionsDeclared f (.overrideFunction fn) ∧ c.2 = 0) docTables.fields cfs :=
  ⟨deriveDbmapUtilsGeneral_docTables,
    (openTablesImpl_options deriveDbmapUtilsGeneral_docTables _ (fun _ => 0) "db" none none).1⟩

/-! ## The configurator against the open logic -/

section Configurator

variable {fields : List Field} {tables : List TableExpansion}

theorem mem_fieldNames_iff (hd : List.Forall₂ Declares fields tables) {s : String} :
    s ∈ tables.map (·.fieldName) ↔ ∃ f ∈ fields, f.ident = some s := by
  constructor
  · intro hs
    obtain ⟨t, ht, rfl⟩ := List.mem_map.mp hs
    obtain ⟨f, hf, hft⟩ := forall₂_exists_of_mem hd.flip ht
    exact ⟨f, hf, hft.1⟩
  · rintro ⟨f, hf, hfs⟩
    obtain ⟨t, ht, hft⟩ := forall₂_exists_of_mem hd hf
    exact List.mem_map.mpr ⟨t, ht, Option.some.inj (hft.1.symm.trans hfs)⟩

theorem fieldNames_nodup (hd : List.Forall₂ Declares fields tables)
    (hnd : (fields.map (·.ident)).Nodup) : (tables.map (·.fieldName)).Nodup := by
  have h : fields.map (·.ident) = tables.map (some ∘ (·.fieldName)) :=
    map_eq_map_of_forall₂ (hd.imp fun _ _ h => h.1)
  rw [h, ← List.map_map] at hnd
  exact List.Nodup.of_map _ hnd

variable {exp : Expansion}

theorem zip_fieldNames_keys (c : TableStruct exp O) :
    ((exp.tables.map (·.fieldName)).zip c.fields).map Prod.fst = exp.tables.map (·.fieldName) :=
  List.map_fst_zip _ _ (by rw [List.length_map, c.length_eq])

theorem get_build_eq_none (c : TableStruct exp O) (s : String) :
    (Configurator.build c).toMap.get s = none ↔ s ∉ exp.tables.map (·.fieldName) := by
  rw [Configurator.build, DBMapTableConfigMap.new, BTreeMap.get_collect_eq_none,
    zip_fieldNames_keys]

/-- With distinct names, the options resolved from `build` are the configurator's fields. -/
theorem optCfs_build (call : String → O) (c : TableStruct exp O)
    (hnd : (exp.tables.map (·.fieldName)).Nodup) :
    optCfs exp call (some (Configurator.build c)) =
      .ok ((exp.tables.map (·.fieldName)).zip c.fields) := by
  refine optCfs_some_eq_ok.mpr (forall₂_imp_mem_right
    (forall₂_zip_map (·.fieldName) (c.length_eq.symm)) fun t p hp h => ⟨h, ?_⟩)
  rw [← h]
  exact BTreeMap.get_collect_of_mem (by rwa [zip_fieldNames_keys])
    (by rwa [← Prod.mk.eta (p := p)] at hp)

/-- The options resolved from the unmodified configurator: the engine default for every table. -/
theorem optCfs_build_init (call : String → O) :
    optCfs exp call (some (Configurator.build (configurator exp call))) =
      .ok (exp.tables.map fun t => (t.fieldName, call defaultDbOptionsCustomFn)) := by
  refine optCfs_some_eq_ok.mpr
    (List.forall₂_map_right_iff.mpr (List.forall₂_same.mpr fun t ht => ⟨rfl, ?_⟩))
  have hne : (Configurator.build (configurator exp call)).toMap.get t.fieldName ≠ none :=
    fun h => (get_build_eq_none _ _).mp h (List.mem_map_of_mem _ ht)
  obtain ⟨v, hv⟩ := Option.ne_none_iff_exists'.mp hne
  rw [hv]
  have hmem := (List.of_mem_zip (BTreeMap.mem_of_get_collect hv)).2
  obtain ⟨_, -, rfl⟩ := List.mem_map.mp hmem
  rfl

end Configurator

/-- **Opening from a configurator.** With distinct field names, `build` has exactly the declared
names as keys, and opening with it never fails to resolve options and hands the engine each
table with the options of the configurator's field of that name. -/
theorem configurator_build_options {lexes : String → Bool} {allowedStrs : AllowedStrs}
    {input : ItemStruct} {exp : Expansion}
    (h : deriveDbmapUtilsGeneral lexes allowedStrs input = .ok exp)
    (hnd : (input.fields.map (·.ident)).Nodup) (c : TableStruct exp O) (eng : Engine O Db T)
    (call : String → O) (path : String) (G : Option O) :
    (∀ s, (Configurator.build c).toMap.get s ≠ none ↔ ∃ f ∈ input.fields, f.ident = some s) ∧
    List.Forall₂ (fun f t => f.ident = some t.fieldName) input.fields exp.tables ∧
    (openTablesReadWrite exp eng call path G (some (Configurator.build c))).1 =
      [.openCfOpts path G ((exp.tables.map (·.fieldName)).zip c.fields)] := by
  have hd := deriveDbmapUtilsGeneral_tables h
  refine ⟨fun s => ?_, hd.imp fun _ _ h => h.1,
    openTablesImpl_of_ok eng path none G (optCfs_build call c (fieldNames_nodup hd hnd))⟩
  rw [ne_eq, get_build_eq_none, not_not, mem_fieldNames_iff hd]

theorem configurator_build_options_docTables :
    deriveDbmapUtilsGeneral (fun _ => true) .sorted docTables = .ok docExpansion ∧
      (docTables.fields.map (·.ident)).Nodup ∧
      (openTablesReadWrite docExpansion
          (⟨fun _ => .ok (), fun _ _ => .ok ()⟩ : Engine Nat Unit Unit) (fun _ => 0) "db" none
          (some (Configurator.build (⟨[1, 2, 3, 4], rfl⟩ : TableStruct docExpansion Nat)))).1 =
        [.openCfOpts "db" none [("table1", 1), ("table2", 2), ("table3", 3), ("table4", 4)]] :=
  ⟨deriveDbmapUtilsGeneral_docTables, by decide,
    (configurator_build_options deriveDbmapUtilsGeneral_docTables (by decide) _ _ (fun _ => 0) "db"
      none).2.2⟩

/-- **The unmodified configurator.** Opening with it hands every table the engine default; this
is what opening without a map hands the engine exactly when every field's options function
gives the engine default. -/
theorem configurator_init_options {lexes : String → Bool} {allowedStrs : AllowedStrs}
    {input : ItemStruct} {exp : Expansion}
    (h : deriveDbmapUtilsGeneral lexes allowedStrs input = .ok exp) (eng : Engine O Db T)
    (call : String → O) (path : String) (G : Option O) :
    (openTablesReadWrite exp eng call path G
        (some (Configurator.build (configurator exp call)))).1 =
      [.openCfOpts path G (exp.tables.map fun t => (t.fieldName, call defaultDbOptionsCustomFn))] ∧
    ((openTablesReadWrite exp eng call path G
        (some (Configurator.build (configurator exp call)))).1 =
        (openTablesReadWrite exp eng call path G none).1 ↔
      ∀ f ∈ input.fields, ∀ fn, OptionsDeclared f (.overrideFunction fn) →
        call fn = call defaultDbOptionsCustomFn) := by
  have hd := deriveDbmapUtilsGeneral_tables h
  have hinit := openTablesImpl_of_ok eng path none G
    (optCfs_build_init call :
      optCfs exp call (some (Configurator.build (configurator exp call))) = _)
  refine ⟨hinit, ?_⟩
  show (openTablesImpl exp eng call path none G _).1 =
    (openTablesImpl exp eng call path none G none).1 ↔ _
  rw [hinit, openTablesImpl_of_ok eng path none G optCfs_none, List.cons.injEq, and_iff_left rfl,
    openCall_none, openCall_none, EngineCall.openCfOpts.injEq, and_iff_right rfl,
    and_iff_right rfl, List.map_inj_left]
  constructor
  · intro hall f hf fn hfn
    obtain ⟨t, ht, hft⟩ := forall₂_exists_of_mem hd hf
    cases OptionsDeclared.unique hfn hft.2.2.2.2
    exact (Prod.mk.inj (hall t ht)).2.symm
  · intro hall t ht
    obtain ⟨f, hf, hft⟩ := forall₂_exists_of_mem hd.flip ht
    rw [hall f hf _ hft.2.2.2.2]

theorem configurator_init_options_docTables :
    deriveDbmapUtilsGeneral (fun _ => true) .sorted docTables = .ok docExpansion ∧
      (openTablesReadWrite docExpansion
          (⟨fun _ => .ok (), fun _ _ => .ok ()⟩ : Engine Nat Unit Unit) (fun _ => 0) "db" none
          (some (Configurator.build (configurator docExpansion fun _ => 0)))).1 =
        [.openCfOpts "db" none [("table1", 0), ("table2", 0), ("table3", 0), ("table4", 0)]] :=
  ⟨deriveDbmapUtilsGeneral_docTables,
    (configurator_init_options deriveDbmapUtilsGeneral_docTables _ (fun _ => 0) "db" none).1⟩

/-- Opening the documentation's tables with the unmodified configurator hands `table2` the
engine default, where opening without a map hands it the 123456-byte write buffer of
`custom_fn_name2`. -/
theorem configurator_init_ne_none :
    deriveDbmapUtilsGeneral (fun _ => true) .sorted docTables = .ok docExpansion ∧
      (openTablesReadWrite docExpansion
          (⟨fun _ => .ok (), fun _ _ => .ok ()⟩ : Engine Nat Unit Unit)
          (fun fn => if fn = "custom_fn_name2" then 123456 else 0) "db" none
          (some (Configurator.build (configurator docExpansion
            fun fn => if fn = "custom_fn_name2" then 123456 else 0)))).1 ≠
        (openTablesReadWrite docExpansion
          (⟨fun _ => .ok (), fun _ _ => .ok ()⟩ : Engine Nat Unit Unit)
          (fun fn => if fn = "custom_fn_name2" then 123456 else 0) "db" none none).1 :=
  ⟨deriveDbmapUtilsGeneral_docTables, by decide⟩

/-! ## What the open functions return -/

/-- **The tables an open returns.** Once options resolve, `open_tables_impl` panics with
"Cannot open DB." and the engine's error when the open call fails. After it succeeds, it returns,
at the position of each field, the column family reopened under the field's name, or panics with
"Cannot open <name> CF." and the engine's error for a field whose column family does not reopen. -/
theorem openTablesImpl_tables {lexes : String → Bool} {allowedStrs : AllowedStrs}
    {input : ItemStruct} {exp : Expansion}
    (h : deriveDbmapUtilsGeneral lexes allowedStrs input = .ok exp) (eng : Engine O Db T)
    (call : String → O) (path : String) (sec : Option String) (G : Option O)
    {M : Option (DBMapTableConfigMap O)}
    {cfs : List (String × O)} (hcfs : optCfs exp call M = .ok cfs) :
    (∀ e, eng.run (openCall path sec G cfs) = .error e →
      (openTablesImpl exp eng call path sec G M).2 = .error (.expect "Cannot open DB." (some e))) ∧
    ∀ db, eng.run (openCall path sec G cfs) = .ok db →
      (∀ s, (openTablesImpl exp eng call path sec G M).2 = .ok s ↔
        List.Forall₂ (fun f r => ∃ name, f.ident = some name ∧ eng.reopen db name = .ok r)
          input.fields s.fields) ∧
      ∀ p, (openTablesImpl exp eng call path sec G M).2 = .error p →
        ∃ f ∈ input.fields, ∃ name e, f.ident = some name ∧ eng.reopen db name = .error e ∧
          p = .expect ("Cannot open " ++ name ++ " CF.") (some e) := by
  have hd := deriveDbmapUtilsGeneral_tables h
  rw [openTablesImpl_result eng path sec G hcfs]
  refine ⟨fun e he => by rw [he]; rfl, fun db hdb => ?_⟩
  rw [hdb]
  refine ⟨fun s => reopenAll_eq_ok.trans ⟨fun hr => ?_, fun hr => ?_⟩, fun p hp => ?_⟩
  · exact (forall₂_comp hd hr).imp fun f r ⟨t, hft, htr⟩ => ⟨t.fieldName, hft.1, htr⟩
  · refine (forall₂_comp hd.flip hr).imp fun t r ⟨f, hft, name, hfn, hre⟩ => ?_
    rwa [Option.some.inj (hft.1.symm.trans hfn)]
  · obtain ⟨t, ht, e, he, rfl⟩ := reopenAll_eq_error hp
    obtain ⟨f, hf, hft⟩ := forall₂_exists_of_mem hd.flip ht
    exact ⟨f, hf, t.fieldName, e, hft.1, he, rfl⟩

theorem openTablesImpl_tables_docTables :
    deriveDbmapUtilsGeneral (fun _ => true) .sorted docTables = .ok docExpansion ∧
      optCfs docExpansion (fun _ => 0) none =
        .ok (docExpansion.tables.map fun t => (t.fieldName, (0 : Nat))) ∧
      ∀ e, (openTablesImpl docExpansion
          (⟨fun _ => .error e, fun _ _ => .ok ()⟩ : Engine Nat Unit Unit)
          (fun _ => 0) "db" none none none).2 = .error (.expect "Cannot open DB." (some e)) :=
  ⟨deriveDbmapUtilsGeneral_docTables, rfl, fun e =>
    (openTablesImpl_tables deriveDbmapUtilsGeneral_docTables
      (⟨fun _ => .error e, fun _ _ => .ok ()⟩ : Engine Nat Unit Unit) (fun _ => 0) "db" none none
      (rfl : optCfs docExpansion (fun _ => 0) none = _)).1 e rfl⟩

/-- **A read-only handle opens a secondary.** Every open call `get_read_only_handle` makes opens
the primary path as a secondary, at the given secondary path or else at a fresh temporary
directory, with each table's options function. It makes none only when no path is given and no
temporary directory can be made, and then panics. -/
theorem getReadOnlyHandle_secondary (exp : Expansion) (eng : Engine O Db T) (call : String → O)
    (tempdir : Except String String) (path : String) (sec : Option String) (G : Option O) :
    (∀ c ∈ (getReadOnlyHandle exp eng call tempdir path sec G).1,
      ∃ q, (sec = some q ∨ sec = none ∧ tempdir = .ok q) ∧
      c = .openCfOptsSecondary path (some q) G
        (exp.tables.map fun t => (t.fieldName, call t.optionsFn))) ∧
    ((getReadOnlyHandle exp eng call tempdir path sec G).1 = [] →
      sec = none ∧ ∃ e, tempdir = .error e ∧ (getReadOnlyHandle exp eng call tempdir path sec G).2 =
        .error (.expect "Failed to open temporary directory" (some e))) := by
  have hopen : ∀ q, (openTablesImpl exp eng call path (some q) G none).1 =
      [.openCfOptsSecondary path (some q) G
        (exp.tables.map fun t => (t.fieldName, call t.optionsFn))] :=
    fun q => openTablesImpl_of_ok eng path (some q) G optCfs_none
  cases sec with
  | some q =>
    rw [getReadOnlyHandle, openTablesReadOnly, hopen]
    exact ⟨fun c hc => ⟨q, .inl rfl, List.eq_of_mem_singleton hc⟩, fun h => (nomatch h)⟩
  | none =>
    cases tempdir with
    | error e => exact ⟨fun c hc => (nomatch hc), fun _ => ⟨rfl, e, rfl, rfl⟩⟩
    | ok p =>
      rw [getReadOnlyHandle, openTablesReadOnly, hopen]
      exact ⟨fun c hc => ⟨p, .inr ⟨rfl, rfl⟩, List.eq_of_mem_singleton hc⟩, fun h => (nomatch h)⟩

/-- A read-only handle that is returned comes from `open_tables_impl` at some secondary path,
with no caller map. -/
theorem getReadOnlyHandle_of_ok {exp : Expansion} {eng : Engine O Db T} {call : String → O}
    {tempdir : Except String String} {path : String} {sec : Option String} {G : Option O}
    {ro : TableStruct exp T} (h : (getReadOnlyHandle exp eng call tempdir path sec G).2 = .ok ro) :
    ∃ q, getReadOnlyHandle exp eng call tempdir path sec G =
      openTablesImpl exp eng call path (some q) G none := by
  rcases sec with _ | q
  · rcases tempdir with e | p
    · cases h
    · exact ⟨p, rfl⟩
  · exact ⟨q, rfl⟩

theorem postProcess_of_lookup {kind fn : String}
    (h : allowedTypesWithPostProcessFn.lookup kind = some fn) (t : T) :
    postProcess fn t = if kind = "Store" then .call "typed_store::Store::new" t else .dbMap t := by
  rw [allowedTypesWithPostProcessFn, List.lookup_cons, List.lookup_cons, List.lookup_nil] at h
  by_cases hd : kind = "DBMap"
  · subst hd
    cases h
    rfl
  · by_cases hs : kind = "Store"
    · subst hs
      cases h
      rfl
    · rw [beq_false_of_ne hd, beq_false_of_ne hs] at h
      cases h

/-- **Tables behind `Store` fields are wrapped.** `open_tables_read_write` hands back every table
`open_tables_impl` opened, wrapped by `typed_store::Store::new` for a struct of `Store` fields and
as the `DBMap` itself for a struct of `DBMap` fields. -/
theorem openTablesReadWrite_handles {lexes : String → Bool} {allowedStrs : AllowedStrs}
    {input : ItemStruct} {exp : Expansion}
    (h : deriveDbmapUtilsGeneral lexes allowedStrs input = .ok exp) (eng : Engine O Db T)
    (call : String → O) (path : String) (G : Option O) (M : Option (DBMapTableConfigMap O))
    {f : Field}
    (hf : f ∈ input.fields) {kind : String} {args : AngleBracketedGenericArguments}
    (hw : WrapsAs kind f args) :
    (openTablesReadWrite exp eng call path G M).2 =
      (openTablesImpl exp eng call path none G M).2.map (TableStruct.map fun t =>
        if kind = "Store" then .call "typed_store::Store::new" t else .dbMap t) := by
  rw [openTablesReadWrite,
    ← funext (postProcess_of_lookup (deriveDbmapUtilsGeneral_postProcessFn h hf hw))]

theorem openTablesReadWrite_handles_docTables :
    deriveDbmapUtilsGeneral (fun _ => true) .sorted docTables = .ok docExpansion ∧
      dbMapField "table1" (some "custom_fn_name1") ["String", "String"] ∈ docTables.fields ∧
      WrapsAs "DBMap" (dbMapField "table1" (some "custom_fn_name1") ["String", "String"])
        ⟨["String", "String"]⟩ ∧
      (openTablesReadWrite docExpansion
          (⟨fun _ => .ok (), fun _ _ => .ok ()⟩ : Engine Nat Unit Unit) (fun _ => 0) "db" none
          none).2 =
        (openTablesImpl docExpansion (⟨fun _ => .ok (), fun _ _ => .ok ()⟩ : Engine Nat Unit Unit)
          (fun _ => 0) "db" none none none).2.map
          (TableStruct.map fun t =>
            if "DBMap" = "Store" then .call "typed_store::Store::new" t else .dbMap t) :=
  ⟨deriveDbmapUtilsGeneral_docTables, List.mem_cons_self _ _, ⟨_, rfl, rfl, rfl⟩,
    openTablesReadWrite_handles deriveDbmapUtilsGeneral_docTables _ (fun _ => 0) "db" none none
      (List.mem_cons_self _ _) ⟨_, rfl, rfl, rfl⟩⟩

/-! ## Memory usage -/

/-- The field named by a struct's first table is its first field. -/
theorem get_head {exp : Expansion} {α : Type} (s : TableStruct exp α) {t : TableExpansion}
    {ts : List TableExpansion} (h : exp.tables = t :: ts) :
    ∃ a, s.fields.head? = some a ∧ s.get t.fieldName = some a := by
  have hlen := s.length_eq
  rw [h] at hlen
  rcases hs : s.fields with _ | ⟨a, as⟩
  · simp [hs] at hlen
  · refine ⟨a, rfl, ?_⟩
    rw [TableStruct.get, h, hs, List.map_cons, List.zip_cons_cons, List.lookup_cons_self]

/-- **Memory usage is that of the first field.** For an expanded struct, `get_memory_usage` on
any value of it asks for the memory statistics of the database of its first field, in declaration
order, and returns their `mem_table_total` and `cache_total`, or their error as a
`RocksDBError`. -/
theorem getMemoryUsage_first {lexes : String → Bool} {allowedStrs : AllowedStrs}
    {input : ItemStruct} {exp : Expansion}
    (h : deriveDbmapUtilsGeneral lexes allowedStrs input = .ok exp) {H : Type} (rocksdb : H → Db)
    (getMemoryUsageStats : List Db → Except String MemoryUsageStats) (s : TableStruct exp H) :
    ∃ first, s.fields.head? = some first ∧
      (∀ stats, getMemoryUsageStats [rocksdb first] = .ok stats →
        getMemoryUsage rocksdb getMemoryUsageStats s =
          some (.ok (stats.memTableTotal, stats.cacheTotal))) ∧
      (∀ e, getMemoryUsageStats [rocksdb first] = .error e →
        getMemoryUsage rocksdb getMemoryUsageStats s = some (.error (.rocksDBError e))) := by
  obtain ⟨he, -⟩ := expansionOf_of_eq_ok h
  obtain ⟨f, hf, hfn⟩ := he.firstFieldName
  obtain ⟨fs, hfs⟩ := List.head?_eq_some_iff.mp hf
  obtain ⟨t, ts, hft, -, hts⟩ := List.forall₂_cons_left_iff.mp (hfs ▸ he.tables)
  obtain ⟨first, hhead, hget⟩ := get_head s hts
  rw [Option.some.inj (hft.1.symm.trans hfn)] at hget
  refine ⟨first, hhead, fun stats hst => ?_, fun e hst => ?_⟩ <;>
    rw [getMemoryUsage, hget, Option.map_some', hst] <;> rfl

theorem getMemoryUsage_first_docTables :
    getMemoryUsage id (fun dbs => .ok ⟨(dbs.headD 0).toUInt64, 0⟩)
        (⟨[1, 2, 3, 4], rfl⟩ : TableStruct docExpansion Nat) = some (.ok (1, 0)) := by
  obtain ⟨first, hfirst, hok, -⟩ := getMemoryUsage_first deriveDbmapUtilsGeneral_docTables id
    (fun dbs => .ok ⟨(dbs.headD 0).toUInt64, 0⟩)
    (⟨[1, 2, 3, 4], rfl⟩ : TableStruct docExpansion Nat)
  cases Option.some.inj hfirst
  exact hok _ rfl

end TypedStoreDerive
