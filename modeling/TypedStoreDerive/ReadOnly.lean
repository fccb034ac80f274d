import TypedStoreDerive.Open

/-!
# The read-only debug interface

`describe_tables` of the struct and of its read-only struct, and the read-only struct's `dump`
and `count_keys` with the `TypedStoreDebug` implementation that forwards to them.

`dump` and `count_keys` match the table name against the stringified field names; the arm of a
name catches its table up with the primary and reads the entries the table's iterator yields.
The two functions differ only in what they make of the entries, so both are `ReadOnly.dispatch`
with their own reader. The secondary instance behind the tables is a `Secondary`, a state with
the catch-up and iteration of `typed_store::traits::Map`.

The results:
1. `select_of_mem` and `select_eq_none`: with distinct names the match finds a field's own table,
   and exactly the declared names have an arm;
2. `get_describeTables_eq_some_iff`: the description is each table's key and value type names;
3. `describeTables_dispatch`: both stated over the fields of an expanded struct;
4. `dump_page`: the page `dump` returns, over the integers where `page_number * page_size` fits
   a `usize`, and past that wrapped or a panic, as the build has overflow checks;
5. `getReadOnlyHandle_reads`: a handle from `get_read_only_handle` reads, under each field's name,
   the column family the engine reopened under that name;
6. `session_eq_error`: over any sequence of `TypedStoreDebug` calls, the only panic is an
   overflowing page offset in a build with overflow checks.
-/

namespace TypedStoreDerive

/-- `eyre::Report` as `dump` and `count_keys` raise it: a `bail!` message, or the text of a
`TypedStoreError` that `?` converts. -/
inductive Report
  | msg (text : String)
  | typedStore (err : String)
  deriving DecidableEq, Repr

/-- `eyre::bail!("No such table name: {}", table_name)`. -/
def noSuchTableName (tableName : String) : Report :=
  .msg ("No such table name: " ++ tableName)

/-- The functions of `typed_store::traits::Map` the read-only struct calls, absent from src/:
`try_catch_up_with_primary`, which moves the secondary's state `σ`, and the entries `iter` yields
in a state, with the `Debug` texts of keys and values. Keys and values of every table are of the
types `K` and `V`. -/
structure Secondary (σ T K V : Type) where
  tryCatchUpWithPrimary : σ → T → Except String σ
  iter : σ → T → List (K × V)
  debugKey : K → String
  debugValue : V → String

/-- `|(k, v)| (format!("{:?}", k), format!("{:?}", v))`. -/
def Secondary.debugEntry {σ T K V : Type} (S : Secondary σ T K V) (e : K × V) : String × String :=
  (S.debugKey e.1, S.debugValue e.2)

variable {σ T K V β : Type}

/-! ## `describe_tables` -/

/-- The pairs of the `vec!` that `describe_tables` collects: each table's name with its key and
value type names. -/
def tableDescriptions (exp : Expansion) : List (String × String × String) :=
  exp.tables.map fun t => (t.fieldName, t.keyName, t.valueName)

/-- `#name::describe_tables`. -/
def describeTables (exp : Expansion) : BTreeMap String (String × String) :=
  BTreeMap.collect (tableDescriptions exp)

/-- `#secondary_db_map_struct_name::describe_tables`. -/
def ReadOnly.describeTables (exp : Expansion) : BTreeMap String (String × String) :=
  BTreeMap.collect (tableDescriptions exp)

/-- `TypedStoreDebug::describe_all_tables`: `Self::describe_tables()`. -/
def ReadOnly.describeAllTables {exp : Expansion} (_ : TableStruct exp T) :
    BTreeMap String (String × String) :=
  ReadOnly.describeTables exp

/-! ## `dump` and `count_keys` -/

/-- The table of the arm `stringify!(#field_names) => ...` that `match table_name` takes: that of
the first field of the name. -/
def ReadOnly.select {exp : Expansion} (ro : TableStruct exp T) (tableName : String) : Option T :=
  ro.get tableName

/-- The arm of one table: `try_catch_up_with_primary(&self.f)?`, then `read` of the entries of
`iter(&self.f)`. A run returns the secondary's state after it. -/
def readTable (S : Secondary σ T K V) (read : List (K × V) → Except Panic β) (t : T) (st : σ) :
    Except Panic (Except Report β × σ) :=
  match S.tryCatchUpWithPrimary st t with
  | .error e => .ok (.error (.typedStore e), st)
  | .ok st' => (read (S.iter st' t)).map fun b => (.ok b, st')

/-- `Ok(match table_name { ... })` of `dump` and `count_keys`: the arm of the table named
`tableName`, else `bail!`. -/
def ReadOnly.dispatch {exp : Expansion} (ro : TableStruct exp T) (S : Secondary σ T K V)
    (read : List (K × V) → Except Panic β) (tableName : String) (st : σ) :
    Except Panic (Except Report β × σ) :=
  match ReadOnly.select ro tableName with
  | some t => readTable S read t st
  | none => .ok (.error (noSuchTableName tableName), st)

/-- `.skip(page_number * (page_size) as usize).take(page_size as usize)`, rendered and
collected. -/
def page (S : Secondary σ T K V) (ovf : OverflowChecks) (pageSize : UInt16) (pageNumber : UInt64)
    (entries : List (K × V)) : Except Panic (BTreeMap String String) := do
  let skip ← usizeMul ovf pageNumber pageSize.toUInt64
  pure (BTreeMap.collect (((entries.drop skip.toNat).take pageSize.toNat).map S.debugEntry))

/-- `#secondary_db_map_struct_name::dump`. -/
def ReadOnly.dump {exp : Expansion} (ro : TableStruct exp T) (S : Secondary σ T K V)
    (ovf : OverflowChecks) (tableName : String) (pageSize : UInt16) (pageNumber : UInt64) :
    σ → Except Panic (Except Report (BTreeMap String String) × σ) :=
  ReadOnly.dispatch ro S (page S ovf pageSize pageNumber) tableName

/-- `#secondary_db_map_struct_name::count_keys`: `iter(&self.f).count()`. -/
def ReadOnly.countKeys {exp : Expansion} (ro : TableStruct exp T) (S : Secondary σ T K V)
    (tableName : String) : σ → Except Panic (Except Report Nat × σ) :=
  ReadOnly.dispatch ro S (fun entries => .ok entries.length) tableName

/-- `TypedStoreDebug::dump_table`. -/
def ReadOnly.dumpTable {exp : Expansion} (ro : TableStruct exp T) (S : Secondary σ T K V)
    (ovf : OverflowChecks) (tableName : String) (pageSize : UInt16) (pageNumber : UInt64) :
    σ → Except Panic (Except Report (BTreeMap String String) × σ) :=
  ReadOnly.dump ro S ovf tableName pageSize pageNumber

/-- `TypedStoreDebug::count_table_keys`. -/
def ReadOnly.countTableKeys {exp : Expansion} (ro : TableStruct exp T) (S : Secondary σ T K V)
    (tableName : String) : σ → Except Panic (Except Report Nat × σ) :=
  ReadOnly.countKeys ro S tableName

/-- `TypedStoreDebug::primary_db_name`: `stringify!(#name)`. -/
def ReadOnly.primaryDbName {exp : Expansion} (_ : TableStruct exp T) : String :=
  exp.name

/-! ## The page a dump reads -/

/-- The entries at positions `a ≤ i < a + n` of a list, over the integers: the page that starts
at `a`, as the documentation describes it. -/
def entriesAt {α : Type} (l : List α) (a n : Nat) : List α :=
  (List.range' a n).filterMap fun i => l[i]?

theorem entriesAt_eq_take_drop {α : Type} (l : List α) (a n : Nat) :
    entriesAt l a n = (l.drop a).take n := by
  induction n generalizing a with
  | zero => rfl
  | succ n ih =>
    have hstep : entriesAt l a (n + 1) = (l[a]?).toList ++ entriesAt l (a + 1) n := by
      simp only [entriesAt, List.range'_succ, List.filterMap_cons]
      cases l[a]? <;> rfl
    rw [hstep, ih]
    cases h : l[a]? with
    | none =>
      have ha : l.length ≤ a := List.getElem?_eq_none_iff.mp h
      simp [List.drop_eq_nil_of_le ha, List.drop_eq_nil_of_le (Nat.le_succ_of_le ha)]
    | some x =>
      obtain ⟨ha, rfl⟩ := List.getElem?_eq_some_iff.mp h
      rw [List.drop_eq_getElem_cons ha]
      rfl

theorem entriesAt_eq_nil {α : Type} {l : List α} {a : Nat} (h : l.length ≤ a) (n : Nat) :
    entriesAt l a n = [] := by
  rw [entriesAt_eq_take_drop, List.drop_eq_nil_of_le h, List.take_nil]

theorem toNat_mul_toUInt64 (a : UInt64) (b : UInt16) :
    (a * b.toUInt64).toNat = a.toNat * b.toNat % UInt64.size := by
  show (a.toBitVec * b.toUInt64.toBitVec).toNat = _
  rw [BitVec.toNat_mul]
  rfl

section Page

variable {S : Secondary σ T K V} {P : UInt16} {N : UInt64} {L : List (K × V)}

theorem page_off : page S .off P N L =
    .ok (BTreeMap.collect
      ((entriesAt L (N.toNat * P.toNat % UInt64.size) P.toNat).map S.debugEntry)) := by
  rw [entriesAt_eq_take_drop, ← toNat_mul_toUInt64]
  rfl

theorem page_of_lt (ovf : OverflowChecks) (h : N.toNat * P.toNat < UInt64.size) : page S ovf P N L =
    .ok (BTreeMap.collect ((entriesAt L (N.toNat * P.toNat) P.toNat).map S.debugEntry)) := by
  rw [page, usizeMul_of_lt ovf h, entriesAt_eq_take_drop, ok_bind, toNat_mul_of_lt h]
  rfl

/-- A page panics only in a build with overflow checks, when its offset overflows. -/
theorem page_eq_error {ovf : OverflowChecks} {p : Panic} (h : page S ovf P N L = .error p) :
    ovf = .on ∧ UInt64.size ≤ N.toNat * P.toNat ∧ p = .mulOverflow := by
  rw [page, bind_eq_error] at h
  rcases h with h | ⟨_, -, h⟩
  · exact usizeMul_eq_error.mp h
  · cases h

theorem page_on_of_le (h : UInt64.size ≤ N.toNat * P.toNat) :
    page S .on P N L = .error .mulOverflow := by
  simp only [page, usizeMul]
  rw [if_neg (show ¬ N.toNat * P.toUInt64.toNat < UInt64.size from Nat.not_lt.mpr h)]
  rfl

end Page

/-! ## Dispatch on the table name -/

theorem lookup_eq_none_iff_not_mem {α : Type} [BEq α] [LawfulBEq α] {xs : List (α × β)} {k : α} :
    xs.lookup k = none ↔ k ∉ xs.map Prod.fst := by
  rw [List.lookup_eq_none_iff]
  constructor
  · rintro h hk
    obtain ⟨p, hp, rfl⟩ := List.mem_map.mp hk
    exact absurd (h p hp) (by simp)
  · exact fun h p hp => bne_iff_ne.mpr fun hk => h (hk ▸ List.mem_map_of_mem Prod.fst hp)

theorem lookup_of_mem {α : Type} [BEq α] [LawfulBEq α] {xs : List (α × β)} {k : α} {v : β}
    (hnd : (xs.map Prod.fst).Nodup) (h : (k, v) ∈ xs) : xs.lookup k = some v := by
  induction xs with
  | nil => cases h
  | cons p xs ih =>
    rw [List.map_cons, List.nodup_cons] at hnd
    rcases List.mem_cons.mp h with rfl | hx
    · exact List.lookup_cons_self
    · have hk : k ≠ p.1 := fun hk => hnd.1 (hk ▸ List.mem_map_of_mem Prod.fst hx)
      rw [List.lookup_cons, beq_false_of_ne hk]
      exact ih hnd.2 hx

section Dispatch

variable {exp : Expansion} {S : Secondary σ T K V} {read : List (K × V) → Except Panic β}
  {ro : TableStruct exp T} {tableName : String} {st : σ}

theorem select_eq_none :
    ReadOnly.select ro tableName = none ↔ tableName ∉ exp.tables.map (·.fieldName) := by
  rw [ReadOnly.select, TableStruct.get, lookup_eq_none_iff_not_mem, zip_fieldNames_keys]

/-- With distinct names, the arm of a table's name reads the field at that table's position. -/
theorem select_of_mem (hnd : (exp.tables.map (·.fieldName)).Nodup) {t : TableExpansion} {r : T}
    (h : (t, r) ∈ exp.tables.zip ro.fields) : ReadOnly.select ro t.fieldName = some r := by
  refine lookup_of_mem (by rwa [zip_fieldNames_keys]) ?_
  rw [List.zip_map_left]
  exact List.mem_map_of_mem _ h

theorem dispatch_of_select_some {t : T} (h : ReadOnly.select ro tableName = some t) :
    ReadOnly.dispatch ro S read tableName st = readTable S read t st := by
  rw [ReadOnly.dispatch, h]

theorem dispatch_of_select_none (h : ReadOnly.select ro tableName = none) :
    ReadOnly.dispatch ro S read tableName st = .ok (.error (noSuchTableName tableName), st) := by
  rw [ReadOnly.dispatch, h]

theorem readTable_of_ok {t : T} {st' : σ} (h : S.tryCatchUpWithPrimary st t = .ok st') :
    readTable S read t st = (read (S.iter st' t)).map fun b => (.ok b, st') := by
  rw [readTable, h]

/-- A table's arm never raises a `bail!` message. -/
theorem readTable_ne_msg (t : T) (text : String) (st' : σ) :
    readTable S read t st ≠ .ok (.error (.msg text), st') := by
  unfold readTable
  split
  · simp
  · cases read (S.iter _ t) <;> simp [Except.map]

/-- A dispatch reports an unknown name, its state untouched, exactly when no arm has the name. -/
theorem dispatch_eq_noSuchTableName :
    ReadOnly.dispatch ro S read tableName st = .ok (.error (noSuchTableName tableName), st) ↔
      tableName ∉ exp.tables.map (·.fieldName) := by
  rw [← select_eq_none]
  cases hs : ReadOnly.select ro tableName with
  | none => exact iff_of_true (dispatch_of_select_none hs) rfl
  | some t =>
    rw [dispatch_of_select_some hs]
    exact iff_of_false (readTable_ne_msg t _ st) (nomatch ·)

/-- The arm of a selected table, in `dump` and in `count_keys`. -/
theorem dump_countKeys_of_select {ovf : OverflowChecks} {P : UInt16} {N : UInt64} {t : T}
    (h : ReadOnly.select ro tableName = some t) :
    (∀ e, S.tryCatchUpWithPrimary st t = .error e →
      ReadOnly.dump ro S ovf tableName P N st = .ok (.error (.typedStore e), st) ∧
      ReadOnly.countKeys ro S tableName st = .ok (.error (.typedStore e), st)) ∧
    ∀ st', S.tryCatchUpWithPrimary st t = .ok st' →
      ReadOnly.dump ro S ovf tableName P N st =
        (page S ovf P N (S.iter st' t)).map (fun m => (.ok m, st')) ∧
      ReadOnly.countKeys ro S tableName st = .ok (.ok (S.iter st' t).length, st') := by
  refine ⟨fun e he => ?_, fun st' hcu => ?_⟩ <;>
    rw [ReadOnly.dump, ReadOnly.countKeys, dispatch_of_select_some h, dispatch_of_select_some h]
  · rw [readTable, readTable, he]
    exact ⟨rfl, rfl⟩
  · rw [readTable_of_ok hcu, readTable_of_ok hcu]
    exact ⟨rfl, rfl⟩

/-- A dispatch panics only when the reader does, on the entries of the selected table after a
successful catch-up. -/
theorem dispatch_eq_error {p : Panic} (h : ReadOnly.dispatch ro S read tableName st = .error p) :
    ∃ t st', ReadOnly.select ro tableName = some t ∧ S.tryCatchUpWithPrimary st t = .ok st' ∧
      read (S.iter st' t) = .error p := by
  unfold ReadOnly.dispatch readTable at h
  split at h
  · next t hs =>
    split at h
    · cases h
    · next st' hcu => exact ⟨t, st', hs, hcu, map_eq_error.mp h⟩
  · cases h

end Dispatch

/-! ## The description against the declared fields -/

section Describe

variable {exp : Expansion}

theorem tableDescriptions_keys :
    (tableDescriptions exp).map Prod.fst = exp.tables.map (·.fieldName) := by
  rw [tableDescriptions, List.map_map]
  rfl

theorem get_describeTables_eq_none (s : String) :
    (describeTables exp).get s = none ↔ s ∉ exp.tables.map (·.fieldName) := by
  rw [describeTables, BTreeMap.get_collect_eq_none, tableDescriptions_keys]

theorem get_describeTables_eq_some_iff (hnd : (exp.tables.map (·.fieldName)).Nodup) (s : String)
    (kv : String × String) :
    (describeTables exp).get s = some kv ↔
      ∃ t ∈ exp.tables, t.fieldName = s ∧ t.keyName = kv.1 ∧ t.valueName = kv.2 := by
  constructor
  · intro h
    obtain ⟨t, ht, heq⟩ := List.mem_map.mp (BTreeMap.mem_of_get_collect h)
    simp only [Prod.ext_iff] at heq
    exact ⟨t, ht, heq.1, heq.2⟩
  · rintro ⟨t, ht, rfl, hk, hv⟩
    refine BTreeMap.get_collect_of_mem (by rwa [tableDescriptions_keys]) ?_
    rw [← Prod.mk.eta (p := kv), ← hk, ← hv]
    exact List.mem_map_of_mem _ ht

end Describe

/-- **Describing and dispatching on the declared names.** For an expanded struct with distinct
field names, both `describe_tables` and `describe_all_tables` map exactly the declared names,
each to its field's first and last generic arguments; `dump` and `count_keys` report an unknown
name exactly for the names that map lacks, and otherwise run the arm of the read-only struct's
field at the position of the struct's field of that name. -/
theorem describeTables_dispatch {lexes : String → Bool} {allowedStrs : AllowedStrs}
    {input : ItemStruct} {exp : Expansion}
    (h : deriveDbmapUtilsGeneral lexes allowedStrs input = .ok exp)
    (hnd : (input.fields.map (·.ident)).Nodup) :
    ReadOnly.describeTables exp = describeTables exp ∧
    (∀ (T : Type) (ro : TableStruct exp T), ReadOnly.describeAllTables ro = describeTables exp) ∧
    (∀ s kv, (describeTables exp).get s = some kv ↔
      ∃ f ∈ input.fields, f.ident = some s ∧ ∃ kind args, WrapsAs kind f args ∧
        args.args.head? = some kv.1 ∧ args.args.getLast? = some kv.2) ∧
    (∀ s, (describeTables exp).get s = none ↔ ∀ f ∈ input.fields, f.ident ≠ some s) ∧
    ∀ (σ T K V : Type) (S : Secondary σ T K V) (ovf : OverflowChecks) (ro : TableStruct exp T)
      (s : String) (P : UInt16) (N : UInt64) (st : σ),
      (ReadOnly.dump ro S ovf s P N st = .ok (.error (.msg ("No such table name: " ++ s)), st) ↔
        (describeTables exp).get s = none) ∧
      (ReadOnly.countKeys ro S s st = .ok (.error (.msg ("No such table name: " ++ s)), st) ↔
        (describeTables exp).get s = none) ∧
      ∀ f r, (f, r) ∈ input.fields.zip ro.fields → f.ident = some s →
        (∀ e, S.tryCatchUpWithPrimary st r = .error e →
          ReadOnly.dump ro S ovf s P N st = .ok (.error (.typedStore e), st) ∧
          ReadOnly.countKeys ro S s st = .ok (.error (.typedStore e), st)) ∧
        ∀ st', S.tryCatchUpWithPrimary st r = .ok st' →
          ReadOnly.dump ro S ovf s P N st =
            (page S ovf P N (S.iter st' r)).map (fun m => (.ok m, st')) ∧
          ReadOnly.countKeys ro S s st = .ok (.ok (S.iter st' r).length, st') := by
  have hd := deriveDbmapUtilsGeneral_tables h
  have hnd' := fieldNames_nodup hd hnd
  refine ⟨rfl, fun _ _ => rfl, fun s kv => ?_, fun s => ?_,
    fun σ T K V S ovf ro s P N st => ⟨?_, ?_, fun f r hfr hf => ?_⟩⟩
  · rw [get_describeTables_eq_some_iff hnd']
    constructor
    · rintro ⟨t, ht, rfl, hk, hv⟩
      obtain ⟨f, hf, hft⟩ := forall₂_exists_of_mem hd.flip ht
      obtain ⟨kind, hw⟩ := hft.2.1
      exact ⟨f, hf, hft.1, kind, t.innerType, hw, hk ▸ hft.2.2.1, hv ▸ hft.2.2.2.1⟩
    · rintro ⟨f, hf, hfs, kind, args, hw, hk, hv⟩
      obtain ⟨t, ht, hft⟩ := forall₂_exists_of_mem hd hf
      obtain ⟨kind', hw'⟩ := hft.2.1
      cases (WrapsAs.unique hw hw').2
      exact ⟨t, ht, Option.some.inj (hft.1.symm.trans hfs),
        Option.some.inj (hft.2.2.1.symm.trans hk), Option.some.inj (hft.2.2.2.1.symm.trans hv)⟩
  · rw [get_describeTables_eq_none, mem_fieldNames_iff hd]
    simp
  · exact dispatch_eq_noSuchTableName.trans (get_describeTables_eq_none s).symm
  · exact dispatch_eq_noSuchTableName.trans (get_describeTables_eq_none s).symm
  · obtain ⟨t, hft, htr⟩ := forall₂_mem_zip hd ro.length_eq.symm hfr
    have hsel : ReadOnly.select ro s = some r :=
      Option.some.inj (hft.1.symm.trans hf) ▸ select_of_mem hnd' htr
    exact dump_countKeys_of_select hsel

theorem describeTables_dispatch_docTables :
    deriveDbmapUtilsGeneral (fun _ => true) .sorted docTables = .ok docExpansion ∧
      (docTables.fields.map (·.ident)).Nodup ∧
      ∀ s, (describeTables docExpansion).get s = none ↔ ∀ f ∈ docTables.fields, f.ident ≠ some s :=
  ⟨deriveDbmapUtilsGeneral_docTables, by decide,
    (describeTables_dispatch deriveDbmapUtilsGeneral_docTables (by decide)).2.2.2.1⟩

/-! ## Pages -/

/-- A secondary whose every table holds the one entry `7 ↦ 42`, numbers printed as `Debug` does. -/
def oneEntrySecondary : Secondary Unit Unit Nat Nat :=
  ⟨fun st _ => .ok st, fun _ _ => [(7, 42)], toString, toString⟩

/-- The read-only struct of the documentation's tables. -/
def docReadOnly : TableStruct docExpansion Unit :=
  ⟨[(), (), (), ()], rfl⟩

/-- **Pages of a dump.** After a successful catch-up of a table whose iterator yields `L`,
`dump` returns the entries of `L` at positions `N * P ≤ i < N * P + P` when `N * P` fits a
`usize`, the empty map when that page starts past `L`, and otherwise, without overflow checks, the
page at `N * P mod 2^64`, and with them a panic. -/
theorem dump_page {exp : Expansion} {S : Secondary σ T K V} {ro : TableStruct exp T} {s : String}
    {t : T} {st st' : σ} (hsel : ReadOnly.select ro s = some t)
    (hcu : S.tryCatchUpWithPrimary st t = .ok st')
    (P : UInt16) (N : UInt64) :
    (∀ ovf, N.toNat * P.toNat < UInt64.size →
      ReadOnly.dump ro S ovf s P N st = .ok (.ok (BTreeMap.collect
        ((entriesAt (S.iter st' t) (N.toNat * P.toNat) P.toNat).map S.debugEntry)), st') ∧
      ((S.iter st' t).length ≤ N.toNat * P.toNat →
        ReadOnly.dump ro S ovf s P N st = .ok (.ok BTreeMap.empty, st'))) ∧
    ReadOnly.dump ro S .off s P N st = .ok (.ok (BTreeMap.collect
      ((entriesAt (S.iter st' t) (N.toNat * P.toNat % UInt64.size) P.toNat).map S.debugEntry)),
        st') ∧
    (UInt64.size ≤ N.toNat * P.toNat → ReadOnly.dump ro S .on s P N st = .error .mulOverflow) := by
  have hrun : ∀ ovf, ReadOnly.dump ro S ovf s P N st =
      (page S ovf P N (S.iter st' t)).map fun b => (.ok b, st') := fun ovf => by
    rw [ReadOnly.dump, dispatch_of_select_some hsel, readTable_of_ok hcu]
  refine ⟨fun ovf hlt => ⟨?_, fun hle => ?_⟩, by rw [hrun, page_off]; rfl,
    fun hle => by rw [hrun, page_on_of_le hle]; rfl⟩
  · rw [hrun, page_of_lt ovf hlt]
    rfl
  · rw [hrun, page_of_lt ovf hlt, entriesAt_eq_nil hle]
    rfl

theorem dump_page_docReadOnly :
    ReadOnly.select docReadOnly "table2" = some () ∧
      oneEntrySecondary.tryCatchUpWithPrimary () () = .ok () ∧
      ReadOnly.dump docReadOnly oneEntrySecondary .on "table2" 100 0 () =
        .ok (.ok (BTreeMap.collect ((entriesAt [(7, 42)] 0 100).map oneEntrySecondary.debugEntry)),
          ()) :=
  ⟨rfl, rfl, ((dump_page (rfl : ReadOnly.select docReadOnly "table2" = some ()) rfl 100 0).1 .on
    (by decide)).1⟩

/-- Page `2 ^ 63` of two entries starts at position `2 ^ 64`, past a table of one entry, and is
empty; `dump` wraps the product to `0` and returns the entry without overflow checks, and panics
with them. -/
theorem dump_wrapped_page :
    entriesAt (oneEntrySecondary.iter () ())
        ((9223372036854775808 : UInt64).toNat * (2 : UInt16).toNat) 2 = [] ∧
    (∃ m, ReadOnly.dump docReadOnly oneEntrySecondary .off "table1" 2 9223372036854775808 () =
        .ok (.ok m, ()) ∧
      m.get "7" = some "42") ∧
    ReadOnly.dump docReadOnly oneEntrySecondary .on "table1" 2 9223372036854775808 () =
      .error .mulOverflow :=
  ⟨by decide, ⟨_, rfl, rfl⟩, rfl⟩

/-! ## Reading a read-only handle -/

/-- **A read-only handle reads the column family of each name.** For an expanded struct with
distinct field names, a read-only handle that `get_read_only_handle` returns was opened by one
call into the engine, giving a database `db`; its table at a field's position is the column
family `db` reopens under the field's name, and `dump` and `count_keys` of that name run that
table's arm. -/
theorem getReadOnlyHandle_reads {lexes : String → Bool} {allowedStrs : AllowedStrs}
    {input : ItemStruct} {exp : Expansion}
    {Db O : Type} (h : deriveDbmapUtilsGeneral lexes allowedStrs input = .ok exp)
    (hnd : (input.fields.map (·.ident)).Nodup) (eng : Engine O Db T) (call : String → O)
    (tempdir : Except String String) (path : String) (sec : Option String) (G : Option O)
    {ro : TableStruct exp T}
    (hro : (getReadOnlyHandle exp eng call tempdir path sec G).2 = .ok ro) :
    ∃ c db, (getReadOnlyHandle exp eng call tempdir path sec G).1 = [c] ∧ eng.run c = .ok db ∧
      ∀ f r name, (f, r) ∈ input.fields.zip ro.fields → f.ident = some name →
        eng.reopen db name = .ok r ∧
        ∀ (S : Secondary σ T K V) ovf P N (st : σ),
          (∀ e, S.tryCatchUpWithPrimary st r = .error e →
            ReadOnly.dump ro S ovf name P N st = .ok (.error (.typedStore e), st) ∧
            ReadOnly.countKeys ro S name st = .ok (.error (.typedStore e), st)) ∧
          ∀ st', S.tryCatchUpWithPrimary st r = .ok st' →
            ReadOnly.dump ro S ovf name P N st =
              (page S ovf P N (S.iter st' r)).map (fun m => (.ok m, st')) ∧
            ReadOnly.countKeys ro S name st = .ok (.ok (S.iter st' r).length, st') := by
  obtain ⟨q, hq⟩ := getReadOnlyHandle_of_ok hro
  rw [hq] at hro ⊢
  rw [openTablesImpl_result eng path (some q) G optCfs_none, bind_eq_ok] at hro
  obtain ⟨db, hdb, hre⟩ := hro
  have hd := deriveDbmapUtilsGeneral_tables h
  refine ⟨_, db, openTablesImpl_of_ok eng path (some q) G optCfs_none, expectOk_eq_ok.mp hdb,
    fun f r name hfr hf => ?_⟩
  obtain ⟨t, hft, htr⟩ := forall₂_mem_zip hd ro.length_eq.symm hfr
  have hname : t.fieldName = name := Option.some.inj (hft.1.symm.trans hf)
  have hsel : ReadOnly.select ro name = some r :=
    hname ▸ select_of_mem (fieldNames_nodup hd hnd) htr
  exact ⟨hname ▸ (List.forall₂_iff_zip.mp (reopenAll_eq_ok.mp hre)).2 htr,
    fun S ovf P N st => dump_countKeys_of_select hsel⟩

/-- An engine whose column family of each name is the name. -/
def namedEngine : Engine Nat Unit String :=
  ⟨fun _ => .ok (), fun _ name => .ok name⟩

/-- The read-only struct of the documentation's tables over `namedEngine`. -/
def namedReadOnly : TableStruct docExpansion String :=
  ⟨["table1", "table2", "table3", "table4"], rfl⟩

theorem getReadOnlyHandle_reads_docTables :
    (getReadOnlyHandle docExpansion namedEngine (fun _ => 0) (.ok "tmp") "db" none none).2 =
        .ok namedReadOnly ∧
      ∀ (S : Secondary Unit String Nat Nat) ovf P N,
        S.tryCatchUpWithPrimary () "table3" = .ok () →
        ReadOnly.dump namedReadOnly S ovf "table3" P N () =
          (page S ovf P N (S.iter () "table3")).map (fun m => (.ok m, ())) := by
  have hro : (getReadOnlyHandle docExpansion namedEngine (fun _ => 0) (.ok "tmp") "db" none
      none).2 = .ok namedReadOnly := rfl
  obtain ⟨_, _, -, -, hall⟩ := getReadOnlyHandle_reads deriveDbmapUtilsGeneral_docTables
    (by decide) namedEngine (fun _ => 0) (.ok "tmp") "db" none none hro
  exact ⟨hro, fun S ovf P N hcu =>
    (((hall (dbMapField "table3" none ["i32", "String"]) "table3" "table3" (by decide) rfl).2
      S ovf P N ()).2 () hcu).1⟩

/-! ## A debug session

A tool holding a read-only struct behind `TypedStoreDebug` calls `dump_table` and
`count_table_keys` one after another, each on the secondary's state the call before left. -/

/-- A call of `TypedStoreDebug` that reads a table. -/
inductive DebugCall
  | dumpTable (tableName : String) (pageSize : UInt16) (pageNumber : UInt64)
  | countTableKeys (tableName : String)
  deriving DecidableEq, Repr

/-- What such a call returns. -/
inductive DebugReply
  | dumpTable (r : Except Report (BTreeMap String String))
  | countTableKeys (r : Except Report Nat)

/-- One call, on the secondary's state before it; it returns the state after it. -/
def ReadOnly.debugCall {exp : Expansion} (ro : TableStruct exp T) (S : Secondary σ T K V)
    (ovf : OverflowChecks) : DebugCall → σ → Except Panic (DebugReply × σ)
  | .dumpTable s P N, st =>
    (ReadOnly.dumpTable ro S ovf s P N st).map fun r => (.dumpTable r.1, r.2)
  | .countTableKeys s, st =>
    (ReadOnly.countTableKeys ro S s st).map fun r => (.countTableKeys r.1, r.2)

/-- Calls one after another, each on the state the one before left; a panic ends the session. -/
def ReadOnly.session {exp : Expansion} (ro : TableStruct exp T) (S : Secondary σ T K V)
    (ovf : OverflowChecks) : List DebugCall → σ → Except Panic (List DebugReply × σ)
  | [], st => .ok ([], st)
  | c :: cs, st => do
    let (r, st') ← ReadOnly.debugCall ro S ovf c st
    let (rs, st'') ← ReadOnly.session ro S ovf cs st'
    pure (r :: rs, st'')

section Session

variable {exp : Expansion} {ro : TableStruct exp T} {S : Secondary σ T K V} {ovf : OverflowChecks}
  {p : Panic}

/-- One call panics only as a `dump_table` of a table its name selects whose page offset
overflows, in a build with overflow checks. -/
theorem debugCall_eq_error {c : DebugCall} {st : σ}
    (h : ReadOnly.debugCall ro S ovf c st = .error p) :
    p = .mulOverflow ∧ ovf = .on ∧ ∃ s P N, c = .dumpTable s P N ∧
      (ReadOnly.select ro s).isSome ∧ UInt64.size ≤ N.toNat * P.toNat := by
  cases c with
  | dumpTable s P N =>
    obtain ⟨t, _, hs, -, hp⟩ := dispatch_eq_error (map_eq_error.mp h)
    obtain ⟨hon, hle, rfl⟩ := page_eq_error hp
    exact ⟨rfl, hon, s, P, N, rfl, by rw [hs]; rfl, hle⟩
  | countTableKeys s =>
    obtain ⟨_, _, -, -, hp⟩ := dispatch_eq_error (map_eq_error.mp h)
    cases hp

/-- **A debug session panics only on an overflowing page.** Over any sequence of `dump_table`
and `count_table_keys` calls, from any state of the secondary, a panic is the overflow of
`page_number * page_size` in a `dump_table` of a table its name selects, in a build with
overflow checks: without them no session panics. -/
theorem session_eq_error {cs : List DebugCall} {st : σ}
    (h : ReadOnly.session ro S ovf cs st = .error p) :
    p = .mulOverflow ∧ ovf = .on ∧ ∃ s P N, .dumpTable s P N ∈ cs ∧
      (ReadOnly.select ro s).isSome ∧ UInt64.size ≤ N.toNat * P.toNat := by
  induction cs generalizing st with
  | nil => cases h
  | cons c cs ih =>
    simp only [ReadOnly.session, bind_eq_error] at h
    rcases h with h | ⟨⟨r, st'⟩, -, h | ⟨_, -, h⟩⟩
    · obtain ⟨hp, hon, s, P, N, rfl, hsel, hle⟩ := debugCall_eq_error h
      exact ⟨hp, hon, s, P, N, List.mem_cons_self _ _, hsel, hle⟩
    · obtain ⟨hp, hon, s, P, N, hmem, hsel, hle⟩ := ih h
      exact ⟨hp, hon, s, P, N, List.mem_cons_of_mem _ hmem, hsel, hle⟩
    · cases h

end Session

theorem session_eq_error_docReadOnly :
    ReadOnly.session docReadOnly oneEntrySecondary .on
        [.countTableKeys "table1", .dumpTable "table1" 2 9223372036854775808] () =
      .error .mulOverflow ∧
    ∃ s P N, DebugCall.dumpTable s P N ∈
        [.countTableKeys "table1", .dumpTable "table1" 2 9223372036854775808] ∧
      (ReadOnly.select docReadOnly s).isSome ∧ UInt64.size ≤ N.toNat * P.toNat :=
  have h : ReadOnly.session docReadOnly oneEntrySecondary .on
      [.countTableKeys "table1", .dumpTable "table1" 2 9223372036854775808] () =
        .error .mulOverflow := rfl
  ⟨h, (session_eq_error h).2.2⟩

end TypedStoreDerive
