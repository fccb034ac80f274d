import Mathlib.Data.List.Forall2

/-!
# The Rust the derive and its output rely on

Panics, by the site that raises them and with the text Rust prints (`Panic.message`);
`Option::unwrap`, `Option::expect` and `Result::expect` as the panics they raise; `BTreeMap` by
its lookup, built by `collect`, where a later pair replaces an earlier one with the same key
(`get_collect_eq_none`, `get_collect_of_mem`, `mem_of_get_collect`); and multiplication on a
64-bit `usize` under both overflow settings of a build profile (`usizeMul`).
-/

namespace TypedStoreDerive

/-- A panic, by the site that raises it. -/
inductive Panic
  /-- `extract_struct_info`: a field that is not one of the allowed map types. -/
  | mustBeOfType (allowedStrs : String)
  /-- `extract_struct_info`: two fields of different map types. -/
  | mustBeOfSameType
  /-- `extract_struct_info`: a struct without fields. -/
  | emptyStruct
  /-- `extract_generics_names`: a lifetime or const generic parameter. -/
  | unsupportedGeneric
  /-- `Option::unwrap` on `None`. -/
  | unwrapNone
  /-- `Result::unwrap` on `Err(e)`, with the text of `e`. -/
  | unwrapErr (err : String)
  /-- `expect(msg)` on `None`, or on `Err(e)` with the text of `e`. -/
  | expect (msg : String) (err : Option String)
  /-- A `usize` multiplication that overflows in a build with overflow checks. -/
  | mulOverflow
  deriving DecidableEq, Repr

/-- Outcomes are compared constructor by constructor. -/
instance decEqExcept {ε α : Type} [DecidableEq ε] [DecidableEq α] : DecidableEq (Except ε α)
  | .ok a, .ok b =>
    if h : a = b then isTrue (h ▸ rfl) else isFalse fun e => h (Except.ok.inj e)
  | .error a, .error b =>
    if h : a = b then isTrue (h ▸ rfl) else isFalse fun e => h (Except.error.inj e)
  | .ok _, .error _ => isFalse fun e => nomatch e
  | .error _, .ok _ => isFalse fun e => nomatch e

/-- The text a panic prints. -/
def Panic.message : Panic → String
  | .mustBeOfType allowedStrs => "All struct members must be of type " ++ allowedStrs
  | .mustBeOfSameType => "All struct members must be of same type"
  | .emptyStruct => "Cannot derive on empty struct"
  | .unsupportedGeneric => "Unspoorted generic type"
  | .unwrapNone => "called `Option::unwrap()` on a `None` value"
  | .unwrapErr err => "called `Result::unwrap()` on an `Err` value: " ++ err
  | .expect msg none => msg
  | .expect msg (some err) => msg ++ ": " ++ err
  | .mulOverflow => "attempt to multiply with overflow"

/-- `Option::unwrap`. -/
def unwrap {α : Type} : Option α → Except Panic α
  | some a => .ok a
  | none => .error .unwrapNone

/-- `Option::expect(msg)`. -/
def expect {α : Type} (msg : String) : Option α → Except Panic α
  | some a => .ok a
  | none => .error (.expect msg none)

/-- `Result::expect(msg)`, for an error with text. -/
def expectOk {α : Type} (msg : String) : Except String α → Except Panic α
  | .ok a => .ok a
  | .error err => .error (.expect msg (some err))

section Except

variable {ε α β : Type}

@[simp] theorem ok_bind (a : α) (f : α → Except ε β) : (Except.ok a >>= f) = f a := rfl
@[simp] theorem error_bind (e : ε) (f : α → Except ε β) : (Except.error e >>= f) = .error e := rfl
@[simp] theorem pure_eq_ok (a : α) : (pure a : Except ε α) = .ok a := rfl
@[simp] theorem throw_eq_error (e : ε) : (throw e : Except ε α) = .error e := rfl

theorem bind_eq_ok {x : Except ε α} {f : α → Except ε β} {b : β} :
    x >>= f = .ok b ↔ ∃ a, x = .ok a ∧ f a = .ok b := by
  cases x <;> simp

theorem bind_eq_error {x : Except ε α} {f : α → Except ε β} {e : ε} :
    x >>= f = .error e ↔ x = .error e ∨ ∃ a, x = .ok a ∧ f a = .error e := by
  cases x <;> simp

theorem mapError_bind {ε' : Type} (φ : ε → ε') (x : Except ε α) (f : α → Except ε β) :
    (x >>= f).mapError φ = x.mapError φ >>= fun a => (f a).mapError φ := by
  cases x <;> rfl

theorem map_eq_error {x : Except ε α} {f : α → β} {e : ε} : x.map f = .error e ↔ x = .error e := by
  cases x <;> simp [Except.map]

end Except

@[simp] theorem unwrap_some {α : Type} (a : α) : unwrap (some a) = .ok a := rfl
@[simp] theorem unwrap_none {α : Type} : unwrap (none : Option α) = .error .unwrapNone := rfl

theorem unwrap_eq_ok {α : Type} {o : Option α} {a : α} : unwrap o = .ok a ↔ o = some a := by
  cases o <;> simp [unwrap]

theorem expect_eq_ok {α : Type} {msg : String} {o : Option α} {a : α} :
    expect msg o = .ok a ↔ o = some a := by
  cases o <;> simp [expect]

theorem expectOk_eq_ok {α : Type} {msg : String} {x : Except String α} {a : α} :
    expectOk msg x = .ok a ↔ x = .ok a := by
  cases x <;> simp [expectOk]

theorem expectOk_eq_error {α : Type} {msg : String} {x : Except String α} {p : Panic} :
    expectOk msg x = .error p ↔ ∃ e, x = .error e ∧ p = .expect msg (some e) := by
  cases x <;> simp [expectOk, eq_comm]

/-! ## Iterators run to the end

`iter().map(f)` driven to its end by `collect` or `unzip`, where `f` may panic, runs `f` on each
element in order and stops at the first panic: it is `List.mapM` in `Except Panic`. -/

section MapM

variable {ε α β : Type} {f : α → Except ε β}

theorem forall₂_exists_of_mem {R : α → β → Prop} {xs : List α} {ys : List β}
    (h : List.Forall₂ R xs ys) {x : α} (hx : x ∈ xs) : ∃ y ∈ ys, R x y := by
  induction h with
  | nil => cases hx
  | cons hr _ ih =>
    rcases List.mem_cons.mp hx with rfl | hx
    · exact ⟨_, List.mem_cons_self _ _, hr⟩
    · obtain ⟨y, hy, h⟩ := ih hx
      exact ⟨y, List.mem_cons_of_mem _ hy, h⟩

theorem forall₂_imp_mem_right {R S : α → β → Prop} {xs : List α} {ys : List β}
    (h : List.Forall₂ R xs ys) (H : ∀ x y, y ∈ ys → R x y → S x y) : List.Forall₂ S xs ys := by
  induction h with
  | nil => exact .nil
  | cons hr _ ih =>
    exact .cons (H _ _ (List.mem_cons_self _ _) hr)
      (ih fun x y hy => H x y (List.mem_cons_of_mem _ hy))

theorem forall₂_comp {γ : Type} {R : α → β → Prop} {S : β → γ → Prop} {xs : List α}
    {ys : List β} {zs : List γ} (h₁ : List.Forall₂ R xs ys) (h₂ : List.Forall₂ S ys zs) :
    List.Forall₂ (fun x z => ∃ y, R x y ∧ S y z) xs zs := by
  induction h₁ generalizing zs with
  | nil => cases h₂; exact .nil
  | cons hr _ ih =>
    cases h₂ with
    | cons hs h₂ => exact .cons ⟨_, hr, hs⟩ (ih h₂)

theorem map_eq_map_of_forall₂ {γ : Type} {f : α → γ} {g : β → γ} {xs : List α} {ys : List β}
    (h : List.Forall₂ (fun x y => f x = g y) xs ys) : xs.map f = ys.map g := by
  induction h with
  | nil => rfl
  | cons hr _ ih => rw [List.map_cons, List.map_cons, hr, ih]

theorem forall₂_zip_map {γ : Type} (f : α → γ) {xs : List α} {ys : List β}
    (hlen : xs.length = ys.length) :
    List.Forall₂ (fun x p => p.1 = f x) xs ((xs.map f).zip ys) := by
  induction xs generalizing ys with
  | nil => exact .nil
  | cons x xs ih =>
    cases ys with
    | nil => cases hlen
    | cons y ys => exact .cons rfl (ih (Nat.succ.inj hlen))

theorem forall₂_mem_zip {γ : Type} {R : α → β → Prop} {xs : List α} {ys : List β}
    (h : List.Forall₂ R xs ys) {zs : List γ} (hlen : ys.length = zs.length) {x : α} {z : γ}
    (hm : (x, z) ∈ xs.zip zs) : ∃ y, R x y ∧ (y, z) ∈ ys.zip zs := by
  induction h generalizing zs with
  | nil => cases hm
  | @cons a b xs ys hab _ ih =>
    obtain _ | ⟨c, zs⟩ := zs
    · cases hlen
    rcases List.mem_cons.mp hm with hp | hm
    · cases hp
      exact ⟨b, hab, List.mem_cons_self _ _⟩
    · obtain ⟨y, hy, hyz⟩ := ih (Nat.succ.inj hlen) hm
      exact ⟨y, hy, List.mem_cons_of_mem _ hyz⟩

theorem ne_nil_iff_of_forall₂ {R : α → β → Prop} {xs : List α} {ys : List β}
    (h : List.Forall₂ R xs ys) : xs ≠ [] ↔ ys ≠ [] := by
  cases h <;> simp

theorem mapM_cons_eq_ok {x : α} {xs : List α} {zs : List β} :
    (x :: xs).mapM f = .ok zs ↔ ∃ y ys, f x = .ok y ∧ xs.mapM f = .ok ys ∧ zs = y :: ys := by
  rw [List.mapM_cons]
  cases hx : f x with
  | error e =>
    show Except.error e = _ ↔ _
    exact ⟨fun h => (nomatch h), fun ⟨_, _, h, _⟩ => (nomatch h)⟩
  | ok y =>
    cases hxs : xs.mapM f with
    | error e =>
      show Except.error e = _ ↔ _
      exact ⟨fun h => (nomatch h), fun ⟨_, _, _, h, _⟩ => (nomatch h)⟩
    | ok ys =>
      show Except.ok (y :: ys) = _ ↔ _
      constructor
      · intro h
        exact ⟨y, ys, rfl, rfl, (Except.ok.inj h).symm⟩
      · rintro ⟨_, _, ⟨⟩, ⟨⟩, rfl⟩
        rfl

theorem mapM_cons_eq_error {x : α} {xs : List α} {e : ε} :
    (x :: xs).mapM f = .error e ↔ f x = .error e ∨ ∃ y, f x = .ok y ∧ xs.mapM f = .error e := by
  rw [List.mapM_cons]
  cases hx : f x with
  | error e' =>
    show Except.error e' = _ ↔ _
    constructor
    · intro h
      exact .inl (congrArg Except.error (Except.error.inj h))
    · rintro (h | ⟨_, h, _⟩)
      · exact congrArg Except.error (Except.error.inj h)
      · exact nomatch h
  | ok y =>
    cases hxs : xs.mapM f with
    | error e' =>
      show Except.error e' = _ ↔ _
      exact ⟨fun h => .inr ⟨y, rfl, h⟩, fun h => h.elim (fun h => (nomatch h)) fun ⟨_, _, h⟩ => h⟩
    | ok ys =>
      show Except.ok (y :: ys) = _ ↔ _
      exact ⟨fun h => (nomatch h),
        fun h => h.elim (fun h => (nomatch h)) fun ⟨_, _, h⟩ => (nomatch h)⟩

theorem mapM_eq_ok_iff {xs : List α} {ys : List β} :
    xs.mapM f = .ok ys ↔ List.Forall₂ (fun x y => f x = .ok y) xs ys := by
  induction xs generalizing ys with
  | nil =>
    rw [List.mapM_nil]
    cases ys
    · exact ⟨fun _ => .nil, fun _ => rfl⟩
    · exact ⟨fun h => (nomatch h), fun h => (nomatch h)⟩
  | cons x xs ih =>
    rw [mapM_cons_eq_ok]
    cases ys with
    | nil => exact ⟨fun ⟨_, _, _, _, h⟩ => (nomatch h), fun h => (nomatch h)⟩
    | cons y ys =>
      rw [List.forall₂_cons, ← ih]
      constructor
      · rintro ⟨_, _, hx, hxs, ⟨⟩⟩
        exact ⟨hx, hxs⟩
      · rintro ⟨hx, hxs⟩
        exact ⟨y, ys, hx, hxs, rfl⟩

theorem mapM_eq_error {xs : List α} {e : ε} (h : xs.mapM f = .error e) :
    ∃ x ∈ xs, f x = .error e := by
  induction xs with
  | nil => exact nomatch h
  | cons x xs ih =>
    rcases mapM_cons_eq_error.mp h with hx | ⟨_, -, hxs⟩
    · exact ⟨x, List.mem_cons_self _ _, hx⟩
    · obtain ⟨x', hx', he⟩ := ih hxs
      exact ⟨x', List.mem_cons_of_mem _ hx', he⟩

theorem mapM_isOk_iff {xs : List α} :
    (∃ ys, xs.mapM f = .ok ys) ↔ ∀ x ∈ xs, ∃ y, f x = .ok y := by
  constructor
  · rintro ⟨ys, h⟩ x hx
    obtain ⟨y, -, hy⟩ := forall₂_exists_of_mem (mapM_eq_ok_iff.mp h) hx
    exact ⟨y, hy⟩
  · intro h
    cases hxs : xs.mapM f with
    | ok ys => exact ⟨ys, rfl⟩
    | error e =>
      obtain ⟨x, hx, he⟩ := mapM_eq_error hxs
      obtain ⟨y, hy⟩ := h x hx
      exact nomatch he.symm.trans hy

theorem mapM_mapError {ε' : Type} (φ : ε → ε') (xs : List α) :
    xs.mapM (fun x => (f x).mapError φ) = (xs.mapM f).mapError φ := by
  induction xs with
  | nil => rfl
  | cons x xs ih =>
    rw [List.mapM_cons, List.mapM_cons, ih]
    cases f x <;> cases xs.mapM f <;> rfl

end MapM

/-! ## `BTreeMap` -/

/-- `std::collections::BTreeMap<κ, ν>`, by its lookup. -/
@[ext] structure BTreeMap (κ ν : Type) where
  get : κ → Option ν

namespace BTreeMap

variable {κ ν : Type}

/-- `BTreeMap::new`. -/
def empty : BTreeMap κ ν := ⟨fun _ => none⟩

@[simp] theorem get_empty (k : κ) : (empty : BTreeMap κ ν).get k = none := rfl

variable [DecidableEq κ]

/-- `BTreeMap::insert`, replacing the value of a key already present. -/
def insert (m : BTreeMap κ ν) (k : κ) (v : ν) : BTreeMap κ ν :=
  ⟨fun k' => if k' = k then some v else m.get k'⟩

/-- `FromIterator::from_iter`: the pairs inserted in order, so that of two pairs with one key the
later one stays. -/
def collect (xs : List (κ × ν)) : BTreeMap κ ν :=
  xs.foldl (fun m p => m.insert p.1 p.2) empty

@[simp] theorem get_insert (m : BTreeMap κ ν) (k k' : κ) (v : ν) :
    (m.insert k v).get k' = if k' = k then some v else m.get k' := rfl

theorem get_foldl_eq_none (xs : List (κ × ν)) (m : BTreeMap κ ν) (k : κ) :
    (xs.foldl (fun m p => m.insert p.1 p.2) m).get k = none ↔
      k ∉ xs.map Prod.fst ∧ m.get k = none := by
  induction xs generalizing m with
  | nil => simp
  | cons p xs ih =>
    rw [List.foldl_cons, ih]
    by_cases hk : k = p.1 <;> simp [hk, and_comm]

theorem mem_of_get_foldl (xs : List (κ × ν)) (m : BTreeMap κ ν) (k : κ) (v : ν)
    (h : (xs.foldl (fun m p => m.insert p.1 p.2) m).get k = some v) :
    (k, v) ∈ xs ∨ m.get k = some v := by
  induction xs generalizing m with
  | nil => exact .inr h
  | cons p xs ih =>
    rcases ih _ h with hx | hm
    · exact .inl (List.mem_cons_of_mem _ hx)
    · rw [get_insert] at hm
      split_ifs at hm with hk
      · cases hm; exact .inl (by simp [hk])
      · exact .inr hm

theorem get_foldl_of_mem (xs : List (κ × ν)) (m : BTreeMap κ ν) (k : κ) (v : ν)
    (hnd : (xs.map Prod.fst).Nodup) (h : (k, v) ∈ xs) :
    (xs.foldl (fun m p => m.insert p.1 p.2) m).get k = some v := by
  induction xs generalizing m with
  | nil => cases h
  | cons p xs ih =>
    rw [List.map_cons, List.nodup_cons] at hnd
    rw [List.foldl_cons]
    rcases List.mem_cons.mp h with rfl | hx
    · have hnone := (get_foldl_eq_none xs (m.insert k v) k).not
      have hsome : (xs.foldl (fun m p => m.insert p.1 p.2) (m.insert k v)).get k ≠ none :=
        hnone.mpr (by simp [hnd.1])
      obtain ⟨w, hw⟩ := Option.ne_none_iff_exists'.mp hsome
      rcases mem_of_get_foldl xs _ k w hw with hx | hm
      · exact absurd (List.mem_map_of_mem Prod.fst hx) hnd.1
      · rw [get_insert, if_pos rfl] at hm
        rw [hw, ← hm]
    · exact ih _ hnd.2 hx

/-- A key is absent from a collected map exactly when no pair has it. -/
theorem get_collect_eq_none (xs : List (κ × ν)) (k : κ) :
    (collect xs).get k = none ↔ k ∉ xs.map Prod.fst := by
  simp [collect, get_foldl_eq_none]

/-- Every value a collected map holds comes from one of its pairs. -/
theorem mem_of_get_collect {xs : List (κ × ν)} {k : κ} {v : ν}
    (h : (collect xs).get k = some v) : (k, v) ∈ xs :=
  (mem_of_get_foldl xs empty k v h).resolve_right (by simp)

/-- With distinct keys, a collected map holds every pair. -/
theorem get_collect_of_mem {xs : List (κ × ν)} {k : κ} {v : ν}
    (hnd : (xs.map Prod.fst).Nodup) (h : (k, v) ∈ xs) : (collect xs).get k = some v :=
  get_foldl_of_mem xs empty k v hnd h

end BTreeMap

/-! ## `usize` arithmetic -/

/-- Whether a build checks integer overflow (`overflow-checks`, off in a release profile and on in
a debug one). -/
inductive OverflowChecks
  | off
  | on
  deriving DecidableEq, Repr

/-- `a * b` on a 64-bit `usize`: it wraps without overflow checks and panics on overflow with
them. -/
def usizeMul : OverflowChecks → UInt64 → UInt64 → Except Panic UInt64
  | .off, a, b => .ok (a * b)
  | .on, a, b => if a.toNat * b.toNat < UInt64.size then .ok (a * b) else .error .mulOverflow

theorem toNat_mul_of_lt {a b : UInt64} (h : a.toNat * b.toNat < UInt64.size) :
    (a * b).toNat = a.toNat * b.toNat := by
  show (a.toBitVec * b.toBitVec).toNat = _
  rw [BitVec.toNat_mul]
  exact Nat.mod_eq_of_lt h

/-- Only a build with overflow checks panics, and only on overflow. -/
theorem usizeMul_eq_error {ovf : OverflowChecks} {a b : UInt64} {p : Panic} :
    usizeMul ovf a b = .error p ↔
      ovf = .on ∧ UInt64.size ≤ a.toNat * b.toNat ∧ p = .mulOverflow := by
  cases ovf
  · simp [usizeMul]
  · by_cases h : a.toNat * b.toNat < UInt64.size
    · simp [usizeMul, h]
    · simp [usizeMul, h, eq_comm, Nat.le_of_not_lt h]

/-- Without overflow, both builds multiply. -/
theorem usizeMul_of_lt (ovf : OverflowChecks) {a b : UInt64} (h : a.toNat * b.toNat < UInt64.size) :
    usizeMul ovf a b = .ok (a * b) := by
  cases ovf <;> simp [usizeMul, h]

end TypedStoreDerive
