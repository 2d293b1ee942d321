import Mathlib.Algebra.Ring.Int.Defs
import Mathlib.Data.List.Nodup

/-!
# Tables with an automatic primary key

A table of an SQL database whose primary key is `INTEGER PRIMARY KEY AUTOINCREMENT`, with one
more unique key and a `CHECK` on each row. `RowSpec` says which; `Table` holds the rows in the
order of insertion, the largest key ever given out, and the proof that the rows obey the
constraints. So a statement that would break a constraint has no table to return: it is an
error, and the table is what it was.

A primary key is never given out twice (`insert` gives `seq + 1`, and `seq` never falls), which
is what `AUTOINCREMENT` promises. It does not promise that every key is used: a row that gives way
to a conflict (`ON CONFLICT`, `OR IGNORE`) has drawn its key already, which is then spent.

A query without an `ORDER BY` promises no order. It takes the order as a parameter, and a result
about the query holds for all of them.
-/

namespace PolyNotifier
namespace Lib

/-- The constraints of a table: its primary key, its other unique key (the primary key again if it
    has none) and its `CHECK`. Foreign keys are between tables, and not here. -/
structure RowSpec (ρ κ : Type) where
  key : ρ → Int
  ukey : ρ → κ
  check : ρ → Bool

/-- Why a statement failed. -/
inductive TableError where
  | full
  | unique
  | check
  | foreignKey
  deriving DecidableEq

/-- The rows of a table, in the order they came, with its constraints. Keys are never given out
    twice (`AUTOINCREMENT`): `seq` only grows, so the key of a row that is gone says for good that
    it is gone. -/
structure Table {ρ κ : Type} (S : RowSpec ρ κ) where
  rows : List ρ
  /-- The largest key given out so far. -/
  seq : Int
  nodup : (rows.map S.key).Nodup
  unique : (rows.map S.ukey).Nodup
  bound : ∀ r ∈ rows, 0 < S.key r ∧ S.key r ≤ seq
  check : ∀ r ∈ rows, S.check r
  seq_nonneg : 0 ≤ seq
  seq_lt : seq < 2 ^ 63

namespace Table

variable {ρ κ : Type} {S : RowSpec ρ κ}

def empty : Table S := ⟨[], 0, by simp, by simp, by simp, by simp, by decide, by decide⟩

instance : Inhabited (Table S) := ⟨empty⟩

/-- The row with a primary key. -/
def find (t : Table S) (k : Int) : Option ρ := t.rows.find? fun r => S.key r == k

def hasKey (t : Table S) (k : Int) : Bool := t.rows.any fun r => S.key r == k

theorem hasKey_iff {t : Table S} {k : Int} : t.hasKey k ↔ ∃ r ∈ t.rows, S.key r = k := by
  simp [hasKey]

theorem mem_of_find {t : Table S} {k : Int} {r : ρ} (h : t.find k = some r) :
    r ∈ t.rows ∧ S.key r = k :=
  ⟨List.mem_of_find?_eq_some h, by simpa using List.find?_some h⟩

/-- **A primary key belongs to one row.** -/
theorem eq_of_key {t : Table S} {r r' : ρ} (h : r ∈ t.rows) (h' : r' ∈ t.rows)
    (hk : S.key r = S.key r') : r = r' :=
  List.inj_on_of_nodup_map t.nodup h h' hk

theorem eq_of_ukey {t : Table S} {r r' : ρ} (h : r ∈ t.rows) (h' : r' ∈ t.rows)
    (hk : S.ukey r = S.ukey r') : r = r' :=
  List.inj_on_of_nodup_map t.unique h h' hk

theorem find_eq_some {t : Table S} {k : Int} {r : ρ} :
    t.find k = some r ↔ r ∈ t.rows ∧ S.key r = k := by
  constructor
  · exact mem_of_find
  · rintro ⟨h, hk⟩
    cases hf : t.find k with
    | none =>
      have := List.find?_eq_none.mp hf r h
      simp [hk] at this
    | some r' =>
      obtain ⟨h', hk'⟩ := mem_of_find hf
      rw [eq_of_key h h' (hk.trans hk'.symm)]

theorem find_isSome {t : Table S} {k : Int} (h : t.hasKey k) : ∃ r, t.find k = some r := by
  obtain ⟨r, hr, hk⟩ := hasKey_iff.mp h
  exact ⟨r, find_eq_some.mpr ⟨hr, hk⟩⟩

theorem find_congr {t t' : Table S} (h : t'.rows = t.rows) (k : Int) : t'.find k = t.find k := by
  rw [find, find, h]

/-! ## Insertion -/

section Insert

variable [DecidableEq κ]

/-- Insert the row `mk` builds from the next key. The key comes from a counter that only grows, so
    it was never given to a row before; an insertion that is refused leaves the counter as it was.
    The checks come in the order of the errors: no key left, a column check, the unique key. -/
def insert (t : Table S) (mk : Int → ρ) (hmk : ∀ n, S.key (mk n) = n) :
    Except TableError (Table S) :=
  let r := mk (t.seq + 1)
  if hfull : t.seq + 1 < 2 ^ 63 then
    if hcheck : S.check r then
      if huniq : S.ukey r ∈ t.rows.map S.ukey then .error .unique
      else .ok {
        rows := t.rows ++ [r]
        seq := t.seq + 1
        nodup := by
          rw [List.map_append, List.nodup_append]
          refine ⟨t.nodup, by simp, ?_⟩
          intro a ha b hb
          obtain ⟨r', hr', rfl⟩ := List.mem_map.mp ha
          obtain rfl : b = S.key r := by simpa using hb
          have := (t.bound r' hr').2
          rw [show S.key r = t.seq + 1 from hmk _]
          omega
        unique := by
          rw [List.map_append, List.nodup_append]
          refine ⟨t.unique, by simp, ?_⟩
          intro a ha b hb hab
          obtain rfl : b = S.ukey r := by simpa using hb
          exact huniq (hab ▸ ha)
        bound := by
          intro r' hr'
          have hs := t.seq_nonneg
          rcases List.mem_append.mp hr' with h | h
          · have := t.bound r' h
            omega
          · obtain rfl : r' = r := by simpa using h
            rw [show S.key r = t.seq + 1 from hmk _]
            omega
        check := by
          intro r' hr'
          rcases List.mem_append.mp hr' with h | h
          · exact t.check r' h
          · obtain rfl : r' = r := by simpa using h
            exact hcheck
        seq_nonneg := by have := t.seq_nonneg; omega
        seq_lt := hfull }
    else .error .check
  else .error .full

variable {t t' : Table S} {mk : Int → ρ} {hmk : ∀ n, S.key (mk n) = n}

/-- **What an insertion does.** -/
theorem insert_ok (h : t.insert mk hmk = .ok t') :
    t'.rows = t.rows ++ [mk (t.seq + 1)] ∧ t'.seq = t.seq + 1 := by
  unfold insert at h
  dsimp only at h
  split at h
  · split at h
    · split at h
      · cases h
      · cases h
        exact ⟨rfl, rfl⟩
    · cases h
  · cases h

/-- **When an insertion succeeds.** -/
theorem insert_isOk (hfull : t.seq + 1 < 2 ^ 63) (hcheck : S.check (mk (t.seq + 1)))
    (huniq : S.ukey (mk (t.seq + 1)) ∉ t.rows.map S.ukey) : ∃ t', t.insert mk hmk = .ok t' := by
  unfold insert
  dsimp only
  rw [dif_pos hfull, dif_pos hcheck, dif_neg huniq]
  exact ⟨_, rfl⟩

/-- A failed insertion says which constraint it would have broken. -/
theorem insert_unique (h : t.insert mk hmk = .error .unique) :
    S.ukey (mk (t.seq + 1)) ∈ t.rows.map S.ukey := by
  unfold insert at h
  dsimp only at h
  split at h
  · split at h
    · split at h
      · assumption
      · cases h
    · cases h
  · cases h

theorem find_insert (h : t.insert mk hmk = .ok t') {k : Int} (hk : t.hasKey k) :
    t'.find k = t.find k := by
  obtain ⟨r, hr⟩ := find_isSome hk
  unfold find at hr ⊢
  rw [(insert_ok h).1, List.find?_append, hr, Option.some_or]

theorem find_insert_self (h : t.insert mk hmk = .ok t') :
    t'.find t'.seq = some (mk t'.seq) := by
  rw [find_eq_some, (insert_ok h).1, (insert_ok h).2]
  exact ⟨by simp, hmk _⟩

theorem hasKey_insert (h : t.insert mk hmk = .ok t') {k : Int} (hk : t.hasKey k) :
    t'.hasKey k := by
  obtain ⟨r, hr, hrk⟩ := hasKey_iff.mp hk
  exact hasKey_iff.mpr ⟨r, by rw [(insert_ok h).1]; simp [hr], hrk⟩

end Insert

/-- Draw a key for a row that is not inserted: what an insertion does that finds the unique key
    taken and is told to go on. The rows stay, and the next row has a later key. -/
def spend (t : Table S) : Except TableError (Table S) :=
  if hfull : t.seq + 1 < 2 ^ 63 then .ok {
    t with
    seq := t.seq + 1
    bound := fun r hr => ⟨(t.bound r hr).1, Int.le_trans (t.bound r hr).2 (Int.le_of_lt
      (Int.lt_succ t.seq))⟩
    seq_nonneg := Int.le_trans t.seq_nonneg (Int.le_of_lt (Int.lt_succ t.seq))
    seq_lt := hfull }
  else .error .full

section Spend

variable {t t' : Table S}

theorem spend_ok (h : t.spend = .ok t') : t'.rows = t.rows ∧ t'.seq = t.seq + 1 := by
  unfold spend at h
  split at h
  · cases h
    exact ⟨rfl, rfl⟩
  · cases h

theorem spend_isOk (hfull : t.seq + 1 < 2 ^ 63) : ∃ t', t.spend = .ok t' := by
  unfold spend
  rw [dif_pos hfull]
  exact ⟨_, rfl⟩

theorem find_spend (h : t.spend = .ok t') (k : Int) : t'.find k = t.find k :=
  find_congr (spend_ok h).1 k

theorem hasKey_spend (h : t.spend = .ok t') (k : Int) : t'.hasKey k = t.hasKey k := by
  rw [hasKey, hasKey, (spend_ok h).1]

end Spend

/-! ## Update and deletion -/

/-- Rewrite the rows that satisfy `p` by `f`, which changes neither key. The `CHECK` is made of all
    rows or the statement fails as a whole. -/
def update (t : Table S) (p : ρ → Bool) (f : ρ → ρ) (hk : ∀ r, S.key (f r) = S.key r)
    (hu : ∀ r, S.ukey (f r) = S.ukey r) : Except TableError (Table S) :=
  let g := fun r => if p r then f r else r
  if hcheck : ∀ r ∈ t.rows, S.check (g r) then .ok {
    t with
    rows := t.rows.map g
    nodup := by
      have : S.key ∘ g = S.key := by funext r; by_cases hp : p r <;> simp [g, hp, hk]
      rw [List.map_map, this]
      exact t.nodup
    unique := by
      have : S.ukey ∘ g = S.ukey := by funext r; by_cases hp : p r <;> simp [g, hp, hu]
      rw [List.map_map, this]
      exact t.unique
    bound := by
      intro r' hr'
      obtain ⟨r, hr, rfl⟩ := List.mem_map.mp hr'
      have : S.key (g r) = S.key r := by by_cases hp : p r <;> simp [g, hp, hk]
      rw [this]
      exact t.bound r hr
    check := by
      intro r' hr'
      obtain ⟨r, hr, rfl⟩ := List.mem_map.mp hr'
      exact hcheck r hr }
  else .error .check

section Update

variable {t t' : Table S} {p : ρ → Bool} {f : ρ → ρ} {hk : ∀ r, S.key (f r) = S.key r}
  {hu : ∀ r, S.ukey (f r) = S.ukey r}

/-- **What an update does.** -/
theorem update_ok (h : t.update p f hk hu = .ok t') :
    t'.rows = t.rows.map (fun r => if p r then f r else r) ∧ t'.seq = t.seq := by
  unfold update at h
  dsimp only at h
  split at h
  · cases h
    exact ⟨rfl, rfl⟩
  · cases h

theorem update_isOk (hcheck : ∀ r ∈ t.rows, p r → S.check (f r)) :
    ∃ t', t.update p f hk hu = .ok t' := by
  have hc : ∀ r ∈ t.rows, S.check (if p r then f r else r) := by
    intro r hr
    by_cases hp : p r
    · simpa [hp] using hcheck r hr hp
    · simpa [hp] using t.check r hr
  unfold update
  dsimp only
  rw [dif_pos hc]
  exact ⟨_, rfl⟩

/-- An update leaves the keys of the table as they are. -/
theorem update_hasKey (h : t.update p f hk hu = .ok t') (k : Int) :
    t'.hasKey k = t.hasKey k := by
  rw [Bool.eq_iff_iff, hasKey_iff, hasKey_iff, (update_ok h).1]
  have hg : ∀ r, S.key (if p r then f r else r) = S.key r := by
    intro r
    by_cases hp : p r <;> simp [hp, hk]
  simp [hg]

theorem find_update (h : t.update p f hk hu = .ok t') (k : Int) :
    t'.find k = (t.find k).map fun r => if p r then f r else r := by
  have hg : ∀ r, S.key (if p r then f r else r) = S.key r := by
    intro r
    by_cases hp : p r <;> simp [hp, hk]
  have hcomp : ((fun r => S.key r == k) ∘ fun r => if p r then f r else r)
      = fun r => S.key r == k := by
    funext r
    show (S.key (if p r then f r else r) == k) = (S.key r == k)
    rw [hg]
  rw [find, find, (update_ok h).1, List.find?_map, hcomp]

end Update

/-- `ON CONFLICT .. DO UPDATE`: the row that gives way to the rows that satisfy `p` has drawn its
    key before the conflict is found. -/
def updateOnConflict (t : Table S) (p : ρ → Bool) (f : ρ → ρ) (hk : ∀ r, S.key (f r) = S.key r)
    (hu : ∀ r, S.ukey (f r) = S.ukey r) : Except TableError (Table S) :=
  t.spend.bind fun t => t.update p f hk hu

section UpdateOnConflict

variable {t t' : Table S} {p : ρ → Bool} {f : ρ → ρ} {hk : ∀ r, S.key (f r) = S.key r}
  {hu : ∀ r, S.ukey (f r) = S.ukey r}

theorem updateOnConflict_ok (h : t.updateOnConflict p f hk hu = .ok t') :
    ∃ t₁, t.spend = .ok t₁ ∧ t₁.update p f hk hu = .ok t' := by
  unfold updateOnConflict at h
  cases hspend : t.spend with
  | error e =>
    rw [hspend] at h
    cases h
  | ok t₁ =>
    rw [hspend] at h
    exact ⟨t₁, rfl, h⟩

theorem updateOnConflict_isOk (hfull : t.seq + 1 < 2 ^ 63)
    (hcheck : ∀ r ∈ t.rows, p r → S.check (f r)) : ∃ t', t.updateOnConflict p f hk hu = .ok t' := by
  obtain ⟨t₁, ht₁⟩ := spend_isOk hfull
  obtain ⟨t', ht'⟩ : ∃ t', t₁.update p f hk hu = .ok t' := by
    apply update_isOk
    rw [(spend_ok ht₁).1]
    exact hcheck
  refine ⟨t', ?_⟩
  unfold updateOnConflict
  rw [ht₁]
  exact ht'

theorem hasKey_updateOnConflict (h : t.updateOnConflict p f hk hu = .ok t') (k : Int) :
    t'.hasKey k = t.hasKey k := by
  obtain ⟨t₁, hspend, hupdate⟩ := updateOnConflict_ok h
  exact (update_hasKey hupdate k).trans (hasKey_spend hspend k)

theorem find_updateOnConflict (h : t.updateOnConflict p f hk hu = .ok t') (k : Int) :
    t'.find k = (t.find k).map fun r => if p r then f r else r := by
  obtain ⟨t₁, hspend, hupdate⟩ := updateOnConflict_ok h
  rw [find_update hupdate, find_spend hspend]

end UpdateOnConflict

/-- Delete the rows that satisfy `p`. The counter stays where it is, so a key that is deleted is
    not given out again. -/
def delete (t : Table S) (p : ρ → Bool) : Table S where
  rows := t.rows.filter fun r => !p r
  seq := t.seq
  nodup := t.nodup.sublist (List.filter_sublist.map _)
  unique := t.unique.sublist (List.filter_sublist.map _)
  bound r hr := t.bound r (List.mem_of_mem_filter hr)
  check r hr := t.check r (List.mem_of_mem_filter hr)
  seq_nonneg := t.seq_nonneg
  seq_lt := t.seq_lt

@[simp] theorem delete_rows (t : Table S) (p : ρ → Bool) :
    (t.delete p).rows = t.rows.filter fun r => !p r := rfl

@[simp] theorem delete_seq (t : Table S) (p : ρ → Bool) : (t.delete p).seq = t.seq := rfl

theorem find_delete {t : Table S} {p : ρ → Bool} {k : Int}
    (hp : ∀ r ∈ t.rows, S.key r = k → p r = false) : (t.delete p).find k = t.find k := by
  cases hf : t.find k with
  | some r =>
    obtain ⟨hr, hk⟩ := mem_of_find hf
    rw [find_eq_some, delete_rows, List.mem_filter]
    exact ⟨⟨hr, by rw [hp r hr hk]; rfl⟩, hk⟩
  | none =>
    rw [find, List.find?_eq_none] at hf ⊢
    exact fun r hr => hf r (List.mem_of_mem_filter hr)

/-! ## Keys that are given out once -/

/-- The key was given out, and its row is gone. -/
def Spent (t : Table S) (k : Int) : Prop := k ≤ t.seq ∧ ∀ r ∈ t.rows, S.key r ≠ k

/-- The table may be what has become of `t`: a row has the key of a row of `t`, or one that `t`
    had not given out. -/
structure Later (t t' : Table S) : Prop where
  seq : t.seq ≤ t'.seq
  keys : ∀ r ∈ t'.rows, (∃ r₀ ∈ t.rows, S.key r₀ = S.key r) ∨ t.seq < S.key r

section Later

variable {t t' : Table S} {k : Int}

theorem Later.refl (t : Table S) : Later t t := ⟨Int.le_refl _, fun r hr => .inl ⟨r, hr, rfl⟩⟩

theorem Later.of_eq (h : t' = t) : Later t t' := by
  rw [h]
  exact .refl t

theorem Later.of_map {f : ρ → ρ} (hseq : t'.seq = t.seq) (hrows : t'.rows = t.rows.map f)
    (hk : ∀ r, S.key (f r) = S.key r) : Later t t' := by
  refine ⟨Int.le_of_eq hseq.symm, fun r hr => ?_⟩
  rw [hrows] at hr
  obtain ⟨r₀, hr₀, rfl⟩ := List.mem_map.mp hr
  exact .inl ⟨r₀, hr₀, (hk r₀).symm⟩

theorem Later.of_append {r : ρ} (hseq : t'.seq = t.seq + 1) (hrows : t'.rows = t.rows ++ [r])
    (hk : S.key r = t.seq + 1) : Later t t' := by
  have hlt : t.seq < t.seq + 1 := Int.lt_succ t.seq
  refine ⟨by rw [hseq]; exact Int.le_of_lt hlt, fun r' hr' => ?_⟩
  rw [hrows, List.mem_append, List.mem_singleton] at hr'
  rcases hr' with hr' | rfl
  · exact .inl ⟨r', hr', rfl⟩
  · rw [hk]
    exact .inr hlt

/-- A key that was drawn for no row. -/
theorem Later.of_rows (hseq : t'.seq = t.seq + 1) (hrows : t'.rows = t.rows) : Later t t' := by
  refine ⟨by rw [hseq]; exact Int.le_of_lt (Int.lt_succ t.seq), fun r hr => ?_⟩
  rw [hrows] at hr
  exact .inl ⟨r, hr, rfl⟩

theorem later_delete (t : Table S) (p : ρ → Bool) : Later t (t.delete p) :=
  ⟨Int.le_refl _, fun r hr => .inl ⟨r, List.mem_of_mem_filter hr, rfl⟩⟩

/-- **A key that is spent is never a key again.** -/
theorem Spent.later (h : t.Spent k) (hlater : Later t t') : t'.Spent k := by
  refine ⟨Int.le_trans h.1 hlater.seq, fun r hr hk => ?_⟩
  rcases hlater.keys r hr with ⟨r₀, hr₀, heq⟩ | hlt
  · exact h.2 r₀ hr₀ (heq.trans hk)
  · rw [hk] at hlt
    exact Int.not_le.mpr hlt h.1

end Later

end Table

/-! ## The order of an answer -/

section Order

variable {ρ : Type}

/-- The rows in an order: of each row, where it goes among the rows after it. Any list of numbers
    is an order, and every order of the rows has one, so a query without `ORDER BY` takes a list
    and no proof. No order at all leaves them as they are stored. -/
def arrange : List Nat → List ρ → List ρ
  | k :: order, r :: rows => (arrange order rows).insertIdx (k % (rows.length + 1)) r
  | _, rows => rows

@[simp] theorem arrange_nil (rows : List ρ) : arrange [] rows = rows := by
  cases rows <;> rfl

/-- **The rows are the same**, -/
theorem arrange_perm (order : List Nat) (rows : List ρ) : (arrange order rows).Perm rows := by
  induction rows generalizing order with
  | nil => cases order <;> exact .refl _
  | cons r rows ih =>
    cases order with
    | nil => exact .refl _
    | cons k order =>
      rw [arrange]
      have hplace : k % (rows.length + 1) ≤ (arrange order rows).length := by
        rw [(ih order).length_eq]
        exact Nat.lt_succ_iff.mp (Nat.mod_lt _ (Nat.succ_pos _))
      exact (List.perm_insertIdx r _ hplace).trans (.cons r (ih order))

theorem insertIdx_append_length (before after : List ρ) (r : ρ) :
    (before ++ after).insertIdx before.length r = before ++ r :: after := by
  induction before with
  | nil => rfl
  | cons _ before ih => exact congrArg (List.cons _) ih

/-- and every order of them is one: the list of places is read off the order, row by row. -/
theorem exists_arrange {rows rows' : List ρ} (h : rows'.Perm rows) :
    ∃ order, arrange order rows = rows' := by
  induction rows generalizing rows' with
  | nil => exact ⟨[], h.eq_nil.symm⟩
  | cons r rows ih =>
    obtain ⟨before, after, rfl⟩ := List.append_of_mem (h.mem_iff.mpr (List.mem_cons_self ..))
    have hrest : (before ++ after).Perm rows := (List.perm_middle.symm.trans h).cons_inv
    obtain ⟨order, horder⟩ := ih hrest
    have hle : before.length ≤ rows.length := by
      rw [← hrest.length_eq, List.length_append]
      exact Nat.le_add_right _ _
    refine ⟨before.length :: order, ?_⟩
    rw [arrange, horder, Nat.mod_eq_of_lt (Nat.lt_succ_iff.mpr hle), insertIdx_append_length]

end Order

end Lib
end PolyNotifier
