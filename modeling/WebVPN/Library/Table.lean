import Mathlib.Data.List.Nodup

namespace WebVPN.Library

/-!
# Library — tables with a key

A map of a program, or a table of a database with a primary key, is a list of rows no two of
which have the same key.  The uniqueness is a field of `Table`, so that a lookup says all
there is to know about a key (`Table.find?_eq_some_iff`) and every operation has one lemma
that says what it does to lookups:

* `Table.put` — store a row, whatever was there before (assignment to a map);
* `Table.cons` — add a row whose key is new (`INSERT`);
* `Table.filter` — delete the rows that fail a test (`DELETE … WHERE`);
* `Table.update` — change the rows that pass a test (`UPDATE … WHERE`).
-/

variable {κ ν : Type} [DecidableEq κ] {key : ν → κ}

/-- Rows with pairwise distinct keys. -/
@[ext] structure Table (key : ν → κ) where
  rows : List ν
  nodup : (rows.map key).Nodup

namespace Table

/-- The table without rows. -/
def empty : Table key := ⟨[], List.nodup_nil⟩

/-- The row with a key. -/
def find? (t : Table key) (k : κ) : Option ν := t.rows.find? (fun r => key r = k)

variable {t : Table key} {p : ν → Bool} {k : κ} {f : ν → ν}

theorem find?_eq_some_iff {r : ν} : t.find? k = some r ↔ r ∈ t.rows ∧ key r = k := by
  constructor
  · intro h
    exact ⟨List.mem_of_find?_eq_some h, by simpa using List.find?_some h⟩
  · rintro ⟨hr, rfl⟩
    cases hfind : t.find? (key r) with
    | none =>
      have hnone := List.find?_eq_none.mp hfind r hr
      simp at hnone
    | some r' =>
      have hmem := List.mem_of_find?_eq_some hfind
      have hkey : key r' = key r := by simpa using List.find?_some hfind
      rw [List.inj_on_of_nodup_map t.nodup hmem hr hkey]

theorem find?_eq_none_iff : t.find? k = none ↔ ∀ r ∈ t.rows, key r ≠ k := by
  simp [find?, List.find?_eq_none]

theorem key_of_find? {r : ν} (h : t.find? k = some r) : key r = k :=
  (find?_eq_some_iff.mp h).2

@[simp] theorem find?_empty (k : κ) : (empty : Table key).find? k = none := rfl

/-- Keep the rows that pass a test. -/
def filter (t : Table key) (p : ν → Bool) : Table key :=
  ⟨t.rows.filter p, t.nodup.sublist (List.filter_sublist.map key)⟩

omit [DecidableEq κ] in
theorem mem_filter {r : ν} : r ∈ (t.filter p).rows ↔ r ∈ t.rows ∧ p r = true := List.mem_filter

@[simp] theorem find?_filter (t : Table key) (p : ν → Bool) (k : κ) :
    (t.filter p).find? k = (t.find? k).filter p := by
  apply Option.ext
  intro r
  rw [find?_eq_some_iff, mem_filter, Option.filter_eq_some_iff, find?_eq_some_iff]
  constructor
  · rintro ⟨⟨hr, hp⟩, hk⟩
    exact ⟨⟨hr, hk⟩, hp⟩
  · rintro ⟨⟨hr, hk⟩, hp⟩
    exact ⟨⟨hr, hp⟩, hk⟩

/-- Add a row whose key is new. -/
def cons (t : Table key) (r : ν) (h : t.find? (key r) = none) : Table key where
  rows := r :: t.rows
  nodup := by
    rw [List.map_cons, List.nodup_cons]
    refine ⟨?_, t.nodup⟩
    rw [List.mem_map]
    rintro ⟨r', hr', hkey⟩
    exact find?_eq_none_iff.mp h r' hr' hkey

@[simp] theorem find?_cons (t : Table key) (r : ν) (h : t.find? (key r) = none) (k : κ) :
    (t.cons r h).find? k = if key r = k then some r else t.find? k := by
  unfold cons find?
  by_cases hk : key r = k <;> simp [hk]

/-- A new row leaves the others alone. -/
theorem find?_cons_of_some {r' : ν} (hfind : t.find? k = some r') (r : ν)
    (h : t.find? (key r) = none) : (t.cons r h).find? k = some r' := by
  have hne : key r ≠ k := by
    rintro rfl
    exact absurd (hfind.symm.trans h) nofun
  rw [find?_cons, if_neg hne, hfind]

/-- Store a row under its key, whatever was there before. -/
def put (t : Table key) (r : ν) : Table key :=
  (t.filter (fun r' => key r' ≠ key r)).cons r (by
    rw [find?_eq_none_iff]
    intro r' hr' hkey
    have hne := (mem_filter.mp hr').2
    simp [hkey] at hne)

theorem mem_put {r r' : ν} : r' ∈ (t.put r).rows ↔ r' = r ∨ (r' ∈ t.rows ∧ key r' ≠ key r) := by
  unfold put cons
  rw [List.mem_cons, mem_filter]
  simp

@[simp] theorem find?_put (t : Table key) (r : ν) (k : κ) :
    (t.put r).find? k = if key r = k then some r else t.find? k := by
  unfold put
  rw [find?_cons, find?_filter]
  by_cases hk : key r = k
  · rw [if_pos hk, if_pos hk]
  · rw [if_neg hk, if_neg hk]
    cases hfind : t.find? k with
    | none => rfl
    | some r' =>
      have hkey : key r' ≠ key r := by rw [key_of_find? hfind]; exact fun h => hk h.symm
      simp [Option.filter, hkey]

/-- Change the rows that pass a test; `f` leaves the key alone. -/
def update (t : Table key) (p : ν → Bool) (f : ν → ν) (hf : ∀ r, key (f r) = key r) :
    Table key where
  rows := t.rows.map (fun r => if p r then f r else r)
  nodup := by
    have hkeys : (t.rows.map (fun r => if p r then f r else r)).map key = t.rows.map key := by
      rw [List.map_map]
      apply List.map_congr_left
      intro r _
      by_cases hp : p r <;> simp [hp, hf]
    rw [hkeys]
    exact t.nodup

omit [DecidableEq κ] in
theorem mem_update {hf : ∀ r, key (f r) = key r}
    {r : ν} : r ∈ (t.update p f hf).rows ↔ ∃ r' ∈ t.rows, (if p r' then f r' else r') = r :=
  List.mem_map

@[simp] theorem find?_update (t : Table key) (p : ν → Bool) (f : ν → ν)
    (hf : ∀ r, key (f r) = key r) (k : κ) :
    (t.update p f hf).find? k = (t.find? k).map (fun r => if p r then f r else r) := by
  have hkey : ∀ r, key (if p r then f r else r) = key r := by
    intro r
    by_cases hp : p r <;> simp [hp, hf]
  apply Option.ext
  intro r
  rw [find?_eq_some_iff, mem_update, Option.map_eq_some_iff]
  constructor
  · rintro ⟨⟨r', hr', rfl⟩, hk⟩
    exact ⟨r', find?_eq_some_iff.mpr ⟨hr', by rw [← hkey, hk]⟩, rfl⟩
  · rintro ⟨r', hfind, rfl⟩
    obtain ⟨hr', hk⟩ := find?_eq_some_iff.mp hfind
    exact ⟨⟨r', hr', rfl⟩, by rw [hkey, hk]⟩

omit [DecidableEq κ] in
/-- Changing the rows that pass a test that no row passes. -/
theorem update_eq_self {hf : ∀ r, key (f r) = key r}
    (h : ∀ r ∈ t.rows, p r = false) : t.update p f hf = t := by
  apply Table.ext
  refine (List.map_congr_left ?_).trans (List.map_id' t.rows)
  intro r hr
  rw [h r hr]
  rfl

/-- Changing every row. -/
theorem find?_of_rows_eq_map {t t' : Table key} (hf : ∀ r, key (f r) = key r)
    (hrows : t'.rows = t.rows.map f) (k : κ) : t'.find? k = (t.find? k).map f := by
  have hupdate : t' = t.update (fun _ => true) f hf := Table.ext hrows
  rw [hupdate, find?_update]
  rfl

/-- A row with a key that passes a test. -/
theorem filter_find? (t : Table key) (p : ν → Bool) (k : κ) :
    (t.find? k).filter p = t.rows.find? (fun r => p r && decide (key r = k)) := by
  rw [← find?_filter, find?, filter, List.find?_filter]
  congr 1
  funext r
  rw [Bool.decide_and, Bool.decide_eq_true, Bool.decide_eq_true]

/-- Changing the row with one key leaves the others alone. -/
theorem find?_update_of_ne (t : Table key) (f : ν → ν) (hf : ∀ r, key (f r) = key r)
    {k k' : κ} (hp : ∀ r, p r = true → key r = k) (hk : k' ≠ k) :
    (t.update p f hf).find? k' = t.find? k' := by
  rw [find?_update]
  cases hfind : t.find? k' with
  | none => rfl
  | some r =>
    have hnot : ¬ p r = true := fun h => hk (by rw [← hp r h, key_of_find? hfind])
    rw [Option.map_some, if_neg hnot]

/-- A test that only the row with one key can pass is passed by at most one row. -/
theorem countP_eq (t : Table key) (hp : ∀ r, p r = true → key r = k) :
    t.rows.countP p = if (t.find? k).any p then 1 else 0 := by
  have hkeys : ((t.filter p).rows.map key) = List.replicate (t.filter p).rows.length k := by
    rw [List.eq_replicate_iff, List.length_map]
    refine ⟨rfl, ?_⟩
    intro k' hk'
    obtain ⟨r, hr, rfl⟩ := List.mem_map.mp hk'
    exact hp r (mem_filter.mp hr).2
  have hle : (t.filter p).rows.length ≤ 1 := by
    have hnodup := (t.filter p).nodup
    rw [hkeys] at hnodup
    exact List.nodup_replicate.mp hnodup
  have hcount : t.rows.countP p = (t.filter p).rows.length := List.countP_eq_length_filter
  rw [hcount]
  by_cases hany : (t.find? k).any p = true
  · rw [if_pos hany]
    obtain ⟨r, hr, hpr⟩ := (Option.any_eq_true _ _).mp hany
    have hmem : r ∈ (t.filter p).rows := mem_filter.mpr ⟨(find?_eq_some_iff.mp hr).1, hpr⟩
    have hpos := List.length_pos_of_mem hmem
    omega
  · rw [if_neg hany, List.length_eq_zero_iff, List.eq_nil_iff_forall_not_mem]
    intro r hr
    obtain ⟨hmem, hpr⟩ := mem_filter.mp hr
    have hfind : t.find? k = some r := find?_eq_some_iff.mpr ⟨hmem, hp r hpr⟩
    simp [hfind, hpr] at hany

end Table

end WebVPN.Library
