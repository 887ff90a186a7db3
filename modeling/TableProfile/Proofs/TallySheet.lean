import Mathlib.Algebra.BigOperators.Group.Finset.Basic
import Mathlib.Data.List.Perm.Basic
import TableProfile.TallySheet

/-!
# The laws of a tally sheet

A sheet is known by the count of each value, together with which values it
holds and whether it has discarded any. Everything that is done to a sheet
is described here by what it does to these three, so that nothing beyond
this module looks at the tree the counts are kept in.

Two relations tie a sheet to the list of what was counted. A sheet that *is
the tally of* a list has every value of it with its number of occurrences,
and no other value. A sheet that *understates* a list may have lost values
and counts, but has invented neither. Counting keeps both relations, and
trimming keeps the second.

Lists are counted with any numbers here. In machine words it comes to the same,
as long as no value occurs more often than a word can tell
(`foldlM_addWord?_one`).
-/

namespace TableProfile

namespace TallySheet

variable (sheet : TallySheet) (value other : String) (n times : Nat)

theorem count_eq_getD : sheet.count value = sheet.counts[value]?.getD 0 := rfl

theorem holds_eq_isSome : sheet.holds value = sheet.counts[value]?.isSome :=
  Std.ExtTreeMap.contains_eq_isSome_getElem?

/-- What is not held has the count zero. -/
theorem count_eq_zero_of_not_holds (h : sheet.holds value = false) : sheet.count value = 0 := by
  rw [holds_eq_isSome, Option.isSome_eq_false_iff, Option.isNone_iff_eq_none] at h
  rw [count_eq_getD, h]
  rfl

/-- **A sheet is known by its counts, by what it holds and by its flag.** -/
theorem ext_of_count {s t : TallySheet} (count : ∀ v, s.count v = t.count v)
    (holds : ∀ v, s.holds v = t.holds v) (flag : s.hasDiscarded = t.hasDiscarded) : s = t := by
  obtain ⟨sc, sd⟩ := s
  obtain ⟨tc, td⟩ := t
  obtain rfl : sd = td := flag
  refine congrArg (TallySheet.mk · sd) (Std.ExtTreeMap.ext_getElem? (fun v => ?_))
  have hc := count v
  have hh := holds v
  rw [count_eq_getD, count_eq_getD] at hc
  rw [holds_eq_isSome, holds_eq_isSome] at hh
  cases hs : sc[v]? with
  | none =>
    rw [hs, Option.isSome_none] at hh
    exact (Option.isNone_iff_eq_none.mp (Option.isSome_eq_false_iff.mp hh.symm)).symm
  | some c =>
    rw [hs, Option.isSome_some] at hh
    obtain ⟨d, hd⟩ := Option.isSome_iff_exists.mp hh.symm
    rw [hs, hd, Option.getD_some, Option.getD_some] at hc
    rw [hd, hc]

@[simp] theorem count_empty : (({} : TallySheet)).count value = 0 := rfl

/-! ## Counting -/

theorem count_setCount :
    (sheet.setCount value n).count other = if value = other then n else sheet.count other := by
  unfold setCount
  rw [count_eq_getD, Std.ExtTreeMap.getElem?_insert]
  by_cases h : value = other
  · subst h
    rw [if_pos Std.ReflCmp.compare_self, if_pos rfl, Option.getD_some]
  · rw [if_neg (fun hc => h (Std.LawfulEqCmp.eq_of_compare hc)), if_neg h]
    rfl

theorem holds_setCount :
    (sheet.setCount value n).holds other = (decide (value = other) || sheet.holds other) := by
  unfold setCount holds
  rw [Std.ExtTreeMap.contains_insert]
  by_cases h : value = other
  · subst h
    simp
  · have hne : compare value other ≠ .eq := fun hc => h (Std.LawfulEqCmp.eq_of_compare hc)
    simp [h, hne]

@[simp] theorem count_addTimes :
    (sheet.addTimes value times).count other
      = sheet.count other + if value = other then times else 0 := by
  rw [addTimes, count_setCount]
  by_cases h : value = other
  · rw [if_pos h, if_pos h, h]
  · rw [if_neg h, if_neg h, add_zero]

@[simp] theorem holds_addTimes :
    (sheet.addTimes value times).holds other = (decide (value = other) || sheet.holds other) :=
  holds_setCount sheet value other _

/-- As long as the sum fits into a word, **both ways of counting are the same**. -/
theorem addWord?_of_lt (overflow : Overflow) (weight : UInt64)
    (fits : sheet.count value + weight.toNat < UInt64.size) :
    sheet.addWord? overflow value weight = some (sheet.addTimes value weight.toNat) := by
  unfold addWord? Overflow.sum?
  rw [if_pos fits]
  rfl

theorem count_add : (sheet.add value).count other = sheet.count other + [value].count other := by
  rw [add, count_addTimes, List.count_singleton]
  simp

@[simp] theorem hasDiscarded_addAll (values : List String) :
    (sheet.addAll values).hasDiscarded = sheet.hasDiscarded := by
  induction values generalizing sheet with
  | nil => rfl
  | cons v rest ih => exact ih (sheet.add v)

/-- Counting a list adds its occurrences. -/
theorem count_addAll (values : List String) :
    (sheet.addAll values).count other = sheet.count other + values.count other := by
  induction values generalizing sheet with
  | nil => rfl
  | cons v rest ih =>
    calc (sheet.addAll (v :: rest)).count other
        = (sheet.add v).count other + rest.count other := ih (sheet.add v)
      _ = sheet.count other + ([v].count other + rest.count other) := by
          rw [count_add, add_assoc]
      _ = sheet.count other + (v :: rest).count other := by
          rw [← List.count_append, List.singleton_append]

/-- **Counting in machine words is counting**, as long as no count outgrows a word. -/
theorem foldlM_addWord?_one (overflow : Overflow) (values : List String)
    (fits : ∀ v, sheet.count v + values.count v < UInt64.size) :
    values.foldlM (fun sheet v => sheet.addWord? overflow v 1) sheet
      = some (sheet.addAll values) := by
  induction values generalizing sheet with
  | nil => rfl
  | cons v rest ih =>
    have hcount : (v :: rest).count v = rest.count v + 1 := List.count_cons_self
    have hone : sheet.addWord? overflow v 1 = some (sheet.add v) := by
      refine addWord?_of_lt sheet v overflow 1 (Nat.lt_of_le_of_lt ?_ (fits v))
      rw [hcount]
      exact Nat.add_le_add_left (Nat.le_add_left 1 _) _
    rw [List.foldlM_cons, hone]
    refine ih (sheet.add v) fun w => ?_
    rw [count_add, Nat.add_assoc, ← List.count_append, List.singleton_append]
    exact fits w

/-! ## Entries -/

/-- **The entries are what is held**, each value with its count. -/
theorem mem_entries {e : Tally} :
    e ∈ sheet.entries ↔ sheet.holds e.value = true ∧ sheet.count e.value = e.count := by
  have hentry : e ∈ sheet.entries ↔ (e.value, e.count) ∈ sheet.counts.toList := by
    rw [entries, List.mem_map]
    constructor
    · rintro ⟨p, hp, rfl⟩
      exact hp
    · intro h
      exact ⟨_, h, rfl⟩
  rw [hentry, Std.ExtTreeMap.mem_toList_iff_getElem?_eq_some, holds_eq_isSome, count_eq_getD]
  cases sheet.counts[e.value]? with
  | none => simp
  | some c => simp

/-- No value has two entries. -/
theorem nodup_values_entries : (sheet.entries.map (·.value)).Nodup := by
  rw [entries, List.map_map, List.nodup_iff_pairwise_ne, List.pairwise_map]
  refine Std.ExtTreeMap.distinct_keys_toList.imp (fun hne heq => hne ?_)
  exact Std.LawfulEqCmp.compare_eq_iff_eq.mpr heq

@[simp] theorem length_entries : sheet.entries.length = sheet.size := by
  rw [entries, List.length_map, Std.ExtTreeMap.length_toList, size]

theorem perm_ranked : sheet.ranked.Perm sheet.entries :=
  List.mergeSort_perm _ _

@[simp] theorem length_ranked : sheet.ranked.length = sheet.size := by
  rw [sheet.perm_ranked.length_eq, length_entries]

theorem nodup_values_ranked : (sheet.ranked.map (·.value)).Nodup :=
  (sheet.perm_ranked.map _).nodup_iff.mpr sheet.nodup_values_entries

/-- Looking up in a sheet of entries with distinct values finds them. -/
theorem getElem?_countsOf {l : List Tally} (distinct : (l.map (·.value)).Nodup) (c : Nat) :
    (countsOf l)[value]? = some c ↔ ⟨value, c⟩ ∈ l := by
  induction l using List.reverseRecOn with
  | nil => simp [countsOf]
  | append_singleton l e ih =>
    rw [List.map_append, List.nodup_append] at distinct
    obtain ⟨hl, -, hfresh⟩ := distinct
    have step : countsOf (l ++ [e]) = (countsOf l).insert e.value e.count := by
      rw [countsOf, List.foldl_append]
      rfl
    rw [step, Std.ExtTreeMap.getElem?_insert, List.mem_append, List.mem_singleton, ← ih hl]
    by_cases h : e.value = value
    · -- the last entry of a value is its only one
      subst h
      have hnone : ¬ (countsOf l)[e.value]? = some c := fun hc =>
        hfresh e.value (List.mem_map.mpr ⟨_, (ih hl).mp hc, rfl⟩) e.value (by simp) rfl
      rw [if_pos Std.ReflCmp.compare_self, or_iff_right hnone]
      exact ⟨fun he => by obtain rfl := Option.some.inj he; rfl, fun he => by rw [← he]⟩
    · rw [if_neg (fun hc => h (Std.LawfulEqCmp.eq_of_compare hc))]
      exact ⟨Or.inl, fun he => he.resolve_right (fun heq => h (by rw [← heq]))⟩

/-! ## Trimming -/

theorem trim_of_size_le (h : sheet.size ≤ n) : sheet.trim n = sheet :=
  if_pos h

theorem hasDiscarded_trim :
    (sheet.trim n).hasDiscarded = (sheet.hasDiscarded || decide (n < sheet.size)) := by
  by_cases h : sheet.size ≤ n
  · rw [trim_of_size_le sheet n h, decide_eq_false (Nat.not_lt.mpr h), Bool.or_false]
  · rw [trim, if_neg h, decide_eq_true (Nat.not_le.mp h), Bool.or_true]

/-- **What a trim keeps**: the first entries of the ranking, as they are. -/
theorem mem_entries_trim (h : n < sheet.size) {e : Tally} :
    e ∈ (sheet.trim n).entries ↔ e ∈ sheet.ranked.take n := by
  have distinct : ((sheet.ranked.take n).map (·.value)).Nodup :=
    (sheet.nodup_values_ranked).sublist ((List.take_sublist n _).map _)
  rw [mem_entries, ← getElem?_countsOf e.value distinct, trim, if_neg (Nat.not_le.mpr h),
    holds_eq_isSome, count_eq_getD]
  cases (countsOf (sheet.ranked.take n))[e.value]? with
  | none => simp
  | some c => simp

theorem perm_entries_trim (h : n < sheet.size) :
    (sheet.trim n).entries.Perm (sheet.ranked.take n) := by
  refine (List.perm_ext_iff_of_nodup ?_ ?_).mpr (fun _ => mem_entries_trim sheet n h)
  · exact (nodup_values_entries _).of_map
  · exact (sheet.nodup_values_ranked.of_map).sublist (List.take_sublist n _)

/-- **The size after a trim.** -/
@[simp] theorem size_trim : (sheet.trim n).size = min sheet.size n := by
  by_cases h : sheet.size ≤ n
  · rw [trim_of_size_le sheet n h, min_eq_left h]
  · have hn : n < sheet.size := Nat.not_le.mp h
    rw [← length_entries, (perm_entries_trim sheet n hn).length_eq, List.length_take,
      length_ranked, min_comm]

/-- A value that survives a trim was held before, with the same count. -/
theorem holds_of_holds_trim (h : (sheet.trim n).holds value = true) :
    sheet.holds value = true ∧ sheet.count value = (sheet.trim n).count value := by
  by_cases hn : sheet.size ≤ n
  · rw [trim_of_size_le sheet n hn] at h ⊢
    exact ⟨h, rfl⟩
  · have hmem : (⟨value, (sheet.trim n).count value⟩ : Tally) ∈ (sheet.trim n).entries :=
      (mem_entries _).mpr ⟨h, rfl⟩
    rw [mem_entries_trim sheet n (Nat.not_le.mp hn)] at hmem
    exact (mem_entries _).mp (sheet.perm_ranked.subset (List.mem_of_mem_take hmem))

/-! ## The first entries -/

/-- A ranking that leaves nothing out has as many entries as the sheet, and
they are the entries of the sheet. -/
theorem perm_topAtLeast_of_length {least limit : Nat}
    (full : sheet.size ≤ (sheet.topAtLeast least limit).entries.length) :
    (sheet.topAtLeast least limit).entries.Perm sheet.entries := by
  have hsub : (sheet.topAtLeast least limit).entries.Sublist sheet.ranked :=
    (List.take_sublist _ _).trans List.filter_sublist
  rw [hsub.eq_of_length_le (by rwa [length_ranked])]
  exact sheet.perm_ranked

/-! ## What a sheet says of a list -/

/-- No entry has the count zero, so that what is held was counted. -/
def NoneZero : Prop :=
  ∀ v, sheet.holds v = true → 0 < sheet.count v

/-- **The sheet is the tally of a list**: every value of the list with its
number of occurrences, and nothing else. -/
structure IsTallyOf (sheet : TallySheet) (seen : List String) : Prop where
  /-- What is held was counted. -/
  noneZero : sheet.NoneZero
  /-- The counts are the numbers of occurrences. -/
  count_eq : ∀ v, sheet.count v = seen.count v

/-- **The sheet understates a list**: it may have lost values and counts,
but it has invented neither. -/
structure Understates (sheet : TallySheet) (seen : List String) : Prop where
  /-- What is held was counted. -/
  noneZero : sheet.NoneZero
  /-- No count is above the number of occurrences. -/
  count_le : ∀ v, sheet.count v ≤ seen.count v

variable {sheet} {seen : List String}

theorem IsTallyOf.understates (h : sheet.IsTallyOf seen) : sheet.Understates seen :=
  ⟨h.noneZero, fun v => (h.count_eq v).le⟩

/-- The tally of a list holds the values of the list. -/
theorem IsTallyOf.holds_iff (h : sheet.IsTallyOf seen) (v : String) :
    sheet.holds v = true ↔ v ∈ seen := by
  rw [← List.count_pos_iff, ← h.count_eq]
  refine ⟨h.noneZero v, fun hpos => ?_⟩
  by_contra hno
  rw [count_eq_zero_of_not_holds sheet v (Bool.eq_false_iff.mpr hno)] at hpos
  exact absurd hpos (lt_irrefl 0)

/-- **A list has one tally**, up to the flag of the sheet. -/
theorem IsTallyOf.ext {t : TallySheet} (h : sheet.IsTallyOf seen) (h' : t.IsTallyOf seen)
    (flag : sheet.hasDiscarded = t.hasDiscarded) : sheet = t := by
  refine ext_of_count (fun v => ?_) (fun v => ?_) flag
  · rw [h.count_eq, h'.count_eq]
  · rw [Bool.eq_iff_iff, h.holds_iff, h'.holds_iff]

/-- What understates a list holds no value from elsewhere. -/
theorem Understates.mem_of_holds (h : sheet.Understates seen) {v : String}
    (hv : sheet.holds v = true) : v ∈ seen :=
  List.count_pos_iff.mp ((h.noneZero v hv).trans_le (h.count_le v))

theorem isTallyOf_empty : ({} : TallySheet).IsTallyOf [] :=
  ⟨fun _ h => absurd h Bool.false_ne_true, fun _ => rfl⟩

/-- Counting keeps what is held counted. -/
theorem NoneZero.addTimes (h : sheet.NoneZero) (value : String) {times : Nat} (pos : 0 < times) :
    (sheet.addTimes value times).NoneZero := by
  intro v hv
  rw [holds_addTimes, Bool.or_eq_true, decide_eq_true_eq] at hv
  rw [count_addTimes]
  rcases hv with rfl | hv
  · rw [if_pos rfl]
    omega
  · exact (h v hv).trans_le (Nat.le_add_right _ _)

theorem NoneZero.addAll (h : sheet.NoneZero) (values : List String) :
    (sheet.addAll values).NoneZero := by
  induction values generalizing sheet with
  | nil => exact h
  | cons v rest ih => exact ih (h.addTimes v Nat.one_pos)

theorem NoneZero.trim (h : sheet.NoneZero) (n : Nat) : (sheet.trim n).NoneZero := by
  intro v hv
  obtain ⟨hheld, hcount⟩ := holds_of_holds_trim sheet v n hv
  exact hcount ▸ h v hheld

/-- **Counting more values** keeps a tally a tally. -/
theorem IsTallyOf.addAll (h : sheet.IsTallyOf seen) (values : List String) :
    (sheet.addAll values).IsTallyOf (seen ++ values) :=
  ⟨h.noneZero.addAll values, fun v => by rw [count_addAll, h.count_eq, List.count_append]⟩

theorem Understates.addAll (h : sheet.Understates seen) (values : List String) :
    (sheet.addAll values).Understates (seen ++ values) := by
  refine ⟨h.noneZero.addAll values, fun v => ?_⟩
  rw [count_addAll, List.count_append]
  exact Nat.add_le_add_right (h.count_le v) _

/-- **A trim loses, and invents nothing.** -/
theorem Understates.trim (h : sheet.Understates seen) (n : Nat) :
    (sheet.trim n).Understates seen := by
  refine ⟨h.noneZero.trim n, fun v => ?_⟩
  cases hv : (sheet.trim n).holds v with
  | true =>
    rw [← (holds_of_holds_trim sheet v n hv).2]
    exact h.count_le v
  | false =>
    rw [count_eq_zero_of_not_holds _ v hv]
    exact Nat.zero_le _

/-- **A list of entries is the table of a list of values**: each value once,
with its number of occurrences, and nothing else. -/
def IsTableOf (entries : List Tally) (seen : List String) : Prop :=
  (entries.map (·.value)).Nodup
    ∧ ∀ v c, ⟨v, c⟩ ∈ entries ↔ 0 < c ∧ c = seen.count v

/-- The order of the entries of a table does not matter. -/
theorem isTableOf_congr {l l' : List Tally} (h : l.Perm l') :
    IsTableOf l seen ↔ IsTableOf l' seen :=
  and_congr (h.map _).nodup_iff (forall₂_congr (fun _ _ => iff_congr h.mem_iff Iff.rfl))

/-- **The entries of a sheet are the table of a list exactly if the sheet is
its tally**, for sheets that hold nothing uncounted. -/
theorem isTableOf_entries_iff (hzero : sheet.NoneZero) :
    IsTableOf sheet.entries seen ↔ sheet.IsTallyOf seen := by
  constructor
  · rintro ⟨-, htable⟩
    refine ⟨hzero, fun v => ?_⟩
    cases hv : sheet.holds v with
    | true => exact ((htable v _).mp ((mem_entries _).mpr ⟨hv, rfl⟩)).2
    | false =>
      rw [count_eq_zero_of_not_holds _ v hv]
      by_contra hne
      have hmem := (htable v (seen.count v)).mpr ⟨Nat.pos_of_ne_zero (Ne.symm hne), rfl⟩
      rw [mem_entries, hv] at hmem
      exact Bool.false_ne_true hmem.1
  · intro h
    refine ⟨sheet.nodup_values_entries, fun v c => ?_⟩
    rw [mem_entries, h.count_eq, h.holds_iff, ← List.count_pos_iff]
    show 0 < seen.count v ∧ seen.count v = c ↔ _
    constructor
    · rintro ⟨hpos, rfl⟩
      exact ⟨hpos, rfl⟩
    · rintro ⟨hpos, rfl⟩
      exact ⟨hpos, rfl⟩

end TallySheet

end TableProfile
