import Mathlib.Algebra.GroupWithZero.Nat
import Mathlib.Algebra.Order.BigOperators.Group.Finset
import TableProfile.Column.Profile
import TableProfile.Proofs.TallySheet

/-!
# A sheet of values as a sheet of words

When a column turns into free text, the values counted so far are taken
apart: each word of a value inherits the count of the value, once for each
time it stands in the value. Counting is thereby moved from one alphabet to
another, and what makes this sound is that it is *linear*: a word is counted
as often as the sum, over the values, of its occurrences in the value times
the count of the value says (`count_tokenize`). The order in which the
values are taken apart plays no part in it (`foldl_addWords_perm`).

So the tally of a list of cells becomes the tally of their words
(`isTallyOf_tokenize`). A sheet that understates the cells becomes one that
understates the words, and it comes out exact only if every value that has
words was held in full (`count_tokenize_eq_iff`): a loss among the values is
never made good, except in values without words.
-/

namespace TableProfile

namespace ColumnProfile

open TallySheet

variable (tokens sheet : TallySheet) (e e' : Tally) (word : String)

theorem count_foldl_addTimes (words : List String) (times : Nat) :
    (words.foldl (fun tokens w => tokens.addTimes w times) tokens).count word
      = tokens.count word + words.count word * times := by
  induction words generalizing tokens with
  | nil => simp
  | cons w rest ih =>
    rw [List.foldl_cons, ih, count_addTimes, List.count_cons]
    by_cases h : w = word
    · subst h
      rw [if_pos rfl, if_pos (beq_self_eq_true w), Nat.add_mul]
      omega
    · rw [if_neg h, if_neg (by simpa using h), add_zero, add_zero]

theorem holds_foldl_addTimes (words : List String) (times : Nat) :
    (words.foldl (fun tokens w => tokens.addTimes w times) tokens).holds word
      = (words.contains word || tokens.holds word) := by
  induction words generalizing tokens with
  | nil => rfl
  | cons w rest ih =>
    rw [List.foldl_cons, ih, holds_addTimes, List.contains_cons]
    by_cases h : w = word
    · simp [h]
    · simp [h, beq_false_of_ne (Ne.symm h)]

theorem hasDiscarded_foldl_addTimes (words : List String) (times : Nat) :
    (words.foldl (fun tokens w => tokens.addTimes w times) tokens).hasDiscarded
      = tokens.hasDiscarded := by
  induction words generalizing tokens with
  | nil => rfl
  | cons w rest ih => exact ih (tokens.addTimes w times)

theorem noneZero_foldl_addTimes {tokens : TallySheet} (h : tokens.NoneZero)
    (words : List String) {times : Nat} (pos : 0 < times) :
    (words.foldl (fun tokens w => tokens.addTimes w times) tokens).NoneZero := by
  induction words generalizing tokens with
  | nil => exact h
  | cons w rest ih => exact ih (h.addTimes w pos)

/-- **Taking values apart commutes**: which of two values comes first does
not show. -/
theorem addWords_comm :
    addWords (addWords tokens e) e' = addWords (addWords tokens e') e := by
  unfold addWords
  refine ext_of_count (fun v => ?_) (fun v => ?_) ?_
  · simp only [count_foldl_addTimes]
    omega
  · simp only [holds_foldl_addTimes]
    exact Bool.or_left_comm _ _ _
  · rw [hasDiscarded_foldl_addTimes, hasDiscarded_foldl_addTimes, hasDiscarded_foldl_addTimes,
      hasDiscarded_foldl_addTimes]

/-- **The order of the entries does not matter** when they are taken
apart. -/
theorem foldl_addWords_perm {order entries : List Tally} (h : order.Perm entries) :
    order.foldl addWords tokens = entries.foldl addWords tokens :=
  h.foldl_eq' (fun _ _ _ _ _ => addWords_comm _ _ _) tokens

theorem count_foldl_addWords (entries : List Tally) :
    (entries.foldl addWords tokens).count word
      = tokens.count word
        + (entries.map (fun e => (cellWords e.value).count word * e.count)).sum := by
  induction entries generalizing tokens with
  | nil => rfl
  | cons e rest ih =>
    rw [List.foldl_cons, ih, addWords, count_foldl_addTimes, List.map_cons, List.sum_cons,
      add_assoc]

@[simp] theorem hasDiscarded_tokenize : (tokenize sheet).hasDiscarded = false := by
  have h : ∀ (entries : List Tally) (tokens : TallySheet),
      (entries.foldl addWords tokens).hasDiscarded = tokens.hasDiscarded := by
    intro entries
    induction entries with
    | nil => exact fun _ => rfl
    | cons e rest ih =>
      intro tokens
      rw [List.foldl_cons, ih, addWords, hasDiscarded_foldl_addTimes]
  exact h sheet.entries {}

variable {sheet} {seen : List String}

theorem noneZero_tokenize (h : sheet.NoneZero) : (tokenize sheet).NoneZero := by
  have hfold : ∀ (entries : List Tally) (tokens : TallySheet), tokens.NoneZero →
      (∀ e ∈ entries, 0 < e.count) → (entries.foldl addWords tokens).NoneZero := by
    intro entries
    induction entries with
    | nil => exact fun _ htokens _ => htokens
    | cons e rest ih =>
      intro tokens htokens hpos
      exact ih _ (noneZero_foldl_addTimes htokens _ (hpos e List.mem_cons_self))
        (fun e' he' => hpos e' (List.mem_cons_of_mem _ he'))
  refine hfold sheet.entries {} isTallyOf_empty.noneZero (fun e he => ?_)
  obtain ⟨hheld, hcount⟩ := (mem_entries _).mp he
  exact hcount ▸ h e.value hheld

/-- **Taking apart is linear**: the count of a word is the sum, over the
values, of its occurrences in the value times the count of the value. -/
theorem count_tokenize (hsub : ∀ v, sheet.holds v = true → v ∈ seen) :
    (tokenize sheet).count word
      = ∑ v ∈ seen.toFinset, (cellWords v).count word * sheet.count v := by
  have hentries : sheet.entries.map (fun e => (cellWords e.value).count word * e.count)
      = (sheet.entries.map (·.value)).map
          (fun v => (cellWords v).count word * sheet.count v) := by
    rw [List.map_map]
    refine List.map_congr_left (fun e he => ?_)
    rw [Function.comp_apply, ((mem_entries _).mp he).2]
  rw [tokenize, count_foldl_addWords, count_empty, zero_add, hentries,
    ← List.sum_toFinset _ sheet.nodup_values_entries]
  -- what is in the list but not held contributes nothing
  refine Finset.sum_subset (fun v hv => ?_) (fun v _ hv => ?_)
  · obtain ⟨e, he, rfl⟩ := List.mem_map.mp (List.mem_toFinset.mp hv)
    exact List.mem_toFinset.mpr (hsub _ ((mem_entries _).mp he).1)
  · have hnot : sheet.holds v = false := by
      refine Bool.eq_false_iff.mpr (fun hheld => hv (List.mem_toFinset.mpr ?_))
      exact List.mem_map.mpr ⟨⟨v, sheet.count v⟩, (mem_entries _).mpr ⟨hheld, rfl⟩, rfl⟩
    rw [count_eq_zero_of_not_holds _ v hnot, Nat.mul_zero]

/-- The occurrences of a word in some cells, grouped by the value of the
cell. -/
theorem count_flatMap_cellWords (seen : List String) (word : String) :
    (seen.flatMap cellWords).count word
      = ∑ v ∈ seen.toFinset, (cellWords v).count word * seen.count v := by
  rw [List.count_flatMap, Finset.sum_list_map_count]
  refine Finset.sum_congr rfl (fun v _ => ?_)
  exact Nat.mul_comm _ _

/-- **The tally of the cells becomes the tally of their words.** -/
theorem isTallyOf_tokenize (h : sheet.IsTallyOf seen) :
    (tokenize sheet).IsTallyOf (seen.flatMap cellWords) := by
  refine ⟨noneZero_tokenize h.noneZero, fun w => ?_⟩
  rw [count_tokenize w (fun v => (h.holds_iff v).mp), count_flatMap_cellWords]
  exact Finset.sum_congr rfl (fun v _ => by rw [h.count_eq])

/-- What understates the cells becomes what understates their words. -/
theorem understates_tokenize (h : sheet.Understates seen) :
    (tokenize sheet).Understates (seen.flatMap cellWords) := by
  refine ⟨noneZero_tokenize h.noneZero, fun w => ?_⟩
  rw [count_tokenize w (fun _ => h.mem_of_holds), count_flatMap_cellWords]
  exact Finset.sum_le_sum (fun v _ => Nat.mul_le_mul_left _ (h.count_le v))

/-- **A loss is made good only in values without words**: the words come out
with their exact counts if and only if every value that has words was held
with its full count. -/
theorem count_tokenize_eq_iff (h : sheet.Understates seen) :
    (∀ w, (tokenize sheet).count w = (seen.flatMap cellWords).count w)
      ↔ ∀ v, cellWords v ≠ [] → sheet.count v = seen.count v := by
  have hterm : ∀ w, ∀ v ∈ seen.toFinset,
      (cellWords v).count w * sheet.count v ≤ (cellWords v).count w * seen.count v :=
    fun w v _ => Nat.mul_le_mul_left _ (h.count_le v)
  simp only [count_tokenize _ (fun _ => h.mem_of_holds), count_flatMap_cellWords]
  constructor
  · intro hall v hv
    by_cases hmem : v ∈ seen
    · obtain ⟨w, hw⟩ := List.exists_mem_of_ne_nil _ hv
      have hpos : 0 < (cellWords v).count w := List.count_pos_iff.mpr hw
      exact Nat.eq_of_mul_eq_mul_left hpos
        ((Finset.sum_eq_sum_iff_of_le (hterm w)).mp (hall w) v (List.mem_toFinset.mpr hmem))
    · have hzero : seen.count v = 0 := List.count_eq_zero_of_not_mem hmem
      exact Nat.le_antisymm (h.count_le v) (hzero ▸ Nat.zero_le _)
  · intro hall w
    refine Finset.sum_congr rfl (fun v _ => ?_)
    by_cases hv : cellWords v = []
    · rw [hv, List.count_nil, Nat.zero_mul, Nat.zero_mul]
    · rw [hall v hv]

end ColumnProfile

end TableProfile
