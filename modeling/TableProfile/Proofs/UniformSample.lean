import Mathlib.Algebra.BigOperators.Fin
import Mathlib.Combinatorics.Enumerative.DoubleCounting
import Mathlib.Data.Fin.Tuple.Basic
import Mathlib.Data.Finset.Powerset
import Mathlib.Data.Nat.Choose.Basic
import Mathlib.Tactic.Ring
import TableProfile.Proofs.ReservoirRun

/-!
# A sample is uniform

When a reservoir of capacity `m` is full, the number added as the `i`-th comes
with a draw from the numbers below `i`, and a draw below `m` is a rank of the
sample. The draws for `m + k` values are a sequence of `k` numbers, each below
its own bound (`Draws`). If all such sequences are equally likely, then all
choices of `m` values are: each of them is what is kept for `k!` of the
sequences.

The sample is sorted, so a rank stands for another value after each
replacement. It does not matter: at each moment the ranks stand for the values
kept, one each, so a draw that is uniform in the ranks is uniform in the
values. The induction is on `k`. A choice without the last value comes from
the same choice, by one of the draws that replace nothing. A choice with it
comes from a choice in which some value not chosen stands in its place, by the
one draw that stands for that value (`card_draws_eq`).
-/

namespace TableProfile

namespace Reservoir

variable {α : Type}

/-! ## What is kept, as a collection -/

/-- **What a reservoir keeps**, whatever its order. -/
def kept (r : Reservoir α) : Multiset α :=
  r.samples.toList

theorem card_kept (r : Reservoir α) : r.kept.card = r.size :=
  rfl

/-- What is kept, as the sample of a rank and the others. -/
theorem kept_eq_cons (r : Reservoir α) {j : Nat} (h : j < r.samples.size) :
    r.kept = r.samples[j] ::ₘ (r.samples.toList.eraseIdx j : Multiset α) :=
  Multiset.coe_eq_coe.mpr (List.getElem_cons_eraseIdx_perm h).symm

variable [Quantity α]

theorem perm_inserted (samples : Array α) (value : α) :
    (inserted samples value).toList.Perm (value :: samples.toList) := by
  unfold inserted
  rw [Array.toList_insertIdx]
  exact List.perm_insertIdx value _ (rank_le samples value)

theorem perm_replaced (samples : Array α) (victim : Nat) (h : victim < samples.size)
    (value : α) :
    (replaced samples victim h value).toList.Perm (value :: samples.toList.eraseIdx victim) := by
  have hle := rank_le samples value
  unfold replaced
  rw [Array.toList_insertIdx, Array.toList_eraseIdx]
  refine List.perm_insertIdx value _ ?_
  rw [List.length_eraseIdx_of_lt h, Array.length_toList]
  split <;> omega

theorem kept_add_of_hasRoom {r : Reservoir α} (room : r.size < r.capacity) (value : α) (j : Nat) :
    (r.add value j).kept = value ::ₘ r.kept := by
  have hroom : r.hasRoom = true := decide_eq_true room
  refine Multiset.coe_eq_coe.mpr ?_
  show (r.resampled value j).toList.Perm _
  unfold resampled
  rw [if_pos hroom]
  exact perm_inserted _ _

theorem kept_add_of_le {r : Reservoir α} (full : r.size = r.capacity) (value : α) {j : Nat}
    (h : r.capacity ≤ j) : (r.add value j).kept = r.kept := by
  have hroom : ¬ r.hasRoom = true := mt of_decide_eq_true (full.ge.not_gt)
  have hj : ¬ j < r.samples.size := by
    have : r.samples.size = r.capacity := full
    omega
  show ((r.resampled value j).toList : Multiset α) = _
  unfold resampled
  rw [if_neg hroom, dif_neg hj]
  rfl

theorem kept_add_of_lt {r : Reservoir α} (full : r.size = r.capacity) (value : α) {j : Nat}
    (h : j < r.samples.size) :
    (r.add value j).kept = value ::ₘ (r.samples.toList.eraseIdx j : Multiset α) := by
  have hroom : ¬ r.hasRoom = true := mt of_decide_eq_true (full.ge.not_gt)
  refine Multiset.coe_eq_coe.mpr ?_
  show (r.resampled value j).toList.Perm _
  unfold resampled
  rw [if_neg hroom, dif_pos h]
  exact perm_replaced _ _ _ _

/-- A value adds no more than itself to what is kept. -/
theorem kept_add_le {r : Reservoir α} (full : r.size = r.capacity) (value : α) (j : Nat) :
    (r.add value j).kept ≤ value ::ₘ r.kept := by
  rcases Nat.lt_or_ge j r.capacity with hlt | hge
  · have hlt' : j < r.samples.size := hlt.trans_eq full.symm
    rw [kept_add_of_lt full value hlt', kept_eq_cons r hlt']
    exact Multiset.cons_le_cons _ (Multiset.le_cons_self _ _)
  · rw [kept_add_of_le full value hge]
    exact Multiset.le_cons_self _ _

/-- A full reservoir stays full. -/
theorem size_add_of_full {r : Reservoir α} (full : r.size = r.capacity) (value : α) (j : Nat) :
    (r.add value j).size = r.capacity := by
  have hroom : ¬ r.samples.size < r.capacity := full.ge.not_gt
  show (r.resampled value j).size = r.capacity
  rw [size_resampled, if_neg hroom]
  exact full

/-! ## Sequences of draws -/

/-- **The draws for `k` values** that are added to a full reservoir of
capacity `m`: the draw for the `i`-th value of all is below `i`. -/
abbrev Draws (m k : Nat) : Type :=
  (i : Fin k) → Fin (m + i + 1)

/-- The draws as they are made, with one that is not looked at for each of the
first `m` values. -/
def drawn {m k : Nat} (draws : Draws m k) : List Nat :=
  List.replicate m 0 ++ List.ofFn fun i => (draws i : Nat)

/-- **A reservoir after values are added** by a sequence of draws. -/
def fed {m k : Nat} (r : Reservoir α) (values : List α) (draws : Draws m k) : Reservoir α :=
  r.addAll (values.zip (drawn draws))

section Draws

variable {m k : Nat}

theorem length_drawn (draws : Draws m k) : (drawn draws).length = m + k := by
  unfold drawn
  rw [List.length_append, List.length_replicate, List.length_ofFn]

theorem drawn_snoc (draws : Draws m k) (last : Fin (m + k + 1)) :
    drawn (Fin.snoc draws last : Draws m (k + 1)) = drawn draws ++ [(last : Nat)] := by
  unfold drawn
  rw [List.ofFn_succ_last, ← List.append_assoc]
  simp only [Fin.snoc_castSucc, Fin.snoc_last]

/-- The last of the values is added by the last of the draws. -/
theorem fed_concat (r : Reservoir α) {values : List α} (length : values.length = m + k)
    (value : α) (draws : Draws m k) (last : Fin (m + k + 1)) :
    r.fed (values ++ [value]) (Fin.snoc draws last : Draws m (k + 1))
      = (r.fed values draws).add value last := by
  unfold fed addAll
  rw [drawn_snoc, List.zip_append (length.trans (length_drawn draws).symm), List.foldl_append]
  rfl

/-- **Sequences are counted by their last draw.** -/
theorem card_filter_draws_succ (P : Draws m (k + 1) → Prop) [DecidablePred P] :
    Finset.card {draws | P draws}
      = ∑ draws : Draws m k, Finset.card {last : Fin (m + k + 1) | P (Fin.snoc draws last)} := by
  have hsplit := (Fin.snocEquiv fun i : Fin (k + 1) => Fin (m + i + 1)).sum_comp
    fun draws => if P draws then 1 else 0
  rw [Finset.card_filter, ← hsplit, Fintype.sum_prod_type_right]
  exact Finset.sum_congr rfl fun draws _ => (Finset.card_filter _ _).symm

end Draws

/-! ## One draw -/

section Step

variable [DecidableEq α] {r : Reservoir α} {chosen : Finset α} {value : α}

/-- **A choice without the value** is kept by the draws that replace nothing,
if it was kept before, and by no others. -/
theorem card_add_eq_of_notMem (full : r.size = r.capacity) (k : Nat) (absent : value ∉ chosen) :
    Finset.card {last : Fin (r.capacity + k + 1) | (r.add value last).kept = chosen.val}
      = if r.kept = chosen.val then k + 1 else 0 := by
  have hiff : ∀ last : Nat, (r.add value last).kept = chosen.val ↔
      r.capacity ≤ last ∧ r.kept = chosen.val := by
    intro last
    rcases Nat.lt_or_ge last r.capacity with hlt | hge
    · have hlt' : last < r.samples.size := hlt.trans_eq full.symm
      rw [kept_add_of_lt full value hlt']
      refine iff_of_false (fun heq => absent ?_) (fun h => h.1.not_gt hlt)
      exact Finset.mem_val.mp (heq ▸ Multiset.mem_cons_self value _)
    · rw [kept_add_of_le full value hge, and_iff_right hge]
  simp only [hiff]
  by_cases hkept : r.kept = chosen.val
  · have hge : ({last : Fin (r.capacity + k + 1) | r.capacity ≤ last ∧ r.kept = chosen.val} :
        Finset _) = Finset.Ici ⟨r.capacity, by omega⟩ := by
      ext last
      rw [Finset.mem_filter_univ, Finset.mem_Ici, Fin.le_def, and_iff_left hkept]
    rw [if_pos hkept, hge, Fin.card_Ici]
    show r.capacity + k + 1 - r.capacity = k + 1
    omega
  · rw [if_neg hkept, Finset.card_eq_zero, Finset.filter_eq_empty_iff]
    exact fun last _ h => hkept h.2

/-- A choice with the value is kept when the draw stands for the one of the
values kept before that is not chosen. -/
theorem kept_add_eq_iff (full : r.size = r.capacity) (present : value ∈ chosen)
    (new : value ∉ r.kept) (last : Nat) :
    (r.add value last).kept = chosen.val ↔
      ∃ h : last < r.samples.size, r.kept = r.samples[last] ::ₘ (chosen.erase value).val := by
  have hchosen : chosen.val = value ::ₘ (chosen.erase value).val := by
    rw [Finset.erase_val, Multiset.cons_erase present]
  rcases Nat.lt_or_ge last r.capacity with hlt | hge
  · have hlt' : last < r.samples.size := hlt.trans_eq full.symm
    rw [kept_add_of_lt full value hlt', hchosen, Multiset.cons_inj_right, kept_eq_cons r hlt']
    constructor
    · exact fun heq => ⟨hlt', congrArg (r.samples[last] ::ₘ ·) heq⟩
    · rintro ⟨_, heq⟩
      exact (Multiset.cons_inj_right _).mp heq
  · rw [kept_add_of_le full value hge]
    refine iff_of_false (fun heq => ?_) (fun ⟨hlt, _⟩ => hge.not_gt (hlt.trans_eq full))
    rw [heq] at new
    exact new (Finset.mem_val.mpr present)

/-- **A choice with the value** is kept by one draw for each way in which the
others, and one that is not chosen, were kept before. -/
theorem card_add_eq_of_mem (full : r.size = r.capacity) (k : Nat) (present : value ∈ chosen)
    {pool : Finset α} (nodup : r.kept.Nodup) (inside : ∀ x ∈ r.kept, x ∈ pool)
    (new : value ∉ pool) :
    Finset.card {last : Fin (r.capacity + k + 1) | (r.add value last).kept = chosen.val}
      = Finset.card {x ∈ pool \ chosen | r.kept = (insert x (chosen.erase value)).val} := by
  have hiff := kept_add_eq_iff full present (mt (inside value) new)
  have hlist : r.samples.toList.Nodup := Multiset.coe_nodup.mp nodup
  have hmem : ∀ last : Fin (r.capacity + k + 1),
      last ∈ ({last : Fin (r.capacity + k + 1) | (r.add value last).kept = chosen.val} :
          Finset _) ↔
        ∃ h : last.val < r.samples.size,
          r.kept = r.samples[last.val] ::ₘ (chosen.erase value).val :=
    fun last => by rw [Finset.mem_filter_univ, hiff]
  refine Finset.card_bij (fun last h => have := ((hmem last).mp h).1; r.samples[last.val]) ?_ ?_ ?_
  · intro last h
    obtain ⟨hlt, heq⟩ := (hmem last).mp h
    have hin : r.samples[last.val] ∈ pool := inside _ (heq ▸ Multiset.mem_cons_self _ _)
    have hout : r.samples[last.val] ∉ chosen.erase value := by
      rw [heq, Multiset.nodup_cons] at nodup
      exact nodup.1
    have hne : r.samples[last.val] ≠ value := fun h => new (h ▸ hin)
    rw [Finset.mem_filter, Finset.mem_sdiff, Finset.insert_val_of_notMem hout]
    exact ⟨⟨hin, fun h => hout (Finset.mem_erase.mpr ⟨hne, h⟩)⟩, heq⟩
  · intro i hi j hj heq
    exact Fin.ext ((hlist.getElem_inj_iff).mp heq)
  · intro x hx
    obtain ⟨hx, heq⟩ := Finset.mem_filter.mp hx
    have hout : x ∉ chosen.erase value :=
      fun h => (Finset.mem_sdiff.mp hx).2 (Finset.mem_of_mem_erase h)
    rw [Finset.insert_val_of_notMem hout] at heq
    have hkept : x ∈ r.kept := by
      rw [heq]
      exact Multiset.mem_cons_self _ _
    obtain ⟨j, hj, rfl⟩ := Array.mem_iff_getElem.mp (Array.mem_toList_iff.mp hkept)
    have hbound : j < r.capacity + k + 1 := by
      have : j < r.capacity := hj.trans_eq full
      omega
    exact ⟨⟨j, hbound⟩, (hmem _).mpr ⟨hj, heq⟩, rfl⟩

end Step

/-! ## All draws -/

section Uniform

variable {m k : Nat} {values : List α}

omit [Quantity α] in
/-- The last of some values, and those before it. -/
theorem exists_eq_concat (length : values.length = m + (k + 1)) :
    ∃ (front : List α) (value : α), values = front ++ [value] ∧ front.length = m + k := by
  have hne : values ≠ [] := List.ne_nil_of_length_eq_add_one length
  refine ⟨values.dropLast, values.getLast hne, (List.dropLast_append_getLast hne).symm, ?_⟩
  rw [List.length_dropLast, length]
  rfl

variable {r : Reservoir α}

theorem capacity_fed (r : Reservoir α) (values : List α) (draws : Draws m k) :
    (r.fed values draws).capacity = r.capacity :=
  capacity_addAll r _

/-- As long as there is room, all values are kept. -/
theorem kept_addAll_of_le (steps : List (α × Nat)) (fits : r.size + steps.length ≤ r.capacity) :
    (r.addAll steps).kept = r.kept + (steps.map Prod.fst : Multiset α) := by
  induction steps generalizing r with
  | nil => exact (add_zero _).symm
  | cons step rest ih =>
    rw [List.length_cons] at fits
    have hkept := kept_add_of_hasRoom (r := r) (by omega) step.1 step.2
    have hsize : (r.add step.1 step.2).size = r.size + 1 := by
      rw [← card_kept, hkept, Multiset.card_cons, card_kept]
    show ((r.add step.1 step.2).addAll rest).kept = _
    rw [ih (by rw [hsize]; exact (by omega : r.size + 1 + rest.length ≤ r.capacity)), hkept,
      List.map_cons, ← Multiset.cons_coe, Multiset.cons_add, Multiset.add_cons]

/-- **The first values are all kept.** -/
theorem kept_fed_zero (empty : r.samples = #[]) (length : values.length = r.capacity)
    (draws : Draws r.capacity 0) : (r.fed values draws).kept = values := by
  have hsize : r.size = 0 := congrArg Array.size empty
  have hdrawn : values.length ≤ (drawn draws).length := by
    rw [length_drawn, length]
    exact le_rfl
  have hkept : r.kept = 0 := by
    show (r.samples.toList : Multiset α) = 0
    rw [empty]
    rfl
  unfold fed
  rw [kept_addAll_of_le, List.map_fst_zip hdrawn, hkept, zero_add]
  rw [hsize, zero_add, List.length_zip, length]
  exact Nat.min_le_left _ _

/-- **A full reservoir keeps some of the values**, as many as fit. -/
theorem kept_fed (empty : r.samples = #[]) (length : values.length = r.capacity + k)
    (draws : Draws r.capacity k) :
    (r.fed values draws).size = r.capacity ∧ (r.fed values draws).kept ≤ values := by
  induction k generalizing values with
  | zero =>
    have hkept := kept_fed_zero empty length draws
    refine ⟨?_, hkept.le⟩
    rw [← card_kept, hkept, Multiset.coe_card, length, Nat.add_zero]
  | succ k ih =>
    obtain ⟨front, value, rfl, hfront⟩ := exists_eq_concat length
    rw [← Fin.snoc_init_self draws, fed_concat r hfront]
    obtain ⟨hsize, hle⟩ := ih hfront (Fin.init draws)
    have hcapacity := capacity_fed r front (Fin.init draws : Draws r.capacity k)
    have hfull := hsize.trans hcapacity.symm
    refine ⟨(size_add_of_full hfull _ _).trans hcapacity, (kept_add_le hfull _ _).trans ?_⟩
    rw [← Multiset.coe_add, Multiset.add_comm]
    exact Multiset.cons_le_cons value hle

variable [DecidableEq α]

omit [Quantity α] in
theorem toFinset_concat (front : List α) (value : α) :
    (front ++ [value]).toFinset = insert value front.toFinset := by
  rw [List.toFinset_append, List.toFinset_cons, List.toFinset_nil, insert_empty_eq,
    Finset.union_comm, Finset.insert_eq]

omit [Quantity α] in
/-- The values that are not chosen, if the last one is. -/
theorem card_sdiff_of_last {chosen pool : Finset α} {value : α} (pos : 0 < m)
    (new : value ∉ pool) (present : value ∈ chosen) (inside : chosen ⊆ insert value pool)
    (card_chosen : chosen.card = m) (card_pool : pool.card = m + k) :
    (pool \ chosen).card = k + 1 := by
  have herase : pool \ chosen = pool \ chosen.erase value := by
    ext x
    rw [Finset.mem_sdiff, Finset.mem_sdiff, Finset.mem_erase]
    refine and_congr_right fun hx => ?_
    have hne : x ≠ value := fun h => new (h ▸ hx)
    rw [and_iff_right hne]
  rw [herase, Finset.card_sdiff_of_subset (Finset.subset_insert_iff.mp inside), card_pool,
    Finset.card_erase_of_mem present, card_chosen]
  omega

/-- **Every choice of as many values as fit is kept equally often**: once for
each order of the values that are not chosen. -/
theorem card_draws_eq (empty : r.samples = #[]) (distinct : values.Nodup)
    (length : values.length = r.capacity + k) {chosen : Finset α}
    (inside : chosen ⊆ values.toFinset) (card : chosen.card = r.capacity) :
    Finset.card {draws : Draws r.capacity k | (r.fed values draws).kept = chosen.val}
      = k.factorial := by
  induction k generalizing values chosen with
  | zero =>
    have hchosen : chosen = values.toFinset := by
      refine Finset.eq_of_subset_of_card_le inside ?_
      rw [List.toFinset_card_of_nodup distinct, length, card, Nat.add_zero]
    have hall : ∀ draws : Draws r.capacity 0, (r.fed values draws).kept = chosen.val := by
      intro draws
      rw [kept_fed_zero empty length draws, hchosen, List.toFinset_val, distinct.dedup]
    rw [Finset.filter_true_of_mem (fun draws _ => hall draws), Finset.card_univ,
      Fintype.card_unique]
    rfl
  | succ k ih =>
    obtain ⟨front, value, rfl, hfront⟩ := exists_eq_concat length
    obtain ⟨hdistinct, hnew⟩ : front.Nodup ∧ value ∉ front := by
      have := List.nodup_append.mp distinct
      exact ⟨this.1, fun h => this.2.2 _ h _ (List.mem_singleton_self _) rfl⟩
    rw [toFinset_concat] at inside
    have hfull : ∀ draws : Draws r.capacity k,
        (r.fed front draws).size = (r.fed front draws).capacity :=
      fun draws => (kept_fed empty hfront draws).1.trans (capacity_fed r front draws).symm
    rw [card_filter_draws_succ]
    simp only [fed_concat r hfront]
    by_cases hvalue : value ∈ chosen
    · -- some value that is not chosen was kept in the place of the last
      have hnew' := mt List.mem_toFinset.mp hnew
      have hothers := Finset.subset_insert_iff.mp inside
      have hcount : ∀ draws : Draws r.capacity k,
          Finset.card {last : Fin (r.capacity + k + 1) |
              ((r.fed front draws).add value last).kept = chosen.val}
            = Finset.card {x ∈ front.toFinset \ chosen |
              (r.fed front draws).kept = (insert x (chosen.erase value)).val} := by
        intro draws
        have hle := (kept_fed empty hfront draws).2
        have hadd := card_add_eq_of_mem (hfull draws) k hvalue
          (Multiset.nodup_of_le hle (Multiset.coe_nodup.mpr hdistinct))
          (fun x hx => List.mem_toFinset.mpr (Multiset.mem_of_le hle hx)) hnew'
        rwa [capacity_fed] at hadd
      have hbefore : ∀ x ∈ front.toFinset \ chosen,
          Finset.card {draws : Draws r.capacity k |
            (r.fed front draws).kept = (insert x (chosen.erase value)).val} = k.factorial := by
        intro x hx
        obtain ⟨hin, hout⟩ := Finset.mem_sdiff.mp hx
        refine ih hdistinct hfront (Finset.insert_subset hin hothers) ?_
        rw [Finset.card_insert_of_notMem (mt Finset.mem_of_mem_erase hout),
          Finset.card_erase_add_one hvalue, card]
      have hpool : (front.toFinset \ chosen).card = k + 1 :=
        card_sdiff_of_last r.capacity_pos hnew' hvalue inside card
          ((List.toFinset_card_of_nodup hdistinct).trans hfront)
      have hswap := Finset.sum_card_bipartiteAbove_eq_sum_card_bipartiteBelow
        (fun (draws : Draws r.capacity k) x =>
          (r.fed front draws).kept = (insert x (chosen.erase value)).val)
        (s := Finset.univ) (t := front.toFinset \ chosen)
      unfold Finset.bipartiteAbove Finset.bipartiteBelow at hswap
      rw [Finset.sum_congr rfl fun draws _ => hcount draws, hswap, Finset.sum_congr rfl hbefore,
        Finset.sum_const, hpool, smul_eq_mul, Nat.factorial_succ]
    · -- the choice was kept before, and the last draw replaced nothing
      have hcount : ∀ draws : Draws r.capacity k,
          Finset.card {last : Fin (r.capacity + k + 1) |
              ((r.fed front draws).add value last).kept = chosen.val}
            = if (r.fed front draws).kept = chosen.val then k + 1 else 0 := by
        intro draws
        have hadd := card_add_eq_of_notMem (hfull draws) k hvalue
        rwa [capacity_fed] at hadd
      have hinside := (Finset.subset_insert_iff_of_notMem hvalue).mp inside
      rw [Finset.sum_congr rfl fun draws _ => hcount draws, ← Finset.sum_filter, Finset.sum_const,
        ih hdistinct hfront hinside card, smul_eq_mul, Nat.factorial_succ, Nat.mul_comm]

/-- **Sequences of draws are counted by the choice they keep.** -/
theorem card_filter_kept (empty : r.samples = #[]) (distinct : values.Nodup)
    (length : values.length = r.capacity + k) (P : Multiset α → Prop) [DecidablePred P] :
    Finset.card {draws : Draws r.capacity k | P (r.fed values draws).kept}
      = Finset.card {chosen ∈ values.toFinset.powersetCard r.capacity | P chosen.val}
        * k.factorial := by
  have hnodup : ∀ draws : Draws r.capacity k, (r.fed values draws).kept.Nodup := fun draws =>
    Multiset.nodup_of_le (kept_fed empty length draws).2 (Multiset.coe_nodup.mpr distinct)
  rw [Finset.card_eq_sum_card_fiberwise (f := fun draws => (⟨_, hnodup draws⟩ : Finset α))
      (t := {chosen ∈ values.toFinset.powersetCard r.capacity | P chosen.val})]
  · rw [Finset.sum_congr rfl fun chosen hchosen => ?_, Finset.sum_const, smul_eq_mul]
    obtain ⟨hpowerset, hP⟩ := Finset.mem_filter.mp hchosen
    obtain ⟨hinside, hcard⟩ := Finset.mem_powersetCard.mp hpowerset
    rw [← card_draws_eq empty distinct length hinside hcard, Finset.filter_filter]
    refine congrArg Finset.card (Finset.filter_congr fun draws _ => ?_)
    rw [← Finset.val_inj]
    exact ⟨fun h => h.2, fun h => ⟨h ▸ hP, h⟩⟩
  · intro draws hdraws
    have hkept := kept_fed empty length draws
    refine Finset.mem_coe.mpr (Finset.mem_filter.mpr ⟨Finset.mem_powersetCard.mpr ⟨?_, ?_⟩, ?_⟩)
    · exact fun x hx => List.mem_toFinset.mpr (Multiset.mem_of_le hkept.2 hx)
    · exact (card_kept _).trans hkept.1
    · exact (Finset.mem_filter.mp (Finset.mem_coe.mp hdraws)).2

/-- How often a value is kept. -/
theorem card_mem_kept (empty : r.samples = #[]) (distinct : values.Nodup)
    (length : values.length = r.capacity + k) {value : α} (hvalue : value ∈ values) :
    Finset.card {draws : Draws r.capacity k | value ∈ (r.fed values draws).kept} * values.length
      = r.capacity * Fintype.card (Draws r.capacity k) := by
  have hcard : values.toFinset.card = values.length := List.toFinset_card_of_nodup distinct
  have hall := card_filter_kept empty distinct length fun _ => True
  rw [Finset.filter_true, Finset.filter_true, Finset.card_univ, Finset.card_powersetCard,
    hcard] at hall
  have hsingle : ({chosen ∈ values.toFinset.powersetCard r.capacity | value ∈ chosen.val} :
      Finset _) = {chosen ∈ values.toFinset.powersetCard r.capacity | {value} ⊆ chosen} :=
    Finset.filter_congr fun chosen _ => Finset.singleton_subset_iff.symm
  have hsubset : {value} ⊆ values.toFinset :=
    Finset.singleton_subset_iff.mpr (List.mem_toFinset.mpr hvalue)
  obtain ⟨m, hm⟩ := Nat.exists_eq_succ_of_ne_zero r.capacity_pos.ne'
  have hlength : values.length = m + k + 1 := by omega
  calc Finset.card {draws : Draws r.capacity k | value ∈ (r.fed values draws).kept} * values.length
      = (m + k).choose m * k.factorial * (m + k + 1) := by
        rw [card_filter_kept empty distinct length fun kept => value ∈ kept, hsingle,
          Finset.card_filter_powersetCard_subset _ _ _ hsubset r.capacity_pos, hcard,
          Finset.card_singleton, hlength, hm]
        rfl
    _ = (m + k + 1) * (m + k).choose m * k.factorial := by ring
    _ = (m + k + 1).choose (m + 1) * (m + 1) * k.factorial := by rw [Nat.add_one_mul_choose_eq]
    _ = (m + 1) * ((m + k + 1).choose (m + 1) * k.factorial) := by ring
    _ = r.capacity * Fintype.card (Draws r.capacity k) := by rw [hall, hlength, hm]

end Uniform

/-- **A sample is uniform.** A reservoir can be made for any capacity above
zero. When values that differ from each other are added to it, as many as fit
or more, then for each sequence of draws it ends with a choice of as many of
them as fit, each such choice is what it ends with for the same number of
sequences, and each value is kept in as many of them as its share of the
capacity says. -/
theorem card_draws_kept [DecidableEq α] (capacity : Nat) (room : 0 < capacity) (values : List α)
    (distinct : values.Nodup) (enough : capacity ≤ values.length) :
    ∃ empty : Reservoir α, ofCapacity capacity = .ok empty
      ∧ let Sequence := Draws capacity (values.length - capacity)
        let kept (draws : Sequence) : Multiset α := (empty.fed values draws).samples.toList
        (∀ draws, ∃ chosen ⊆ values.toFinset, chosen.card = capacity ∧ kept draws = chosen.val)
          ∧ (∀ chosen ⊆ values.toFinset, chosen.card = capacity →
            Finset.card {draws | kept draws = chosen.val} = (values.length - capacity).factorial)
          ∧ (∀ value ∈ values, Finset.card {draws | value ∈ kept draws} * values.length
            = capacity * Fintype.card Sequence) := by
  have hok : ∃ empty : Reservoir α, ofCapacity capacity = .ok empty := ⟨_, dif_pos room⟩
  obtain ⟨empty, hempty⟩ := hok
  obtain ⟨rfl, hsamples⟩ : empty.capacity = capacity ∧ empty.samples = #[] := by
    unfold ofCapacity at hempty
    rw [dif_pos room] at hempty
    exact (Except.ok.inj hempty) ▸ ⟨rfl, rfl⟩
  have length : values.length = empty.capacity + (values.length - empty.capacity) :=
    (Nat.add_sub_cancel' enough).symm
  refine ⟨empty, hempty, fun draws => ?_, fun chosen inside card => ?_, fun value hvalue => ?_⟩
  · obtain ⟨hsize, hle⟩ := kept_fed hsamples length draws
    have hnodup := Multiset.nodup_of_le hle (Multiset.coe_nodup.mpr distinct)
    exact ⟨⟨_, hnodup⟩, fun x hx => List.mem_toFinset.mpr (Multiset.mem_of_le hle hx), hsize, rfl⟩
  · exact card_draws_eq hsamples distinct length inside card
  · exact card_mem_kept hsamples distinct length hvalue

/-- Of three values, a reservoir for two keeps each choice of two once. -/
theorem card_draws_kept_three :
    let values : List Float := [1.5, -2.0, 0.25]
    0 < 2 ∧ values.Nodup ∧ 2 ≤ values.length
      ∧ ∃ empty : Reservoir Float, ofCapacity 2 = .ok empty
        ∧ Finset.card {draws : Draws 2 1 |
            ((empty.fed values draws).samples.toList : Multiset Float) = {-2.0, 0.25}} = 1
        ∧ Finset.card {draws : Draws 2 1 |
            1.5 ∈ ((empty.fed values draws).samples.toList : Multiset Float)} * 3 = 2 * 3 := by
  intro values
  have room : 0 < 2 := Nat.zero_lt_two
  have distinct : values.Nodup := by decide
  have enough : 2 ≤ values.length := by decide
  obtain ⟨empty, hempty, -, hequal, hshare⟩ := card_draws_kept 2 room values distinct enough
  refine ⟨room, distinct, enough, empty, hempty, ?_, ?_⟩
  · exact hequal {-2.0, 0.25} (by decide) (by decide)
  · exact hshare 1.5 List.mem_cons_self

end Reservoir

end TableProfile
