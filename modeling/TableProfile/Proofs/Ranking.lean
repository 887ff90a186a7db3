import Mathlib.Algebra.BigOperators.Group.List.Basic
import Mathlib.Algebra.GroupWithZero.Nat
import Mathlib.Data.Finset.Card
import TableProfile.Proofs.EncodedOrder
import TableProfile.Proofs.TallySheet

/-!
# The ranking of a sheet

The entries of a sheet have distinct values, so that of two entries one always
comes before the other, and a sheet has one ranking only. It is the same
whether values are compared as texts or as bytes (`Tally.precedes_iff`).

In a ranking the frequent values stand in front. To leave out what was seen
too rarely is therefore to cut the ranking short, and it makes no difference
whether this is done before or after it is cut to a width
(`filter_take_of_pairwise`). A report of the first entries does not see that
the sheet was trimmed to its width before (`entries_topAtLeast_trim`).
-/

namespace TableProfile

namespace Tally

/-- **An entry comes before another**: it was seen more often, or as often and
its value has the smaller bytes. -/
def Precedes (a b : Tally) : Prop :=
  b.count < a.count
    ∨ a.count = b.count ∧ Text.Utf8.encode a.value < Text.Utf8.encode b.value

instance : DecidableRel Precedes :=
  fun _ _ => inferInstanceAs (Decidable (_ ∨ _))

variable {a b : Tally}

theorem precedes_iff :
    a.Precedes b ↔ b.count < a.count ∨ a.count = b.count ∧ a.value < b.value := by
  unfold Precedes
  rw [Text.Utf8.encode_lt_encode_iff]

theorem ranksBefore_iff :
    a.ranksBefore b = true ↔ b.count < a.count ∨ a.count = b.count ∧ a.value ≤ b.value := by
  simp [ranksBefore]

/-- Of two entries with different values, the one that is ranked first comes
before the other. -/
theorem precedes_of_ranksBefore (h : a.ranksBefore b = true) (hne : a.value ≠ b.value) :
    a.Precedes b :=
  precedes_iff.mpr ((ranksBefore_iff.mp h).imp_right (And.imp_right (lt_of_le_of_ne · hne)))

theorem Precedes.asymm (h : a.Precedes b) : ¬ b.Precedes a := by
  rw [precedes_iff] at h ⊢
  rintro (hlt | ⟨heq, hlt⟩)
  · omega
  · exact (h.resolve_left (by omega)).2.asymm hlt

theorem Precedes.count_le (h : a.Precedes b) : b.count ≤ a.count :=
  h.elim Nat.le_of_lt (fun h => h.1.ge)

theorem ranksBefore_trans (a b c : Tally) (hab : a.ranksBefore b = true)
    (hbc : b.ranksBefore c = true) : a.ranksBefore c = true := by
  rw [ranksBefore_iff] at *
  rcases hab with hab | ⟨hab, hle⟩
  · exact Or.inl (by omega)
  · rw [hab]
    exact hbc.imp_right (And.imp_right hle.trans)

theorem ranksBefore_total (a b : Tally) : (a.ranksBefore b || b.ranksBefore a) = true := by
  rw [Bool.or_eq_true, ranksBefore_iff, ranksBefore_iff]
  rcases lt_trichotomy a.count b.count with hlt | heq | hlt
  · exact Or.inr (Or.inl hlt)
  · exact (le_total a.value b.value).imp (fun h => Or.inr ⟨heq, h⟩) (fun h => Or.inr ⟨heq.symm, h⟩)
  · exact Or.inl (Or.inl hlt)

end Tally

namespace TallySheet

variable (sheet : TallySheet) (n least : Nat)

/-! ## The order of a ranking -/

/-- **Each entry of a ranking comes before those after it.** -/
theorem pairwise_ranked : sheet.ranked.Pairwise Tally.Precedes := by
  have hsorted : sheet.ranked.Pairwise (fun a b => a.ranksBefore b = true) :=
    List.pairwise_mergeSort Tally.ranksBefore_trans Tally.ranksBefore_total _
  have hdistinct : sheet.ranked.Pairwise (fun a b => a.value ≠ b.value) :=
    List.pairwise_map.mp sheet.nodup_values_ranked
  exact (hsorted.and hdistinct).imp (fun h => Tally.precedes_of_ranksBefore h.1 h.2)

/-- **There is one ranking** of the same entries. -/
theorem eq_of_perm_of_pairwise {l l' : List Tally} (h : l.Perm l')
    (ordered : l.Pairwise Tally.Precedes) (ordered' : l'.Pairwise Tally.Precedes) : l = l' :=
  h.eq_of_pairwise (fun _ _ _ _ hab hba => absurd hba hab.asymm) ordered ordered'

variable {sheet} in
/-- Entries in order are the ranking of the sheet that has them. -/
theorem ranked_eq_of_perm {l : List Tally} (h : sheet.entries.Perm l)
    (ordered : l.Pairwise Tally.Precedes) : sheet.ranked = l :=
  eq_of_perm_of_pairwise (sheet.perm_ranked.trans h) sheet.pairwise_ranked ordered

variable {sheet} in
/-- A trim keeps the first of the entries in order. -/
theorem trim_eq_of_perm {l : List Tally} (h : sheet.entries.Perm l)
    (ordered : l.Pairwise Tally.Precedes) {n : Nat} (hn : n < sheet.size) :
    sheet.trim n = { counts := countsOf (l.take n), hasDiscarded := true } := by
  rw [trim, if_neg (Nat.not_le.mpr hn), ranked_eq_of_perm h ordered]

/-- **A trim cuts the ranking short.** -/
theorem ranked_trim : (sheet.trim n).ranked = sheet.ranked.take n := by
  by_cases h : sheet.size ≤ n
  · rw [trim_of_size_le sheet n h, List.take_of_length_le (by rwa [length_ranked])]
  · refine eq_of_perm_of_pairwise ?_ (pairwise_ranked _) (sheet.pairwise_ranked.take)
    exact (perm_ranked _).trans (perm_entries_trim sheet n (Nat.not_le.mp h))

/-- **To leave out the rare entries is to cut the ranking short**, before or
after it is cut to a width. -/
theorem filter_take_of_pairwise {l : List Tally} (ordered : l.Pairwise Tally.Precedes) :
    (l.take n).filter (fun e => least ≤ e.count) = (l.filter fun e => least ≤ e.count).take n := by
  induction l generalizing n with
  | nil => rw [List.take_nil, List.filter_nil, List.take_nil]
  | cons e rest ih =>
    obtain ⟨hfirst, hrest⟩ := List.pairwise_cons.mp ordered
    cases n with
    | zero => rfl
    | succ n =>
      rw [List.take_succ_cons]
      by_cases he : least ≤ e.count
      · simp only [List.filter_cons, he, decide_true, if_true, List.take_succ_cons, ih n hrest]
      · -- no entry after a rare one is frequent
        have hnone : ∀ e' ∈ e :: rest, ¬ Decidable.decide (least ≤ e'.count) = true := by
          intro e' he'
          rw [decide_eq_true_iff]
          rcases List.mem_cons.mp he' with rfl | he'
          · exact he
          · exact fun hle => he (hle.trans (hfirst e' he').count_le)
        rw [List.filter_eq_nil_iff.mpr hnone, List.take_nil, List.filter_eq_nil_iff]
        intro e' he'
        exact hnone e' (List.cons_subset_cons e (List.take_subset n rest) he')

theorem entries_topAtLeast (limit : Nat) :
    (sheet.topAtLeast least limit).entries
      = (sheet.ranked.filter fun e => least ≤ e.count).take limit := rfl

/-- **A trim to the width of a report does not show** in its entries. -/
theorem entries_topAtLeast_trim :
    ((sheet.trim n).topAtLeast least n).entries = (sheet.topAtLeast least n).entries := by
  rw [entries_topAtLeast, entries_topAtLeast, ranked_trim,
    filter_take_of_pairwise n least sheet.pairwise_ranked, List.take_take, min_self]

/-- The first entries are entries of the sheet that are frequent enough. -/
theorem mem_topAtLeast {limit : Nat} {e : Tally} (h : e ∈ (sheet.topAtLeast least limit).entries) :
    e ∈ sheet.entries ∧ least ≤ e.count := by
  obtain ⟨hmem, hleast⟩ := List.mem_filter.mp (List.mem_of_mem_take h)
  exact ⟨sheet.perm_ranked.subset hmem, of_decide_eq_true hleast⟩

theorem length_topAtLeast_le (limit : Nat) :
    (sheet.topAtLeast least limit).entries.length ≤ limit :=
  List.length_take_le _ _

theorem nodup_values_topAtLeast (limit : Nat) :
    ((sheet.topAtLeast least limit).entries.map (·.value)).Nodup :=
  sheet.nodup_values_ranked.sublist
    (((List.take_sublist limit _).trans List.filter_sublist).map _)

/-! ## The table of a list -/

variable {sheet} {seen : List String} {entries : List Tally}

/-- **The values of a table** are the values of the list, each once. -/
theorem IsTableOf.perm_values (h : IsTableOf entries seen) :
    (entries.map (·.value)).Perm seen.dedup := by
  obtain ⟨hnodup, hmem⟩ := h
  refine (List.perm_ext_iff_of_nodup hnodup seen.nodup_dedup).mpr (fun v => ?_)
  rw [List.mem_map, List.mem_dedup]
  constructor
  · rintro ⟨⟨v, c⟩, he, rfl⟩
    obtain ⟨hpos, rfl⟩ := (hmem v c).mp he
    exact List.count_pos_iff.mp hpos
  · intro hv
    exact ⟨⟨v, seen.count v⟩, (hmem v _).mpr ⟨List.count_pos_iff.mpr hv, rfl⟩, rfl⟩

/-- **A list has one table in order.** -/
theorem IsTableOf.eq_of_pairwise {entries' : List Tally} (h : IsTableOf entries seen)
    (h' : IsTableOf entries' seen) (ordered : entries.Pairwise Tally.Precedes)
    (ordered' : entries'.Pairwise Tally.Precedes) : entries = entries' := by
  refine eq_of_perm_of_pairwise ?_ ordered ordered'
  refine (List.perm_ext_iff_of_nodup h.1.of_map h'.1.of_map).mpr (fun e => ?_)
  exact (h.2 e.value e.count).trans (h'.2 e.value e.count).symm

/-- Each value of a list with its count makes a table. -/
theorem isTableOf_map_dedup (seen : List String) :
    IsTableOf (seen.dedup.map fun v => ⟨v, seen.count v⟩) seen := by
  refine ⟨?_, fun v c => ?_⟩
  · rw [List.map_map]
    exact (List.map_id _).symm ▸ seen.nodup_dedup
  · rw [List.mem_map]
    constructor
    · rintro ⟨w, hw, heq⟩
      obtain ⟨rfl, rfl⟩ := Tally.mk.inj heq
      exact ⟨List.count_pos_iff.mpr (List.mem_dedup.mp hw), rfl⟩
    · rintro ⟨hpos, rfl⟩
      exact ⟨v, List.mem_dedup.mpr (List.count_pos_iff.mp hpos), rfl⟩

/-- A table has as many entries as the list has distinct values. -/
theorem IsTableOf.length_eq (h : IsTableOf entries seen) : entries.length = seen.toFinset.card := by
  rw [← List.length_map (·.value), h.perm_values.length_eq]
  rfl

/-- **The counts of a table** sum to the length of the list. -/
theorem IsTableOf.sum_count (h : IsTableOf entries seen) :
    (entries.map (·.count)).sum = seen.length := by
  have hcount : entries.map (·.count) = (entries.map (·.value)).map (seen.count ·) := by
    rw [List.map_map]
    exact List.map_congr_left (fun e he => ((h.2 e.value e.count).mp he).2)
  rw [hcount, (h.perm_values.map _).sum_eq, List.sum_map_count_dedup_eq_length]

/-- **The ranking of a tally** is the table of the list, in order. -/
theorem IsTallyOf.isTableOf_ranked (h : sheet.IsTallyOf seen) : IsTableOf sheet.ranked seen :=
  (isTableOf_congr sheet.perm_ranked).mpr ((isTableOf_entries_iff h.noneZero).mpr h)

/-- A tally holds as many values as the list has distinct values. -/
theorem IsTallyOf.size_eq (h : sheet.IsTallyOf seen) : sheet.size = seen.toFinset.card := by
  rw [← length_ranked, h.isTableOf_ranked.length_eq]

end TallySheet

end TableProfile
